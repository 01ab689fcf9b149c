-- SUMMARY: A label between dashes is read up to the shortest dashes behind it; longer ones lose the edge.
import Flowchart.Proofs.Chains

/-!
# Labels between dashes

The dashes behind a label are not counted as those of a plain connector are. A label ends at the first
two dashes, and only one more character is read with them. So the shortest dashes of each kind give
the edge that is written. Of longer ones, which give an edge without the label, something is left over
that no node starts with, and there is no edge at all.
-/

namespace Flowchart

/-! ## Runs of dashes -/

/-- What makes an arrow of a run of dashes. -/
def EdgeKind.head : EdgeKind → List Char
  | .arrow => ['>']
  | .line => []

/-- The least number of dashes of a plain connector. -/
def EdgeKind.shortest : EdgeKind → Nat
  | .arrow => 2
  | .line => 3

/-- A run of dashes with the head of its kind. -/
def EdgeKind.run (kind : EdgeKind) (dashes : Nat) : List Char :=
  List.replicate dashes '-' ++ kind.head

namespace EdgeKind

variable {kind : EdgeKind} {dashes : Nat}

theorem spelled_run (h : kind.shortest ≤ dashes) :
    Connector.Token.Spelled kind .solid (kind.run dashes) := by
  cases kind with
  | arrow => exact .solidArrow h
  | line =>
    rw [run, head, List.append_nil]
    exact .solidLine h

theorem mem_run_cases {c : Char} (h : c ∈ kind.run dashes) : c = '-' ∨ c = '>' := by
  rcases List.mem_append.1 h with h | h
  · exact .inl (List.eq_of_mem_replicate h)
  · cases kind with
    | arrow => exact .inr (List.mem_singleton.1 h)
    | line => cases h

theorem feed_notMem_run : '\n' ∉ kind.run dashes := by
  intro h
  rcases mem_run_cases h with hc | hc <;> cases hc

/-- The shortest run is two dashes and the character that tells the kind behind a label. -/
theorem run_shortest (kind : EdgeKind) : kind.run kind.shortest = ['-', '-', kind.tip] := by
  cases kind <;> rfl

/-- In a longer run a third dash follows the first two. -/
theorem run_of_shortest_lt (h : kind.shortest < dashes) :
    kind.run dashes = ['-', '-', EdgeKind.line.tip] ++ kind.run (dashes - 3) := by
  have hdashes : 3 ≤ dashes := by
    cases kind
    · exact h
    · exact Nat.le_of_lt h
  obtain ⟨more, rfl⟩ := Nat.exists_eq_add_of_le' hdashes
  rw [Nat.add_sub_cancel]
  rfl

end EdgeKind

/-! ## Dashes that are left over -/

section Leftover

variable (target : Identifier) (kind : EdgeKind)

/-- No connector starts with dashes that are too few for one. -/
theorem read?_run_eq_none {dashes : Nat} (h : dashes + 1 < kind.shortest) :
    Connector.read? (kind.run (dashes + 1) ++ ' ' :: target.chars) = none := by
  cases kind with
  | arrow =>
    obtain rfl : dashes = 0 := by
      have : dashes + 1 < 2 := h
      omega
    rfl
  | line =>
    have hdashes : dashes + 1 < 3 := h
    obtain rfl | rfl : dashes = 0 ∨ dashes = 1 := by omega
    · rfl
    · have htarget : '-' ∉ target.chars := fun hmem => target.ne_of_mem hmem (by decide) rfl
      have hskip : Text.skipBlanks target.chars = target.chars :=
        Text.skipBlanks_of_trim target.trim_chars
      have hlabelled : Connector.readLabelled? ('-' :: '-' :: ' ' :: target.chars) = none := by
        simp [Connector.readLabelled?, hskip, Connector.beforeDashes?_eq_none htarget]
      have hpiped : Connector.readPiped? ('-' :: '-' :: ' ' :: target.chars) = none := rfl
      exact Option.or_eq_none_iff.2 ⟨hlabelled, hpiped⟩

theorem quiet_run {dashes : Nat} (h : dashes < kind.shortest) :
    Nesting.outside.Quiet [] (kind.run dashes ++ ' ' :: target.chars) := by
  induction dashes with
  | zero =>
    apply Nesting.quiet_of_forall
    intro c hc
    rcases List.mem_append.1 hc with hc | hc
    · cases kind with
      | arrow => rw [List.mem_singleton.1 hc]; decide
      | line => cases hc
    · rcases List.mem_cons.1 hc with rfl | hc
      · decide
      · exact ⟨target.ne_of_mem hc (by decide), target.ne_of_mem hc (by decide)⟩
  | succ dashes ih =>
    refine ⟨fun _ => ?_, ih (Nat.lt_of_succ_lt h)⟩
    rw [List.append_nil]
    exact read?_run_eq_none target kind h

/-- The segments of dashes that are left over before the target. -/
def leftover (dashes : Nat) : Segments :=
  if kind.shortest ≤ dashes then
    (Segments.mk target.chars []).cons [] ⟨kind, .solid, none, kind.run dashes ++ [' ']⟩
  else ⟨kind.run dashes ++ ' ' :: target.chars, []⟩

theorem chars_leftover (dashes : Nat) :
    (leftover target kind dashes).chars = kind.run dashes ++ ' ' :: target.chars := by
  unfold leftover
  split
  · simp
  · rw [Segments.chars_single]

theorem readable_leftover (dashes : Nat) : (leftover target kind dashes).Readable := by
  unfold leftover
  split
  · next h =>
    refine .cons trivial rfl ?_ (.single (target.quiet _ _))
    rw [Segments.chars_single, Connector.read?_eq_some_iff]
    refine ⟨.bare (EdgeKind.spelled_run h) ?_, target.chars, rfl, target.stops _⟩
    intro c hc
    rw [List.mem_singleton.1 hc]
    decide
  · next h => exact .single (quiet_run target kind (Nat.lt_of_not_le h))

/-- Neither semicolons nor ampersands are left over. -/
theorem notMem_leftover {dashes : Nat} {c : Char} (hc : c = ';' ∨ c = '&') :
    c ∉ kind.run dashes ++ ' ' :: target.chars := by
  rw [List.mem_append, List.mem_cons, not_or, not_or]
  refine ⟨fun h => ?_, ?_, fun h => ?_⟩
  · have hrun := EdgeKind.mem_run_cases h
    rcases hc with rfl | rfl <;> exact absurd hrun (by decide)
  · rcases hc with rfl | rfl <;> decide
  · rcases hc with rfl | rfl
    · exact target.ne_of_mem h (d := ';') (by decide) rfl
    · exact target.ne_of_mem h (d := '&') (by decide) rfl

/-- No node starts with something left over. -/
theorem endpoints_leftover {dashes : Nat} (hne : kind.run dashes ≠ []) :
    Group.endpoints (splitMembers (leftover target kind dashes).first) = [] ∧
      (leftover target kind dashes).chain.edges = [] := by
  unfold leftover
  split
  · rw [Segments.edges_chain_cons]
    exact ⟨rfl, rfl⟩
  · obtain ⟨c, more, hrun⟩ := List.exists_cons_of_ne_nil hne
    have hc : Text.isWhite c = false ∧ Text.isWord c = false := by
      have hmem : c ∈ kind.run dashes := by rw [hrun]; exact List.mem_cons_self
      rcases EdgeKind.mem_run_cases hmem with rfl | rfl <;> decide
    have htrim : Text.trim (kind.run dashes ++ ' ' :: target.chars) =
        kind.run dashes ++ ' ' :: target.chars := by
      apply Text.trim_eq_self
      · rw [hrun]
        rintro _ ⟨⟩
        exact hc.1
      · rw [List.append_cons, List.getLast?_append_of_ne_nil _ target.chars_ne_nil]
        exact fun d hd => target.isWhite_of_mem (List.mem_of_mem_getLast? hd)
    have hmembers : splitMembers (kind.run dashes ++ ' ' :: target.chars) =
        [Text.trim (kind.run dashes ++ ' ' :: target.chars)] := by
      apply splitMembers_eq_singleton (not_mem_levels (notMem_leftover target kind (.inr rfl)) _)
      rw [htrim]
      simp
    have hidentifier : identifier (kind.run dashes ++ ' ' :: target.chars) = [] := by
      rw [hrun]
      simp [identifier, hc.2]
    refine ⟨?_, rfl⟩
    rw [hmembers, htrim]
    simp [Group.endpoints, leadingId?, htrim, hidentifier]

end Leftover

/-! ## Labelled lines -/

/-- Two identifiers with a run of dashes between them, and a label before that run. -/
structure DashedLine where
  source : Identifier
  notKeyword : source.name ∉ lineKeywords
  label : List Char
  starts : ∃ c ∈ label.head?, Text.isBlank c = false
  noDashes : ¬ ['-', '-'] <:+: label
  oneLine : '\n' ∉ label
  kind : EdgeKind
  dashes : Nat
  shortest_le : kind.shortest ≤ dashes
  target : Identifier

namespace DashedLine

variable (line : DashedLine)

/-- The line as it is written, `a -- label --> b`. -/
def chars : List Char :=
  line.source.chars ++ ' ' :: ('-' :: '-' :: ' ' :: (line.label ++ ' ' ::
    (line.kind.run line.dashes ++ ' ' :: line.target.chars)))

def text : String :=
  String.ofList line.chars

/-- The same line without the label, `a --> b`. -/
def plainText : String :=
  String.ofList (line.source.chars ++ ' ' :: (line.kind.run line.dashes ++ ' ' :: line.target.chars))

/-- The edge that the line is meant to have. -/
def edge : Edge :=
  ⟨line.source.name, line.target.name, String.ofList (Label.decode line.label), line.kind, .solid⟩

/-- The kind that is told by the third character behind the label. -/
def found : EdgeKind :=
  if line.dashes = line.kind.shortest then line.kind else .line

/-- The connector that is read with the label. -/
def link : WrittenLink :=
  .dashed line.found .space (by decide) line.label line.starts line.noDashes ' ' rfl

/-- The segments behind that connector. -/
def remainder : Segments :=
  if line.dashes = line.kind.shortest then ⟨' ' :: line.target.chars, []⟩
  else leftover line.target line.kind (line.dashes - 3)

def segments : Segments :=
  line.remainder.cons (line.source.chars ++ [' ']) (line.link.connector .none)

theorem shortest_lt (h : line.dashes ≠ line.kind.shortest) : line.kind.shortest < line.dashes :=
  Nat.lt_of_le_of_ne line.shortest_le (Ne.symm h)

theorem run_leftover_ne_nil (h : line.dashes ≠ line.kind.shortest) :
    line.kind.run (line.dashes - 3) ≠ [] := by
  have hlt := line.shortest_lt h
  cases hkind : line.kind with
  | arrow => simp [EdgeKind.run, EdgeKind.head]
  | line =>
    rw [hkind] at hlt
    have hpos : line.dashes - 3 ≠ 0 := Nat.sub_ne_zero_of_lt hlt
    simp [EdgeKind.run, hpos]

/-- The connector takes three characters of the run behind the label. -/
theorem run_append_eq :
    line.kind.run line.dashes ++ ' ' :: line.target.chars =
      ['-', '-', line.found.tip] ++ line.remainder.chars := by
  unfold found remainder
  split
  · next h => rw [h, EdgeKind.run_shortest, Segments.chars_single]
  · next h =>
    rw [chars_leftover, EdgeKind.run_of_shortest_lt (line.shortest_lt h), List.append_assoc]

theorem chars_segments : line.segments.chars = line.chars := by
  rw [segments, Segments.chars_cons, chars, run_append_eq]
  simp [link, WrittenLink.connector, Blanks.space]

theorem selfContained_source : SelfContained (line.source.chars ++ [' ']) :=
  line.source.selfContained.append Blanks.space.selfContained

theorem readable_remainder : line.remainder.Readable := by
  unfold remainder
  split
  · exact .single ((Blanks.space.selfContained.append line.target.selfContained).quiet [])
  · exact readable_leftover _ _ _

theorem readable_segments : line.segments.Readable := by
  refine .cons (line.selfContained_source.quiet _) line.selfContained_source.walk ?_
    line.readable_remainder
  rw [Connector.read?_eq_some_iff]
  exact ⟨line.link.spelled_connector .none, _, rfl, nofun⟩

theorem semicolon_notMem_segments :
    ∀ segment ∈ line.segments.first :: line.segments.rest.map Prod.snd,
      (';', true) ∉ levels .outside segment := by
  refine List.forall_mem_cons.2 ⟨line.selfContained_source.semicolon, ?_⟩
  intro segment hsegment
  refine not_mem_levels (fun hmem => ?_) _
  have hchars := Segments.subset_chars hsegment hmem
  unfold remainder at hchars
  split at hchars
  · rw [Segments.chars_single] at hchars
    rcases List.mem_cons.1 hchars with h | h
    · cases h
    · exact line.target.ne_of_mem h (d := ';') (by decide) rfl
  · rw [chars_leftover] at hchars
    exact notMem_leftover line.target line.kind (.inl rfl) hchars

theorem trim_chars : Text.trim line.chars = line.chars := by
  have htrim := line.source.trim_between line.target
    (' ' :: '-' :: '-' :: ' ' :: (line.label ++ ' ' :: (line.kind.run line.dashes ++ [' '])))
  have hchars : line.chars = line.source.chars ++
      (' ' :: '-' :: '-' :: ' ' :: (line.label ++ ' ' :: (line.kind.run line.dashes ++ [' '])) ++
        line.target.chars) := by
    simp [chars]
  rw [hchars]
  exact htrim

theorem splitStatements_chars : splitStatements line.chars = [line.chars] := by
  have hsplit := line.readable_segments.splitStatements_chars line.semicolon_notMem_segments
  rw [line.chars_segments, line.trim_chars] at hsplit
  apply hsplit
  simp [chars, line.source.chars_ne_nil]

theorem sourceLines_text : sourceLines line.text.toList = [.body line.chars] := by
  have hfeed : '\n' ∉ line.chars := by
    simp [chars, line.source.feed_notMem, line.oneLine, EdgeKind.feed_notMem_run,
      line.target.feed_notMem]
  have hne : line.chars ≠ [] := by simp [chars, line.source.chars_ne_nil]
  have hread : SourceLine.read line.chars = .body line.chars := by
    rw [chars, SourceLine.read_identifier_append _ (by rintro _ ⟨⟩; decide) (.inl line.notKeyword),
      ← chars, Text.trimEnd_of_trim line.trim_chars]
  rw [text, String.toList_ofList, sourceLines, Text.lines_of_feed_notMem hne hfeed,
    List.map_singleton, hread]

/-- The edges of the line: those of the connector that is read, and those of what it leaves over. -/
theorem edges_text_eq :
    (Graph.extract line.text).edges =
      edgesBetween [line.source.chars] (line.link.connector .none)
          (splitMembers line.remainder.first) ++ line.remainder.chain.edges := by
  have hchain := Chain.read_chars line.readable_segments
  have hsource : splitMembers (line.source.chars ++ [' ']) = [line.source.chars] :=
    line.source.splitMembers_padded .none .space
  rw [line.chars_segments] at hchain
  rw [Graph.edges_of_sourceLines line.sourceLines_text line.splitStatements_chars, hchain, segments,
    Segments.edges_chain_cons, hsource]

theorem edges_text_of_shortest (h : line.dashes = line.kind.shortest) :
    (Graph.extract line.text).edges = [line.edge] := by
  have htarget : splitMembers (' ' :: line.target.chars) = [line.target.chars] := by
    have hsplit := line.target.splitMembers_padded .space .none
    rwa [Blanks.none, List.append_nil] at hsplit
  have hkind : line.link.kind = line.kind := if_pos h
  have hends (id : Identifier) : Group.endpoints [id.chars] = [id.name] := by
    simp [Group.endpoints, leadingId?_identifier]
  rw [edges_text_eq, remainder, if_pos h, htarget, edgesBetween, hends, hends,
    line.link.edgeLabel_connector, line.link.kind_connector, line.link.stroke_connector, hkind]
  rfl

theorem edges_text_of_longer (h : line.dashes ≠ line.kind.shortest) :
    (Graph.extract line.text).edges = [] := by
  obtain ⟨hendpoints, hedges⟩ :=
    endpoints_leftover line.target line.kind (line.run_leftover_ne_nil h)
  rw [edges_text_eq, remainder, if_neg h, hedges, edgesBetween, hendpoints]
  simp

/-- The line without its label is a chain of two nodes. -/
def plain : ChainLine where
  before := .none
  chain := .cons (.single ⟨line.source, none⟩) .space
    (.bare line.kind .solid (line.kind.run line.dashes) (EdgeKind.spelled_run line.shortest_le))
    .space (.single (.single ⟨line.target, none⟩))
  after := .none
  oneLine := by
    simp [WrittenChain.chars, WrittenGroup.chars, WrittenMember.chars, WrittenMember.suffix,
      WrittenLink.chars, Blanks.space, line.source.feed_notMem, line.target.feed_notMem,
      EdgeKind.feed_notMem_run]
  notKeyword := line.notKeyword

theorem text_plain : line.plain.text = line.plainText := by
  simp [plain, ChainLine.text, ChainLine.chars, Blanks.none, WrittenChain.chars, WrittenGroup.chars,
    WrittenMember.chars, WrittenMember.suffix, WrittenLink.chars, Blanks.space, plainText]

theorem edges_plainText :
    (Graph.extract line.plainText).edges = [{ line.edge with label := "" }] := by
  rw [← text_plain, Graph.edges_of_sourceLines line.plain.sourceLines_text
    line.plain.chain.splitStatements_chars, WrittenChain.edges_read]
  rfl

/-- A label between dashes is shown if the dashes behind it are the fewest that make a connector of
    their kind. Behind more dashes, which are a connector of that kind without the label, neither the
    label nor the edge is found. -/
theorem edges_extract_dashes (line : DashedLine) :
    (Graph.extract line.text).edges =
        (if line.dashes = line.kind.shortest then [line.edge] else []) ∧
      (Graph.extract line.plainText).edges = [{ line.edge with label := "" }] := by
  refine ⟨?_, line.edges_plainText⟩
  split
  · next h => exact line.edges_text_of_shortest h
  · next h => exact line.edges_text_of_longer h

/-- An arrow of three dashes with a label. -/
def longArrow : DashedLine where
  source := ⟨"draft", by decide, List.all_eq_true.1 (by decide)⟩
  notKeyword := by decide +kernel
  label := "sent".toList
  starts := ⟨'s', rfl, by decide⟩
  noDashes := by decide
  oneLine := by decide
  kind := .arrow
  dashes := 3
  shortest_le := by decide
  target := ⟨"done", by decide, List.all_eq_true.1 (by decide)⟩

theorem edges_extract_longArrow :
    (Graph.extract "draft -- sent ---> done").edges ≠ [⟨"draft", "done", "sent", .arrow, .solid⟩] ∧
      (Graph.extract "draft -- sent ---> done").edges = [] ∧
      (Graph.extract "draft ---> done").edges = [⟨"draft", "done", "", .arrow, .solid⟩] := by
  obtain ⟨hlabelled, hplain⟩ := longArrow.edges_extract_dashes
  have htext : longArrow.text = "draft -- sent ---> done" := by decide +kernel
  have hplainText : longArrow.plainText = "draft ---> done" := by decide +kernel
  rw [htext] at hlabelled
  rw [hplainText] at hplain
  have hempty : (Graph.extract "draft -- sent ---> done").edges = [] := hlabelled
  refine ⟨?_, hempty, hplain⟩
  rw [hempty]
  nofun

end DashedLine

end Flowchart
