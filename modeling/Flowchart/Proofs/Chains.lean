-- SUMMARY: Chains as they are written: each connector gives an edge from every member before it to every member after it.
import Flowchart.Proofs.Enclosure
import Flowchart.Proofs.Lines
import Flowchart.Proofs.Quotes

/-!
# Written chains

A chain is written as groups of members with connectors between them, and with blanks or none wherever
two parts meet. All parts but the connectors are self-contained, so that a line with a chain is one
statement and is cut into the groups that were written. The groups on both sides of a connector give
its edges.
-/

namespace Flowchart

/-! ## What is written -/

/-- Spaces and tabs, or none. -/
structure Blanks where
  chars : List Char
  isBlank : ∀ c ∈ chars, Text.isBlank c

/-- A label in double quotes between the delimiters of a shape. It holds no double quote. -/
structure QuotedLabel where
  shape : Shape
  text : List Char
  noQuote : '"' ∉ text

def QuotedLabel.chars (label : QuotedLabel) : List Char :=
  label.shape.opening ++ ('"' :: (label.text ++ '"' :: label.shape.closing))

/-- An identifier with a label or without. -/
structure WrittenMember where
  id : Identifier
  label : Option QuotedLabel

namespace WrittenMember

/-- What is written behind the identifier. -/
def suffix (member : WrittenMember) : List Char :=
  match member.label with
  | some label => label.chars
  | none => []

def chars (member : WrittenMember) : List Char :=
  member.id.chars ++ member.suffix

end WrittenMember

/-- Members with ampersands between them. -/
inductive WrittenGroup where
  | single (member : WrittenMember)
  | cons (member : WrittenMember) (before after : Blanks) (more : WrittenGroup)

namespace WrittenGroup

def chars : WrittenGroup → List Char
  | single member => member.chars
  | cons member before after more =>
    member.chars ++ (before.chars ++ '&' :: (after.chars ++ more.chars))

def members : WrittenGroup → List WrittenMember
  | single member => [member]
  | cons member _ _ more => member :: more.members

/-- The member that the group starts with. -/
def head : WrittenGroup → WrittenMember
  | single member => member
  | cons member _ _ _ => member

/-- The identifiers of the members, in order. -/
def ids (group : WrittenGroup) : List String :=
  group.members.map (·.id.name)

end WrittenGroup

/-- A connector as it is written: a token alone, a token with a label between pipes, or a label
    between dashes, which ends with one of the blanks before the last dashes. -/
inductive WrittenLink where
  | bare (kind : EdgeKind) (stroke : Stroke) (token : List Char)
      (spelled : Connector.Token.Spelled kind stroke token)
  | piped (kind : EdgeKind) (stroke : Stroke) (token : List Char)
      (spelled : Connector.Token.Spelled kind stroke token) (before : Blanks) (label : List Char)
      (noPipe : '|' ∉ label)
  | dashed (kind : EdgeKind) (before : Blanks) (before_ne : before.chars ≠ []) (label : List Char)
      (starts : ∃ c ∈ label.head?, Text.isBlank c = false) (noDashes : ¬ ['-', '-'] <:+: label)
      (blank : Char) (isBlank : Text.isBlank blank)

namespace WrittenLink

def chars : WrittenLink → List Char
  | bare _ _ token _ => token
  | piped _ _ token _ before label _ => token ++ (before.chars ++ ('|' :: label ++ ['|']))
  | dashed kind before _ label _ _ blank _ =>
    '-' :: '-' :: (before.chars ++ (label ++ [blank] ++ ['-', '-', kind.tip]))

def kind : WrittenLink → EdgeKind
  | bare kind .. | piped kind .. | dashed kind .. => kind

def stroke : WrittenLink → Stroke
  | bare _ stroke .. | piped _ stroke .. => stroke
  | dashed .. => .solid

/-- The label that is shown. It is empty if none is written. -/
def label : WrittenLink → String
  | bare .. => ""
  | piped _ _ _ _ _ label _ | dashed _ _ _ label .. => String.ofList (Label.decode label)

/-- All edges from one group of nodes to another, source by source. -/
def edges (link : WrittenLink) (sources targets : List String) : List Edge :=
  sources.flatMap fun source =>
    targets.map fun target => ⟨source, target, link.label, link.kind, link.stroke⟩

end WrittenLink

/-- Groups with connectors between them. -/
inductive WrittenChain where
  | single (group : WrittenGroup)
  | cons (group : WrittenGroup) (before : Blanks) (link : WrittenLink) (after : Blanks)
      (more : WrittenChain)

namespace WrittenChain

def chars : WrittenChain → List Char
  | single group => group.chars
  | cons group before link after more =>
    group.chars ++ (before.chars ++ (link.chars ++ (after.chars ++ more.chars)))

/-- The group that the chain starts with. -/
def head : WrittenChain → WrittenGroup
  | single group => group
  | cons group _ _ _ _ => group

/-- Connector by connector, the edges between the groups on both sides of it. -/
def edges : WrittenChain → List Edge
  | single _ => []
  | cons group _ link _ more => link.edges group.ids more.head.ids ++ more.edges

end WrittenChain

/-- A line that holds a chain. It does not start with a keyword. -/
structure ChainLine where
  before : Blanks
  chain : WrittenChain
  after : Blanks
  oneLine : '\n' ∉ chain.chars
  notKeyword : chain.head.head.id.name ∉ lineKeywords

namespace ChainLine

def chars (line : ChainLine) : List Char :=
  line.before.chars ++ (line.chain.chars ++ line.after.chars)

def text (line : ChainLine) : String :=
  String.ofList line.chars

end ChainLine

/-! ## Blanks -/

namespace Blanks

variable (blanks : Blanks)

/-- No blanks at all. -/
def none : Blanks :=
  ⟨[], List.forall_mem_nil _⟩

/-- A single space. -/
def space : Blanks :=
  ⟨[' '], List.all_eq_true.1 (by decide)⟩

theorem isWhite_of_mem : ∀ c ∈ blanks.chars, Text.isWhite c := by
  intro c hc
  exact Text.isWhite_of_isBlank (blanks.isBlank c hc)

theorem isWord_of_mem : ∀ c ∈ blanks.chars, Text.isWord c = false := by
  intro c hc
  exact Text.isWord_of_isWhite (blanks.isWhite_of_mem c hc)

theorem notMem_of_isWhite {c : Char} (h : Text.isWhite c = false) : c ∉ blanks.chars := by
  intro hc
  rw [blanks.isWhite_of_mem c hc] at h
  cases h

theorem feed_notMem : '\n' ∉ blanks.chars := by
  intro hc
  have hblank := blanks.isBlank _ hc
  cases hblank

theorem selfContained : SelfContained blanks.chars := by
  apply SelfContained.of_forall
  intro c hc
  have hwhite := blanks.isWhite_of_mem c hc
  exact ⟨isDelimiter_of_isWhite hwhite, Text.ne_of_apply hwhite (by decide),
    Text.ne_of_apply hwhite (by decide), Text.ne_of_apply hwhite (by decide)⟩

end Blanks

/-- A part of a line that does not go on with a word character. -/
def EndsWord (s : List Char) : Prop :=
  ∀ c ∈ s.head?, Text.isWord c = false

theorem EndsWord.append {s t : List Char} (hs : EndsWord s) (ht : EndsWord t) : EndsWord (s ++ t) := by
  cases s with
  | nil => exact ht
  | cons c s => exact hs

theorem Blanks.endsWord (blanks : Blanks) : EndsWord blanks.chars :=
  fun c hc => blanks.isWord_of_mem c (List.mem_of_mem_head? hc)

/-! ## Members -/

namespace WrittenMember

variable (member : WrittenMember)

/-- A label is written in quotes, or there is none. -/
theorem chars_cases :
    member.chars = member.id.chars ∨ ∃ (shape : Shape) (s : List Char),
      member.chars = member.id.chars ++ (shape.opening ++ (Label.quoted s ++ shape.closing)) := by
  unfold chars suffix
  split
  · next label _ =>
    refine .inr ⟨label.shape, label.text, ?_⟩
    simp [QuotedLabel.chars, Label.quoted_of_notMem label.noQuote]
  · exact .inl (List.append_nil _)

theorem chars_ne_nil : member.chars ≠ [] := by
  simp [chars, member.id.chars_ne_nil]

theorem trim_chars : Text.trim member.chars = member.chars := by
  rcases member.chars_cases with h | ⟨shape, s, h⟩
  · rw [h, Identifier.trim_chars]
  · rw [h, Identifier.trim_shape]

theorem selfContained : SelfContained member.chars := by
  rcases member.chars_cases with h | ⟨shape, s, h⟩
  · rw [h]
    exact member.id.selfContained
  · rw [h]
    exact selfContained_quoted member.id shape s

theorem ampersand_notMem_levels : ('&', true) ∉ levels .outside member.chars := by
  rcases member.chars_cases with h | ⟨shape, s, h⟩
  · rw [h]
    exact member.id.not_mem_levels_chars (by decide)
  · rw [h]
    exact not_mem_levels_quoted_ampersand member.id shape s

/-- Edges refer to a member by its identifier. -/
theorem leadingId?_chars : leadingId? member.chars = some member.id.name := by
  rcases member.chars_cases with h | ⟨shape, s, h⟩
  · rw [h, leadingId?_identifier]
  · rw [h, leadingId?_shape]

theorem endsWord_suffix : EndsWord member.suffix := by
  unfold suffix
  split
  · next label _ =>
    intro c hc
    exact (label.shape.isWord_head?_opening _ c hc).1
  · nofun

section Padded

variable (front back : Blanks)

/-- Blanks around a member are no part of it. -/
theorem trim_padded :
    Text.trim (front.chars ++ (member.chars ++ back.chars)) = member.chars := by
  rw [Text.trim_white_append front.isWhite_of_mem, Text.trim_append_white _ back.isWhite_of_mem,
    trim_chars]

theorem selfContained_padded : SelfContained (front.chars ++ (member.chars ++ back.chars)) :=
  front.selfContained.append (member.selfContained.append back.selfContained)

theorem ampersand_notMem_levels_padded :
    ('&', true) ∉ levels .outside (front.chars ++ (member.chars ++ back.chars)) := by
  rw [levels_append, levels_append, front.selfContained.walk, member.selfContained.walk,
    List.mem_append, List.mem_append, not_or, not_or]
  refine ⟨?_, member.ampersand_notMem_levels, ?_⟩
  · exact not_mem_levels (front.notMem_of_isWhite (by decide)) _
  · exact not_mem_levels (back.notMem_of_isWhite (by decide)) _

end Padded

end WrittenMember

/-! ## Groups -/

namespace WrittenGroup

variable (group : WrittenGroup)

theorem chars_ne_nil : group.chars ≠ [] := by
  cases group with
  | single member => exact member.chars_ne_nil
  | cons member before after more => simp [chars, member.chars_ne_nil]

theorem trim_chars : Text.trim group.chars = group.chars := by
  induction group with
  | single member => exact member.trim_chars
  | cons member before after more ih =>
    have htrim := Text.trim_between member.trim_chars member.chars_ne_nil ih more.chars_ne_nil
      (before.chars ++ '&' :: after.chars)
    rw [List.append_assoc, List.cons_append] at htrim
    exact htrim

theorem selfContained : SelfContained group.chars := by
  induction group with
  | single member => exact member.selfContained
  | cons member before after more ih =>
    have hampersand : SelfContained ['&'] := by
      apply SelfContained.of_forall
      intro c hc
      rw [List.mem_singleton.1 hc]
      decide
    exact member.selfContained.append (before.selfContained.append
      (hampersand.append (after.selfContained.append ih)))

/-- A group with blanks around it is split into its members. -/
theorem splitMembers_padded (front back : Blanks) :
    splitMembers (front.chars ++ (group.chars ++ back.chars)) =
      group.members.map WrittenMember.chars := by
  -- behind an ampersand the same holds again, with the blanks there at the front
  induction group generalizing front with
  | single member =>
    have htrim := member.trim_padded front back
    rw [chars, splitMembers_eq_singleton (member.ampersand_notMem_levels_padded front back), htrim]
    · rfl
    · rw [htrim]
      exact member.chars_ne_nil
  | cons member before after more ih =>
    have htrim := member.trim_padded front before
    have hwhole : front.chars ++ ((cons member before after more).chars ++ back.chars) =
        front.chars ++ (member.chars ++ before.chars) ++
          '&' :: (after.chars ++ (more.chars ++ back.chars)) := by
      simp [chars]
    rw [hwhole, splitMembers_append_cons (member.selfContained_padded front before)
      (member.ampersand_notMem_levels_padded front before), htrim, ih after]
    · rfl
    · rw [htrim]
      exact member.chars_ne_nil
    · rw [ih after]
      cases more with
      | single other => simpa [members] using other.chars_ne_nil
      | cons other _ _ _ => simp [members, other.chars_ne_nil]

theorem endpoints_members : Group.endpoints (group.members.map WrittenMember.chars) = group.ids := by
  have hids (members : List WrittenMember) :
      (members.map WrittenMember.chars).filterMap leadingId? = members.map (·.id.name) := by
    induction members with
    | nil => rfl
    | cons member members ih =>
      rw [List.map_cons, List.filterMap_cons, member.leadingId?_chars, ih, List.map_cons]
  exact hids group.members

/-- A group starts with the identifier of its first member, and behind it the word ends. -/
theorem exists_head_append {rest : List Char} (hrest : EndsWord rest) :
    ∃ more, group.chars ++ rest = group.head.id.chars ++ more ∧ EndsWord more := by
  cases group with
  | single member =>
    refine ⟨member.suffix ++ rest, ?_, member.endsWord_suffix.append hrest⟩
    simp [chars, head, WrittenMember.chars]
  | cons member before after more =>
    refine ⟨member.suffix ++ (before.chars ++ '&' :: (after.chars ++ more.chars) ++ rest), ?_, ?_⟩
    · simp [chars, head, WrittenMember.chars]
    · have hampersand : EndsWord ('&' :: (after.chars ++ more.chars) ++ rest) := by
        rintro c ⟨⟩
        decide
      rw [List.append_assoc]
      exact member.endsWord_suffix.append (before.endsWord.append hampersand)

end WrittenGroup

/-- An identifier with blanks around it is the only member of its segment. -/
theorem Identifier.splitMembers_padded (id : Identifier) (front back : Blanks) :
    splitMembers (front.chars ++ (id.chars ++ back.chars)) = [id.chars] := by
  have hsplit := (WrittenGroup.single ⟨id, none⟩).splitMembers_padded front back
  simpa [WrittenGroup.chars, WrittenGroup.members, WrittenMember.chars, WrittenMember.suffix] using
    hsplit

/-! ## Connectors -/

namespace WrittenLink

/-- The connector that is read where a connector is written and `after` follows. A token without a
    label takes up the blanks behind it. -/
def connector (after : Blanks) : WrittenLink → Connector
  | bare kind stroke token _ => ⟨kind, stroke, none, token ++ after.chars⟩
  | piped kind stroke token _ before label _ =>
    ⟨kind, stroke, some label, token ++ (before.chars ++ ('|' :: label ++ ['|']))⟩
  | dashed kind before _ label _ _ blank _ =>
    ⟨kind, .solid, some (label ++ [blank]),
      '-' :: '-' :: (before.chars ++ (label ++ [blank] ++ ['-', '-', kind.tip]))⟩

/-- The blanks that are left behind the connector. -/
def remaining (after : Blanks) : WrittenLink → Blanks
  | bare .. => .none
  | piped .. | dashed .. => after

variable (link : WrittenLink) (after : Blanks)

theorem text_append_remaining (rest : List Char) :
    (link.connector after).text ++ ((link.remaining after).chars ++ rest) =
      link.chars ++ (after.chars ++ rest) := by
  cases link with
  | bare => exact List.append_assoc _ _ _
  | piped | dashed => rfl

theorem spelled_connector : (link.connector after).Spelled := by
  cases link with
  | bare kind stroke token spelled => exact .bare spelled after.isBlank
  | piped kind stroke token spelled before label noPipe =>
    exact .piped spelled before.isBlank noPipe
  | dashed kind before before_ne label starts noDashes blank isBlank =>
    obtain ⟨c, hc, hstart⟩ := starts
    obtain ⟨more, rfl⟩ := List.head?_eq_some_iff.1 hc
    have hdash : blank ≠ '-' := Text.ne_of_apply isBlank (by decide)
    refine .labelled before_ne before.isBlank (by simp) ?_ (Connector.undashed_concat noDashes hdash)
    rintro d ⟨⟩
    exact hstart

/-- A connector is read up to the identifier behind it. -/
theorem read?_connector (id : Identifier) (rest : List Char) :
    Connector.read? ((link.connector after).text ++
        ((link.remaining after).chars ++ (id.chars ++ rest))) =
      some (link.connector after) := by
  rw [Connector.read?_eq_some_iff]
  refine ⟨link.spelled_connector after, _, rfl, ?_⟩
  cases link with
  | bare => exact id.stops_append _ rest
  | piped | dashed => nofun

theorem kind_connector : (link.connector after).kind = link.kind := by
  cases link <;> rfl

theorem stroke_connector : (link.connector after).stroke = link.stroke := by
  cases link <;> rfl

theorem edgeLabel_connector : (link.connector after).edgeLabel = link.label := by
  cases link with
  | bare | piped => rfl
  | dashed kind before _ label _ _ blank isBlank =>
    have hwhite : ∀ c ∈ [blank], Text.isWhite c := by
      intro c hc
      rw [List.mem_singleton.1 hc]
      exact Text.isWhite_of_isBlank isBlank
    exact congrArg String.ofList (Label.decode_append_white label hwhite)

theorem edgesBetween_connector (left right : WrittenGroup) :
    edgesBetween (left.members.map WrittenMember.chars) (link.connector after)
        (right.members.map WrittenMember.chars) =
      link.edges left.ids right.ids := by
  rw [edgesBetween, left.endpoints_members, right.endpoints_members, edgeLabel_connector,
    kind_connector, stroke_connector, edges]

theorem endsWord_chars (rest : List Char) : EndsWord (link.chars ++ rest) := by
  have hstart : ∃ c more, link.chars = c :: more ∧ (c = '-' ∨ c = '=') := by
    cases link with
    | bare kind stroke token spelled => exact Connector.Token.exists_cons_of_spelled spelled
    | piped kind stroke token spelled =>
      obtain ⟨c, more, rfl, hc⟩ := Connector.Token.exists_cons_of_spelled spelled
      exact ⟨c, _, rfl, hc⟩
    | dashed => exact ⟨_, _, rfl, .inl rfl⟩
  obtain ⟨c, more, hchars, hc⟩ := hstart
  rw [hchars]
  rintro d ⟨⟩
  rcases hc with rfl | rfl
  · decide
  · decide

end WrittenLink

/-! ## Chains -/

/-- The first connector joins the members of the first two segments. -/
theorem Segments.edges_chain_cons (segment : List Char) (link : Connector) (segments : Segments) :
    (segments.cons segment link).chain.edges =
      edgesBetween (splitMembers segment) link (splitMembers segments.first) ++
        segments.chain.edges := by
  simp [Segments.cons, Segments.chain, Chain.edges, Chain.joints, Chain.joints.go]

namespace WrittenChain

variable (chain : WrittenChain)

theorem chars_ne_nil : chain.chars ≠ [] := by
  cases chain with
  | single group => exact group.chars_ne_nil
  | cons group before link after more => simp [chars, group.chars_ne_nil]

theorem trim_chars : Text.trim chain.chars = chain.chars := by
  induction chain with
  | single group => exact group.trim_chars
  | cons group before link after more ih =>
    have htrim := Text.trim_between group.trim_chars group.chars_ne_nil ih more.chars_ne_nil
      (before.chars ++ (link.chars ++ after.chars))
    rw [List.append_assoc, List.append_assoc] at htrim
    exact htrim

theorem exists_head_append {rest : List Char} (hrest : EndsWord rest) :
    ∃ more, chain.chars ++ rest = chain.head.head.id.chars ++ more ∧ EndsWord more := by
  cases chain with
  | single group => exact group.exists_head_append hrest
  | cons group before link after more =>
    have hends := before.endsWord.append (link.endsWord_chars (after.chars ++ (more.chars ++ rest)))
    have hgroup := group.exists_head_append hends
    simpa [chars, head] using hgroup

/-- The segments that the chain is cut into, `front` being left over before it. -/
def segments (front : Blanks) : WrittenChain → Segments
  | single group => ⟨front.chars ++ group.chars, []⟩
  | cons group before link after more =>
    (more.segments (link.remaining after)).cons (front.chars ++ (group.chars ++ before.chars))
      (link.connector after)

variable (front : Blanks)

theorem chars_segments : (chain.segments front).chars = front.chars ++ chain.chars := by
  induction chain generalizing front with
  | single group => exact Segments.chars_single _
  | cons group before link after more ih =>
    rw [segments, Segments.chars_cons, ih, link.text_append_remaining after, chars]
    simp

/-- Between the connectors of a chain nothing is left open and no statement ends. -/
theorem selfContained_segments :
    ∀ segment ∈ (chain.segments front).first :: (chain.segments front).rest.map Prod.snd,
      SelfContained segment := by
  induction chain generalizing front with
  | single group =>
    intro segment hsegment
    rw [List.mem_singleton.1 hsegment]
    exact front.selfContained.append group.selfContained
  | cons group before link after more ih =>
    refine List.forall_mem_cons.2 ⟨?_, ih (link.remaining after)⟩
    exact front.selfContained.append (group.selfContained.append before.selfContained)

/-- The connectors of a chain are those that are written. -/
theorem readable_segments : (chain.segments front).Readable := by
  induction chain generalizing front with
  | single group =>
    exact .single ((front.selfContained.append group.selfContained).quiet [])
  | cons group before link after more ih =>
    have hsegment := front.selfContained.append (group.selfContained.append before.selfContained)
    refine .cons (hsegment.quiet _) hsegment.walk ?_ (ih _)
    -- the next group starts with an identifier, which ends the connector
    have hends : EndsWord [] := nofun
    obtain ⟨rest, hrest, -⟩ := more.exists_head_append hends
    rw [List.append_nil] at hrest
    rw [chars_segments, hrest]
    exact link.read?_connector after _ rest

theorem splitMembers_first_segments :
    splitMembers (chain.segments front).first = chain.head.members.map WrittenMember.chars := by
  cases chain with
  | single group =>
    have hsplit := group.splitMembers_padded front .none
    rw [Blanks.none, List.append_nil] at hsplit
    exact hsplit
  | cons group before link after more => exact group.splitMembers_padded front before

theorem edges_segments : (chain.segments front).chain.edges = chain.edges := by
  induction chain generalizing front with
  | single group => rfl
  | cons group before link after more ih =>
    have hleft := group.splitMembers_padded front before
    have hright := more.splitMembers_first_segments (link.remaining after)
    rw [segments, Segments.edges_chain_cons, hleft, hright, link.edgesBetween_connector,
      ih (link.remaining after), edges]

/-- A chain is one statement. -/
theorem splitStatements_chars : splitStatements chain.chars = [chain.chars] := by
  have hlevels : ∀ segment ∈
      (chain.segments .none).first :: (chain.segments .none).rest.map Prod.snd,
        (';', true) ∉ levels .outside segment :=
    fun segment hsegment => (chain.selfContained_segments .none segment hsegment).semicolon
  have hchars : (chain.segments .none).chars = chain.chars := chain.chars_segments .none
  have hsplit := (chain.readable_segments .none).splitStatements_chars hlevels
  rw [hchars, trim_chars] at hsplit
  exact hsplit chain.chars_ne_nil

theorem edges_read : (Chain.read chain.chars).edges = chain.edges := by
  have hread := Chain.read_chars (chain.readable_segments .none)
  have hchars : (chain.segments .none).chars = chain.chars := chain.chars_segments .none
  rw [hchars] at hread
  rw [hread, edges_segments]

end WrittenChain

/-! ## Lines -/

namespace ChainLine

variable (line : ChainLine)

theorem read_chars : SourceLine.read line.chars = .body line.chain.chars := by
  have hskip (s : List Char) : SourceLine.read (line.before.chars ++ s) = SourceLine.read s := by
    simp only [SourceLine.read, Text.skipBlanks_blanks_append line.before.isBlank]
  obtain ⟨rest, hrest, hends⟩ := line.chain.exists_head_append line.after.endsWord
  rw [chars, hskip, hrest, SourceLine.read_identifier_append _ hends (.inl line.notKeyword), ← hrest,
    Text.trimEnd_append_white _ line.after.isWhite_of_mem,
    Text.trimEnd_of_trim line.chain.trim_chars]

/-- The line holds the edges of its chain. -/
theorem edges_read_chars : (SourceLine.read line.chars).edges = line.chain.edges := by
  rw [line.read_chars, SourceLine.edges, SourceLine.statements, line.chain.splitStatements_chars,
    List.flatMap_singleton, line.chain.edges_read]

theorem sourceLines_text : sourceLines line.text.toList = [.body line.chain.chars] := by
  have hne : line.chars ≠ [] := by
    simp [chars, line.chain.chars_ne_nil]
  have hfeed : '\n' ∉ line.chars := by
    simp [chars, line.before.feed_notMem, line.oneLine, line.after.feed_notMem]
  rw [text, String.toList_ofList, sourceLines, Text.lines_of_feed_notMem hne hfeed,
    List.map_singleton, line.read_chars]

/-- Each connector of a chain gives an edge from every member of the group before it to every member
    of the group after it, source by source, with what the connector says. -/
theorem edges_extract_text : (Graph.extract line.text).edges = line.chain.edges := by
  rw [Graph.edges_extract, line.sourceLines_text, List.flatMap_singleton, SourceLine.edges,
    SourceLine.statements, line.chain.splitStatements_chars, List.flatMap_singleton,
    line.chain.edges_read]

/-- A line with two groups of two members, and separators inside its labels. -/
def fanOut : ChainLine where
  before := .none
  chain :=
    .cons
      (.cons
        ⟨⟨"a", by decide, List.all_eq_true.1 (by decide)⟩,
          some ⟨.square, "b --> c; &".toList, by decide⟩⟩
        ⟨[' '], List.all_eq_true.1 (by decide)⟩ .none
        (.single ⟨⟨"d", by decide, List.all_eq_true.1 (by decide)⟩, none⟩))
      .none
      (.dashed .arrow ⟨[' '], List.all_eq_true.1 (by decide)⟩ (by decide) "e|f; &".toList
        ⟨'e', rfl, by decide⟩ (by decide) ' ' (by decide))
      ⟨['\t'], List.all_eq_true.1 (by decide)⟩
      (.single
        (.cons ⟨⟨"g", by decide, List.all_eq_true.1 (by decide)⟩, none⟩ .none .none
          (.single ⟨⟨"h", by decide, List.all_eq_true.1 (by decide)⟩, none⟩)))
  after := .none
  oneLine := by decide +kernel
  notKeyword := by decide +kernel

example : fanOut.text = "a[\"b --> c; &\"] &d-- e|f; & -->\tg&h" := by
  decide +kernel

example : fanOut.chain.edges =
    [⟨"a", "g", "e|f; &", .arrow, .solid⟩, ⟨"a", "h", "e|f; &", .arrow, .solid⟩,
      ⟨"d", "g", "e|f; &", .arrow, .solid⟩, ⟨"d", "h", "e|f; &", .arrow, .solid⟩] := by
  decide +kernel

end ChainLine

end Flowchart
