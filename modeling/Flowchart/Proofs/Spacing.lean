-- SUMMARY: The layout of a text makes no difference to its graph: blanks around lines, lines that say nothing, and how lines end.
import Mathlib.Logic.Relation
import Flowchart.Proofs.Appending
import Flowchart.Proofs.Document
import Flowchart.Proofs.Mention

/-!
# Layout of a text

Every kind of line is told by what stands between the blanks at its ends, and white lines, comments
and directives say nothing. So blanks can be added to lines and such lines can be added to a text
without a change to its graph, and so can carriage returns before line feeds. Each of these changes
keeps what the lines say, one after the other, and so does any number of them.
-/

namespace Flowchart

/-! ## Changes of layout -/

/-- A line that says nothing: white space, a comment, or a directive with blanks and any text behind
    its keyword. -/
inductive IsIdle : List Char → Prop
  | white {line : List Char} (hwhite : ∀ c ∈ line, Text.isWhite c) : IsIdle line
  | comment {indent : List Char} (hindent : ∀ c ∈ indent, Text.isBlank c) (text : List Char) :
      IsIdle (indent ++ '%' :: '%' :: text)
  | directive {indent rest : List Char} {keyword : String} (hindent : ∀ c ∈ indent, Text.isBlank c)
      (hkeyword : keyword ∈ directiveKeywords) (hrest : ∀ c ∈ rest.head?, Text.isBlank c) :
      IsIdle (indent ++ (keyword.toList ++ rest))

/-- One change of layout at one place of a text. -/
inductive LayoutChange : List Char → List Char → Prop
  /-- Blanks are added at the start and at the end of a line. -/
  | pad {before line after front back : List Char} (hline : Text.IsLine before line after)
      (hfront : ∀ c ∈ front, Text.isBlank c) (hback : ∀ c ∈ back, Text.isBlank c) :
      LayoutChange (before ++ line ++ after) (before ++ (front ++ (line ++ back)) ++ after)
  /-- An idle line is added before a line, or behind the last line if that ends with a line feed. -/
  | insert {before line after : List Char} (hstart : ∀ c ∈ before.getLast?, c = '\n')
      (hidle : IsIdle line) (hwhole : '\n' ∉ line) :
      LayoutChange (before ++ after) (before ++ (line ++ '\n' :: after))
  /-- The same behind the last line, without a line feed of its own. -/
  | insertLast {before line : List Char} (hstart : ∀ c ∈ before.getLast?, c = '\n')
      (hidle : IsIdle line) (hwhole : '\n' ∉ line) : LayoutChange before (before ++ line)
  /-- An idle line is added behind a last line that does not end with a line feed. -/
  | append {before line : List Char} (hend : before.getLast? ≠ some '\r')
      (hidle : IsIdle line) (hwhole : '\n' ∉ line) : LayoutChange before (before ++ '\n' :: line)
  /-- A line feed gets a carriage return. -/
  | carriageReturn {before after : List Char} (hend : before.getLast? ≠ some '\r') :
      LayoutChange (before ++ '\n' :: after) (before ++ '\r' :: '\n' :: after)

/-- A line feed as a carriage return and a line feed. -/
def returnFeed (c : Char) : List Char :=
  if c = '\n' then ['\r', '\n'] else [c]

/-! ## What lines say -/

namespace SourceLine

/-- What a line says of the graph, if anything. White space around the header of a subgraph does not
    count. -/
def sense? : SourceLine → Option SourceLine
  | skip | body [] => none
  | subgraph header => some (subgraph (Text.trim header))
  | declaration direction statements => some (declaration direction statements)
  | subgraphEnd => some subgraphEnd
  | body statements => some (body statements)

theorem filterMap_direction?_sense? (lines : List SourceLine) :
    (lines.filterMap sense?).filterMap direction? = lines.filterMap direction? := by
  rw [List.filterMap_filterMap]
  apply List.filterMap_congr
  intro line _
  cases line with
  | skip | declaration _ _ | subgraph _ | subgraphEnd => rfl
  | body statements => cases statements <;> rfl

theorem filterMap_header?_sense? (lines : List SourceLine) :
    (lines.filterMap sense?).filterMap header? = (lines.filterMap header?).map Text.trim := by
  rw [List.filterMap_filterMap, List.map_filterMap]
  apply List.filterMap_congr
  intro line _
  cases line with
  | skip | declaration _ _ | subgraph _ | subgraphEnd => rfl
  | body statements => cases statements <;> rfl

end SourceLine

theorem Subgraph.ofHeader_trim (number : Nat) (header : List Char) :
    Subgraph.ofHeader number (Text.trim header) = Subgraph.ofHeader number header := by
  unfold Subgraph.ofHeader
  rw [Text.trim_trim]

/-- Lines that say nothing hold no statements and leave the open subgraphs as they are. -/
theorem placedStatements_filterMap_sense? (opened : OpenSubgraphs) (lines : List SourceLine) :
    placedStatements opened (lines.filterMap SourceLine.sense?) = placedStatements opened lines := by
  induction lines generalizing opened with
  | nil => rfl
  | cons line lines ih =>
    have hkeep (said : SourceLine) (hsaid : line.sense? = some said)
        (hstatements : said.statements = line.statements)
        (hafter : opened.after said = opened.after line) :
        placedStatements opened ((line :: lines).filterMap SourceLine.sense?) =
          placedStatements opened (line :: lines) := by
      rw [List.filterMap_cons_some hsaid, placedStatements, placedStatements, hstatements, hafter, ih]
    cases line with
    | skip => exact ih opened
    | declaration direction statements => exact hkeep _ rfl rfl rfl
    | subgraph header => exact hkeep _ rfl rfl rfl
    | subgraphEnd => exact hkeep _ rfl rfl rfl
    | body statements =>
      cases statements with
      | nil => exact ih opened
      | cons c statements => exact hkeep _ rfl rfl rfl

/-- What the lines of a text say, in order. -/
def sensesOf (source : List Char) : List SourceLine :=
  (sourceLines source).filterMap SourceLine.sense?

/-- Texts whose lines say the same have the same outline. -/
theorem Outline.read_eq_of_sensesOf {s t : List Char} (h : sensesOf s = sensesOf t) :
    Outline.read s = Outline.read t := by
  have hsubgraphs (source : List Char) :
      ((sourceLines source).filterMap SourceLine.header?).mapIdx Subgraph.ofHeader =
        ((sensesOf source).filterMap SourceLine.header?).mapIdx Subgraph.ofHeader := by
    rw [sensesOf, SourceLine.filterMap_header?_sense?]
    apply List.ext_getElem?
    intro number
    simp [Subgraph.ofHeader_trim, Function.comp_def]
  have hread (source : List Char) :
      Outline.read source =
        ⟨((sensesOf source).filterMap SourceLine.direction?).getLastD default,
          ((sensesOf source).filterMap SourceLine.header?).mapIdx Subgraph.ofHeader,
          placedStatements {} (sensesOf source)⟩ := by
    rw [← hsubgraphs, sensesOf, SourceLine.filterMap_direction?_sense?,
      placedStatements_filterMap_sense?]
    rfl
  rw [hread s, hread t, h]

/-! ## Blanks around a line -/

namespace Text

/-- Blanks behind a text. Nothing is put behind an empty text. -/
def padEnd (back s : List Char) : List Char :=
  if s = [] then [] else s ++ back

theorem padEnd_of_ne {s : List Char} (h : s ≠ []) (back : List Char) : padEnd back s = s ++ back :=
  if_neg h

theorem padEnd_eq_nil_iff {back s : List Char} : padEnd back s = [] ↔ s = [] := by
  unfold padEnd
  split
  · simp [*]
  · simp [*]

variable {back : List Char} (hback : ∀ c ∈ back, isBlank c)

include hback

theorem skipBlanks_append (s : List Char) : skipBlanks (s ++ back) = padEnd back (skipBlanks s) := by
  rw [skipBlanks, List.dropWhile_append, skipBlanks, padEnd]
  split
  · next hempty =>
    rw [if_pos (List.isEmpty_iff.1 hempty)]
    exact skipBlanks_eq_nil hback
  · next hne => rw [if_neg fun hnil => hne (List.isEmpty_iff.2 hnil)]

theorem trim_padEnd (s : List Char) : trim (padEnd back s) = trim s := by
  unfold padEnd
  split
  · next hnil => rw [hnil]
  · exact trim_append_white s (isWhite_of_forall_isBlank hback)

end Text

section Pad

variable {back : List Char} (hback : ∀ c ∈ back, Text.isBlank c)

include hback

/-- Blanks behind a text do not make it start with anything but blanks. -/
theorem isPrefix_of_isPrefix_append_blanks {word s : List Char}
    (hword : ∀ c ∈ word, Text.isBlank c = false) (h : word <+: s ++ back) : word <+: s := by
  obtain ⟨rest, hrest⟩ := h
  rcases List.append_eq_append_iff.1 hrest with ⟨more, rfl, -⟩ | ⟨more, rfl, hmore⟩
  · exact List.prefix_append word more
  · cases more with
    | nil => rw [List.append_nil]
    | cons c more =>
      have hnot := hword c (by simp)
      rw [hback c (by simp [hmore])] at hnot
      cases hnot

/-- Blanks behind a text stay behind what follows a keyword. -/
theorem afterKeyword?_padEnd {keyword : String} (hkeyword : keyword ∈ lineKeywords)
    (s : List Char) :
    afterKeyword? keyword (Text.padEnd back s) =
      (afterKeyword? keyword s).map (Text.padEnd back) := by
  by_cases hstart : keyword.toList <+: s
  · obtain ⟨rest, rfl⟩ := hstart
    have hne : keyword.toList ++ rest ≠ [] := by
      intro hnil
      have hempty := List.append_eq_nil_iff.1 hnil
      exact keyword_ne_nil keyword hkeyword hempty.1
    rw [Text.padEnd_of_ne hne, List.append_assoc, afterKeyword?_append, afterKeyword?_append]
    cases rest with
    | nil =>
      cases back with
      | nil => rfl
      | cons b back =>
        obtain ⟨hb, hmore⟩ := List.forall_mem_cons.1 hback
        simp [hb, Text.skipBlanks_eq_nil hmore, Text.padEnd]
    | cons c rest =>
      by_cases hc : Text.isBlank c
      · simp [hc, Text.skipBlanks_append hback]
      · simp [hc]
  · have hpad : ¬ keyword.toList <+: Text.padEnd back s := by
      unfold Text.padEnd
      split
      · next hnil => rwa [hnil] at hstart
      · intro h
        refine hstart (isPrefix_of_isPrefix_append_blanks hback (fun c hc => ?_) h)
        exact Text.isBlank_of_isWord (isWord_of_mem_lineKeywords keyword hkeyword c hc)
    rw [afterKeyword?_eq_none hstart, afterKeyword?_eq_none hpad]
    rfl

theorem afterAnyKeyword?_padEnd {keywords : List String} (hkeywords : keywords ⊆ lineKeywords)
    (s : List Char) :
    afterAnyKeyword? keywords (Text.padEnd back s) =
      (afterAnyKeyword? keywords s).map (Text.padEnd back) := by
  unfold afterAnyKeyword?
  induction keywords with
  | nil => rfl
  | cons keyword keywords ih =>
    obtain ⟨hkeyword, hmore⟩ := List.cons_subset.1 hkeywords
    rw [List.findSome?_cons, List.findSome?_cons, afterKeyword?_padEnd hback hkeyword, ih hmore]
    cases afterKeyword? keyword s <;> rfl

/-- Blanks behind a text do not make a direction of its start. -/
theorem readDirection_append (s : List Char) :
    readDirection (s ++ back) = ((readDirection s).1, (readDirection s).2 ++ back) := by
  rcases readDirection_cases s with hnone | ⟨direction, code, hcode, rest, rfl, hsome⟩
  · rcases readDirection_cases (s ++ back) with hnone' | ⟨direction, code, hcode, rest, hwhole, -⟩
    · rw [hnone, hnone']
    · obtain ⟨-, hblank⟩ := direction.isBlank_of_mem_code code hcode
      obtain ⟨more, rfl⟩ := isPrefix_of_isPrefix_append_blanks hback hblank ⟨rest, hwhole.symm⟩
      rw [readDirection_code direction hcode] at hnone
      cases hnone
  · rw [hsome, List.append_assoc, readDirection_code direction hcode]

theorem readDirection_padEnd (s : List Char) :
    (readDirection (Text.padEnd back s)).1 = (readDirection s).1 ∧
      Text.trim (readDirection (Text.padEnd back s)).2 = Text.trim (readDirection s).2 := by
  unfold Text.padEnd
  split
  · next hnil => simp [hnil]
  · rw [readDirection_append hback]
    exact ⟨rfl, Text.trim_append_white _ (Text.isWhite_of_forall_isBlank hback)⟩

theorem isComment_append (s : List Char) : isComment (s ++ back) = isComment s := by
  rw [Bool.eq_iff_iff, isComment_iff, isComment_iff]
  constructor
  · exact isPrefix_of_isPrefix_append_blanks hback (by simp [Text.isBlank])
  · exact fun h => h.trans (List.prefix_append s back)

/-- Blanks around a line do not change what it says. -/
theorem SourceLine.sense?_read_pad {front : List Char} (hfront : ∀ c ∈ front, Text.isBlank c)
    (line : List Char) :
    (SourceLine.read (front ++ (line ++ back))).sense? = (SourceLine.read line).sense? := by
  have htext : Text.skipBlanks (front ++ (line ++ back)) =
      Text.padEnd back (Text.skipBlanks line) := by
    rw [Text.skipBlanks_blanks_append hfront, Text.skipBlanks_append hback]
  have hwhite := Text.isWhite_of_forall_isBlank hback
  have hdeclaration : declarationKeywords ⊆ lineKeywords := by decide
  have hdirective : directiveKeywords ⊆ lineKeywords := by decide
  have hsubgraph : "subgraph" ∈ lineKeywords := by decide
  have hend : "end" ∈ lineKeywords := by decide
  simp only [SourceLine.read, htext]
  generalize Text.skipBlanks line = text
  by_cases hnil : text = []
  · simp [hnil, Text.padEnd]
  · simp only [afterAnyKeyword?_padEnd hback hdeclaration, afterAnyKeyword?_padEnd hback hdirective,
      afterKeyword?_padEnd hback hsubgraph, afterKeyword?_padEnd hback hend]
    have hempty : text.isEmpty = false ∧ (text ++ back).isEmpty = false := by simp [hnil]
    simp only [Text.padEnd_of_ne hnil, isComment_append hback, hempty, Bool.false_or]
    by_cases hcomment : isComment text
    · simp [hcomment]
    · simp only [hcomment]
      cases hdeclared : afterAnyKeyword? declarationKeywords text with
      | some rest =>
        obtain ⟨hdirection, hstatements⟩ := readDirection_padEnd hback rest
        simp [hdirection, hstatements]
      | none =>
        cases hheader : afterKeyword? "subgraph" text with
        | some header => simp [SourceLine.sense?, Text.trim_padEnd hback]
        | none =>
          simp [Text.padEnd_eq_nil_iff, Text.trimEnd_append_white text hwhite]

end Pad

/-! ## Idle lines -/

theorem SourceLine.sense?_read_white {line : List Char} (h : ∀ c ∈ line, Text.isWhite c) :
    (SourceLine.read line).sense? = none := by
  have htext : ∀ c ∈ Text.skipBlanks line, Text.isWhite c :=
    fun c hc => h c ((List.dropWhile_suffix Text.isBlank).subset hc)
  simp only [SourceLine.read]
  generalize Text.skipBlanks line = text at htext
  have hnot {word : List Char} (hne : word ≠ []) (hword : ∀ c ∈ word, Text.isWhite c = false) :
      ¬ word <+: text := by
    intro hstart
    obtain ⟨c, more, rfl⟩ := List.exists_cons_of_ne_nil hne
    have hwhite := htext c (hstart.subset List.mem_cons_self)
    rw [hword c List.mem_cons_self] at hwhite
    cases hwhite
  have hcomment : isComment text = false := by
    rw [Bool.eq_false_iff, Ne, isComment_iff]
    refine hnot (by simp) fun c hc => ?_
    obtain rfl : c = '%' := by simpa using hc
    decide
  have hkeyword (keyword : String) (hmem : keyword ∈ lineKeywords) :
      afterKeyword? keyword text = none := by
    apply afterKeyword?_eq_none
    apply hnot (keyword_ne_nil keyword hmem)
    exact fun c hc => Text.isWhite_of_isWord (isWord_of_mem_lineKeywords keyword hmem c hc)
  have hany (keywords : List String) (hsub : keywords ⊆ lineKeywords) :
      afterAnyKeyword? keywords text = none :=
    List.findSome?_eq_none_iff.2 fun keyword hmem => hkeyword keyword (hsub hmem)
  have htrim : Text.trimEnd text = [] := Text.trimEnd_append_white [] htext
  rw [hcomment, hany declarationKeywords (by decide),
    hany directiveKeywords (by decide), hkeyword "subgraph" (by decide),
    hkeyword "end" (by decide), htrim]
  cases text <;> rfl

theorem SourceLine.read_comment (text : List Char) :
    SourceLine.read ('%' :: '%' :: text) = .skip := rfl

theorem SourceLine.read_directive {keyword : String} (hkeyword : keyword ∈ directiveKeywords)
    {rest : List Char} (hrest : ∀ c ∈ rest.head?, Text.isBlank c) :
    SourceLine.read (keyword.toList ++ rest) = .skip := by
  have hline : keyword ∈ lineKeywords := by simp [lineKeywords, hkeyword]
  have hne := keyword_ne_nil keyword hline
  let id : Identifier :=
    ⟨keyword, fun h => hne (String.toList_eq_nil_iff.2 h), isWord_of_mem_lineKeywords keyword hline⟩
  have hends : ∀ c ∈ rest.head?, Text.isWord c = false := by
    intro c hc
    rw [Bool.eq_false_iff]
    intro hword
    have hblank := Text.isBlank_of_isWord hword
    rw [hrest c hc] at hblank
    cases hblank
  have hother {other : String} (hmem : other ∈ lineKeywords) (hdiff : keyword ≠ other) :
      afterKeyword? other (keyword.toList ++ rest) = none :=
    afterKeyword?_identifier id hends (isWord_of_mem_lineKeywords other hmem) (.inl hdiff)
  have hself : (afterKeyword? keyword (keyword.toList ++ rest)).isSome := by
    rw [afterKeyword?_append]
    cases rest with
    | nil => rfl
    | cons b rest => simp [hrest b rfl]
  have hskip : Text.skipBlanks (keyword.toList ++ rest) = keyword.toList ++ rest := by
    apply Text.dropWhile_eq_self
    intro c hc
    exact Text.isBlank_of_isWhite_eq_false (id.isWhite_head?_append rest c hc)
  have hcomment : isComment (keyword.toList ++ rest) = false := by
    rw [Bool.eq_false_iff, Ne, isComment_iff]
    rintro ⟨more, hmore⟩
    have hhead : '%' ∈ (keyword.toList ++ rest).head? := by simp [← hmore]
    rw [List.head?_append_of_ne_nil _ hne] at hhead
    exact id.ne_of_mem (List.mem_of_mem_head? hhead) (d := '%') (by decide) rfl
  have hdeclaration : afterAnyKeyword? declarationKeywords (keyword.toList ++ rest) = none := by
    apply List.findSome?_eq_none_iff.2
    intro other hmem
    apply hother (by simp [lineKeywords, hmem])
    rintro rfl
    exact absurd hkeyword ((by decide : ∀ k ∈ declarationKeywords, k ∉ directiveKeywords) _ hmem)
  have hdirective : (afterAnyKeyword? directiveKeywords (keyword.toList ++ rest)).isSome :=
    List.findSome?_isSome_iff.2 ⟨keyword, hkeyword, hself⟩
  have hsubgraph : afterKeyword? "subgraph" (keyword.toList ++ rest) = none := by
    apply hother (by decide)
    rintro rfl
    exact absurd hkeyword (by decide)
  have hend : afterKeyword? "end" (keyword.toList ++ rest) = none := by
    apply hother (by decide)
    rintro rfl
    exact absurd hkeyword (by decide)
  simp [SourceLine.read, hskip, hne, hcomment, hdeclaration, hsubgraph, hend, hdirective]

theorem IsIdle.sense?_read {line : List Char} (h : IsIdle line) :
    (SourceLine.read line).sense? = none := by
  have hpad {indent : List Char} (hindent : ∀ c ∈ indent, Text.isBlank c) (text : List Char) :
      (SourceLine.read (indent ++ text)).sense? = (SourceLine.read text).sense? := by
    have := SourceLine.sense?_read_pad (List.forall_mem_nil _) hindent text
    rwa [List.append_nil] at this
  cases h with
  | white hwhite => exact SourceLine.sense?_read_white hwhite
  | comment hindent text => rw [hpad hindent, SourceLine.read_comment]; rfl
  | directive hindent hkeyword hrest =>
    rw [hpad hindent, SourceLine.read_directive hkeyword hrest]
    rfl

/-- A carriage return at the end of an idle line may be taken for a part of the line break. -/
theorem IsIdle.of_concat_return {line : List Char} (h : IsIdle (line ++ ['\r'])) : IsIdle line := by
  generalize hwhole : line ++ ['\r'] = whole at h
  cases h with
  | white hwhite =>
    subst hwhole
    exact .white fun c hc => hwhite c (List.mem_append_left _ hc)
  | comment hindent text =>
    rcases List.eq_nil_or_concat text with rfl | ⟨text, last, rfl⟩
    · have hlast := congrArg List.getLast? hwhole
      simp at hlast
    · rw [List.concat_eq_append, ← List.cons_append, ← List.cons_append, ← List.append_assoc] at hwhole
      obtain ⟨rfl, -⟩ := List.append_inj' hwhole rfl
      exact .comment hindent text
  | @directive indent rest keyword hindent hkeyword hrest =>
    rcases List.eq_nil_or_concat rest with rfl | ⟨rest, last, rfl⟩
    · have hline : keyword ∈ lineKeywords := by simp [lineKeywords, hkeyword]
      have hlast := congrArg List.getLast? hwhole
      rw [List.append_nil, List.getLast?_concat,
        List.getLast?_append_of_ne_nil _ (keyword_ne_nil keyword hline)] at hlast
      have hword := isWord_of_mem_lineKeywords keyword hline _ (List.mem_of_getLast? hlast.symm)
      exact absurd hword (by decide)
    · rw [List.concat_eq_append, ← List.append_assoc, ← List.append_assoc] at hwhole
      obtain ⟨rfl, -⟩ := List.append_inj' hwhole rfl
      rw [List.append_assoc]
      apply IsIdle.directive hindent hkeyword
      intro c hc
      apply hrest
      rw [List.concat_eq_append]
      exact List.mem_head?_append_of_mem_head? hc

/-! ## Layout of a text -/

theorem sensesOf_append {before : List Char} (h : ∀ c ∈ before.getLast?, c = '\n')
    (after : List Char) : sensesOf (before ++ after) = sensesOf before ++ sensesOf after := by
  rw [sensesOf, sourceLines, Text.lines_append h, List.map_append, List.filterMap_append]
  rfl

/-- What a line says stands between what the text before it and the text behind it say. -/
theorem Text.IsLine.sensesOf_eq {before line after : List Char} (h : Text.IsLine before line after) :
    sensesOf (before ++ line ++ after) =
      sensesOf before ++ ((SourceLine.read line).sense?.toList ++ sensesOf after) := by
  rw [List.append_assoc, sensesOf_append h.starts]
  congr 1
  by_cases hne : line = []
  · subst hne
    rfl
  · have hafter : ((Text.lines after).tail.map SourceLine.read).filterMap SourceLine.sense? =
        sensesOf after := by
      rcases Text.lines_of_endsLine h.ends with hnil | hcons
      · rw [sensesOf, sourceLines, hnil]
        rfl
      · rw [sensesOf, sourceLines, hcons]
        rfl
    rw [sensesOf, sourceLines, Text.lines_line_append hne h.whole h.ends, List.map_cons,
      List.filterMap_cons, hafter]
    cases (SourceLine.read line).sense? <;> rfl

/-- An idle line at the start of a text says nothing. -/
theorem sensesOf_idle_feed {line : List Char} (hidle : IsIdle line) (hwhole : '\n' ∉ line)
    (after : List Char) : sensesOf (line ++ '\n' :: after) = sensesOf after := by
  have hnone {line rest : List Char} (hidle : IsIdle line) (hline : Text.IsLine [] line rest) :
      sensesOf (line ++ rest) = sensesOf rest := by
    have hsense := hline.sensesOf_eq
    rw [hidle.sense?_read] at hsense
    exact hsense
  by_cases hreturn : line.getLast? = some '\r'
  · obtain ⟨line, rfl⟩ := List.getLast?_eq_some_iff.1 hreturn
    have hline : Text.IsLine [] line ('\r' :: '\n' :: after) :=
      ⟨nofun, fun hmem => hwhole (List.mem_append_left _ hmem), .inr (.inr ⟨after, rfl⟩)⟩
    rw [List.append_assoc]
    exact hnone hidle.of_concat_return hline
  · exact hnone hidle ⟨nofun, hwhole, .inr (.inl ⟨⟨after, rfl⟩, hreturn⟩)⟩

theorem sensesOf_idle {line : List Char} (hidle : IsIdle line) (hwhole : '\n' ∉ line) :
    sensesOf line = [] := by
  have hline : Text.IsLine [] line [] := ⟨nofun, hwhole, .inl rfl⟩
  have hsense := hline.sensesOf_eq
  rw [List.nil_append, List.append_nil, hidle.sense?_read] at hsense
  exact hsense

/-- A line feed at the end of a text says nothing. -/
theorem sensesOf_concat_feed {before : List Char} (h : before.getLast? ≠ some '\r') :
    sensesOf (before ++ ['\n']) = sensesOf before := by
  rw [sensesOf, sensesOf, sourceLines, sourceLines]
  rcases Text.lines_concat_feed h with hlines | hlines
  · rw [hlines]
  · rw [hlines, List.map_append, List.filterMap_append]
    exact List.append_nil _

/-- A carriage return before a line feed belongs to the line break. -/
theorem Text.lines_return_feed {before : List Char} (h : before.getLast? ≠ some '\r')
    (after : List Char) :
    lines (before ++ '\r' :: '\n' :: after) = lines (before ++ '\n' :: after) := by
  fun_induction lines before with
  | case1 => rfl
  | case2 rest ih =>
    rw [List.cons_append, List.cons_append, lines, lines, ih (getLast?_ne_of_cons h)]
  | case3 rest ih =>
    rw [List.cons_append, List.cons_append, List.cons_append, List.cons_append, lines, lines,
      ih (getLast?_ne_of_cons (getLast?_ne_of_cons h))]
  | case4 c rest hfeed hreturn hnil ih =>
    obtain rfl := lines_eq_nil_iff.1 hnil
    have hc : c ≠ '\r' := by
      rintro rfl
      exact h rfl
    rw [List.cons_append, List.cons_append, List.nil_append, List.nil_append,
      lines_cons hfeed fun hr => absurd hr hc, lines_cons hfeed fun hr => absurd hr hc]
    rfl
  | case5 c rest hfeed hreturn line more hlines ih =>
    have hne : rest ≠ [] := by
      rintro rfl
      cases hlines
    have hhead (behind : List Char) : c = '\r' → (rest ++ behind).head? ≠ some '\n' := by
      rintro rfl hd
      rw [List.head?_append_of_ne_nil _ hne] at hd
      obtain ⟨rest, rfl⟩ := List.head?_eq_some_iff.1 hd
      exact hreturn rest rfl rfl
    rw [List.cons_append, List.cons_append, lines_cons hfeed (hhead _), lines_cons hfeed (hhead _),
      ih (getLast?_ne_of_cons h)]

/-- A line with blanks around it is a line. -/
theorem Text.IsLine.pad {before line after front back : List Char} (h : IsLine before line after)
    (hfront : ∀ c ∈ front, isBlank c) (hback : ∀ c ∈ back, isBlank c) :
    IsLine before (front ++ (line ++ back)) after := by
  have hnot {c : Char} (hc : isBlank c = false) : c ∉ front ∧ c ∉ back := by
    constructor
    · exact fun hmem => by simp [hfront c hmem] at hc
    · exact fun hmem => by simp [hback c hmem] at hc
  refine ⟨h.starts, ?_, h.ends.imp_right (.imp_left fun hfeed => ⟨hfeed.1, ?_⟩)⟩
  · obtain ⟨hinfront, hinback⟩ := hnot (c := '\n') (by decide)
    simp [hinfront, h.whole, hinback]
  · intro hlast
    obtain ⟨hinfront, hinback⟩ := hnot (c := '\r') (by decide)
    rw [List.getLast?_append, List.getLast?_append, Option.or_eq_some_iff, Option.or_eq_some_iff]
      at hlast
    rcases hlast with (hlast | ⟨-, hlast⟩) | ⟨-, hlast⟩
    · exact hinback (List.mem_of_getLast? hlast)
    · exact hfeed.2 hlast
    · exact hinfront (List.mem_of_getLast? hlast)

/-- A change of layout keeps what the lines say. -/
theorem LayoutChange.sensesOf_eq {s t : List Char} (h : LayoutChange s t) :
    sensesOf t = sensesOf s := by
  cases h with
  | pad hline hfront hback =>
    rw [(hline.pad hfront hback).sensesOf_eq, hline.sensesOf_eq,
      SourceLine.sense?_read_pad hback hfront]
  | insert hstart hidle hwhole =>
    rw [sensesOf_append hstart, sensesOf_append hstart, sensesOf_idle_feed hidle hwhole]
  | insertLast hstart hidle hwhole =>
    rw [sensesOf_append hstart, sensesOf_idle hidle hwhole, List.append_nil]
  | append hend hidle hwhole =>
    rw [List.append_cons, sensesOf_append (by simp), sensesOf_concat_feed hend,
      sensesOf_idle hidle hwhole, List.append_nil]
  | carriageReturn hend =>
    rw [sensesOf, sensesOf, sourceLines, sourceLines, Text.lines_return_feed hend]

/-- So do any number of changes. -/
theorem LayoutChange.sensesOf_eq_of_many {s t : List Char}
    (h : Relation.ReflTransGen LayoutChange s t) : sensesOf t = sensesOf s := by
  induction h with
  | refl => rfl
  | tail _ hchange ih => rw [hchange.sensesOf_eq, ih]

/-- With carriage returns before all its line feeds a text has the same lines. -/
theorem Text.lines_flatMap_returnFeed {s : List Char} (h : '\r' ∉ s) :
    lines (s.flatMap returnFeed) = lines s := by
  induction s with
  | nil => rfl
  | cons c s ih =>
    obtain ⟨hc, hs⟩ := not_or.1 (List.mem_cons.not.1 h)
    rw [List.flatMap_cons]
    by_cases hfeed : c = '\n'
    · subst hfeed
      rw [returnFeed, if_pos rfl, List.cons_append, List.singleton_append, lines, lines, ih hs]
    · have hreturn (rest : List Char) : c = '\r' → rest.head? ≠ some '\n' :=
        fun heq => absurd heq.symm hc
      rw [returnFeed, if_neg hfeed, List.singleton_append, lines_cons hfeed (hreturn _),
        lines_cons hfeed (hreturn _), ih hs]

/-- The graph of a text does not depend on its layout. Any number of changes to the blanks around
    lines, to idle lines and to line breaks keeps the whole graph, and so does a change of all line
    breaks of a text without carriage returns. -/
theorem Graph.extract_of_layoutChanges (source : String) :
    (∀ other : String, Relation.ReflTransGen LayoutChange source.toList other.toList →
      Graph.extract other = Graph.extract source) ∧
    ('\r' ∉ source.toList →
      Graph.extract (String.ofList (source.toList.flatMap returnFeed)) = Graph.extract source) := by
  constructor
  · intro other hchanges
    have hsenses := LayoutChange.sensesOf_eq_of_many hchanges
    rw [Graph.extract, Graph.extract, Outline.read_eq_of_sensesOf hsenses]
  · intro hreturn
    have hlines := Text.lines_flatMap_returnFeed hreturn
    rw [Graph.extract, Graph.extract, String.toList_ofList, Outline.read, Outline.read, hlines]

theorem Graph.extract_indentedLine :
    Graph.extract "%% note\n\tA --> B \r\nC\n click C" = Graph.extract "A --> B\nC" ∧
      Graph.extract "A --> B\r\nC" = Graph.extract "A --> B\nC" := by
  obtain ⟨hchanges, hfeeds⟩ := Graph.extract_of_layoutChanges "A --> B\nC"
  have hnote : IsIdle "%% note".toList := .comment (List.forall_mem_nil _) " note".toList
  have hclick : IsIdle " click C".toList := by
    refine @IsIdle.directive " ".toList " C".toList "click" ?_ (by decide) ?_
    · exact List.all_eq_true.1 (by decide)
    · rintro _ ⟨⟩
      rfl
  have hcomment : LayoutChange ([] ++ "A --> B\nC".toList)
      ([] ++ ("%% note".toList ++ '\n' :: "A --> B\nC".toList)) :=
    .insert nofun hnote (by decide)
  have hindent : LayoutChange ("%% note\n".toList ++ "A --> B".toList ++ "\nC".toList)
      ("%% note\n".toList ++ ("\t".toList ++ ("A --> B".toList ++ " ".toList)) ++ "\nC".toList) := by
    have hline : Text.IsLine "%% note\n".toList "A --> B".toList "\nC".toList :=
      ⟨fun _ hc => Option.mem_unique hc rfl, by decide, .inr (.inl ⟨⟨['C'], rfl⟩, by decide⟩)⟩
    exact .pad hline (List.all_eq_true.1 (by decide)) (List.all_eq_true.1 (by decide))
  have hreturn : LayoutChange ("%% note\n\tA --> B ".toList ++ '\n' :: "C".toList)
      ("%% note\n\tA --> B ".toList ++ '\r' :: '\n' :: "C".toList) :=
    .carriageReturn (by decide)
  have hdirective : LayoutChange "%% note\n\tA --> B \r\nC".toList
      ("%% note\n\tA --> B \r\nC".toList ++ '\n' :: " click C".toList) :=
    .append (by decide) hclick (by decide)
  constructor
  · exact hchanges _ (.tail (.tail (.tail (.tail .refl hcomment) hindent) hreturn) hdirective)
  · exact hfeeds (by decide)

end Flowchart
