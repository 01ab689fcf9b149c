-- SUMMARY: Identifiers are whole words of a line, except directly behind the direction of a declaration.
import Flowchart.Proofs.Document
import Flowchart.Proofs.Provenance

/-!
# Whole words

The identifiers of a graph are words of its text. A line is cut at separators and connectors, and
none of them starts or ends with a word character, so that an identifier is never part of a longer
word. There is one exception. A direction need not be ended, so what follows it directly is read as
if a word started there.
-/

namespace Flowchart

/-! ## Parts that stand apart -/

/-- A part of a text without word characters directly before and behind it. -/
def StandsApart (part whole : List Char) : Prop :=
  ∃ before after, whole = before ++ (part ++ after) ∧
    (∀ c ∈ before.getLast?, Text.isWord c = false) ∧ ∀ c ∈ after.head?, Text.isWord c = false

/-- Whether a part stands apart is told by trying all its places. -/
theorem standsApart_iff {part whole : List Char} :
    StandsApart part whole ↔ (List.range (whole.length + 1)).any fun n =>
      part.isPrefixOf (whole.drop n) && (whole.take n).getLast?.all (!Text.isWord ·) &&
        (whole.drop (n + part.length)).head?.all (!Text.isWord ·) := by
  simp only [List.any_eq_true, Bool.and_eq_true, List.isPrefixOf_iff_prefix, Option.all_eq_true,
    Bool.not_eq_eq_eq_not, Bool.not_true]
  constructor
  · rintro ⟨before, after, rfl, hbefore, hafter⟩
    refine ⟨before.length, List.mem_range.2 ?_, ⟨?_, ?_⟩, ?_⟩
    · rw [List.length_append]
      omega
    · rw [List.drop_left]
      exact List.prefix_append part after
    · rwa [List.take_left]
    · rwa [← List.append_assoc, ← List.length_append, List.drop_left]
  · rintro ⟨n, -, ⟨⟨after, hafter⟩, hbefore⟩, hbehind⟩
    refine ⟨whole.take n, after, ?_, hbefore, ?_⟩
    · rw [hafter, List.take_append_drop]
    · rw [← List.drop_drop, ← hafter, List.drop_left] at hbehind
      exact hbehind

instance (part whole : List Char) : Decidable (StandsApart part whole) :=
  decidable_of_iff' _ standsApart_iff

theorem StandsApart.refl (s : List Char) : StandsApart s s :=
  ⟨[], [], by simp, nofun, nofun⟩

theorem StandsApart.append_left {front part whole : List Char} (h : StandsApart part whole)
    (hfront : ∀ c ∈ front.getLast?, Text.isWord c = false) : StandsApart part (front ++ whole) := by
  obtain ⟨before, after, rfl, hbefore, hafter⟩ := h
  refine ⟨front ++ before, after, by simp, ?_, hafter⟩
  intro c hc
  rw [List.getLast?_append, Option.mem_def, Option.or_eq_some_iff] at hc
  rcases hc with hc | ⟨-, hc⟩
  · exact hbefore c hc
  · exact hfront c hc

theorem StandsApart.append_right {part whole back : List Char} (h : StandsApart part whole)
    (hback : ∀ c ∈ back.head?, Text.isWord c = false) : StandsApart part (whole ++ back) := by
  obtain ⟨before, after, rfl, hbefore, hafter⟩ := h
  refine ⟨before, after ++ back, by simp, hbefore, ?_⟩
  intro c hc
  rw [List.head?_append, Option.mem_def, Option.or_eq_some_iff] at hc
  rcases hc with hc | ⟨-, hc⟩
  · exact hafter c hc
  · exact hback c hc

theorem StandsApart.trans {part middle whole : List Char} (h : StandsApart part middle)
    (hmiddle : StandsApart middle whole) : StandsApart part whole := by
  obtain ⟨before, after, rfl, hbefore, hafter⟩ := hmiddle
  exact (h.append_right hafter).append_left hbefore

/-! ## Trimming -/

theorem standsApart_trim (s : List Char) : StandsApart (Text.trim s) s := by
  obtain ⟨before, after, hs, hbefore, hafter⟩ := Text.exists_eq_append_trim s
  refine ⟨before, after, ?_, ?_, ?_⟩
  · rw [← List.append_assoc, ← hs]
  · exact fun c hc => Text.isWord_of_isWhite (hbefore c (List.mem_of_mem_getLast? hc))
  · exact fun c hc => Text.isWord_of_isWhite (hafter c (List.mem_of_mem_head? hc))

theorem standsApart_identifier (s : List Char) : StandsApart (identifier s) s :=
  ⟨[], afterIdentifier s, List.takeWhile_append_dropWhile.symm, nofun,
    Text.apply_head?_dropWhile Text.isWord s⟩

/-- A name is a whole word of the member it is read from. -/
theorem NamedIn.standsApart {member : List Char} {id : String} (h : NamedIn member id) :
    StandsApart id.toList member := by
  rw [h.toList_eq_identifier.1]
  exact (standsApart_identifier _).trans (standsApart_trim member)

/-! ## Cutting -/

/-- A text that makes no word next to it longer. -/
structure EndsWords (s : List Char) : Prop where
  ne_nil : s ≠ []
  head : ∀ c ∈ s.head?, Text.isWord c = false
  last : ∀ c ∈ s.getLast?, Text.isWord c = false

theorem EndsWords.singleton {c : Char} (h : Text.isWord c = false) : EndsWords [c] where
  ne_nil := List.cons_ne_nil c []
  head _ hd := Option.mem_unique hd rfl ▸ h
  last _ hd := Option.mem_unique hd rfl ▸ h

/-- Pieces between separators stand apart if the separators end words. -/
theorem standsApart_of_mem_splitOnP {α : Type} {p : α → Bool} {text : α → List Char} {l : List α}
    (h : ∀ x ∈ l, p x → EndsWords (text x)) :
    ∀ piece ∈ l.splitOnP p, StandsApart (piece.flatMap text) (l.flatMap text) := by
  induction hn : l.length using Nat.strongRecOn generalizing l with
  | ind n ih =>
    intro piece hpiece
    rcases splitOnP_cases p l with hall | ⟨front, x, back, rfl, hfront, hx⟩
    · rw [List.splitOnP_eq_singleton hall, List.mem_singleton] at hpiece
      rw [hpiece]
      exact .refl _
    · obtain ⟨hne, hhead, hlast⟩ := h x (by simp) hx
      rw [List.splitOnP_append_cons_of_forall_mem hfront _ hx, List.mem_cons] at hpiece
      rw [List.flatMap_append, List.flatMap_cons]
      rcases hpiece with rfl | hpiece
      · apply (StandsApart.refl _).append_right
        rwa [List.head?_append_of_ne_nil _ hne]
      · have hback : ∀ y ∈ back, p y → EndsWords (text y) := fun y hy => h y (by simp [hy])
        rw [← List.append_assoc]
        apply (ih back.length (by rw [← hn]; simp; omega) hback rfl piece hpiece).append_left
        rwa [List.getLast?_append_of_ne_nil _ hne]

theorem Connector.Spelled.endsWords {connector : Connector} (h : connector.Spelled) :
    EndsWords connector.text := by
  obtain ⟨c, more, htext, hc⟩ := h.exists_cons
  refine ⟨?_, ?_, ?_⟩
  · rw [htext]
    exact List.cons_ne_nil c more
  · rw [htext]
    rintro _ ⟨⟩
    rcases hc with rfl | rfl <;> decide
  · intro d hd
    cases h with
    | @labelled kind blanks label =>
      have hlast : kind.tip ∈ ('-' :: '-' :: (blanks ++ (label ++ ['-', '-', kind.tip]))).getLast? := by
        simp [List.getLast?_cons, List.getLast?_append]
      obtain rfl := Option.mem_unique hd hlast
      cases kind <;> decide
    | @bare kind stroke token blanks htoken hblanks =>
      rcases List.mem_append.1 (List.mem_of_mem_getLast? hd) with hmem | hmem
      · rcases Connector.mem_token_cases htoken hmem with rfl | rfl | rfl | rfl <;> decide
      · exact Text.isWord_of_isWhite (Text.isWhite_of_isBlank (hblanks d hmem))
    | @piped kind stroke token blanks label =>
      have hlast : '|' ∈ (token ++ (blanks ++ ('|' :: label ++ ['|']))).getLast? := by
        simp [List.getLast?_append, List.getLast?_cons]
      obtain rfl := Option.mem_unique hd hlast
      decide

/-- The connectors that a scan marks are spelled as such. -/
theorem spelled_of_mem_scanAfter {nesting : Nesting} {s : List Char} {connector : Connector}
    (h : .link connector ∈ scanAfter nesting 0 s) : connector.Spelled := by
  induction nesting, s using scanInduction with
  | nil nesting => cases h
  | char nesting c rest hno ih =>
    rw [scanAfter_char hno, List.mem_cons] at h
    rcases h with h | h
    · cases h
    · exact ih h
  | link nesting connector rest htop hread ih =>
    rw [scanAfter_link htop hread, List.mem_cons] at h
    rcases h with h | h
    · obtain rfl := Mark.link.inj h
      exact (Connector.read?_eq_some_iff.1 hread).1
    · exact ih h

/-- The mark of a connector. -/
def Mark.isLink : Mark → Bool
  | char _ _ => false
  | link _ => true

/-- The segments of a chain are the pieces between the connectors. -/
theorem Segments.segments_ofMarks (marks : List Mark) :
    (ofMarks marks).first :: (ofMarks marks).rest.map Prod.snd =
      (marks.splitOnP Mark.isLink).map (·.flatMap Mark.text) := by
  induction marks with
  | nil => rfl
  | cons mark marks ih =>
    rw [List.splitOnP_cons_eq_if_modifyHead]
    cases mark with
    | char c top =>
      obtain ⟨piece, pieces, heq⟩ :=
        List.exists_cons_of_ne_nil (List.splitOnP_ne_nil Mark.isLink marks)
      rw [heq, List.map_cons] at ih
      obtain ⟨hfirst, hrest⟩ := List.cons.inj ih
      rw [heq, ofMarks, hfirst, hrest]
      rfl
    | link connector => exact congrArg (List.cons []) ih

theorem standsApart_of_mem_segments {statement segment : List Char}
    (h : segment ∈ (Segments.ofMarks (scan statement)).first ::
      (Segments.ofMarks (scan statement)).rest.map Prod.snd) : StandsApart segment statement := by
  rw [Segments.segments_ofMarks] at h
  obtain ⟨piece, hpiece, rfl⟩ := List.mem_map.1 h
  rw [← flatMap_text_scan statement]
  refine standsApart_of_mem_splitOnP ?_ piece hpiece
  intro mark hmark hlink
  cases mark with
  | char c top => cases hlink
  | link connector => exact (spelled_of_mem_scanAfter hmark).endsWords

/-- A member is empty or stands apart in its segment. -/
theorem standsApart_of_mem_splitMembers {segment member : List Char}
    (h : member ∈ splitMembers segment) : member = [] ∨ StandsApart member segment := by
  unfold splitMembers at h
  simp only at h
  split at h
  · exact .inl (List.mem_singleton.1 h)
  · simp only [trimmedPieces, List.mem_filter, List.mem_map] at h
    obtain ⟨⟨_, ⟨piece, hpiece, rfl⟩, rfl⟩, -⟩ := h
    have happart : StandsApart (piece.map Prod.fst) segment := by
      have hcut : ∀ level ∈ levels .outside segment, level == ('&', true) → EndsWords [level.1] := by
        intro level _ hlevel
        obtain rfl := eq_of_beq hlevel
        exact .singleton (by decide)
      have hpieces := standsApart_of_mem_splitOnP hcut piece hpiece
      rwa [← List.map_eq_flatMap, ← List.map_eq_flatMap, map_fst_levels] at hpieces
    exact .inr ((standsApart_trim _).trans happart)

/-- A member is empty or stands apart in its statement. -/
theorem standsApart_of_mem_groups {statement member : List Char}
    (h : member ∈ (Chain.read statement).groups.flatten) :
    member = [] ∨ StandsApart member statement := by
  obtain ⟨group, hgroup, hmember⟩ := List.mem_flatten.1 h
  have hgroups : (Chain.read statement).groups =
      ((Segments.ofMarks (scan statement)).first ::
        (Segments.ofMarks (scan statement)).rest.map Prod.snd).map splitMembers := by
    simp [Chain.read, Chain.groups, Function.comp_def]
  rw [hgroups] at hgroup
  obtain ⟨segment, hsegment, rfl⟩ := List.mem_map.1 hgroup
  apply (standsApart_of_mem_splitMembers hmember).imp_right
  exact fun happart => happart.trans (standsApart_of_mem_segments hsegment)

/-- A name is a whole word of the statement it is read from. -/
theorem NamedIn.standsApart_statement {statement member : List Char} {id : String}
    (hid : NamedIn member id) (h : member ∈ (Chain.read statement).groups.flatten) :
    StandsApart id.toList statement := by
  rcases standsApart_of_mem_groups h with rfl | happart
  · exact absurd hid.toList_eq_identifier.1 hid.toList_eq_identifier.2
  · exact hid.standsApart.trans happart

theorem standsApart_of_mem_splitStatements {body statement : List Char}
    (h : statement ∈ splitStatements body) : StandsApart statement body := by
  obtain ⟨-, marks, hmarks, rfl⟩ := exists_of_mem_splitStatements h
  have hcut : ∀ mark ∈ scan body, mark.isSeparator → EndsWords mark.text := by
    intro mark _ hmark
    obtain rfl : mark = .char ';' true := by simpa [Mark.isSeparator] using hmark
    exact .singleton (by decide)
  have hpiece := standsApart_of_mem_splitOnP hcut marks hmarks
  rw [flatMap_text_scan] at hpiece
  exact (standsApart_trim _).trans hpiece

/-! ## Declarations -/

/-- The start of a declaration up to the end of its direction. -/
inductive IsHeading : List Char → Prop
  | intro {indent blanks code : List Char} {keyword : String} {direction : Direction}
      (hindent : ∀ c ∈ indent, Text.isBlank c) (hkeyword : keyword ∈ declarationKeywords)
      (hne : blanks ≠ []) (hblanks : ∀ c ∈ blanks, Text.isBlank c) (hcode : code ∈ direction.codes) :
      IsHeading (indent ++ (keyword.toList ++ (blanks ++ code)))

theorem SourceLine.exists_of_read_eq_declaration {line statements : List Char}
    {direction : Option Direction} (h : SourceLine.read line = .declaration direction statements) :
    ∃ keyword ∈ declarationKeywords, ∃ rest,
      afterKeyword? keyword (Text.skipBlanks line) = some rest ∧
        statements = Text.trim (readDirection rest).2 := by
  simp only [SourceLine.read] at h
  split at h
  · cases h
  · split at h
    · next rest hrest =>
      obtain ⟨keyword, hkeyword, hrest⟩ := List.exists_of_findSome?_eq_some hrest
      exact ⟨keyword, hkeyword, rest, hrest, (SourceLine.declaration.inj h).2.symm⟩
    · split at h
      · cases h
      · split at h
        · cases h
        · split at h <;> cases h

/-- The statements of a line stand apart in it, unless they follow a direction. -/
theorem SourceLine.standsApart_statements {line : List Char}
    (h : (SourceLine.read line).statements ≠ []) :
    StandsApart (SourceLine.read line).statements line ∨
      ∃ heading rest, IsHeading heading ∧ line = heading ++ rest ∧
        (SourceLine.read line).statements = Text.trim rest := by
  have hindent : ∀ c ∈ line.takeWhile Text.isBlank, Text.isBlank c :=
    fun _ => List.mem_takeWhile_imp
  have hline : line = line.takeWhile Text.isBlank ++ Text.skipBlanks line :=
    List.takeWhile_append_dropWhile.symm
  have hblank {blanks : List Char} (hblanks : ∀ c ∈ blanks, Text.isBlank c) :
      ∀ c ∈ blanks.getLast?, Text.isWord c = false := by
    intro c hc
    exact Text.isWord_of_isWhite (Text.isWhite_of_isBlank (hblanks c (List.mem_of_mem_getLast? hc)))
  cases hread : SourceLine.read line with
  | skip | subgraph | subgraphEnd => exact absurd (by rw [hread]; rfl) h
  | body statements =>
    left
    rw [SourceLine.statements, SourceLine.eq_of_read_eq_body hread]
    obtain ⟨after, hafter, hwhite⟩ := Text.exists_eq_trimEnd_append (Text.skipBlanks line)
    refine ⟨line.takeWhile Text.isBlank, after, ?_, hblank hindent, ?_⟩
    · rw [← hafter, ← hline]
    · exact fun c hc => Text.isWord_of_isWhite (hwhite c (List.mem_of_mem_head? hc))
  | declaration direction statements =>
    obtain ⟨keyword, hkeyword, rest, hrest, hstatements⟩ :=
      SourceLine.exists_of_read_eq_declaration hread
    obtain ⟨blanks, htext, hblanks, hempty⟩ := eq_append_of_afterKeyword? hrest
    rw [htext] at hline
    rw [hread, SourceLine.statements, hstatements] at h
    rw [SourceLine.statements, hstatements]
    have hne : blanks ≠ [] := by
      rintro rfl
      rw [hempty rfl] at h
      exact h rfl
    rcases readDirection_cases rest with hnone | ⟨direction, code, hcode, tail, rfl, hsome⟩
    · left
      rw [hnone]
      have hfront : ∀ c ∈ (line.takeWhile Text.isBlank ++ (keyword.toList ++ blanks)).getLast?,
          Text.isWord c = false := by
        rw [← List.append_assoc, List.getLast?_append_of_ne_nil _ hne]
        exact hblank hblanks
      have hrest := (standsApart_trim rest).append_left hfront
      rwa [List.append_assoc, List.append_assoc, ← hline] at hrest
    · right
      refine ⟨_, tail, .intro hindent hkeyword hne hblanks hcode, ?_, by rw [hsome]⟩
      rw [List.append_assoc, List.append_assoc, List.append_assoc]
      exact hline

/-- A word that directly follows the direction of a declaration. -/
def FollowsDirection (word line : List Char) : Prop :=
  ∃ heading rest, IsHeading heading ∧ line = heading ++ (word ++ rest) ∧
    ∀ c ∈ rest.head?, Text.isWord c = false

/-- What stands apart in the statements of a line does so in the line, or it follows the direction. -/
theorem StandsApart.of_statements {line part : List Char}
    (h : StandsApart part (SourceLine.read line).statements) (hpart : part ≠ []) :
    StandsApart part line ∨ FollowsDirection part line := by
  have hne : (SourceLine.read line).statements ≠ [] := by
    obtain ⟨before, after, hwhole, -, -⟩ := h
    rw [hwhole]
    simp [hpart]
  rcases SourceLine.standsApart_statements hne with hline | ⟨heading, rest, hheading, hline, htrim⟩
  · exact .inl (h.trans hline)
  · rw [htrim] at h
    obtain ⟨before, after, hrest, hbefore, hafter⟩ := h.trans (standsApart_trim rest)
    cases before with
    | nil => exact .inr ⟨heading, after, hheading, by rw [hline, hrest]; rfl, hafter⟩
    | cons c before =>
      refine .inl ⟨heading ++ c :: before, after, ?_, ?_, hafter⟩
      · rw [hline, hrest, List.append_assoc]
      · rwa [List.getLast?_append_of_ne_nil _ (List.cons_ne_nil c before)]

theorem exists_cons_of_mem_declarationKeywords {keyword : String}
    (h : keyword ∈ declarationKeywords) :
    ∃ c more, keyword.toList = c :: more ∧ Text.isBlank c = false ∧ c ≠ '%' := by
  rcases List.mem_pair.1 h with rfl | rfl
  · exact ⟨'g', "raph".toList, rfl, by decide, by decide⟩
  · exact ⟨'f', "lowchart".toList, rfl, by decide, by decide⟩

theorem afterAnyKeyword?_declaration {keyword : String} {blanks rest : List Char}
    (hkeyword : keyword ∈ declarationKeywords) (hne : blanks ≠ [])
    (hblanks : ∀ c ∈ blanks, Text.isBlank c) (hrest : ∀ c ∈ rest.head?, Text.isBlank c = false) :
    afterAnyKeyword? declarationKeywords (keyword.toList ++ (blanks ++ rest)) = some rest := by
  have hself : afterKeyword? keyword (keyword.toList ++ (blanks ++ rest)) = some rest := by
    obtain ⟨b, blanks, rfl⟩ := List.exists_cons_of_ne_nil hne
    obtain ⟨hb, hmore⟩ := List.forall_mem_cons.1 hblanks
    simp only [afterKeyword?_append, List.cons_append, hb, if_true,
      Text.skipBlanks_blanks_append hmore]
    rw [Text.skipBlanks, Text.dropWhile_eq_self hrest]
  rcases List.mem_pair.1 hkeyword with rfl | rfl
  · rw [afterAnyKeyword?, declarationKeywords, List.findSome?_cons, hself]
  · rw [afterAnyKeyword?, declarationKeywords, List.findSome?_cons, List.findSome?_cons, hself,
      afterKeyword?_eq_none]
    rintro ⟨more, hmore⟩
    exact absurd (List.cons.inj hmore).1 (by decide)

/-- Behind a direction a word starts, even if the direction is not ended. -/
theorem SourceLine.read_heading_append {heading : List Char} (h : IsHeading heading)
    (id : Identifier) :
    ∃ direction, SourceLine.read (heading ++ id.chars) = .declaration direction id.chars := by
  obtain @⟨indent, blanks, code, keyword, direction, hindent, hkeyword, hne, hblanks, hcode⟩ := h
  obtain ⟨hcodene, hcodeblank⟩ := direction.isBlank_of_mem_code code hcode
  obtain ⟨c, more, hkey, hc, hpercent⟩ := exists_cons_of_mem_declarationKeywords hkeyword
  have hskip : Text.skipBlanks (indent ++ (keyword.toList ++ (blanks ++ code)) ++ id.chars) =
      keyword.toList ++ (blanks ++ (code ++ id.chars)) := by
    rw [List.append_assoc, Text.skipBlanks_blanks_append hindent, hkey]
    simp [Text.skipBlanks, hc]
  have hdeclared : afterAnyKeyword? declarationKeywords
      (keyword.toList ++ (blanks ++ (code ++ id.chars))) = some (code ++ id.chars) := by
    apply afterAnyKeyword?_declaration hkeyword hne hblanks
    rw [List.head?_append_of_ne_nil _ hcodene]
    exact fun c hc => hcodeblank c (List.mem_of_mem_head? hc)
  have hcomment : isComment (keyword.toList ++ (blanks ++ (code ++ id.chars))) = false := by
    rw [Bool.eq_false_iff, Ne, isComment_iff, hkey]
    rintro ⟨rest, hrest⟩
    exact hpercent (List.cons.inj hrest).1.symm
  have hempty : (keyword.toList ++ (blanks ++ (code ++ id.chars))).isEmpty = false := by
    rw [hkey]
    rfl
  refine ⟨some direction, ?_⟩
  simp only [SourceLine.read, hskip, hdeclared, hcomment, hempty, readDirection_code direction hcode,
    id.trim_chars]
  rfl

/-- An identifier that a line holds alone is mentioned there. -/
theorem Graph.mem_names_of_statements {source : String} {line : List Char} {id : Identifier}
    (hline : line ∈ Text.lines source.toList)
    (h : (SourceLine.read line).statements = id.chars) :
    id.name ∈ (Graph.extract source).nodes.names := by
  have hstatements : splitStatements id.chars = [id.chars] := by
    rw [id.selfContained.splitStatements_eq, id.trim_chars]
    rw [id.trim_chars]
    exact id.chars_ne_nil
  have hstatement : id.chars ∈ statementsOf source.toList := by
    refine List.mem_flatMap.2 ⟨line, hline, ?_⟩
    rw [h, hstatements]
    exact List.mem_singleton_self _
  have hmember : id.chars ∈ membersOf source.toList := by
    refine List.mem_flatMap.2 ⟨id.chars, hstatement, ?_⟩
    rw [Chain.read_of_quiet (id.quiet _ _), id.splitMembers_chars]
    simp [Chain.groups]
  have hmention : (⟨id.name, none, .process⟩ : Mention) ∈ mentionsOf source.toList :=
    List.mem_filterMap.2 ⟨id.chars, hmember, Mention.read?_identifier id⟩
  have hid : id.name ∈ (firsts Mention.id (mentionsOf source.toList)).map Mention.id :=
    (mem_map_firsts Mention.id).2 (List.mem_map_of_mem hmention)
  rw [OrderedMap.names, Graph.entries_extract, List.map_append, List.map_map]
  exact List.mem_append_left _ hid

/-- The identifiers of a graph are whole words of the lines of its text, apart from words that
    directly follow the direction of a declaration. Such a word gives a node, although it is only
    the end of the word that starts with the direction. -/
theorem Graph.names_extract (source : String) :
    (∀ id ∈ (Graph.extract source).nodes.names, id ≠ "" ∧ (∀ c ∈ id.toList, Text.isWord c) ∧
      ∃ line ∈ Text.lines source.toList,
        StandsApart id.toList line ∨ FollowsDirection id.toList line) ∧
    ∀ (heading : List Char) (id : Identifier), IsHeading heading →
      heading ++ id.chars ∈ Text.lines source.toList →
        id.name ∈ (Graph.extract source).nodes.names := by
  constructor
  · intro id hid
    obtain ⟨statement, hstatement, member, hmember, hnamed⟩ := Graph.exists_of_mem_names hid
    obtain ⟨line, hline, hstatement⟩ := List.mem_flatMap.1 hstatement
    obtain ⟨hne, hword⟩ := hnamed.isWord
    have happart : StandsApart id.toList (SourceLine.read line).statements :=
      (hnamed.standsApart_statement hmember).trans (standsApart_of_mem_splitStatements hstatement)
    have hpart : id.toList ≠ [] := fun hnil => hne (String.toList_eq_nil_iff.1 hnil)
    exact ⟨hne, hword, line, hline, happart.of_statements hpart⟩
  · intro heading id hheading hline
    obtain ⟨direction, hread⟩ := SourceLine.read_heading_append hheading id
    apply Graph.mem_names_of_statements hline
    rw [hread, SourceLine.statements]

theorem Graph.names_extract_behindDirection :
    (∃ id ∈ (Graph.extract "graph TBD --> Done").nodes.names,
      ∀ line ∈ Text.lines "graph TBD --> Done".toList,
        ¬ StandsApart id.toList line ∧ FollowsDirection id.toList line) ∧
      "x" ∈ (Graph.extract "flowchart LRx").nodes.names := by
  have hnames : "D" ∈ (Graph.extract "graph TBD --> Done").nodes.names := by decide +kernel
  have hnot : ∀ line ∈ Text.lines "graph TBD --> Done".toList, ¬ StandsApart "D".toList line := by
    decide +kernel
  have hlines : Text.lines "graph TBD --> Done".toList = ["graph TBD --> Done".toList] := by
    decide +kernel
  constructor
  · obtain ⟨-, -, line, hline, hplace⟩ := (Graph.names_extract "graph TBD --> Done").1 "D" hnames
    have hfollows := hplace.resolve_left (hnot line hline)
    rw [hlines, List.mem_singleton] at hline
    refine ⟨"D", hnames, fun other hother => ⟨hnot other hother, ?_⟩⟩
    rw [hlines, List.mem_singleton] at hother
    rwa [hother, ← hline]
  · have hheading : IsHeading ([] ++ ("flowchart".toList ++ ([' '] ++ ['L', 'R']))) :=
      @IsHeading.intro [] [' '] ['L', 'R'] "flowchart" .leftRight (List.forall_mem_nil _) (by decide)
        (by decide) (List.all_eq_true.1 (by decide)) (by decide)
    let id : Identifier := ⟨"x", by decide, List.all_eq_true.1 (by decide)⟩
    exact (Graph.names_extract "flowchart LRx").2 _ id hheading (by decide +kernel)

end Flowchart
