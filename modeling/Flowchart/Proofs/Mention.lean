-- SUMMARY: Identifiers and delimiters in a scan, keywords, and lines that start with an identifier.
import Flowchart.Shape
import Flowchart.Proofs.Separation

/-!
# Identifiers, delimiters and keywords

An identifier holds nothing that a scan stops at, and delimiters separate nothing. A line that starts
with an identifier and goes on without a blank is a line of statements, even if the identifier is a
keyword.
-/

namespace Flowchart

/-! ## Identifiers -/

/-- A name of word characters. -/
structure Identifier where
  name : String
  ne_empty : name ≠ ""
  isWord : ∀ c ∈ name.toList, Text.isWord c

namespace Identifier

variable (id : Identifier)

/-- An identifier as it is written. -/
def chars : List Char :=
  id.name.toList

@[simp] theorem ofList_chars : String.ofList id.chars = id.name :=
  String.ofList_toList

theorem chars_ne_nil : id.chars ≠ [] := by
  rintro h
  exact id.ne_empty (String.toList_eq_nil_iff.1 h)

theorem isWord_of_mem {c : Char} (h : c ∈ id.chars) : Text.isWord c :=
  id.isWord c h

/-- An identifier holds none of the other characters that mean something. -/
theorem ne_of_mem {c d : Char} (h : c ∈ id.chars) (hd : Text.isWord d = false) : c ≠ d :=
  Text.ne_of_apply (id.isWord_of_mem h) hd

theorem feed_notMem : '\n' ∉ id.chars :=
  fun h => id.ne_of_mem h (d := '\n') (by decide) rfl

theorem isWhite_of_mem {c : Char} (h : c ∈ id.chars) : Text.isWhite c = false :=
  Text.isWhite_of_isWord (id.isWord_of_mem h)

theorem isDelimiter_of_mem {c : Char} (h : c ∈ id.chars) : Nesting.isDelimiter c = false := by
  have hne {d : Char} (hd : Text.isWord d = false) : (c == d) = false := by
    simpa using id.ne_of_mem h hd
  simp only [Nesting.isDelimiter, Bool.or_eq_false_iff]
  exact ⟨⟨⟨⟨⟨⟨⟨hne (by decide), hne (by decide)⟩, hne (by decide)⟩, hne (by decide)⟩,
    hne (by decide)⟩, hne (by decide)⟩, hne (by decide)⟩, hne (by decide)⟩

/-- No connector starts in an identifier. -/
theorem quiet (nesting : Nesting) (rest : List Char) : nesting.Quiet rest id.chars :=
  Nesting.quiet_of_forall fun _ hc => ⟨id.ne_of_mem hc (by decide), id.ne_of_mem hc (by decide)⟩

@[simp] theorem walk_chars (nesting : Nesting) : nesting.walk id.chars = nesting :=
  Nesting.walk_of_not_isDelimiter nesting fun _ => id.isDelimiter_of_mem

/-- The first identifier of a text ends where the word characters end. -/
theorem identifier_append {rest : List Char} (h : ∀ c ∈ rest.head?, Text.isWord c = false) :
    identifier (id.chars ++ rest) = id.chars :=
  Text.takeWhile_append_of_head? id.isWord h

theorem afterIdentifier_append {rest : List Char} (h : ∀ c ∈ rest.head?, Text.isWord c = false) :
    afterIdentifier (id.chars ++ rest) = rest :=
  Text.dropWhile_append_of_head? id.isWord h

theorem isWhite_head?_append (rest : List Char) :
    ∀ c ∈ (id.chars ++ rest).head?, Text.isWhite c = false := by
  rw [List.head?_append_of_ne_nil _ id.chars_ne_nil]
  exact fun c hc => id.isWhite_of_mem (List.mem_of_mem_head? hc)

@[simp] theorem trim_chars : Text.trim id.chars = id.chars := by
  refine Text.trim_eq_self ?_ fun c hc => id.isWhite_of_mem (List.mem_of_mem_getLast? hc)
  have := id.isWhite_head?_append []
  rwa [List.append_nil] at this

/-- A text between two identifiers is trimmed with them. -/
theorem trim_between (other : Identifier) (s : List Char) :
    Text.trim (id.chars ++ (s ++ other.chars)) = id.chars ++ (s ++ other.chars) :=
  Text.trim_between id.trim_chars id.chars_ne_nil other.trim_chars other.chars_ne_nil s

/-- An identifier makes no connector before it longer. -/
theorem stops_append (connector : Connector) (rest : List Char) :
    connector.Stops (id.chars ++ rest) := by
  intro _ c hc
  rw [List.head?_append_of_ne_nil _ id.chars_ne_nil] at hc
  have hmem := List.mem_of_mem_head? hc
  have hne {d : Char} (hd : Text.isWord d = false) : c ≠ d := id.ne_of_mem hmem hd
  have hextends : connector.stroke.extends c = false := by
    cases connector.stroke <;> simp [Stroke.extends, hne (show Text.isWord '-' = false by decide),
      hne (show Text.isWord '>' = false by decide), hne (show Text.isWord '=' = false by decide)]
  refine ⟨Text.isBlank_of_isWord (id.isWord_of_mem hmem), fun hpipe => ?_, fun _ h => ?_⟩
  · exact absurd hpipe (hne (by decide))
  · rw [hextends] at h
    cases h

theorem stops (connector : Connector) : connector.Stops id.chars := by
  have := id.stops_append connector []
  rwa [List.append_nil] at this

theorem selfContained : SelfContained id.chars :=
  .of_forall fun _ hc => ⟨id.isDelimiter_of_mem hc, id.ne_of_mem hc (by decide),
    id.ne_of_mem hc (by decide), id.ne_of_mem hc (by decide)⟩

/-- The top level of an identifier holds word characters only. -/
theorem not_mem_levels_chars {c : Char} (hc : Text.isWord c = false) :
    (c, true) ∉ levels .outside id.chars :=
  not_mem_levels (fun h => id.ne_of_mem h hc rfl) _

theorem splitMembers_chars : splitMembers id.chars = [id.chars] := by
  have hsplit : splitMembers id.chars = [Text.trim id.chars] :=
    splitMembers_eq_singleton (id.not_mem_levels_chars (by decide)) (by simp [id.chars_ne_nil])
  rwa [id.trim_chars] at hsplit

end Identifier

/-! ## Delimiters -/

namespace Shape

variable (shape : Shape)

/-- The nesting between the delimiters of a shape. -/
def nesting : Nesting :=
  { depth := shape.opening.length }

@[simp] theorem walk_opening : Nesting.outside.walk shape.opening = shape.nesting := by
  cases shape <;> rfl

@[simp] theorem walk_closing : shape.nesting.walk shape.closing = .outside := by
  cases shape <;> rfl

@[simp] theorem isTop_nesting : shape.nesting.isTop = false := by
  cases shape <;> rfl

theorem quiet_opening (nesting : Nesting) (rest : List Char) : nesting.Quiet rest shape.opening :=
  Nesting.quiet_of_forall (by cases shape <;> simp [opening])

theorem quiet_closing (nesting : Nesting) (rest : List Char) : nesting.Quiet rest shape.closing :=
  Nesting.quiet_of_forall (by cases shape <;> simp [closing])

/-- Delimiters separate nothing. -/
theorem separator_notMem :
    (';' ∉ shape.opening ∧ ';' ∉ shape.closing) ∧ '&' ∉ shape.opening ∧ '&' ∉ shape.closing := by
  cases shape <;> decide

end Shape

/-! ## Keywords -/

/-- The keywords that lines of other kinds start with. -/
def lineKeywords : List String :=
  "subgraph" :: "end" :: (declarationKeywords ++ directiveKeywords)

/-- Keywords are made of word characters. -/
theorem isWord_of_mem_lineKeywords :
    ∀ keyword ∈ lineKeywords, ∀ c ∈ keyword.toList, Text.isWord c := by
  have hall : lineKeywords.all (·.toList.all Text.isWord) := by decide +kernel
  exact fun keyword h => List.all_eq_true.1 (List.all_eq_true.1 hall keyword h)

theorem keyword_ne_nil : ∀ keyword ∈ lineKeywords, keyword.toList ≠ [] := by
  decide +kernel

theorem afterKeyword?_append (keyword : String) (rest : List Char) :
    afterKeyword? keyword (keyword.toList ++ rest) =
      match rest with
      | [] => some []
      | c :: more => if Text.isBlank c then some (Text.skipBlanks more) else none := by
  have hrest : keyword.toList.isPrefixOf? (keyword.toList ++ rest) = some rest :=
    List.isPrefixOf?_eq_some_iff_append_eq.2 rfl
  rw [afterKeyword?, hrest]
  cases rest <;> rfl

theorem afterKeyword?_eq_none {keyword : String} {s : List Char} (h : ¬ keyword.toList <+: s) :
    afterKeyword? keyword s = none := by
  have hnone : keyword.toList.isPrefixOf? s = none := by
    rw [Option.eq_none_iff_forall_ne_some]
    intro rest hrest
    exact h ⟨rest, List.isPrefixOf?_eq_some_iff_append_eq.1 hrest⟩
  rw [afterKeyword?, hnone]

/-- Blanks stand between a keyword and what follows it. -/
theorem eq_append_of_afterKeyword? {keyword : String} {s rest : List Char}
    (h : afterKeyword? keyword s = some rest) :
    ∃ blanks, s = keyword.toList ++ (blanks ++ rest) ∧ (∀ c ∈ blanks, Text.isBlank c) ∧
      (blanks = [] → rest = []) := by
  unfold afterKeyword? at h
  split at h
  · next hkeyword =>
    obtain rfl := Option.some.inj h
    have hs := List.isPrefixOf?_eq_some_iff_append_eq.1 hkeyword
    exact ⟨[], hs.symm, nofun, fun _ => rfl⟩
  · next c more hkeyword =>
    have hs := List.isPrefixOf?_eq_some_iff_append_eq.1 hkeyword
    split at h
    · next hblank =>
      obtain rfl := Option.some.inj h
      refine ⟨c :: more.takeWhile Text.isBlank, ?_, ?_, nofun⟩
      · rw [← hs, List.cons_append, Text.skipBlanks, List.takeWhile_append_dropWhile]
      · exact List.forall_mem_cons.2 ⟨hblank, fun _ => List.mem_takeWhile_imp⟩
    · cases h
  · cases h

theorem isComment_iff {s : List Char} : isComment s ↔ ['%', '%'] <+: s := by
  unfold isComment
  split
  · simp
  · next hno =>
    simp only [Bool.false_eq_true, false_iff]
    rintro ⟨rest, rfl⟩
    exact hno rest rfl

/-! ## Lines that start with an identifier -/

section Identifier

variable (id : Identifier) {rest : List Char} (hrest : ∀ c ∈ rest.head?, Text.isWord c = false)

include hrest

/-- A text that starts with a keyword and with an identifier either starts with both as the same
    word, or goes on with a word character behind the keyword. -/
theorem eq_or_isWord_of_keyword_append {keyword : String}
    (hkeyword : ∀ c ∈ keyword.toList, Text.isWord c) {more : List Char}
    (h : keyword.toList ++ more = id.chars ++ rest) :
    (id.name = keyword ∧ rest = more) ∨ ∃ c ∈ more.head?, Text.isWord c := by
  rcases List.append_eq_append_iff.1 h with ⟨u, hid, rfl⟩ | ⟨u, hkey, rfl⟩
  · cases u with
    | nil =>
      rw [List.append_nil] at hid
      exact .inl ⟨String.toList_inj.1 hid, rfl⟩
    | cons c u => exact .inr ⟨c, rfl, id.isWord_of_mem (by simp [hid])⟩
  · cases u with
    | nil =>
      rw [List.append_nil] at hkey
      exact .inl ⟨(String.toList_inj.1 hkey).symm, rfl⟩
    | cons c u =>
      have hword := hkeyword c (by simp [hkey])
      rw [hrest c rfl] at hword
      cases hword

/-- An identifier is no keyword if it has another name or goes on without a blank. -/
theorem afterKeyword?_identifier {keyword : String} (hkeyword : ∀ c ∈ keyword.toList, Text.isWord c)
    (h : id.name ≠ keyword ∨ ∃ c ∈ rest.head?, Text.isBlank c = false) :
    afterKeyword? keyword (id.chars ++ rest) = none := by
  unfold afterKeyword?
  split
  · next heq =>
    rw [List.isPrefixOf?_eq_some_iff_append_eq] at heq
    rcases eq_or_isWord_of_keyword_append id hrest hkeyword heq with ⟨hname, rfl⟩ | ⟨c, hc, -⟩
    · rcases h with h | ⟨c, hc, -⟩
      · exact absurd hname h
      · cases hc
    · cases hc
  · next c more heq =>
    rw [List.isPrefixOf?_eq_some_iff_append_eq] at heq
    refine if_neg ?_
    rw [Bool.not_eq_true]
    rcases eq_or_isWord_of_keyword_append id hrest hkeyword heq with ⟨hname, rfl⟩ | ⟨_, ⟨⟩, hword⟩
    · rcases h with h | ⟨_, ⟨⟩, hblank⟩
      · exact absurd hname h
      · exact hblank
    · exact Text.isBlank_of_isWord hword
  · rfl

/-- A line that starts with an identifier other than a keyword holds statements, and so does one
    that goes on without a blank behind its first identifier. -/
theorem SourceLine.read_identifier_append
    (h : id.name ∉ lineKeywords ∨ ∃ c ∈ rest.head?, Text.isBlank c = false) :
    SourceLine.read (id.chars ++ rest) = .body (Text.trimEnd (id.chars ++ rest)) := by
  have hkeyword (keyword : String) (hmem : keyword ∈ lineKeywords) :
      afterKeyword? keyword (id.chars ++ rest) = none :=
    afterKeyword?_identifier id hrest (isWord_of_mem_lineKeywords keyword hmem)
      (h.imp_left fun hname heq => hname (heq ▸ hmem))
  have hcomment : isComment (id.chars ++ rest) = false := by
    obtain ⟨d, more, hid⟩ := List.exists_cons_of_ne_nil id.chars_ne_nil
    have hd : d ≠ '%' := id.ne_of_mem (by simp [hid]) (by decide)
    rw [hid, List.cons_append]
    unfold isComment
    split
    · next h => exact absurd (List.cons.inj h).1 hd
    · rfl
  have hdeclaration : afterAnyKeyword? declarationKeywords (id.chars ++ rest) = none :=
    List.findSome?_eq_none_iff.2 fun keyword h => hkeyword keyword (by simp [lineKeywords, h])
  have hdirective : afterAnyKeyword? directiveKeywords (id.chars ++ rest) = none :=
    List.findSome?_eq_none_iff.2 fun keyword h => hkeyword keyword (by simp [lineKeywords, h])
  have hskip : Text.skipBlanks (id.chars ++ rest) = id.chars ++ rest :=
    Text.dropWhile_eq_self fun c hc =>
      Text.isBlank_of_isWhite_eq_false (id.isWhite_head?_append rest c hc)
  simp [SourceLine.read, hskip, hcomment, hdeclaration, hdirective, id.chars_ne_nil,
    hkeyword "subgraph" (by simp [lineKeywords]), hkeyword "end" (by simp [lineKeywords])]

end Identifier

/-- A trimmed line that starts with an identifier and goes on without a blank is kept whole. -/
theorem SourceLine.read_identifier (id : Identifier) {rest : List Char} (hne : rest ≠ [])
    (hrest : ∀ c ∈ rest.head?, Text.isWord c = false ∧ Text.isBlank c = false)
    (htrim : Text.trim (id.chars ++ rest) = id.chars ++ rest) :
    SourceLine.read (id.chars ++ rest) = .body (id.chars ++ rest) := by
  obtain ⟨c, rest, rfl⟩ := List.exists_cons_of_ne_nil hne
  rw [SourceLine.read_identifier_append id (fun c hc => (hrest c hc).1)
    (.inr ⟨c, rfl, (hrest c rfl).2⟩), Text.trimEnd_of_trim htrim]

end Flowchart
