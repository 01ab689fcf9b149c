-- SUMMARY: The grammar of members: exactly which texts mention a node, and that edges refer to the identifier mentioned.
import Flowchart.Proofs.Mention

/-!
# The grammar of members

A member mentions a node if it is an identifier, with or without a label between the delimiters of a
shape, with or without a class suffix, and with white space around it. Nothing else mentions a node.
Delimiters may stand in a label. A label in single brackets is read as one in double brackets if it
is enclosed in such brackets itself, and two shapes never fit otherwise. Edges refer to the identifier
that is mentioned.
-/

namespace Flowchart

/-! ## What is written -/

/-- A class suffix with the white space before it, or nothing. The name may be empty. -/
inductive ClassSuffix : List Char → Prop
  | none : ClassSuffix []
  | named {gap name : List Char} (hgap : ∀ c ∈ gap, Text.isWhite c)
      (hname : ∀ c ∈ name, isClassChar c) : ClassSuffix (gap ++ ':' :: ':' :: ':' :: name)

/-- What may be written behind an identifier, with its label and the category it stands for. A label
    in single brackets is not enclosed in such brackets itself, since that makes them double. -/
inductive Form : List Char → Option (List Char) → Category → Prop
  | bare : Form [] none .process
  | doubleRound (label : List Char) :
      Form (['(', '('] ++ (label ++ [')', ')'])) (some label) .terminal
  | doubleSquare (label : List Char) :
      Form (['[', '['] ++ (label ++ [']', ']'])) (some label) .subprocess
  | curly (label : List Char) : Form (['{'] ++ (label ++ ['}'])) (some label) .decision
  | square {label : List Char} (h : ∀ inner, label ≠ '[' :: (inner ++ [']'])) :
      Form (['['] ++ (label ++ [']'])) (some label) .process
  | round {label : List Char} (h : ∀ inner, label ≠ '(' :: (inner ++ [')'])) :
      Form (['('] ++ (label ++ [')'])) (some label) .process

/-- How a mention is written. -/
inductive Mention.Spelled : Mention → List Char → Prop
  | intro (id : Identifier) {before form suffix after : List Char} {label : Option (List Char)}
      {category : Category} (hbefore : ∀ c ∈ before, Text.isWhite c)
      (hform : Form form label category) (hsuffix : ClassSuffix suffix)
      (hafter : ∀ c ∈ after, Text.isWhite c) :
      Spelled ⟨id.name, label.map fun text => String.ofList (Label.decode text), category⟩
        (before ++ (id.chars ++ (form ++ suffix) ++ after))

/-! ## Class suffixes -/

theorem isWhite_of_isClassChar {c : Char} (h : isClassChar c) : Text.isWhite c = false := by
  rw [isClassChar, Bool.or_eq_true, beq_iff_eq] at h
  rcases h with h | rfl
  · exact Text.isWhite_of_isWord h
  · decide

/-- A text that ends with a closing delimiter has no class suffix. -/
theorem dropClassSuffix_eq_self {s : List Char}
    (h : ∀ c ∈ s.getLast?, isClassChar c = false ∧ c ≠ ':') : dropClassSuffix s = s := by
  have hkeep : s.reverse.dropWhile isClassChar = s.reverse := by
    refine Text.dropWhile_eq_self fun c hc => ?_
    rw [List.head?_reverse] at hc
    exact (h c hc).1
  unfold dropClassSuffix
  rw [hkeep]
  split
  · next c rest heq =>
    refine absurd rfl (h ':' ?_).2
    rw [← List.head?_reverse, heq]
    rfl
  · rfl

/-- An identifier has no class suffix. -/
theorem dropClassSuffix_identifier (id : Identifier) : dropClassSuffix id.chars = id.chars := by
  have hdrop : id.chars.reverse.dropWhile isClassChar = [] := by
    refine List.dropWhile_eq_nil_iff.2 fun c hc => ?_
    rw [isClassChar, id.isWord_of_mem (List.mem_reverse.1 hc)]
    rfl
  rw [dropClassSuffix, hdrop]

/-- A class suffix is dropped with the white space before it, whatever stands before that. -/
theorem dropClassSuffix_named {s gap name : List Char} (hne : s ≠ [])
    (hs : ∀ c ∈ s.getLast?, Text.isWhite c = false) (hgap : ∀ c ∈ gap, Text.isWhite c)
    (hname : ∀ c ∈ name, isClassChar c) :
    dropClassSuffix (s ++ (gap ++ ':' :: ':' :: ':' :: name)) = s := by
  have hreverse : (s ++ (gap ++ ':' :: ':' :: ':' :: name)).reverse.dropWhile isClassChar =
      ':' :: ':' :: ':' :: (s ++ gap).reverse := by
    have hwhole : (s ++ (gap ++ ':' :: ':' :: ':' :: name)).reverse =
        name.reverse ++ ':' :: ':' :: ':' :: (s ++ gap).reverse := by simp
    rw [hwhole]
    refine Text.dropWhile_append_of_head? (fun c hc => hname c (List.mem_reverse.1 hc)) ?_
    rintro _ ⟨⟩
    decide
  obtain ⟨c, rest, hrest⟩ : ∃ c rest, (s ++ gap).reverse = c :: rest :=
    List.exists_cons_of_ne_nil (by simp [hne])
  simp only [dropClassSuffix, hreverse, hrest]
  rw [← hrest, List.reverse_reverse, Text.trimEnd_append_white _ hgap, Text.trimEnd_eq_self hs]

/-- What is dropped is a class suffix, if anything is. -/
theorem exists_eq_dropClassSuffix_append (s : List Char) :
    ∃ suffix, s = dropClassSuffix s ++ suffix ∧ ClassSuffix suffix := by
  unfold dropClassSuffix
  split
  · next c rest hrest =>
    obtain ⟨gap, htext, hgap⟩ := Text.exists_eq_trimEnd_append (c :: rest).reverse
    have hwhole : s = (c :: rest).reverse ++ ':' :: ':' :: ':' ::
        (s.reverse.takeWhile isClassChar).reverse := by
      have hparts := congrArg List.reverse (List.takeWhile_append_dropWhile (p := isClassChar)
        (l := s.reverse))
      rw [hrest, List.reverse_reverse] at hparts
      simpa using hparts.symm
    refine ⟨gap ++ ':' :: ':' :: ':' :: (s.reverse.takeWhile isClassChar).reverse, ?_, ?_⟩
    · rw [← List.append_assoc, ← htext]
      exact hwhole
    · exact .named hgap fun c hc => List.mem_takeWhile_imp (List.mem_reverse.1 hc)
  · exact ⟨[], (List.append_nil s).symm, .none⟩

/-! ## Delimiters -/

namespace Shape

variable (shape : Shape)

theorem opening_ne_nil : shape.opening ≠ [] := by
  cases shape <;> decide

theorem closing_ne_nil : shape.closing ≠ [] := by
  cases shape <;> decide

/-- A shape has inside it what stands between its delimiters. -/
theorem inside?_eq_some_iff {s inner : List Char} :
    shape.inside? s = some inner ↔ s = shape.opening ++ (inner ++ shape.closing) := by
  constructor
  · intro h
    obtain ⟨rest, hopening, hrest⟩ := Option.bind_eq_some_iff.1 h
    obtain ⟨back, hclosing, rfl⟩ := Option.map_eq_some_iff.1 hrest
    have hreverse := congrArg List.reverse (List.isPrefixOf?_eq_some_iff_append_eq.1 hclosing)
    rw [List.reverse_append, List.reverse_reverse, List.reverse_reverse] at hreverse
    rw [hreverse]
    exact (List.isPrefixOf?_eq_some_iff_append_eq.1 hopening).symm
  · rintro rfl
    have hopening : shape.opening.isPrefixOf? (shape.opening ++ (inner ++ shape.closing)) =
        some (inner ++ shape.closing) := List.isPrefixOf?_eq_some_iff_append_eq.2 rfl
    have hclosing : shape.closing.reverse.isPrefixOf? (inner ++ shape.closing).reverse =
        some inner.reverse := List.isPrefixOf?_eq_some_iff_append_eq.2 (by simp)
    rw [inside?, hopening, Option.bind_some, hclosing, Option.map_some, List.reverse_reverse]

/-- A text that starts with another character is not enclosed by the delimiters. -/
theorem inside?_cons_eq_none {c : Char} (h : shape.opening.head? ≠ some c) (s : List Char) :
    shape.inside? (c :: s) = none := by
  rw [Option.eq_none_iff_forall_ne_some]
  intro inner hinner
  have hs := shape.inside?_eq_some_iff.1 hinner
  apply h
  rw [← List.head?_append_of_ne_nil _ shape.opening_ne_nil, ← hs]
  rfl

/-- The last character of a text with a shape is a closing delimiter. -/
theorem getLast?_append_closing (s : List Char) :
    ∀ c ∈ (s ++ shape.closing).getLast?,
      isClassChar c = false ∧ c ≠ ':' ∧ Text.isWhite c = false := by
  have hall : shape.closing.getLast?.all fun c =>
      !isClassChar c && c != ':' && !Text.isWhite c := by
    cases shape <;> decide +kernel
  rw [List.getLast?_append_of_ne_nil _ shape.closing_ne_nil]
  intro c hc
  simpa [and_assoc] using (Option.all_eq_true _ _).1 hall c hc

theorem isWord_head?_opening (s : List Char) :
    ∀ c ∈ (shape.opening ++ s).head?, Text.isWord c = false ∧ Text.isBlank c = false := by
  have hall : shape.opening.head?.all fun c => !Text.isWord c && !Text.isBlank c := by
    cases shape <;> decide +kernel
  rw [List.head?_append_of_ne_nil _ shape.opening_ne_nil]
  intro c hc
  simpa using (Option.all_eq_true _ _).1 hall c hc

/-- The first shape that encloses a text decides what is read from it. -/
theorem findSome?_inside? {α : Type} (f : Shape → List Char → α) {text inner : List Char}
    (before : List Shape) {shape : Shape} {after : List Shape} (hall : all = before ++ shape :: after)
    (hbefore : ∀ other ∈ before, other.inside? text = none) (hinside : shape.inside? text = some inner) :
    all.findSome? (fun other => (other.inside? text).map (f other)) = some (f shape inner) := by
  have hnone : before.findSome? (fun other => (other.inside? text).map (f other)) = none := by
    rw [List.findSome?_eq_none_iff]
    intro other hother
    rw [hbefore other hother]
    rfl
  rw [hall, List.findSome?_append, hnone, Option.none_or, List.findSome?_cons, hinside]
  rfl

end Shape

/-! ## Forms -/

namespace Form

variable {text suffix : List Char} {label : Option (List Char)} {category : Category}

/-- Nothing is written, or a label between the delimiters of a shape. -/
theorem cases_shape (h : Form text label category) :
    (text = [] ∧ label = none ∧ category = .process) ∨
      ∃ (shape : Shape) (inner : List Char), text = shape.opening ++ (inner ++ shape.closing) ∧
        label = some inner ∧ category = shape.category := by
  cases h with
  | bare => exact .inl ⟨rfl, rfl, rfl⟩
  | doubleRound inner => exact .inr ⟨.doubleRound, inner, rfl, rfl, rfl⟩
  | doubleSquare inner => exact .inr ⟨.doubleSquare, inner, rfl, rfl, rfl⟩
  | curly inner => exact .inr ⟨.curly, inner, rfl, rfl, rfl⟩
  | @square inner _ => exact .inr ⟨.square, inner, rfl, rfl, rfl⟩
  | @round inner _ => exact .inr ⟨.round, inner, rfl, rfl, rfl⟩

/-- Single delimiters that are double ones at once stand around a text in such delimiters. -/
theorem eq_of_double {c d : Char} {label inner : List Char}
    (h : [c] ++ (label ++ [d]) = [c, c] ++ (inner ++ [d, d])) : label = c :: (inner ++ [d]) := by
  have hbehind : label ++ [d] = c :: (inner ++ [d]) ++ [d] := by
    simpa using (List.cons.inj h).2
  exact List.append_cancel_right hbehind

/-- Every label between the delimiters of a shape is the label of a form. -/
theorem exists_of_shape (shape : Shape) (inner : List Char) :
    ∃ label category, Form (shape.opening ++ (inner ++ shape.closing)) label category := by
  have hdouble (c d : Char) (text : List Char) :
      [c] ++ (c :: (text ++ [d]) ++ [d]) = [c, c] ++ (text ++ [d, d]) := by simp
  cases shape with
  | doubleRound => exact ⟨_, _, .doubleRound inner⟩
  | doubleSquare => exact ⟨_, _, .doubleSquare inner⟩
  | curly => exact ⟨_, _, .curly inner⟩
  | square =>
    by_cases h : ∃ text, inner = '[' :: (text ++ [']'])
    · obtain ⟨text, rfl⟩ := h
      have hform := Form.doubleSquare text
      rw [← hdouble] at hform
      exact ⟨_, _, hform⟩
    · exact ⟨_, _, .square (not_exists.1 h)⟩
  | round =>
    by_cases h : ∃ text, inner = '(' :: (text ++ [')'])
    · obtain ⟨text, rfl⟩ := h
      have hform := Form.doubleRound text
      rw [← hdouble] at hform
      exact ⟨_, _, hform⟩
    · exact ⟨_, _, .round (not_exists.1 h)⟩

/-- A label that does not start like its opening delimiter is the label of a form as it stands. -/
theorem of_shape (shape : Shape) {inner : List Char} (h : ∀ c ∈ inner.head?, c ∉ shape.opening) :
    Form (shape.opening ++ (inner ++ shape.closing)) (some inner) shape.category := by
  cases shape with
  | doubleRound => exact .doubleRound inner
  | doubleSquare => exact .doubleSquare inner
  | curly => exact .curly inner
  | square =>
    refine .square ?_
    rintro text rfl
    exact h '[' rfl List.mem_cons_self
  | round =>
    refine .round ?_
    rintro text rfl
    exact h '(' rfl List.mem_cons_self

/-- The label of a form is found with its category. -/
theorem findSome?_inside? {inner : List Char} (h : Form text (some inner) category) {α : Type}
    (f : Category → List Char → α) :
    Shape.all.findSome? (fun shape => (shape.inside? text).map (f shape.category)) =
      some (f category inner) := by
  have hinside (shape : Shape) :
      shape.inside? (shape.opening ++ (inner ++ shape.closing)) = some inner :=
    shape.inside?_eq_some_iff.2 rfl
  have hnone {shape : Shape} {c : Char} (hc : shape.opening.head? ≠ some c) (s : List Char) :
      shape.inside? ([c] ++ s) = none := shape.inside?_cons_eq_none hc s
  cases h with
  | doubleRound => exact Shape.findSome?_inside? _ [] rfl nofun (hinside .doubleRound)
  | doubleSquare =>
    refine Shape.findSome?_inside? _ [.doubleRound] rfl ?_ (hinside .doubleSquare)
    rw [List.forall_mem_singleton]
    exact hnone (by decide) _
  | curly =>
    refine Shape.findSome?_inside? _ [.doubleRound, .doubleSquare] rfl ?_ (hinside .curly)
    rw [List.forall_mem_cons, List.forall_mem_singleton]
    exact ⟨hnone (by decide) _, hnone (by decide) _⟩
  | square hlabel =>
    refine Shape.findSome?_inside? _ [.doubleRound, .doubleSquare, .curly] rfl ?_ (hinside .square)
    rw [List.forall_mem_cons, List.forall_mem_cons, List.forall_mem_singleton]
    refine ⟨hnone (by decide) _, ?_, hnone (by decide) _⟩
    rw [Option.eq_none_iff_forall_ne_some]
    intro text htext
    exact hlabel text (eq_of_double (Shape.doubleSquare.inside?_eq_some_iff.1 htext))
  | round hlabel =>
    refine Shape.findSome?_inside? _ [.doubleRound, .doubleSquare, .curly, .square] rfl ?_
      (hinside .round)
    rw [List.forall_mem_cons, List.forall_mem_cons, List.forall_mem_cons, List.forall_mem_singleton]
    refine ⟨?_, hnone (by decide) _, hnone (by decide) _, hnone (by decide) _⟩
    rw [Option.eq_none_iff_forall_ne_some]
    intro text htext
    exact hlabel text (eq_of_double (Shape.doubleRound.inside?_eq_some_iff.1 htext))

/-- A form or a class suffix ends the identifier before it. -/
theorem endsIdentifier_append (h : Form text label category) (hsuffix : ClassSuffix suffix) :
    endsIdentifier (text ++ suffix) ∧ ∀ c ∈ (text ++ suffix).head?, Text.isWord c = false := by
  rcases h.cases_shape with ⟨rfl, -, -⟩ | ⟨shape, inner, rfl, -, -⟩
  · cases hsuffix with
    | none => exact ⟨rfl, nofun⟩
    | @named gap name hgap _ =>
      cases gap with
      | nil =>
        refine ⟨rfl, ?_⟩
        rintro _ ⟨⟩
        decide
      | cons b gap =>
        have hb := hgap b List.mem_cons_self
        constructor
        · rw [List.nil_append, List.cons_append]
          unfold endsIdentifier
          split <;> simp_all
        · rintro _ ⟨⟩
          exact Text.isWord_of_isWhite hb
  · rw [List.append_assoc]
    refine ⟨?_, fun c hc => (shape.isWord_head?_opening _ c hc).1⟩
    cases shape <;> rfl

end Form

/-! ## Spelled mentions -/

section Member

variable (id : Identifier) {before form suffix after : List Char} {label : Option (List Char)}
  {category : Category}

theorem isWhite_getLast?_form (hform : Form form label category) :
    ∀ c ∈ (id.chars ++ form).getLast?, Text.isWhite c = false := by
  rcases hform.cases_shape with ⟨rfl, -, -⟩ | ⟨shape, inner, rfl, -, -⟩
  · rw [List.append_nil]
    exact fun c hc => id.isWhite_of_mem (List.mem_of_mem_getLast? hc)
  · rw [← List.append_assoc, ← List.append_assoc]
    exact fun c hc => (shape.getLast?_append_closing _ c hc).2.2

/-- Only the white space around a mention is trimmed. -/
theorem trim_spelled (hbefore : ∀ c ∈ before, Text.isWhite c) (hform : Form form label category)
    (hsuffix : ClassSuffix suffix) (hafter : ∀ c ∈ after, Text.isWhite c) :
    Text.trim (before ++ (id.chars ++ (form ++ suffix) ++ after)) = id.chars ++ (form ++ suffix) := by
  rw [Text.trim_white_append hbefore, Text.trim_append_white _ hafter]
  refine Text.trim_eq_self (id.isWhite_head?_append _) ?_
  rw [← List.append_assoc]
  cases hsuffix with
  | none =>
    rw [List.append_nil]
    exact isWhite_getLast?_form id hform
  | @named gap name _ hname =>
    intro c hc
    rw [← List.append_assoc, List.getLast?_append_of_ne_nil _ (List.cons_ne_nil _ _)] at hc
    rcases List.mem_cons.1 (List.mem_of_mem_getLast? hc) with rfl | hc
    · decide
    rcases List.mem_cons.1 hc with rfl | hc
    · decide
    rcases List.mem_cons.1 hc with rfl | hc
    · decide
    exact isWhite_of_isClassChar (hname c hc)

theorem dropClassSuffix_form (hform : Form form label category) (hsuffix : ClassSuffix suffix) :
    dropClassSuffix (id.chars ++ (form ++ suffix)) = id.chars ++ form := by
  rw [← List.append_assoc]
  cases hsuffix with
  | none =>
    rw [List.append_nil]
    rcases hform.cases_shape with ⟨rfl, -, -⟩ | ⟨shape, inner, rfl, -, -⟩
    · rw [List.append_nil, dropClassSuffix_identifier]
    · refine dropClassSuffix_eq_self fun c hc => ?_
      rw [← List.append_assoc, ← List.append_assoc] at hc
      obtain ⟨hclass, hcolon, -⟩ := shape.getLast?_append_closing _ c hc
      exact ⟨hclass, hcolon⟩
  | named hgap hname =>
    have hne : id.chars ++ form ≠ [] := by simp [id.chars_ne_nil]
    exact dropClassSuffix_named hne (isWhite_getLast?_form id hform) hgap hname

end Member

namespace Mention

variable {mention : Mention} {member : List Char}

/-- A mention is read as it is spelled. -/
theorem Spelled.read? (h : mention.Spelled member) : Mention.read? member = some mention := by
  obtain @⟨id, before, form, suffix, after, label, category, hbefore, hform, hsuffix, hafter⟩ := h
  have htrim := trim_spelled id hbefore hform hsuffix hafter
  have hword : ∀ c ∈ form.head?, Text.isWord c = false := by
    have hends := (hform.endsIdentifier_append .none).2
    rwa [List.append_nil] at hends
  have hid : id.chars.isEmpty = false := by simp [id.chars_ne_nil]
  simp only [Mention.read?, htrim, dropClassSuffix_form id hform hsuffix,
    id.identifier_append hword, id.afterIdentifier_append hword, hid, id.ofList_chars]
  rcases hform.cases_shape with ⟨rfl, rfl, rfl⟩ | ⟨shape, inner, rfl, rfl, rfl⟩
  · rfl
  · have hne : (shape.opening ++ (inner ++ shape.closing)).isEmpty = false := by
      simp [shape.opening_ne_nil]
    rw [hne]
    exact hform.findSome?_inside? fun category label =>
      (⟨id.name, some (String.ofList (Label.decode label)), category⟩ : Mention)

/-- Edges refer to a member by the identifier that it mentions. -/
theorem Spelled.leadingId? (h : mention.Spelled member) :
    Flowchart.leadingId? member = some mention.id := by
  obtain @⟨id, before, form, suffix, after, label, category, hbefore, hform, hsuffix, hafter⟩ := h
  have htrim := trim_spelled id hbefore hform hsuffix hafter
  obtain ⟨hends, hword⟩ := hform.endsIdentifier_append hsuffix
  have hid : id.chars.isEmpty = false := by simp [id.chars_ne_nil]
  simp only [Flowchart.leadingId?, htrim, id.identifier_append hword,
    id.afterIdentifier_append hword, hends, hid, id.ofList_chars]
  rfl

/-- A member that is read as a mention is spelled as one. -/
theorem exists_spelled (h : Mention.read? member = some mention) :
    ∃ other : Mention, other.Spelled member := by
  obtain ⟨before, after, hmember, hbefore, hafter⟩ := Text.exists_eq_append_trim member
  obtain ⟨suffix, htrim, hsuffix⟩ := exists_eq_dropClassSuffix_append (Text.trim member)
  unfold Mention.read? at h
  simp only at h
  generalize dropClassSuffix (Text.trim member) = text at h htrim
  split at h
  · cases h
  next hne =>
    let id : Identifier :=
      { name := String.ofList (identifier text)
        ne_empty := by simpa using hne
        isWord := by
          rw [String.toList_ofList]
          exact fun _ => List.mem_takeWhile_imp }
    have hform : ∃ label category, Form (afterIdentifier text) label category := by
      split at h
      · next hnil =>
        rw [List.isEmpty_iff.1 hnil]
        exact ⟨_, _, .bare⟩
      · obtain ⟨shape, -, hshape⟩ := List.exists_of_findSome?_eq_some h
        obtain ⟨inner, hinside, -⟩ := Option.map_eq_some_iff.1 hshape
        rw [shape.inside?_eq_some_iff.1 hinside]
        exact Form.exists_of_shape shape inner
    obtain ⟨label, category, hform⟩ := hform
    have hid : id.chars = identifier text := String.toList_ofList
    have htext : text = id.chars ++ afterIdentifier text := by
      rw [hid]
      exact List.takeWhile_append_dropWhile.symm
    rw [hmember, htrim, htext, List.append_assoc before, List.append_assoc id.chars]
    exact ⟨_, .intro id hbefore hform hsuffix hafter⟩

theorem spelled_of_read? (h : Mention.read? member = some mention) : mention.Spelled member := by
  obtain ⟨other, hother⟩ := exists_spelled h
  obtain rfl := Option.some.inj (h.symm.trans hother.read?)
  exact hother

/-- A mention with a label comes from a part of the member that is enclosed by the delimiters of its
    shape. -/
theorem exists_of_label {label : String} (h : Mention.read? member = some mention)
    (hlabel : mention.label = some label) :
    ∃ (shape : Shape) (inner : List Char), shape.category = mention.category ∧
      label = String.ofList (Label.decode inner) ∧
      shape.opening ++ (inner ++ shape.closing) <:+: member := by
  obtain @⟨id, before, form, suffix, after, _, _, -, hform, -, -⟩ := spelled_of_read? h
  rcases hform.cases_shape with ⟨-, rfl, -⟩ | ⟨shape, inner, rfl, rfl, rfl⟩
  · cases hlabel
  · refine ⟨shape, inner, rfl, (Option.some.inj hlabel).symm, before ++ id.chars, suffix ++ after, ?_⟩
    simp only [List.append_assoc]

/-- Members are read exactly as mentions are spelled. -/
theorem read?_iff_spelled : Mention.read? member = some mention ↔ mention.Spelled member :=
  ⟨spelled_of_read?, Spelled.read?⟩

/-- A double delimiter that is not closed as such is a single one, and its label starts with another. -/
example : Mention.read? " A((x) :::hot".toList = some ⟨"A", some "(x", .process⟩ := by
  decide +kernel

end Mention

/-! ## Members without a class suffix -/

section Plain

variable (id : Identifier) (shape : Shape) {inner : List Char}

/-- A form behind an identifier, with nothing else, is a mention. -/
theorem Form.spelled {form : List Char} {label : Option (List Char)} {category : Category}
    (hform : Form form label category) :
    Mention.Spelled ⟨id.name, label.map fun text => String.ofList (Label.decode text), category⟩
      (id.chars ++ form) := by
  have hspelled := Mention.Spelled.intro id (List.forall_mem_nil _) hform .none (List.forall_mem_nil _)
  simpa using hspelled

theorem Mention.read?_identifier : Mention.read? id.chars = some ⟨id.name, none, .process⟩ := by
  have hspelled := Form.bare.spelled id
  rw [List.append_nil] at hspelled
  exact hspelled.read?

theorem leadingId?_identifier : leadingId? id.chars = some id.name := by
  have hspelled := Form.bare.spelled id
  rw [List.append_nil] at hspelled
  exact hspelled.leadingId?

/-- An identifier with a label between the delimiters of a shape is mentioned with that label. -/
theorem Mention.read?_shape (hinner : ∀ c ∈ inner.head?, c ∉ shape.opening) :
    Mention.read? (id.chars ++ (shape.opening ++ (inner ++ shape.closing))) =
      some ⟨id.name, some (String.ofList (Label.decode inner)), shape.category⟩ :=
  ((Form.of_shape shape hinner).spelled id).read?

/-- Whatever stands between the delimiters, edges refer to the identifier before them. -/
theorem leadingId?_shape (inner : List Char) :
    leadingId? (id.chars ++ (shape.opening ++ (inner ++ shape.closing))) = some id.name := by
  obtain ⟨label, category, hform⟩ := Form.exists_of_shape shape inner
  exact (hform.spelled id).leadingId?

/-- A member that mentions an identifier with a shape is trimmed. -/
theorem Identifier.trim_shape (inner : List Char) :
    Text.trim (id.chars ++ (shape.opening ++ (inner ++ shape.closing))) =
      id.chars ++ (shape.opening ++ (inner ++ shape.closing)) := by
  obtain ⟨label, category, hform⟩ := Form.exists_of_shape shape inner
  have htrim := trim_spelled id (List.forall_mem_nil _) hform .none (List.forall_mem_nil _)
  simpa using htrim

end Plain

end Flowchart
