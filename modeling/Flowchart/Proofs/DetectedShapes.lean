-- SUMMARY: Detected shapes are read whatever way they are written, and no member may be given twice.
import Flowchart.Proofs.JsonReading

/-!
# Reading detected shapes

A list of shapes can be written in many ways: the members of an object in any order, two of them under
either of two names, what is not there as `null` or not at all, and any other members and spaces in
between. All of them are read as the same list. An object that gives a member twice is rejected.
-/

namespace Flowchart.Json

/-! ## Layout -/

/-- Spaces before a part. -/
def Spaced (part : List Char → List Char → Prop) (s rest : List Char) : Prop :=
  ∃ t, Spaces s t ∧ part t rest

/-- The parts of a list or an object, at least one of them, separated by commas, with the closing
    bracket. -/
inductive Parts {α : Type} (bracket : Bracket) (part : α → List Char → List Char → Prop) :
    List α → List Char → List Char → Prop
  | last {x : α} {s t rest : List Char} (hpart : Spaced (part x) s t)
      (hend : Spaces t (bracket.closing :: rest)) : Parts bracket part [x] s rest
  | more {x : α} {xs : List α} {s t u rest : List Char} (hpart : Spaced (part x) s t)
      (hcomma : Spaces t (',' :: u)) (h : Parts bracket part xs u rest) :
      Parts bracket part (x :: xs) s rest

/-- A list or an object with the given parts. -/
inductive Enclosed {α : Type} (bracket : Bracket) (part : α → List Char → List Char → Prop) :
    List α → List Char → List Char → Prop
  | empty {s rest : List Char} (h : Spaces s (bracket.closing :: rest)) :
      Enclosed bracket part [] (bracket.opening :: s) rest
  | parts {xs : List α} {s rest : List Char} (h : Parts bracket part xs s rest) :
      Enclosed bracket part xs (bracket.opening :: s) rest

/-- Some parts with a comma after each, and then `rest`. -/
inductive Leading (part : List Char → List Char → Prop) : List Char → List Char → Prop
  | none {rest : List Char} : Leading part rest rest
  | more {s t u rest : List Char} (hpart : part s t) (hcomma : Spaces t (',' :: u))
      (h : Leading part u rest) : Leading part s rest

/-- Where the next part is read: right after the opening bracket, or before a comma. -/
inductive Resumes : Bool → List Char → List Char → Prop
  | first {s : List Char} : Resumes true s s
  | later {s t : List Char} (h : Spaces s (',' :: t)) : Resumes false s t

/-- There are no more parts than characters. -/
theorem Parts.length_add_lt {α : Type} {bracket : Bracket} {part : α → List Char → List Char → Prop}
    (hpart : ∀ {x s rest}, part x s rest → rest.length < s.length) {xs : List α} {s rest : List Char}
    (h : Parts bracket part xs s rest) : xs.length + rest.length < s.length := by
  induction h with
  | last hfirst hend =>
    obtain ⟨u, hspace, hfirst⟩ := hfirst
    have hlengths := And.intro hspace.length_le (And.intro (hpart hfirst) hend.length_le)
    simp only [List.length_cons, List.length_nil] at hlengths ⊢
    omega
  | more hfirst hcomma h ih =>
    obtain ⟨u, hspace, hfirst⟩ := hfirst
    have hlengths := And.intro hspace.length_le (And.intro (hpart hfirst) hcomma.length_le)
    simp only [List.length_cons] at hlengths ⊢
    omega

theorem Enclosed.length_lt {α : Type} {bracket : Bracket} {part : α → List Char → List Char → Prop}
    (hpart : ∀ {x s rest}, part x s rest → rest.length < s.length) {xs : List α} {s rest : List Char}
    (h : Enclosed bracket part xs s rest) : rest.length < s.length := by
  cases h with
  | empty h =>
    have hspace := h.length_le
    simp only [List.length_cons] at hspace ⊢
    omega
  | parts h =>
    have hparts := h.length_add_lt hpart
    rw [List.length_cons]
    omega

theorem nextItem_of_closing {s rest : List Char} (h : Spaces s (']' :: rest)) (first : Bool) :
    nextItem first s = .ok (false, ']' :: rest) := by
  simp [nextItem, h.skipSpace_cons rfl]

theorem nextItem_of_item {first : Bool} {s t u : List Char} {c : Char} (hresumes : Resumes first s t)
    (hspace : Spaces t (c :: u)) (hc : isSpace c = false) (hclosing : c ≠ ']') :
    nextItem first s = .ok (true, c :: u) := by
  cases hresumes with
  | first => simp [nextItem, hspace.skipSpace_cons hc]
  | later h => simp [nextItem, h.skipSpace_cons rfl, hspace.skipSpace_cons hc, hclosing]

theorem nextKey_of_closing {s rest : List Char} (h : Spaces s ('}' :: rest)) (first : Bool) :
    nextKey first s = .ok (false, '}' :: rest) := by
  simp [nextKey, h.skipSpace_cons rfl]

theorem nextKey_of_key {first : Bool} {s t u : List Char} (hresumes : Resumes first s t)
    (hspace : Spaces t ('"' :: u)) : nextKey first s = .ok (true, u) := by
  cases hresumes with
  | first => simp [nextKey, hspace.skipSpace_cons rfl]
  | later h => simp [nextKey, h.skipSpace_cons rfl, hspace.skipSpace_cons rfl]

/-! ## Lists -/

section Lists

variable {α : Type} {item : α → List Char → List Char → Prop}
  {read : List Char → Reading (α × List Char)}
  (hstart : ∀ {x s rest}, item x s rest → ∃ c t, s = c :: t ∧ isSpace c = false ∧ c ≠ ']')
  (hlength : ∀ {x s rest}, item x s rest → rest.length < s.length)
  (hread : ∀ {x s rest}, item x s rest → Ends rest → read s = .ok (x, rest))

include hstart hread

/-- An item that is written is read, and the items after it are what is left. -/
theorem readItems_succ {x : α} {s t u : List Char} {first : Bool} (hresumes : Resumes first s t)
    (hitem : Spaced (item x) t u) (hends : Ends u) (fuel : Nat) :
    readItems read (fuel + 1) first s =
      (readItems read fuel false u).map fun (items, rest) => (x :: items, rest) := by
  obtain ⟨v, hspace, hitem⟩ := hitem
  obtain ⟨c, w, rfl, hc, hclosing⟩ := hstart hitem
  rw [readItems, nextItem_of_item hresumes hspace hc hclosing]
  simp only [bind, Except.bind, if_true, hread hitem hends]
  cases readItems read fuel false u <;> rfl

omit hstart hread in
theorem readItems_closing {s rest : List Char} (h : Spaces s (']' :: rest)) (first : Bool) (fuel : Nat) :
    readItems read (fuel + 1) first s = .ok ([], ']' :: rest) := by
  rw [readItems, nextItem_of_closing h]
  rfl

theorem readItems_eq {items : List α} {t rest : List Char} (h : Parts .list item items t rest)
    {fuel : Nat} (hfuel : items.length < fuel) {first : Bool} {s : List Char}
    (hresumes : Resumes first s t) :
    readItems read fuel first s = .ok (items, ']' :: rest) := by
  induction h generalizing fuel first s with
  | last hitem hend =>
    obtain ⟨fuel, rfl⟩ := Nat.exists_eq_add_of_le' (show 2 ≤ fuel from hfuel)
    rw [readItems_succ hstart hread hresumes hitem (hend.ends (.inr (.inl rfl))),
      readItems_closing hend]
    rfl
  | @more x xs s t u rest hitem hcomma h ih =>
    obtain ⟨fuel, rfl⟩ := Nat.exists_eq_succ_of_ne_zero (Nat.ne_zero_of_lt hfuel)
    rw [readItems_succ hstart hread hresumes hitem (hcomma.ends (.inl rfl)),
      ih (Nat.lt_of_succ_lt_succ hfuel) (.later hcomma)]
    rfl

include hlength

/-- A list that is written is read. -/
theorem readList_eq {items : List α} {s t rest : List Char} (hspace : Spaces s t)
    (h : Enclosed .list item items t rest) : readList read s = .ok (items, rest) := by
  have hnext {u : List Char} (hs : Spaces s ('[' :: u)) : nextValue s = .ok ('[' :: u) := by
    rw [nextValue, hs.skipSpace_cons rfl]
  have hend : endList (']' :: rest) = .ok rest := rfl
  cases h with
  | empty h =>
    rw [readList, hnext hspace]
    simp only [bind, Except.bind, readItems_closing h, hend]
    rfl
  | @parts _ u _ h =>
    have hparts := h.length_add_lt hlength
    have hfuel : items.length < u.length + 1 := by omega
    have hitems := readItems_eq hstart hread h hfuel .first
    rw [readList, hnext hspace]
    simp only [bind, Except.bind, hitems, hend]
    rfl

end Lists

/-! ## Values -/

/-- A string that stands for `value`. -/
def StringText (value : String) (s rest : List Char) : Prop :=
  ∃ t, s = '"' :: t ∧ Spells value.toList t rest

/-- A number: the text of one that reads as `value` when it stands alone. -/
def NumberText (value : Float) (s rest : List Char) : Prop :=
  ∃ t, s = t ++ rest ∧ (Unsigned t ∨ ∃ u, t = '-' :: u ∧ Unsigned u) ∧
    readFloatValue t = .ok (value, [])

/-- A value, or `null` for none. -/
inductive OptionalText {α : Type} (text : α → List Char → List Char → Prop) :
    Option α → List Char → List Char → Prop
  | null {rest : List Char} : OptionalText text none ('n' :: 'u' :: 'l' :: 'l' :: rest) rest
  | some {x : α} {s rest : List Char} (h : text x s rest) : OptionalText text (some x) s rest

theorem StringText.readStringValue_eq {value : String} {s t rest : List Char} (hspace : Spaces s t)
    (h : StringText value t rest) : readStringValue s = .ok (value, rest) := by
  obtain ⟨u, rfl, h⟩ := h
  have hnext : nextValue s = .ok ('"' :: u) := by rw [nextValue, hspace.skipSpace_cons rfl]
  rw [readStringValue, hnext]
  simp only [bind, Except.bind, h.readString_eq, String.ofList_toList]

theorem StringText.exists_cons {value : String} {s rest : List Char} (h : StringText value s rest) :
    ∃ c t, s = c :: t ∧ isSpace c = false ∧ c ≠ 'n' := by
  obtain ⟨t, rfl, -⟩ := h
  exact ⟨'"', t, rfl, by decide⟩

theorem NumberText.exists_cons {value : Float} {s rest : List Char} (h : NumberText value s rest) :
    ∃ c t, s = c :: t ∧ isSpace c = false ∧ c ≠ ']' ∧ c ≠ 'n' := by
  obtain ⟨t, rfl, h | ⟨u, rfl, h⟩, -⟩ := h
  · obtain ⟨c, t, rfl, hc⟩ := h.exists_cons
    refine ⟨c, t ++ rest, rfl, isSpace_of_isDigit hc, ?_, ?_⟩ <;> rintro rfl <;> cases hc
  · exact ⟨'-', u ++ rest, rfl, by decide⟩

/-- A number from its sign or first digit on. -/
theorem readFloatValue_minus (s : List Char) :
    readFloatValue ('-' :: s) =
      (readNumber false s).map fun (found, rest) => (found.toFloat, rest) := by
  rw [readFloatValue, nextValue_cons rfl]
  simp only [bind, Except.bind]
  cases readNumber false s <;> rfl

theorem readFloatValue_digit {c : Char} (hc : c.isDigit) (s : List Char) :
    readFloatValue (c :: s) =
      (readNumber true (c :: s)).map fun (found, rest) => (found.toFloat, rest) := by
  -- this is what keeps the branch for a minus sign from being taken
  have hminus : c ≠ '-' := by
    rintro rfl
    cases hc
  rw [readFloatValue, nextValue_cons (isSpace_of_isDigit hc)]
  simp only [bind, Except.bind, hc, if_true]
  cases readNumber true (c :: s) <;> rfl

/-- A number is read as it would be alone, whatever it stands in. -/
theorem NumberText.readFloatValue_eq {value : Float} {s rest : List Char}
    (h : NumberText value s rest) (hends : Ends rest) : readFloatValue s = .ok (value, rest) := by
  have hlocal {positive : Bool} {t : List Char}
      (hvalue : (readNumber positive t).map (fun (found, rest) => (found.toFloat, rest)) =
        .ok (value, [])) :
      (readNumber positive (t ++ rest)).map (fun (found, rest) => (found.toFloat, rest)) =
        .ok (value, rest) := by
    cases hnumber : readNumber positive t with
    | error fault =>
      rw [hnumber] at hvalue
      cases hvalue
    | ok found =>
      rw [hnumber] at hvalue
      obtain ⟨hfloat, hrest⟩ := Prod.mk.inj (Except.ok.inj hvalue)
      rw [(readNumber_eq hnumber).2 hrest rest hends.stops]
      exact congrArg (fun x => Except.ok (x, rest)) hfloat
  obtain ⟨t, rfl, h | ⟨u, rfl, h⟩, hvalue⟩ := h
  · obtain ⟨c, t, rfl, hc⟩ := h.exists_cons
    rw [readFloatValue_digit hc] at hvalue
    rw [List.cons_append, readFloatValue_digit hc, ← List.cons_append]
    exact hlocal hvalue
  · rw [readFloatValue_minus] at hvalue
    rw [List.cons_append, readFloatValue_minus]
    exact hlocal hvalue

theorem NumberText.length_lt {value : Float} {s rest : List Char} (h : NumberText value s rest) :
    rest.length < s.length := by
  obtain ⟨t, rfl, h, -⟩ := h
  have hne : t ≠ [] := by
    rcases h with h | ⟨u, rfl, -⟩
    · obtain ⟨c, t, rfl, -⟩ := h.exists_cons
      exact List.cons_ne_nil c t
    · exact List.cons_ne_nil _ u
  have hlength := List.length_pos_iff.2 hne
  rw [List.length_append]
  omega

/-- A box: a list of numbers. -/
def BoxText : List Float → List Char → List Char → Prop :=
  Enclosed .list NumberText

theorem BoxText.readBox_eq {box : List Float} {s t rest : List Char} (hspace : Spaces s t)
    (h : BoxText box t rest) : readBox s = .ok (box, rest) :=
  readList_eq
    (fun h => by
      obtain ⟨c, t, hs, hc, hclosing, -⟩ := NumberText.exists_cons h
      exact ⟨c, t, hs, hc, hclosing⟩)
    NumberText.length_lt NumberText.readFloatValue_eq hspace h

theorem StringText.length_lt {value : String} {s rest : List Char} (h : StringText value s rest) :
    rest.length < s.length := by
  obtain ⟨t, rfl, h⟩ := h
  exact Nat.lt_succ_of_lt h.quoted.length_lt

theorem OptionalText.length_lt {α : Type} {text : α → List Char → List Char → Prop}
    (htext : ∀ {x s rest}, text x s rest → rest.length < s.length) {value : Option α}
    {s rest : List Char} (h : OptionalText text value s rest) : rest.length < s.length := by
  cases h with
  | null => simp only [List.length_cons]; omega
  | some h => exact htext h

theorem BoxText.exists_cons {box : List Float} {s rest : List Char} (h : BoxText box s rest) :
    ∃ c t, s = c :: t ∧ isSpace c = false ∧ c ≠ 'n' := by
  cases h <;> exact ⟨'[', _, rfl, by decide⟩

/-- A value or `null` is read, spaces before it or not. -/
theorem OptionalText.readOptional_eq {α : Type} {text : α → List Char → List Char → Prop}
    {read : List Char → Reading (α × List Char)}
    (hstart : ∀ {x s rest}, text x s rest → ∃ c t, s = c :: t ∧ isSpace c = false ∧ c ≠ 'n')
    (hread : ∀ {x s t rest}, Spaces s t → text x t rest → read s = .ok (x, rest))
    {value : Option α} {s t rest : List Char} (hspace : Spaces s t)
    (h : OptionalText text value t rest) : readOptional read s = .ok (value, rest) := by
  cases h with
  | null =>
    rw [readOptional, hspace.skipSpace_cons rfl]
    rfl
  | some h =>
    obtain ⟨c, u, rfl, hc, hnull⟩ := hstart h
    rw [readOptional, hspace.skipSpace_cons hc]
    split
    · next hword => exact absurd (List.cons.inj hword).1 hnull
    · rw [hread .none h]
      rfl

/-! ## Members -/

/-- The names that a member can have. -/
def Field.names : Field → List String
  | id => ["id"]
  | box => ["boundingBox", "bbox"]
  | colorName => ["colorName", "color"]

/-- A key stands for a member of a shape, or for none of them. -/
def IsKeyOf (key : String) : Option Field → Prop
  | some field => key ∈ field.names
  | none => ∀ field : Field, key ∉ field.names

theorem IsKeyOf.ofKey?_eq {key : String} {field : Option Field} (h : IsKeyOf key field) :
    Field.ofKey? key.toList = field := by
  rw [Field.ofKey?, String.ofList_toList]
  cases field with
  | some field =>
    cases field <;> simp only [IsKeyOf, Field.names, List.mem_cons, List.not_mem_nil, or_false] at h
    · simp [h]
    · rcases h with rfl | rfl <;> rfl
    · rcases h with rfl | rfl <;> rfl
  | none =>
    have hid := h .id
    have hbox := h .box
    have hcolor := h .colorName
    simp only [Field.names, List.mem_cons, List.not_mem_nil, or_false] at hid hbox hcolor
    simp [hid, hbox, hcolor]

/-- What a member of an object says about a shape. -/
inductive Entry where
  | id (value : String)
  | box (value : Option (List Float))
  | colorName (value : Option String)
  | unknown

/-- The member of a shape that is given. -/
def Entry.field? : Entry → Option Field
  | id _ => some .id
  | box _ => some .box
  | colorName _ => some .colorName
  | unknown => none

/-- The text of the value. Nothing is asked of the value of a member that is none of a shape. -/
def Entry.ValueText : Entry → List Char → List Char → Prop
  | id value => StringText value
  | box value => OptionalText BoxText value
  | colorName value => OptionalText StringText value
  | unknown => Piece.Text .value

/-- A key, a colon and a value. -/
inductive Member (key : String) (text : List Char → List Char → Prop) : List Char → List Char → Prop
  | of {s t u rest : List Char} (hkey : Spells key.toList s t) (hcolon : Spaces t (':' :: u))
      (hvalue : Spaced text u rest) : Member key text ('"' :: s) rest

/-- A member under one of its names. -/
def Entry.Text (entry : Entry) (s rest : List Char) : Prop :=
  ∃ key, IsKeyOf key entry.field? ∧ Member key entry.ValueText s rest

/-- Members put together are a shape: none is given twice, the identifier is given, and what is not
    given is not there. -/
structure Describes (entries : List Entry) (shape : DetectedShape) : Prop where
  once : (entries.filterMap Entry.field?).Nodup
  id : .id shape.id ∈ entries
  box : .box shape.box ∈ entries ∨ shape.box = none ∧ ∀ value, .box value ∉ entries
  colorName :
    .colorName shape.colorName ∈ entries ∨
      shape.colorName = none ∧ ∀ value, .colorName value ∉ entries

/-- An object that writes a shape. -/
def ShapeText (shape : DetectedShape) (s rest : List Char) : Prop :=
  ∃ entries, Describes entries shape ∧ Enclosed .object Entry.Text entries s rest

theorem nodup_fields_cons {entry : Entry} {entries : List Entry}
    (h : ((entry :: entries).filterMap Entry.field?).Nodup) :
    (∀ field, entry.field? = some field → ∀ other ∈ entries, other.field? ≠ some field) ∧
      (entries.filterMap Entry.field?).Nodup := by
  rw [List.filterMap_cons] at h
  cases hentry : entry.field? with
  | none =>
    rw [hentry] at h
    exact ⟨fun field hfield => absurd hfield (by simp), h⟩
  | some given =>
    simp only [hentry, List.nodup_cons, List.mem_filterMap, not_exists, not_and] at h
    refine ⟨fun field hfield => ?_, h.2⟩
    obtain rfl := Option.some.inj hfield
    exact h.1

namespace Fields

/-- The members read, with one more. -/
def put (fields : Fields) : Entry → Fields
  | .id value => { fields with id := some value }
  | .box value => { fields with box := some value }
  | .colorName value => { fields with colorName := some value }
  | .unknown => fields

/-- What has been read of a member. -/
def get? (fields : Fields) : Field → Option Entry
  | .id => fields.id.map .id
  | .box => fields.box.map .box
  | .colorName => fields.colorName.map .colorName

theorem isSome_get? (fields : Fields) (field : Field) : (fields.get? field).isSome = fields.has field := by
  cases field <;> exact Option.isSome_map

theorem get?_put (fields : Fields) (entry : Entry) (field : Field) :
    (fields.put entry).get? field =
      if entry.field? = some field then some entry else fields.get? field := by
  cases entry <;> cases field <;> rfl

theorem has_put (fields : Fields) (entry : Entry) (field : Field) :
    (fields.put entry).has field = (decide (entry.field? = some field) || fields.has field) := by
  rw [← isSome_get?, get?_put, ← isSome_get?]
  split <;> simp [*]

/-- A member that is given once is what has been read of it, and one that is not given is not changed. -/
theorem get?_foldl_put {entries : List Entry} (fields : Fields) (field : Field) :
    ((entries.filterMap Entry.field?).Nodup → ∀ entry ∈ entries, entry.field? = some field →
      (entries.foldl put fields).get? field = some entry) ∧
    ((∀ entry ∈ entries, entry.field? ≠ some field) →
      (entries.foldl put fields).get? field = fields.get? field) := by
  induction entries generalizing fields with
  | nil => exact ⟨fun _ _ h => absurd h List.not_mem_nil, fun _ => rfl⟩
  | cons first entries ih =>
    obtain ⟨hgiven, hmissing⟩ := ih (fields.put first)
    rw [List.foldl_cons]
    constructor
    · intro hnodup entry hentry hfield
      obtain ⟨honce, hnodup⟩ := nodup_fields_cons hnodup
      rcases List.mem_cons.1 hentry with rfl | hentry
      · rw [hmissing (honce field hfield), get?_put, if_pos hfield]
      · exact hgiven hnodup entry hentry hfield
    · intro hnone
      obtain ⟨hfirst, hentries⟩ := List.forall_mem_cons.1 hnone
      rw [hmissing hentries, get?_put, if_neg hfirst]

end Fields

/-- Members that describe a shape make it up once they are read. -/
theorem Describes.shape?_eq {entries : List Entry} {shape : DetectedShape}
    (h : Describes entries shape) : (entries.foldl Fields.put {}).shape? = some shape := by
  have hgiven {entry : Entry} {field : Field} (hentry : entry ∈ entries)
      (hfield : entry.field? = some field) :
      (entries.foldl Fields.put {}).get? field = some entry :=
    (Fields.get?_foldl_put {} field).1 h.once entry hentry hfield
  have hmissing {field : Field} (hnone : ∀ entry ∈ entries, entry.field? ≠ some field) :
      (entries.foldl Fields.put {}).get? field = none := by
    rw [(Fields.get?_foldl_put {} field).2 hnone]
    cases field <;> rfl
  generalize entries.foldl Fields.put {} = fields at hgiven hmissing
  have hid : fields.id = some shape.id := by
    obtain ⟨value, hvalue, heq⟩ := Option.map_eq_some_iff.1 (hgiven h.id rfl)
    rw [hvalue, Entry.id.inj heq]
  have hbox : fields.box.join = shape.box := by
    rcases h.box with hentry | ⟨hnone, hentries⟩
    · obtain ⟨value, hvalue, heq⟩ := Option.map_eq_some_iff.1 (hgiven hentry rfl)
      rw [hvalue, Entry.box.inj heq]
      rfl
    · have hread : fields.get? .box = none := hmissing fun entry hentry hfield => by
        cases entry with
        | box value => exact hentries value hentry
        | id | colorName | unknown => cases hfield
      rw [Option.map_eq_none_iff.1 hread, hnone]
      rfl
  have hcolorName : fields.colorName.join = shape.colorName := by
    rcases h.colorName with hentry | ⟨hnone, hentries⟩
    · obtain ⟨value, hvalue, heq⟩ := Option.map_eq_some_iff.1 (hgiven hentry rfl)
      rw [hvalue, Entry.colorName.inj heq]
      rfl
    · have hread : fields.get? .colorName = none := hmissing fun entry hentry hfield => by
        cases entry with
        | colorName value => exact hentries value hentry
        | id | box | unknown => cases hfield
      rw [Option.map_eq_none_iff.1 hread, hnone]
      rfl
  rw [Fields.shape?, hid, Option.map_some, hbox, hcolorName]

/-! ## Objects -/

theorem readColon_eq {s t : List Char} (h : Spaces s (':' :: t)) : readColon s = .ok t := by
  simp [readColon, h.skipSpace_cons rfl]

/-- The value of a member is read where it is written. -/
theorem Fields.readValue_eq (fields : Fields) {entry : Entry} {field : Field} {s rest : List Char}
    (hfield : entry.field? = some field) (h : Spaced entry.ValueText s rest) :
    fields.readValue field s = .ok (fields.put entry, rest) := by
  obtain ⟨t, hspace, h⟩ := h
  cases entry with
  | id value =>
    obtain rfl := Option.some.inj hfield
    simp only [readValue, StringText.readStringValue_eq hspace h, bind, Except.bind, put]
  | box value =>
    obtain rfl := Option.some.inj hfield
    have hread := OptionalText.readOptional_eq BoxText.exists_cons BoxText.readBox_eq hspace h
    simp only [readValue, hread, bind, Except.bind, put]
  | colorName value =>
    obtain rfl := Option.some.inj hfield
    have hread := OptionalText.readOptional_eq StringText.exists_cons StringText.readStringValue_eq hspace h
    simp only [readValue, hread, bind, Except.bind, put]
  | unknown => cases hfield

theorem skipValue_eq_of_spaced {s rest : List Char} (h : Spaced (Piece.Text .value) s rest)
    (hends : Ends rest) : skipValue s = .ok rest := by
  obtain ⟨t, hspace, h⟩ := h
  have hskips : SkipsTo t rest := h.skipped hends
  exact (hskips.of_skipSpace_eq hspace.skipSpace_eq).skipValue_eq

/-- A member that has not been read is read where it is written, and one that is none of a shape is
    skipped. -/
theorem Fields.readMember_eq (fields : Fields) {entry : Entry} {key : String} {s t rest : List Char}
    (hkey : IsKeyOf key entry.field?)
    (hnew : ∀ field, entry.field? = some field → fields.has field = false)
    (hcolon : Spaces s (':' :: t)) (h : Spaced entry.ValueText t rest) (hends : Ends rest) :
    fields.readMember key.toList s = .ok (fields.put entry, rest) := by
  rw [readMember, hkey.ofKey?_eq]
  cases hfield : entry.field? with
  | some field =>
    simp only [hnew field hfield, readColon_eq hcolon, bind, Except.bind]
    exact fields.readValue_eq hfield h
  | none =>
    obtain rfl : entry = .unknown := by cases entry <;> first | rfl | cases hfield
    simp only [readColon_eq hcolon, bind, Except.bind, skipValue_eq_of_spaced h hends]
    rfl

/-- Reading one member that is written, and then the others. -/
theorem readMembers_succ {fields : Fields} {entry : Entry} {s t u : List Char} {first : Bool}
    (hresumes : Resumes first s t) (h : Spaced entry.Text t u)
    (hnew : ∀ field, entry.field? = some field → fields.has field = false) (hends : Ends u)
    (fuel : Nat) :
    readMembers (fuel + 1) first fields s = readMembers fuel false (fields.put entry) u := by
  obtain ⟨v, hspace, key, hkey, ⟨hspells, hcolon, hvalue⟩⟩ := h
  rw [readMembers, nextKey_of_key hresumes hspace]
  simp only [bind, Except.bind, if_true, hspells.readString_eq,
    fields.readMember_eq hkey hnew hcolon hvalue hends]

theorem readMembers_closing {fields : Fields} {shape : DetectedShape} {s rest : List Char}
    (h : Spaces s ('}' :: rest)) (hshape : fields.shape? = some shape) (first : Bool) (fuel : Nat) :
    readMembers (fuel + 1) first fields s = .ok (shape, rest) := by
  rw [readMembers, nextKey_of_closing h]
  simp only [bind, Except.bind, hshape]
  rfl

theorem readMembers_eq {entries : List Entry} {t rest : List Char}
    (h : Parts .object Entry.Text entries t rest) {fields : Fields} {shape : DetectedShape}
    (honce : (entries.filterMap Entry.field?).Nodup)
    (hnew : ∀ entry ∈ entries, ∀ field, entry.field? = some field → fields.has field = false)
    (hshape : (entries.foldl Fields.put fields).shape? = some shape) {fuel : Nat}
    (hfuel : entries.length < fuel) {first : Bool} {s : List Char} (hresumes : Resumes first s t) :
    readMembers fuel first fields s = .ok (shape, rest) := by
  induction h generalizing fields fuel first s with
  | last hpart hend =>
    obtain ⟨fuel, rfl⟩ := Nat.exists_eq_add_of_le' (show 2 ≤ fuel from hfuel)
    rw [readMembers_succ hresumes hpart (hnew _ List.mem_cons_self) (hend.ends (.inr (.inr rfl)))]
    exact readMembers_closing hend hshape false fuel
  | @more entry entries s t u rest hpart hcomma h ih =>
    obtain ⟨fuel, rfl⟩ := Nat.exists_eq_succ_of_ne_zero (Nat.ne_zero_of_lt hfuel)
    rw [readMembers_succ hresumes hpart (hnew _ List.mem_cons_self) (hcomma.ends (.inl rfl))]
    obtain ⟨hdistinct, hmore⟩ := nodup_fields_cons honce
    refine ih hmore (fun other hother field hfield => ?_) hshape (Nat.lt_of_succ_lt_succ hfuel)
      (.later hcomma)
    rw [Fields.has_put, hnew other (List.mem_cons_of_mem _ hother) field hfield, Bool.or_false,
      decide_eq_false_iff_not]
    exact fun hentry => hdistinct field hentry other hother hfield

theorem Entry.ValueText.length_lt {entry : Entry} {s rest : List Char}
    (h : entry.ValueText s rest) : rest.length < s.length := by
  cases entry with
  | id value => exact StringText.length_lt h
  | box value => exact OptionalText.length_lt (Enclosed.length_lt NumberText.length_lt) h
  | colorName value => exact OptionalText.length_lt StringText.length_lt h
  | unknown => exact Piece.Text.length_lt h

theorem Entry.Text.length_lt {entry : Entry} {s rest : List Char} (h : entry.Text s rest) :
    rest.length < s.length := by
  obtain ⟨key, -, hkey, hcolon, u, hspace, hvalue⟩ := h
  have hlengths := And.intro hkey.quoted.length_lt (And.intro hcolon.length_le hspace.length_le)
  have hmore := hvalue.length_lt
  simp only [List.length_cons] at hlengths ⊢
  omega

/-- A shape that is written is read. -/
theorem ShapeText.readShape_eq {shape : DetectedShape} {s rest : List Char}
    (h : ShapeText shape s rest) : readShape s = .ok (shape, rest) := by
  obtain ⟨entries, hdescribes, h⟩ := h
  cases h with
  | empty h => cases hdescribes.id
  | @parts _ t _ h =>
    have hnext : nextValue ('{' :: t) = .ok ('{' :: t) := nextValue_cons rfl t
    have hparts := h.length_add_lt Entry.Text.length_lt
    have hfuel : entries.length < t.length + 1 := by omega
    have hnew (field : Field) : ({} : Fields).has field = false := by cases field <;> rfl
    have hread := readMembers_eq h hdescribes.once (fun _ _ field _ => hnew field)
      hdescribes.shape?_eq hfuel .first
    rw [readShape, Bracket.opening, hnext]
    exact hread

theorem ShapeText.exists_cons {shape : DetectedShape} {s rest : List Char}
    (h : ShapeText shape s rest) : ∃ c t, s = c :: t ∧ isSpace c = false ∧ c ≠ ']' := by
  obtain ⟨entries, -, h⟩ := h
  cases h <;> exact ⟨'{', _, rfl, by decide⟩

theorem ShapeText.length_lt {shape : DetectedShape} {s rest : List Char}
    (h : ShapeText shape s rest) : rest.length < s.length := by
  obtain ⟨entries, -, h⟩ := h
  exact h.length_lt Entry.Text.length_lt

/-- A text that writes a list of shapes and nothing else. -/
def ShapesText (shapes : List DetectedShape) (text : List Char) : Prop :=
  ∃ s t, Spaces text s ∧ Enclosed .list ShapeText shapes s t ∧ Spaces t []

theorem ShapesText.readShapes_eq {shapes : List DetectedShape} {text : List Char}
    (h : ShapesText shapes text) : readShapes (String.ofList text) = .ok shapes := by
  obtain ⟨s, t, hspace, h, hend⟩ := h
  have hread := readList_eq ShapeText.exists_cons ShapeText.length_lt
    (fun h _ => ShapeText.readShape_eq h) hspace h
  rw [readShapes, String.toList_ofList, hread]
  simp only [bind, Except.bind, hend.skipSpace_eq]
  rfl

/-! ## Members given twice -/

/-- An object in which a key stands for a member given before, whatever follows. -/
inductive RepeatsMember : List Char → Prop
  | of {field : Field} {key again : String} {s t u v w x rest : List Char} (hkey : key ∈ field.names)
      (hagain : again ∈ field.names) (hbefore : Leading (Piece.Text (.part .object)) s t)
      (hmember : Spaced (Member key (Piece.Text .value)) t u) (hcomma : Spaces u (',' :: v))
      (hbetween : Leading (Piece.Text (.part .object)) v w) (hspace : Spaces w ('"' :: x))
      (hspells : Spells again.toList x rest) : RepeatsMember ('{' :: s)

/-- A list in which such an object follows objects that write shapes. -/
def RepeatsMemberInList (text : List Char) : Prop :=
  ∃ s t u, Spaces text ('[' :: s) ∧ Leading (fun s t => ∃ shape, Spaced (ShapeText shape) s t) s t ∧
    Spaces t u ∧ RepeatsMember u

theorem Fields.of_readValue {fields more : Fields} {field : Field} {s rest : List Char}
    (h : fields.readValue field s = .ok (more, rest)) :
    SkipsTo s rest ∧ ∀ other, fields.has other ∨ other = field → more.has other := by
  cases field with
  | id =>
    obtain ⟨⟨value, t⟩, hvalue, h⟩ := bind_eq_ok_iff.1 h
    cases h
    refine ⟨skipsTo_of_readStringValue hvalue, fun other hother => ?_⟩
    cases other <;> simp_all [has]
  | box =>
    obtain ⟨⟨value, t⟩, hvalue, h⟩ := bind_eq_ok_iff.1 h
    cases h
    refine ⟨skipsTo_of_readOptional (skipsTo_of_readList skipsTo_of_readFloatValue) hvalue,
      fun other hother => ?_⟩
    cases other <;> simp_all [has]
  | colorName =>
    obtain ⟨⟨value, t⟩, hvalue, h⟩ := bind_eq_ok_iff.1 h
    cases h
    refine ⟨skipsTo_of_readOptional skipsTo_of_readStringValue hvalue, fun other hother => ?_⟩
    cases other <;> simp_all [has]

/-- Reading one member leaves what follows it, and the members read remain read. -/
theorem Fields.of_readMember {fields more : Fields} {key s t rest u : List Char}
    (h : fields.readMember key s = .ok (more, rest)) (hcolon : Spaces s (':' :: t))
    (hvalue : Spaced (Piece.Text .value) t u) (hends : Ends u) :
    rest = u ∧ ∀ field, fields.has field ∨ Field.ofKey? key = some field → more.has field := by
  have hskip := skipValue_eq_of_spaced hvalue hends
  rw [readMember] at h
  cases hkey : Field.ofKey? key with
  | some field =>
    simp only [hkey, readColon_eq hcolon] at h
    split at h
    · cases h
    · obtain ⟨hskips, hhas⟩ := of_readValue h
      refine ⟨Except.ok.inj (hskips.skipValue_eq.symm.trans hskip), fun other hother => hhas other ?_⟩
      exact hother.imp_right fun heq => (Option.some.inj heq).symm
  | none =>
    simp only [hkey, readColon_eq hcolon, hskip, bind, Except.bind] at h
    cases h
    exact ⟨rfl, fun field hfield => hfield.resolve_right (by simp)⟩

/-- If an object is read and it goes on with a member, then what follows the member is read too, with no
    fewer members read before. -/
theorem of_readMembers {fuel : Nat} {first : Bool} {fields : Fields}
    {s key colon t rest : List Char} {found : DetectedShape × List Char}
    (h : readMembers fuel first fields s = .ok found) (hresumes : Resumes first s t)
    (hspace : Spaces t ('"' :: key)) (hkey : Quoted key colon) {value : List Char}
    (hcolon : Spaces colon (':' :: value)) (hvalue : Spaced (Piece.Text .value) value rest)
    (hends : Ends rest) :
    ∃ more fuel' name, readMembers fuel' false more rest = .ok found ∧ Spells name key colon ∧
      ∀ field, fields.has field ∨ Field.ofKey? name = some field → more.has field := by
  cases fuel with
  | zero => cases h
  | succ fuel =>
    rw [readMembers, nextKey_of_key hresumes hspace] at h
    obtain ⟨_, hnext, h⟩ := bind_eq_ok_iff.1 h
    cases hnext
    simp only [if_true] at h
    obtain ⟨⟨name, u⟩, hname, h⟩ := bind_eq_ok_iff.1 h
    obtain ⟨⟨more, v⟩, hmember, h⟩ := bind_eq_ok_iff.1 h
    have hspells := readString_eq_ok_iff.1 hname
    obtain rfl : u = colon :=
      Except.ok.inj (hspells.quoted.skipString_eq.symm.trans hkey.skipString_eq)
    obtain ⟨rfl, hhas⟩ := Fields.of_readMember hmember hcolon hvalue hends
    exact ⟨more, fuel, name, h, hspells, hhas⟩

/-- The same for a member whatever its key is. -/
theorem of_readMembers_leading {s t : List Char} (h : Leading (Piece.Text (.part .object)) s t)
    {fuel : Nat} {first : Bool} {fields : Fields} {start : List Char} {found : DetectedShape × List Char}
    (hread : readMembers fuel first fields start = .ok found) (hresumes : Resumes first start s) :
    ∃ more fuel' first' start', readMembers fuel' first' more start' = .ok found ∧
      Resumes first' start' t ∧ ∀ field, fields.has field → more.has field := by
  induction h generalizing fuel first fields start with
  | none => exact ⟨fields, fuel, first, start, hread, hresumes, fun _ h => h⟩
  | more hpart hcomma h ih =>
    cases hpart with
    | member hspace hkey hcolon hmore hvalue =>
      obtain ⟨more, fuel', name, hread, -, hhas⟩ :=
        of_readMembers hread hresumes hspace hkey hcolon ⟨_, hmore, hvalue⟩ (hcomma.ends (.inl rfl))
      obtain ⟨last, fuel'', first', start', hread, hresumes, hlast⟩ := ih hread (.later hcomma)
      exact ⟨last, fuel'', first', start', hread, hresumes,
        fun field hfield => hlast field (hhas field (.inl hfield))⟩

theorem Spells.unique {value other s t rest : List Char} (h : Spells value s rest)
    (hother : Spells other s t) : value = other :=
  congrArg Prod.fst (Except.ok.inj (h.readString_eq.symm.trans hother.readString_eq))

theorem RepeatsMember.readShape_ne {s : List Char} (h : RepeatsMember s)
    (found : DetectedShape × List Char) : readShape s ≠ .ok found := by
  intro hread
  cases h with
  | @of field key again s t u v w x rest hkey hagain hbefore hmember hcomma hbetween hspace hspells =>
    replace hkey : IsKeyOf key (some field) := hkey
    replace hagain : IsKeyOf again (some field) := hagain
    rw [readShape, nextValue_cons rfl] at hread
    obtain ⟨_, hnext, hread⟩ := bind_eq_ok_iff.1 hread
    cases hnext
    obtain ⟨fields, fuel, first, start, hread, hresumes, -⟩ :=
      of_readMembers_leading hbefore hread .first
    obtain ⟨_, hfirst, ⟨hspelled, hcolon, hvalue⟩⟩ := hmember
    obtain ⟨fields, fuel, name, hread, hname, hhas⟩ :=
      of_readMembers hread hresumes hfirst hspelled.quoted hcolon hvalue (hcomma.ends (.inl rfl))
    obtain rfl := hspelled.unique hname
    have hfield := hhas field (.inr hkey.ofKey?_eq)
    obtain ⟨last, fuel, first, start, hread, hresumes, hlast⟩ :=
      of_readMembers_leading hbetween hread (.later hcomma)
    cases fuel with
    | zero => cases hread
    | succ fuel =>
      rw [readMembers, nextKey_of_key hresumes hspace] at hread
      obtain ⟨_, hnext, hread⟩ := bind_eq_ok_iff.1 hread
      cases hnext
      simp only [if_true] at hread
      rw [hspells.readString_eq] at hread
      obtain ⟨_, hnext, hread⟩ := bind_eq_ok_iff.1 hread
      cases hnext
      obtain ⟨_, hmember, -⟩ := bind_eq_ok_iff.1 hread
      rw [Fields.readMember, hagain.ofKey?_eq] at hmember
      simp only [hlast field hfield, if_true] at hmember
      cases hmember

/-- A list is not read if an item is not, whatever follows it. -/
theorem readItems_ne {α : Type} {item : α → List Char → List Char → Prop}
    {read : List Char → Reading (α × List Char)}
    (hstart : ∀ {x s rest}, item x s rest → ∃ c t, s = c :: t ∧ isSpace c = false ∧ c ≠ ']')
    (hread : ∀ {x s rest}, item x s rest → Ends rest → read s = .ok (x, rest)) {s t u : List Char}
    {c : Char} (h : Leading (fun s t => ∃ x, Spaced (item x) s t) s t) (hspace : Spaces t (c :: u))
    (hc : isSpace c = false) (hclosing : c ≠ ']') (hfail : ∀ found, read (c :: u) ≠ .ok found)
    (fuel : Nat) {first : Bool} {start : List Char} (hresumes : Resumes first start s)
    (found : List α × List Char) : readItems read fuel first start ≠ .ok found := by
  induction h generalizing fuel first start found with
  | none =>
    cases fuel with
    | zero =>
      intro h
      cases h
    | succ fuel =>
      intro h
      rw [readItems, nextItem_of_item hresumes hspace hc hclosing] at h
      obtain ⟨_, hnext, h⟩ := bind_eq_ok_iff.1 h
      cases hnext
      simp only [if_true] at h
      obtain ⟨item, hitem, -⟩ := bind_eq_ok_iff.1 h
      exact hfail item hitem
  | more hpart hcomma h ih =>
    obtain ⟨x, hpart⟩ := hpart
    cases fuel with
    | zero =>
      intro h
      cases h
    | succ fuel =>
      rw [readItems_succ hstart hread hresumes hpart (hcomma.ends (.inl rfl))]
      have hmore := ih hspace fuel (.later hcomma)
      cases hitems : readItems read fuel false _ with
      | error fault =>
        intro h
        cases h
      | ok items => exact absurd hitems (hmore items)

theorem RepeatsMemberInList.readShapes_ne {text : List Char} (h : RepeatsMemberInList text)
    (shapes : List DetectedShape) : readShapes (String.ofList text) ≠ .ok shapes := by
  obtain ⟨s, t, u, hstart, hleading, hspace, hrepeats⟩ := h
  have hfail := hrepeats.readShape_ne
  obtain ⟨c, v, rfl, hc, hclosing⟩ : ∃ c v, u = c :: v ∧ isSpace c = false ∧ c ≠ ']' := by
    cases hrepeats
    exact ⟨'{', _, rfl, by decide⟩
  have hnext : nextValue text = .ok ('[' :: s) := by rw [nextValue, hstart.skipSpace_cons rfl]
  intro hread
  rw [readShapes, String.toList_ofList] at hread
  obtain ⟨_, hlist, -⟩ := bind_eq_ok_iff.1 hread
  rw [readList, hnext] at hlist
  obtain ⟨_, hopening, hlist⟩ := bind_eq_ok_iff.1 hlist
  cases hopening
  obtain ⟨items, hitems, -⟩ := bind_eq_ok_iff.1 hlist
  exact readItems_ne ShapeText.exists_cons (fun h _ => ShapeText.readShape_eq h) hleading hspace hc
    hclosing hfail _ .first items hitems

/-! ## Plain texts -/

/-- Characters that need no escape. -/
def IsPlain (value : List Char) : Prop :=
  ∀ c ∈ value, c ≠ '"' ∧ c ≠ '\\' ∧ 0x20 ≤ c.toNat

instance (value : List Char) : Decidable (IsPlain value) :=
  List.decidableBAll (fun c => c ≠ '"' ∧ c ≠ '\\' ∧ 0x20 ≤ c.toNat) value

/-- Characters that need no escape spell themselves. -/
theorem IsPlain.spells {value : List Char} (h : IsPlain value) (rest : List Char) :
    Spells value (value ++ '"' :: rest) rest := by
  induction value with
  | nil => exact .close
  | cons c value ih =>
    obtain ⟨⟨hquote, hslash, hcontrol⟩, hmore⟩ := List.forall_mem_cons.1 h
    exact .plain hquote hslash hcontrol (ih hmore)

theorem IsPlain.stringText {value : List Char} (h : IsPlain value) (rest : List Char) :
    StringText (String.ofList value) ('"' :: (value ++ '"' :: rest)) rest :=
  ⟨_, rfl, by rw [String.toList_ofList]; exact h.spells rest⟩

/-- A member without spaces. -/
theorem IsPlain.member {key : List Char} (h : IsPlain key) {text : List Char → List Char → Prop}
    {s rest : List Char} (hvalue : text s rest) :
    Spaced (Member (String.ofList key) text) ('"' :: (key ++ '"' :: ':' :: s)) rest :=
  ⟨_, .none, .of (by rw [String.toList_ofList]; exact h.spells _) .none ⟨s, .none, hvalue⟩⟩

theorem IsPlain.entry {key : List Char} (h : IsPlain key) {entry : Entry}
    (hkey : IsKeyOf (String.ofList key) entry.field?) {s rest : List Char}
    (hvalue : entry.ValueText s rest) :
    Spaced entry.Text ('"' :: (key ++ '"' :: ':' :: s)) rest := by
  obtain ⟨t, hspace, hmember⟩ := h.member hvalue
  exact ⟨t, hspace, _, hkey, hmember⟩

/-! ## Reading a list -/

/-- Detected shapes are read whatever way they are written, and a list is rejected in which some object
    gives a member twice. -/
theorem readShapes_of_text (text : List Char) :
    (∀ shapes, ShapesText shapes text → readShapes (String.ofList text) = .ok shapes) ∧
      (RepeatsMemberInList text → ∃ fault, readShapes (String.ofList text) = .error fault) := by
  refine ⟨fun shapes h => h.readShapes_eq, fun h => ?_⟩
  cases hread : readShapes (String.ofList text) with
  | error fault => exact ⟨fault, rfl⟩
  | ok shapes => exact absurd hread (h.readShapes_ne shapes)

/-- The first shape has a member of no meaning and its box under the other name, the second has spaces
    before it and no color; and a box is given under both names. -/
theorem readShapes_of_text_twice :
    readShapes "[\x7b\"x\":[true],\"bbox\":[1],\"id\":\"A\"\x7d, \x7b\"color\":null,\"id\":\"B\"\x7d]" =
        .ok [⟨"A", some [(Nat.toUInt64 1).toFloat], none⟩, ⟨"B", none, none⟩] ∧
      ∃ fault, readShapes "[\x7b\"id\":\"A\"\x7d,\x7b\"bbox\":null,\"x\":[true],\"boundingBox\":[1]\x7d]" =
        .error fault := by
  have htrue (rest : List Char) : Piece.Text .value ('t' :: 'r' :: 'u' :: 'e' :: rest) rest :=
    @Piece.Text.word ['t', 'r', 'u', 'e'] rest (.inr (.inl rfl))
  have hnull (rest : List Char) : Piece.Text .value ('n' :: 'u' :: 'l' :: 'l' :: rest) rest :=
    @Piece.Text.word ['n', 'u', 'l', 'l'] rest (.inl rfl)
  have hlist (rest : List Char) : Piece.Text .value ('[' :: 't' :: 'r' :: 'u' :: 'e' :: ']' :: rest) rest :=
    @Piece.Text.full .list _ _ (.last (.item .none (htrue _)) .none)
  have hone (rest : List Char) : NumberText (Nat.toUInt64 1).toFloat ('1' :: rest) rest :=
    ⟨['1'], rfl, .inl (@Unsigned.of ['1'] _ _ (.digits ⟨by simp, by simp⟩ (by decide)) .none .none), rfl⟩
  have hunknown (rest : List Char) : Spaced (Entry.Text .unknown) _ rest :=
    (show IsPlain ['x'] by decide).entry (by intro field; cases field <;> decide) (hlist rest)
  have hbox (rest : List Char) : Spaced (Entry.Text (.box (some [(Nat.toUInt64 1).toFloat]))) _ rest :=
    (show IsPlain ['b', 'b', 'o', 'x'] by decide).entry
      (by simp [IsKeyOf, Entry.field?, Field.names])
      (.some (.parts (.last ⟨_, .none, hone _⟩ .none)))
  have hcolor (rest : List Char) : Spaced (Entry.Text (.colorName none)) _ rest :=
    (show IsPlain ['c', 'o', 'l', 'o', 'r'] by decide).entry
      (by simp [IsKeyOf, Entry.field?, Field.names]) .null
  have hid (name : Char) (hname : IsPlain [name]) (rest : List Char) :
      Spaced (Entry.Text (.id (String.ofList [name]))) _ rest :=
    (show IsPlain ['i', 'd'] by decide).entry (by simp [IsKeyOf, Entry.field?, Field.names])
      (hname.stringText rest)
  have hfirst (rest : List Char) : ShapeText ⟨"A", some [(Nat.toUInt64 1).toFloat], none⟩ _ rest :=
    ⟨[.unknown, .box (some [(Nat.toUInt64 1).toFloat]), .id (String.ofList ['A'])],
      ⟨by decide, by simp, .inl (by simp), .inr ⟨rfl, by simp⟩⟩,
      .parts (.more (hunknown _) .none (.more (hbox _) .none (.last (hid 'A' (by decide) _) .none)))⟩
  have hsecond (rest : List Char) : ShapeText ⟨"B", none, none⟩ _ rest :=
    ⟨[.colorName none, .id (String.ofList ['B'])],
      ⟨by decide, by simp, .inr ⟨rfl, by simp⟩, .inl (by simp)⟩,
      .parts (.more (hcolor _) .none (.last (hid 'B' (by decide) _) .none))⟩
  have hbare (rest : List Char) : ShapeText ⟨"A", none, none⟩ _ rest :=
    ⟨[.id (String.ofList ['A'])], ⟨by decide, by simp, .inr ⟨rfl, by simp⟩, .inr ⟨rfl, by simp⟩⟩,
      .parts (.last (hid 'A' (by decide) _) .none)⟩
  constructor
  · refine (readShapes_of_text _).1 _ ⟨_, [], .none, .parts ?_, .none⟩
    exact .more ⟨_, .none, hfirst _⟩ .none (.last ⟨_, .more rfl .none, hsecond _⟩ .none)
  · refine (readShapes_of_text _).2
      ⟨_, _, _, .none, .more ⟨_, _, .none, hbare _⟩ .none .none, .none, ?_⟩
    have hunknown := (show IsPlain ['x'] by decide).spells
    have hagain := (show IsPlain ['b', 'o', 'u', 'n', 'd', 'i', 'n', 'g', 'B', 'o', 'x'] by decide).spells
    exact @RepeatsMember.of .box "bbox" "boundingBox" _ _ _ _ _ _ _ (by decide) (by decide) .none
      ((show IsPlain ['b', 'b', 'o', 'x'] by decide).member (hnull _)) .none
      (.more (.member .none (hunknown _).quoted .none .none (hlist _)) .none .none) .none
      (hagain [':', '[', '1', ']', '}', ']'])

end Flowchart.Json
