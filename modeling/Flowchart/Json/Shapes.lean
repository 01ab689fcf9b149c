-- SUMMARY: Reading a list of detected shapes from JSON.
import Flowchart.Json.Reader
import Flowchart.Placement

/-!
# Detected shapes in JSON

The text is a list of shapes. A shape is an object with the members `id`, `boundingBox` or `bbox`,
and `colorName` or `color`, in any order and among others that are skipped, or a list of these three
values. Only the identifier must be given; `null` stands for a value that is not.
-/

namespace Flowchart.Json

/-! ## Values -/

/-- A string, wherever one must stand. -/
def readStringValue (s : List Char) : Reading (String × List Char) := do
  match ← nextValue s with
  | '"' :: rest =>
    let (value, rest) ← readString rest
    .ok (String.ofList value, rest)
  | text => rejectValue "a string" text

/-- A number, wherever one must stand. -/
def readFloatValue (s : List Char) : Reading (Float × List Char) := do
  match ← nextValue s with
  | '-' :: rest =>
    let (value, rest) ← readNumber false rest
    .ok (value.toFloat, rest)
  | c :: rest =>
    if c.isDigit then
      let (value, rest) ← readNumber true (c :: rest)
      .ok (value.toFloat, rest)
    else rejectValue "f64" (c :: rest)
  | [] => rejectValue "f64" []

/-- A value or `null`. -/
def readOptional {α : Type} (read : List Char → Reading (α × List Char)) (s : List Char) :
    Reading (Option α × List Char) := do
  match skipSpace s with
  | 'n' :: rest => return (none, ← readWord ['u', 'l', 'l'] rest)
  | text =>
    let (value, rest) ← read text
    .ok (some value, rest)

/-- The items of a list up to its closing bracket, `fuel` bounding their number. -/
def readItems {α : Type} (read : List Char → Reading (α × List Char)) :
    Nat → Bool → List Char → Reading (List α × List Char)
  | 0, _, s => malformedAt .endInList s
  | fuel + 1, first, s => do
    let (more, rest) ← nextItem first s
    if more then
      let (item, rest) ← read rest
      let (items, rest) ← readItems read fuel false rest
      .ok (item :: items, rest)
    else .ok ([], rest)

/-- A list, wherever one must stand. -/
def readList {α : Type} (read : List Char → Reading (α × List Char)) (s : List Char) :
    Reading (List α × List Char) := do
  match ← nextValue s with
  | '[' :: rest =>
    let (items, rest) ← readItems read (rest.length + 1) true rest
    return (items, ← endList rest)
  | text => rejectValue "a sequence" text

/-- A bounding box. -/
def readBox (s : List Char) : Reading (List Float × List Char) :=
  readList readFloatValue s

/-! ## Shapes -/

/-- The members of a shape. -/
inductive Field where
  | id
  | box
  | colorName
  deriving DecidableEq, Repr

/-- The main name of a member. -/
def Field.name : Field → String
  | id => "id"
  | box => "boundingBox"
  | colorName => "colorName"

/-- The member that a key stands for, if it is one of a shape. -/
def Field.ofKey? (key : List Char) : Option Field :=
  let key := String.ofList key
  if key = "id" then some .id
  else if key = "boundingBox" ∨ key = "bbox" then some .box
  else if key = "colorName" ∨ key = "color" then some .colorName
  else none

/-- The members of a shape that have been read. -/
structure Fields where
  id : Option String := none
  box : Option (Option (List Float)) := none
  colorName : Option (Option String) := none

/-- A member has been read already. -/
def Fields.has (fields : Fields) : Field → Bool
  | .id => fields.id.isSome
  | .box => fields.box.isSome
  | .colorName => fields.colorName.isSome

/-- The shape that the members make up, if there is an identifier. -/
def Fields.shape? (fields : Fields) : Option DetectedShape :=
  fields.id.map (⟨·, fields.box.join, fields.colorName.join⟩)

/-- The value of a member, put to the members read before. -/
def Fields.readValue (fields : Fields) (field : Field) (s : List Char) :
    Reading (Fields × List Char) := do
  match field with
  | .id =>
    let (value, rest) ← readStringValue s
    .ok ({ fields with id := some value }, rest)
  | .box =>
    let (value, rest) ← readOptional readBox s
    .ok ({ fields with box := some value }, rest)
  | .colorName =>
    let (value, rest) ← readOptional readStringValue s
    .ok ({ fields with colorName := some value }, rest)

/-- What follows a key: a value to keep or to skip. A second value for a member is an error. -/
def Fields.readMember (fields : Fields) (key : List Char) (s : List Char) :
    Reading (Fields × List Char) := do
  match Field.ofKey? key with
  | some field =>
    if fields.has field then
      failAt (.mismatch (.duplicateField field.name)) (pastObjectEnd s)
    else fields.readValue field (← readColon s)
  | none => return (fields, ← skipValue (← readColon s))

/-- The members of a shape and the bracket after them, `fuel` bounding their number. -/
def readMembers : Nat → Bool → Fields → List Char → Reading (DetectedShape × List Char)
  | 0, _, _, s => malformedAt .endInObject s
  | fuel + 1, first, fields, s => do
    let (more, rest) ← nextKey first s
    if more then
      let (key, rest) ← readString rest
      let (fields, rest) ← fields.readMember key rest
      readMembers fuel false fields rest
    else
      let past := pastObjectEnd rest
      match fields.shape? with
      | some shape => .ok (shape, past)
      | none => failAt (.mismatch (.missingField Field.id.name)) past

/-- An item of a list that may have ended. -/
def readNextItem {α : Type} (read : List Char → Reading (Option α × List Char)) (s : List Char) :
    Reading (Option α × List Char) := do
  let (more, rest) ← nextItem false s
  if more then read rest else .ok (none, rest)

/-- The three values of a shape and the bracket after them. The last two may be left out. -/
def readShapeItems (s : List Char) : Reading (DetectedShape × List Char) := do
  let (more, rest) ← nextItem true s
  if more then
    let (id, rest) ← readStringValue rest
    let (box, rest) ← readNextItem (readOptional readBox) rest
    let (colorName, rest) ← readNextItem (readOptional readStringValue) rest
    return (⟨id, box, colorName⟩, ← endList rest)
  else
    failAt (.mismatch (.tooShort 0 "struct DetectedShape with 3 elements")) (pastListEnd rest)

/-- A shape, wherever one must stand. -/
def readShape (s : List Char) : Reading (DetectedShape × List Char) := do
  match ← nextValue s with
  | '{' :: rest => readMembers (rest.length + 1) true {} rest
  | '[' :: rest => readShapeItems rest
  | text => rejectValue "struct DetectedShape" text

/-- A text that is a list of shapes and nothing else. -/
def readShapes (text : String) : Except Fault (List DetectedShape) := do
  let (shapes, rest) ← readList readShape text.toList
  match skipSpace rest with
  | [] => .ok shapes
  | rest => malformedOn .trailingCharacters rest

end Flowchart.Json
