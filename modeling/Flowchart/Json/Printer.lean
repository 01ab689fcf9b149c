-- SUMMARY: JSON values and their indented text.
import Flowchart.Json.Number

/-!
# JSON output

The text of a value has one member or item a line, two spaces deeper than what it belongs to. Empty
arrays and objects stay on one line.
-/

namespace Flowchart

/-- A JSON value. The members of an object keep their order. -/
inductive Json where
  | null
  | number (value : Float)
  | string (value : String)
  | array (items : List Json)
  | object (members : List (String × Json))

namespace Json

/-- A character inside a quoted string. Only quotes, backslashes and characters below U+0020 are
    escaped. -/
def escapeChar (c : Char) : List Char :=
  match c with
  | '"' => ['\\', '"']
  | '\\' => ['\\', '\\']
  | '\n' => ['\\', 'n']
  | '\r' => ['\\', 'r']
  | '\t' => ['\\', 't']
  | '\x08' => ['\\', 'b']
  | '\x0c' => ['\\', 'f']
  | c =>
    if c.toNat < 0x20 then
      ['\\', 'u', '0', '0', Nat.digitChar (c.toNat / 16), Nat.digitChar (c.toNat % 16)]
    else [c]

/-- A string in quotes. -/
def quote (s : String) : List Char :=
  '"' :: s.toList.flatMap escapeChar ++ ['"']

/-- The start of a new line, `depth` levels in. -/
def newLine (depth : Nat) : List Char :=
  '\n' :: List.replicate (2 * depth) ' '

mutual

/-- The text of a value that stands `depth` levels in. -/
def render (depth : Nat) : Json → List Char
  | .null => ['n', 'u', 'l', 'l']
  | .number value => (numberText? value).getD ['n', 'u', 'l', 'l']
  | .string value => quote value
  | .array [] => ['[', ']']
  | .array (item :: items) =>
    '[' :: newLine (depth + 1) ++ render (depth + 1) item ++ renderItems (depth + 1) items ++
      newLine depth ++ [']']
  | .object [] => ['{', '}']
  | .object ((name, value) :: members) =>
    '{' :: newLine (depth + 1) ++ quote name ++ ':' :: ' ' :: render (depth + 1) value ++
      renderMembers (depth + 1) members ++ newLine depth ++ ['}']

/-- The items of an array after the first. -/
def renderItems (depth : Nat) : List Json → List Char
  | [] => []
  | item :: items => ',' :: newLine depth ++ render depth item ++ renderItems depth items

/-- The members of an object after the first. -/
def renderMembers (depth : Nat) : List (String × Json) → List Char
  | [] => []
  | (name, value) :: members =>
    ',' :: newLine depth ++ quote name ++ ':' :: ' ' :: render depth value ++
      renderMembers depth members

end

/-- The indented text of a value. -/
def pretty (value : Json) : String :=
  String.ofList (render 0 value)

end Json

end Flowchart
