-- SUMMARY: What can be wrong with a JSON text, and where.
import Flowchart.Text.Visible
import Flowchart.Json.Number

/-!
# Faults

A JSON text is rejected either because it is malformed or because a value in it is not what is asked
for. A fault knows how many bytes of the text are left where it was found; line and column follow
from that. Columns are counted in bytes.
-/

namespace Flowchart.Json

/-! ## Malformed text -/

inductive Malformed where
  | endInList
  | endInObject
  | endInString
  | endInValue
  | expectedColon
  | expectedListCommaOrEnd
  | expectedObjectCommaOrEnd
  | expectedWord
  | expectedValue
  | invalidEscape
  | invalidNumber
  | numberOutOfRange
  | controlCharacter
  | keyNotString
  | loneSurrogate
  | trailingComma
  | trailingCharacters
  | unfinishedSurrogate
  deriving DecidableEq, Repr

def Malformed.message : Malformed → String
  | endInList => "EOF while parsing a list"
  | endInObject => "EOF while parsing an object"
  | endInString => "EOF while parsing a string"
  | endInValue => "EOF while parsing a value"
  | expectedColon => "expected `:`"
  | expectedListCommaOrEnd => "expected `,` or `]`"
  | expectedObjectCommaOrEnd => "expected `,` or `\x7d`"
  | expectedWord => "expected ident"
  | expectedValue => "expected value"
  | invalidEscape => "invalid escape"
  | invalidNumber => "invalid number"
  | numberOutOfRange => "number out of range"
  | controlCharacter => "control character (\\u0000-\\u001F) found while parsing a string"
  | keyNotString => "key must be a string"
  | loneSurrogate => "lone leading surrogate in hex escape"
  | trailingComma => "trailing comma"
  | trailingCharacters => "trailing characters"
  | unfinishedSurrogate => "unexpected end of hex escape"

/-! ## Values that do not fit -/

/-- A number as it was read: integers that fit into 64 bits are kept as such. -/
inductive Number where
  | natural (value : Nat)
  | negative (magnitude : Nat)
  | real (value : Float)

def Number.toFloat : Number → Float
  | natural value => value.toUInt64.toFloat
  | negative magnitude => -magnitude.toUInt64.toFloat
  | real value => value

/-- A value found where another one is asked for. -/
inductive Found where
  | null
  | boolean (value : Bool)
  | number (value : Number)
  | string (value : List Char)
  | list
  | object

def Found.describe : Found → List Char
  | null => "null".toList
  | boolean value => "boolean `".toList ++ (toString value).toList ++ "`".toList
  | number (.natural value) => "integer `".toList ++ Nat.toDigits 10 value ++ "`".toList
  | number (.negative magnitude) => "integer `-".toList ++ Nat.toDigits 10 magnitude ++ "`".toList
  | number (.real value) =>
    "floating point `".toList ++ (numberText? value).getD "null".toList ++ "`".toList
  | string value => "string ".toList ++ Text.showQuoted value
  | list => "sequence".toList
  | object => "map".toList

/-- A well-formed value that is not what is asked for. -/
inductive Mismatch where
  | wrongType (found : Found) (expected : String)
  | missingField (name : String)
  | duplicateField (name : String)
  | tooShort (length : Nat) (expected : String)

def Mismatch.message : Mismatch → String
  | wrongType found expected =>
    "invalid type: " ++ String.ofList found.describe ++ ", expected " ++ expected
  | missingField name => "missing field `" ++ name ++ "`"
  | duplicateField name => "duplicate field `" ++ name ++ "`"
  | tooShort length expected => "invalid length " ++ toString length ++ ", expected " ++ expected

/-! ## Faults -/

inductive Cause where
  | malformed (what : Malformed)
  | mismatch (what : Mismatch)

def Cause.message : Cause → String
  | malformed what => what.message
  | mismatch what => what.message

/-- Why a text is rejected, and the number of its bytes from there on. -/
structure Fault where
  cause : Cause
  left : Nat

/-- The bytes of a text in UTF-8. -/
def bytes (s : List Char) : List UInt8 :=
  s.flatMap String.utf8EncodeChar

/-- The line and the column that so many bytes lead up to. -/
def lineAndColumn (before : List UInt8) : Nat × Nat :=
  (before.count 10 + 1, (before.reverse.takeWhile (· != 10)).length)

/-- A fault with its place in the text. -/
def Fault.describe (fault : Fault) (text : List Char) : String :=
  let all := bytes text
  let (line, column) := lineAndColumn (all.take (all.length - fault.left))
  fault.cause.message ++ " at line " ++ toString line ++ " column " ++ toString column

end Flowchart.Json
