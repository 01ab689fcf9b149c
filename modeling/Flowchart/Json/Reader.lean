-- SUMMARY: Reading JSON text from left to right: strings, numbers, separators and skipped values.
import Flowchart.Json.Fault

/-!
# Reading JSON

A reader takes the text that is left and gives a value and what is left after it, or the first fault
met. Typed readers are built on these: they look at the next character, so that a value of a wrong
type is found before any fault that comes after it.
-/

namespace Flowchart.Json

/-- The outcome of reading. A reader of a value also gives the text left after it. -/
abbrev Reading := Except Fault

/-- A fault before `rest`. -/
def failAt {α : Type} (cause : Cause) (rest : List Char) : Reading α :=
  .error ⟨cause, (bytes rest).length⟩

/-- Malformed text before `rest`. -/
def malformedAt {α : Type} (what : Malformed) (rest : List Char) : Reading α :=
  failAt (.malformed what) rest

/-- Malformed text at the first byte of `rest`, which counts as read. -/
def malformedOn {α : Type} (what : Malformed) (rest : List Char) : Reading α :=
  .error ⟨.malformed what, (bytes rest).length - 1⟩

/-- JSON knows four space characters. -/
def isSpace (c : Char) : Bool :=
  c == ' ' || c == '\n' || c == '\t' || c == '\r'

def skipSpace (s : List Char) : List Char :=
  s.dropWhile isSpace

/-! ## Words -/

/-- The rest of a word whose first letter has been read. -/
def readWord : List Char → List Char → Reading (List Char)
  | [], s => .ok s
  | _ :: _, [] => malformedAt .endInValue []
  | letter :: word, c :: rest =>
    if c = letter then readWord word rest else malformedOn .expectedWord (c :: rest)

/-! ## Strings -/

/-- The value of a hexadecimal digit, in either case. -/
def hexDigit? (c : Char) : Option Nat :=
  if '0' ≤ c ∧ c ≤ '9' then some (c.toNat - '0'.toNat)
  else if 'a' ≤ c ∧ c ≤ 'f' then some (c.toNat - 'a'.toNat + 10)
  else if 'A' ≤ c ∧ c ≤ 'F' then some (c.toNat - 'A'.toNat + 10)
  else none

/-- The number that four hexadecimal digits stand for. -/
def hexUnit? : List Char → Option (Nat × List Char)
  | a :: b :: c :: d :: rest => do
    let a ← hexDigit? a
    let b ← hexDigit? b
    let c ← hexDigit? c
    let d ← hexDigit? d
    some (((a * 16 + b) * 16 + c) * 16 + d, rest)
  | _ => none

/-- Four hexadecimal digits. If they are not, the four bytes count as read. -/
def readHexUnit (s : List Char) : Reading (Nat × List Char) :=
  if (bytes (s.take 4)).length < 4 then malformedAt .endInString []
  else
    match hexUnit? s with
    | some found => .ok found
    | none => .error ⟨.malformed .invalidEscape, (bytes s).length - 4⟩

/-- The first unit of a surrogate pair. -/
def isHighSurrogate (unit : Nat) : Bool :=
  0xD800 ≤ unit && unit ≤ 0xDBFF

/-- The second unit of a surrogate pair. -/
def isLowSurrogate (unit : Nat) : Bool :=
  0xDC00 ≤ unit && unit ≤ 0xDFFF

/-- The character after `\u`. One beyond U+FFFF is written as a surrogate pair, of two escapes. -/
def readEscapedUnit (s : List Char) : Reading (Char × List Char) := do
  let (unit, rest) ← readHexUnit s
  if isLowSurrogate unit then malformedAt .loneSurrogate rest
  else if isHighSurrogate unit then
    match rest with
    | '\\' :: 'u' :: rest =>
      let (low, rest) ← readHexUnit rest
      if isLowSurrogate low then
        .ok (Char.ofNat (0x10000 + (unit - 0xD800) * 0x400 + (low - 0xDC00)), rest)
      else malformedAt .loneSurrogate rest
    | [] | ['\\'] => malformedAt .endInString []
    | '\\' :: rest => malformedOn .unfinishedSurrogate rest
    | rest => malformedOn .unfinishedSurrogate rest
  else .ok (Char.ofNat unit, rest)

/-- The character that a one-letter escape stands for. -/
def simpleEscape? : Char → Option Char
  | '"' => some '"'
  | '\\' => some '\\'
  | '/' => some '/'
  | 'b' => some '\x08'
  | 'f' => some '\x0c'
  | 'n' => some '\n'
  | 'r' => some '\r'
  | 't' => some '\t'
  | _ => none

/-- The character after a backslash. -/
def readEscape : List Char → Reading (Char × List Char)
  | [] => malformedAt .endInString []
  | 'u' :: rest => readEscapedUnit rest
  | c :: rest =>
    match simpleEscape? c with
    | some char => .ok (char, rest)
    | none => malformedOn .invalidEscape (c :: rest)

/-- What is left of a string, `fuel` bounding the number of its characters. -/
def readStringFrom : Nat → List Char → Reading (List Char × List Char)
  | 0, s => malformedAt .endInString s
  | _, [] => malformedAt .endInString []
  | _, '"' :: rest => .ok ([], rest)
  | fuel + 1, '\\' :: rest => do
    let (c, rest) ← readEscape rest
    let (text, rest) ← readStringFrom fuel rest
    .ok (c :: text, rest)
  | fuel + 1, c :: rest =>
    if c.toNat < 0x20 then malformedOn .controlCharacter (c :: rest)
    else do
      let (text, rest) ← readStringFrom fuel rest
      .ok (c :: text, rest)

/-- A string whose opening quote has been read. -/
def readString (s : List Char) : Reading (List Char × List Char) :=
  readStringFrom (s.length + 1) s

/-! ## Numbers -/

/-- Significands are kept in 64 bits. -/
def significandBound : Nat := Nat.pow 2 64

/-- A significand with the digits that a text starts with put behind it, as far as it stays within
    bounds, and the number of these digits. -/
def extendSignificand (significand used : Nat) : List Char → Nat × Nat × List Char
  | [] => (significand, used, [])
  | c :: rest =>
    let more := significand * 10 + (c.toNat - '0'.toNat)
    if c.isDigit && more < significandBound then extendSignificand more (used + 1) rest
    else (significand, used, c :: rest)

def dropDigits (s : List Char) : List Char :=
  s.dropWhile Char.isDigit

/-- A power of ten, as near as it can be. -/
def powerOfTen (exponent : Nat) : Float :=
  Float.ofScientific 1 false exponent

/-- A significand over a power of ten. Beyond `10 ^ 308` it takes two divisions, and beyond twice
    that nothing is left. -/
def divideByPower (significand : Float) (exponent : Nat) : Float :=
  if exponent ≤ 308 then significand / powerOfTen exponent
  else if exponent ≤ 616 then significand / powerOfTen 308 / powerOfTen (exponent - 308)
  else 0

/-- The number `significand · 10 ^ exponent`, rounded once for the power and once for the result. -/
def scale? (significand : Nat) (exponent : Int) : Option Float :=
  let start := significand.toUInt64.toFloat
  if exponent < 0 then some (divideByPower start (-exponent).toNat)
  else if exponent ≤ 308 then
    let scaled := start * powerOfTen exponent.toNat
    if scaled.isInf then none else some scaled
  else if significand = 0 then some 0
  else none

/-- A number with a point or an exponent, before `rest`. -/
def realNumber (positive : Bool) (significand : Nat) (exponent : Int) (rest : List Char) :
    Reading (Number × List Char) :=
  match scale? significand exponent with
  | some value => .ok (.real (if positive then value else -value), rest)
  | none => malformedAt .numberOutOfRange rest

/-- Exponents are kept in 32 bits. -/
def exponentBound : Nat := Nat.pow 2 31

/-- The rest of an exponent; nothing if it grows out of bounds, with what is left after the digit
    that made it so. -/
def extendExponent (exponent : Nat) : List Char → Option Nat × List Char
  | [] => (some exponent, [])
  | c :: rest =>
    if c.isDigit then
      let more := exponent * 10 + (c.toNat - '0'.toNat)
      if more < exponentBound then extendExponent more rest else (none, rest)
    else (some exponent, c :: rest)

/-- The sign of an exponent, if it has one; true for plus. -/
def readExponentSign : List Char → Bool × List Char
  | '+' :: rest => (true, rest)
  | '-' :: rest => (false, rest)
  | rest => (true, rest)

/-- An exponent whose letter has been read, and the number it completes. -/
def readExponent (positive : Bool) (significand : Nat) (start : Int) (s : List Char) :
    Reading (Number × List Char) :=
  let (up, s) := readExponentSign s
  match s with
  | [] => malformedAt .endInValue []
  | c :: rest =>
    if !c.isDigit then malformedOn .invalidNumber (c :: rest)
    else
      match extendExponent (c.toNat - '0'.toNat) rest with
      | (some exponent, rest) =>
        realNumber positive significand (if up then start + exponent else start - exponent) rest
      | (none, rest) =>
        if significand != 0 && up then malformedAt .numberOutOfRange rest
        else .ok (.real (if positive then 0 else -0), dropDigits rest)

/-- The digits after a point, which has been read, and the number they complete. Digits that the
    significand has no room for count for nothing. -/
def readFraction (positive : Bool) (significand : Nat) (start : Int) (s : List Char) :
    Reading (Number × List Char) :=
  match s with
  | [] => malformedAt .endInValue []
  | c :: _ =>
    if !c.isDigit then malformedOn .invalidNumber s
    else
      let (significand, used, rest) := extendSignificand significand 0 s
      let exponent := start - used
      match dropDigits rest with
      | 'e' :: rest | 'E' :: rest => readExponent positive significand exponent rest
      | rest => realNumber positive significand exponent rest

/-- An integer that fits into 64 bits. Minus zero, and what is too far below zero, is no integer. -/
def integer (positive : Bool) (value : Nat) : Number :=
  if positive then .natural value
  else if 0 < value && value ≤ Nat.pow 2 63 then .negative value
  else .real (-value.toUInt64.toFloat)

/-- A number from its first digit on. Digits of the integer part that the significand has no room
    for only count for the exponent. -/
def readNumber (positive : Bool) : List Char → Reading (Number × List Char)
  | [] => malformedAt .endInValue []
  | '0' :: c :: rest =>
    if c.isDigit then malformedOn .invalidNumber (c :: rest)
    else readAfterInteger positive 0 0 (c :: rest)
  | c :: rest =>
    if c.isDigit then
      let (significand, _, rest) := extendSignificand 0 0 (c :: rest)
      readAfterInteger positive significand (rest.takeWhile Char.isDigit).length (dropDigits rest)
    else malformedOn .invalidNumber (c :: rest)
where
  readAfterInteger (positive : Bool) (significand dropped : Nat) (s : List Char) :
      Reading (Number × List Char) :=
    match s with
    | '.' :: rest => readFraction positive significand dropped rest
    | 'e' :: rest | 'E' :: rest => readExponent positive significand dropped rest
    | rest =>
      if dropped = 0 then .ok (integer positive significand, rest)
      else realNumber positive significand dropped rest

/-! ## Values of the wrong type -/

/-- Reject a value that does not start in the way that `expected` does. Words, numbers and strings
    are read to their ends first, and only their faults come before the one about the type. -/
def rejectValue {α : Type} (expected : String) (s : List Char) : Reading α := do
  let wrong (found : Found) (rest : List Char) : Reading α :=
    failAt (.mismatch (.wrongType found expected)) rest
  match s with
  | 'n' :: rest => wrong .null (← readWord ['u', 'l', 'l'] rest)
  | 't' :: rest => wrong (.boolean true) (← readWord ['r', 'u', 'e'] rest)
  | 'f' :: rest => wrong (.boolean false) (← readWord ['a', 'l', 's', 'e'] rest)
  | '"' :: rest =>
    let (value, rest) ← readString rest
    wrong (.string value) rest
  | '-' :: rest =>
    let (value, rest) ← readNumber false rest
    wrong (.number value) rest
  | '[' :: _ => wrong .list s
  | '{' :: _ => wrong .object s
  | [] => malformedOn .expectedValue s
  | c :: _ =>
    if c.isDigit then
      let (value, rest) ← readNumber true s
      wrong (.number value) rest
    else malformedOn .expectedValue s

/-! ## Separators -/

/-- The text of the next value; the text must not end before it. -/
def nextValue (s : List Char) : Reading (List Char) :=
  match skipSpace s with
  | [] => malformedAt .endInValue []
  | text => .ok text

/-- Whether a list goes on, with the text of its next item or from its closing bracket on. -/
def nextItem (first : Bool) (s : List Char) : Reading (Bool × List Char) :=
  match skipSpace s with
  | [] => malformedAt .endInList []
  | ']' :: rest => .ok (false, ']' :: rest)
  | c :: rest =>
    if first then .ok (true, c :: rest)
    else if c = ',' then
      match skipSpace rest with
      | [] => malformedAt .endInValue []
      | ']' :: rest => malformedOn .trailingComma (']' :: rest)
      | text => .ok (true, text)
    else malformedOn .expectedListCommaOrEnd (c :: rest)

/-- Whether an object goes on, with the text from its next key or from its closing bracket on. The
    opening quote of the key is read. -/
def nextKey (first : Bool) (s : List Char) : Reading (Bool × List Char) :=
  match skipSpace s with
  | [] => malformedAt .endInObject []
  | '}' :: rest => .ok (false, '}' :: rest)
  | c :: rest =>
    if first then
      if c = '"' then .ok (true, rest) else malformedOn .keyNotString (c :: rest)
    else if c = ',' then
      match skipSpace rest with
      | [] => malformedAt .endInValue []
      | '"' :: rest => .ok (true, rest)
      | '}' :: rest => malformedOn .trailingComma ('}' :: rest)
      | text => malformedOn .keyNotString text
    else malformedOn .expectedObjectCommaOrEnd (c :: rest)

/-- The colon after a key. -/
def readColon (s : List Char) : Reading (List Char) :=
  match skipSpace s with
  | [] => malformedAt .endInObject []
  | ':' :: rest => .ok rest
  | text => malformedOn .expectedColon text

/-- The end of a list all of whose items have been read. -/
def endList (s : List Char) : Reading (List Char) :=
  match skipSpace s with
  | [] => malformedAt .endInList []
  | ']' :: rest => .ok rest
  | ',' :: rest =>
    match skipSpace rest with
    | ']' :: rest => malformedOn .trailingComma (']' :: rest)
    | text => malformedOn .trailingCharacters text
  | text => malformedOn .trailingCharacters text

/-- The place of a mismatch found in a list before its end: after the separator that comes next. -/
def pastListEnd (s : List Char) : List Char :=
  match skipSpace s with
  | ']' :: rest => rest
  | ',' :: rest => skipSpace rest
  | text => text

/-- The place of a mismatch found in an object before its end: after the closing bracket, if that
    comes next. -/
def pastObjectEnd (s : List Char) : List Char :=
  match skipSpace s with
  | '}' :: rest => rest
  | text => text

/-! ## Skipping -/

/-- Skip what is left of a string. Four digits after `\u` need not be a character of their own. -/
def skipStringFrom : Nat → List Char → Reading (List Char)
  | 0, s => malformedAt .endInString s
  | _, [] => malformedAt .endInString []
  | _, '"' :: rest => .ok rest
  | _, ['\\'] => malformedAt .endInString []
  | fuel + 1, '\\' :: 'u' :: rest => do
    let (_, rest) ← readHexUnit rest
    skipStringFrom fuel rest
  | fuel + 1, '\\' :: c :: rest =>
    if (simpleEscape? c).isSome then skipStringFrom fuel rest
    else malformedOn .invalidEscape (c :: rest)
  | fuel + 1, c :: rest =>
    if c.toNat < 0x20 then malformedAt .controlCharacter (c :: rest)
    else skipStringFrom fuel rest

/-- Skip a string whose opening quote has been read. -/
def skipString (s : List Char) : Reading (List Char) :=
  skipStringFrom (s.length + 1) s

/-- Skip an exponent whose letter has been read. -/
def skipExponent (s : List Char) : Reading (List Char) :=
  match (readExponentSign s).2 with
  | [] => malformedAt .invalidNumber []
  | c :: rest =>
    if c.isDigit then .ok (dropDigits rest) else malformedOn .invalidNumber (c :: rest)

/-- Skip the digits after a point, which has been read. -/
def skipFraction (s : List Char) : Reading (List Char) :=
  if (s.takeWhile Char.isDigit).isEmpty then malformedOn .invalidNumber s
  else
    match dropDigits s with
    | 'e' :: rest | 'E' :: rest => skipExponent rest
    | rest => .ok rest

/-- Skip a number from its first digit on, however large it is. -/
def skipNumber (s : List Char) : Reading (List Char) := do
  let rest ←
    match s with
    | [] => malformedAt .invalidNumber []
    | '0' :: c :: rest =>
      if c.isDigit then malformedOn .invalidNumber (c :: rest) else pure (c :: rest)
    | c :: rest =>
      if c.isDigit then pure (dropDigits rest) else malformedOn .invalidNumber (c :: rest)
  match rest with
  | '.' :: rest => skipFraction rest
  | 'e' :: rest | 'E' :: rest => skipExponent rest
  | rest => .ok rest

/-- What a skipped value can be inside of. -/
inductive Bracket where
  | list
  | object
  deriving DecidableEq, Repr

def Bracket.closing : Bracket → Char
  | list => ']'
  | object => '}'

/-- Skip a value without parts, or the opening bracket of one that has parts. -/
def skipStart : List Char → Reading (Option Bracket × List Char)
  | [] => malformedAt .endInValue []
  | 'n' :: rest => return (none, ← readWord ['u', 'l', 'l'] rest)
  | 't' :: rest => return (none, ← readWord ['r', 'u', 'e'] rest)
  | 'f' :: rest => return (none, ← readWord ['a', 'l', 's', 'e'] rest)
  | '"' :: rest => return (none, ← skipString rest)
  | '-' :: rest => return (none, ← skipNumber rest)
  | '[' :: rest => .ok (some .list, rest)
  | '{' :: rest => .ok (some .object, rest)
  | c :: rest =>
    if c.isDigit then return (none, ← skipNumber (c :: rest))
    else malformedOn .expectedValue (c :: rest)

/-- Skip closing brackets and then a comma. What stays open is given with the text from the next
    part on. Right after an opening bracket (`fresh`) there is no comma. -/
def skipClosing (fresh : Bool) : List Bracket → List Char → Reading (List Bracket × List Char)
  | [], s => .ok ([], s)
  | bracket :: outer, s =>
    match skipSpace s with
    | [] => malformedAt (match bracket with | .list => .endInList | .object => .endInObject) []
    | c :: rest =>
      if c = bracket.closing then skipClosing false outer rest
      else if fresh then .ok (bracket :: outer, c :: rest)
      else if c = ',' then .ok (bracket :: outer, rest)
      else
        malformedOn (match bracket with
          | .list => .expectedListCommaOrEnd
          | .object => .expectedObjectCommaOrEnd) (c :: rest)

/-- Skip the key before the next part of an object. A part of a list has none. -/
def skipKey (bracket : Bracket) (s : List Char) : Reading (List Char) :=
  match bracket with
  | .list => .ok s
  | .object =>
    match skipSpace s with
    | [] => malformedAt .endInObject []
    | '"' :: rest => do readColon (← skipString rest)
    | text => malformedOn .keyNotString text

/-- Skip a value and what it stands in, `fuel` bounding the number of values on the way. -/
def skipFrom : Nat → List Bracket → List Char → Reading (List Char)
  | 0, _, s => malformedAt .endInValue s
  | fuel + 1, opened, s => do
    let (start, rest) ← skipStart (skipSpace s)
    let (opened, rest) ← skipClosing start.isSome (start.toList ++ opened) rest
    match opened with
    | [] => .ok rest
    | bracket :: _ => skipFrom fuel opened (← skipKey bracket rest)

/-- Skip a value of any type. Only its form is checked. -/
def skipValue (s : List Char) : Reading (List Char) :=
  skipFrom (s.length + 1) [] s

end Flowchart.Json
