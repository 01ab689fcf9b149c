-- SUMMARY: Text as a message shows it: without control characters and escape sequences.

/-!
# Control characters

A text that a message repeats may hold anything. What is not meant to be seen is left out of it:
control characters other than blanks, and the escape sequences with which terminals are steered. A
sequence begins with the escape character, and what follows that tells where it ends.
-/

namespace Flowchart.Text

/-! ## Characters -/

/-- The blanks among the control characters: tab, line feed, form feed, carriage return. -/
def isBlankControl (c : Char) : Bool :=
  c = '\t' || c = '\n' || c = '\x0c' || c = '\r'

/-- Everything but the ASCII control characters can be seen, and so can the blanks among these. -/
def isSeen (c : Char) : Bool :=
  (0x20 ≤ c.toNat && c.toNat ≠ 0x7F) || isBlankControl c

/-- One of the bytes that encode the character after the first is `9C`, the string terminator. -/
def holdsTerminator (c : Char) : Bool :=
  let n := c.toNat
  (0x80 ≤ n && n % 64 == 0x1C) || (0x800 ≤ n && n / 64 % 64 == 0x1C) ||
    (0x10000 ≤ n && n / 4096 % 64 == 0x1C)

/-! ## Escape sequences -/

/-- Where in an escape sequence a character stands. -/
inductive Sequence where
  /-- In none. -/
  | none
  /-- Right after the escape character. -/
  | escape
  /-- A sequence of a few characters, the last one of which is to come. -/
  | short
  /-- A control sequence: numbers, then a letter. -/
  | control
  /-- The head of a device control string, which is like a control sequence: right after its start,
      among its numbers, and among the marks behind them. -/
  | deviceStart
  | deviceNumbers
  | deviceMarks
  /-- A string that ends with the string terminator. -/
  | string
  /-- An operating system command, which ends with a bell. -/
  | command
  deriving DecidableEq, Repr

/-- The place after one more character. An escape character starts a new sequence wherever it
    stands, and a cancel or substitute character ends the one it stands in. -/
def Sequence.after (place : Sequence) (c : Char) : Sequence :=
  let n := c.toNat
  if n = 0x1B then .escape
  else if n = 0x18 || n = 0x1A then .none
  else
    match place with
    | .none => .none
    | .escape =>
      if c = '[' then .control
      else if c = 'P' then .deviceStart
      else if c = ']' then .command
      else if c = 'X' || c = '^' || c = '_' then .string
      else if 0x20 ≤ n && n ≤ 0x2F then .short
      else if 0x30 ≤ n && n ≤ 0x7E then .none
      else .escape
    | .short => if 0x30 ≤ n && n ≤ 0x7E then .none else .short
    | .control => if 0x40 ≤ n && n ≤ 0x7E then .none else .control
    | .deviceStart =>
      if 0x20 ≤ n && n ≤ 0x2F then .deviceMarks
      else if 0x30 ≤ n && n ≤ 0x3F then .deviceNumbers
      else if 0x40 ≤ n && n ≤ 0x7E then .string
      else .deviceStart
    | .deviceNumbers =>
      if 0x20 ≤ n && n ≤ 0x2F then .deviceMarks
      else if 0x3C ≤ n && n ≤ 0x7E then .string
      else .deviceNumbers
    | .deviceMarks => if 0x30 ≤ n && n ≤ 0x7E then .string else .deviceMarks
    | .string => if holdsTerminator c then .none else .string
    | .command => if n = 0x07 then .none else .command

/-- Blanks are seen even inside the sequences that are not strings. -/
def Sequence.isOpen : Sequence → Bool
  | .escape | .short | .control => true
  | _ => false

/-! ## Reading -/

/-- How far a text has been read. A blank inside a sequence suspends it: what follows is seen, up to
    the next control character, with which the sequence goes on. -/
structure Reading where
  place : Sequence := .none
  suspended : Bool := false
  deriving DecidableEq, Repr

/-- The next character is seen. -/
def Reading.shows (reading : Reading) (c : Char) : Bool :=
  if reading.place = .none || reading.suspended then isSeen c
  else reading.place.isOpen && isBlankControl c

/-- The text with one more character read. A character beyond ASCII ends a suspended sequence. -/
def Reading.next (reading : Reading) (c : Char) : Reading :=
  if reading.suspended && isSeen c then
    if c.toNat < 0x80 then reading else {}
  else
    ⟨reading.place.after c, reading.place ≠ .none && reading.shows c⟩

/-- The characters of a text that are seen, from where it has been read to. -/
def Reading.seen (reading : Reading) : List Char → List Char
  | [] => []
  | c :: rest =>
    if reading.shows c then c :: (reading.next c).seen rest else (reading.next c).seen rest

/-- A text without control characters and escape sequences. -/
def withoutControls (s : String) : String :=
  String.ofList (Reading.seen {} s.toList)

end Flowchart.Text
