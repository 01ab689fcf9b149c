-- SUMMARY: Statements: splitting a line at semicolons, connectors and ampersands.
import Flowchart.Connector

/-!
# Statements

A line holds statements separated by `;`. A statement is a chain of groups joined by connectors, and
a group lists its members with `&`. A separator counts only at the top level, outside brackets,
quotes and pipes, and outside connectors. One scan marks the top level and the connectors of a text,
and nothing is lost in it: the marks put together again are the text.
-/

namespace Flowchart

/-! ## Nesting -/

/-- What is open at a place of a text. Brackets are counted without regard to their kind. -/
structure Nesting where
  depth : Nat := 0
  quoted : Bool := false
  piped : Bool := false
  deriving DecidableEq, Repr

namespace Nesting

/-- Nothing is open. -/
def outside : Nesting := {}

def isTop (nesting : Nesting) : Bool :=
  nesting.depth == 0 && !nesting.quoted && !nesting.piped

/-- The nesting after one more character. Quotes hide brackets and pipes, pipes hide quotes, and a
    pipe inside brackets is an ordinary character. A closing bracket too many is ignored. -/
def step (nesting : Nesting) (c : Char) : Nesting :=
  if c == '"' && !nesting.piped then { nesting with quoted := !nesting.quoted }
  else if nesting.quoted then nesting
  else if c == '|' && nesting.depth == 0 then { nesting with piped := !nesting.piped }
  else if c == '(' || c == '[' || c == '{' then { nesting with depth := nesting.depth + 1 }
  else if c == ')' || c == ']' || c == '}' then { nesting with depth := nesting.depth - 1 }
  else nesting

end Nesting

/-! ## The scan -/

/-- A part of a scanned text: a character, with whether it stands at the top level, or a connector
    at the top level. -/
inductive Mark where
  | char (c : Char) (top : Bool)
  | link (connector : Connector)
  deriving DecidableEq, Repr

/-- The text that a mark stands for. -/
def Mark.text : Mark → List Char
  | char c _ => [c]
  | link connector => connector.text

/-- A `;` between two statements. -/
def Mark.isSeparator (mark : Mark) : Bool :=
  mark == .char ';' true

/-- Mark a text, passing over `skip` characters that belong to a connector already marked. -/
def scanAfter (nesting : Nesting) : Nat → List Char → List Mark
  | _, [] => []
  | skip + 1, _ :: rest => scanAfter nesting skip rest
  | 0, c :: rest =>
    match if nesting.isTop then Connector.read? (c :: rest) else none with
    | some connector => .link connector :: scanAfter nesting (connector.text.length - 1) rest
    | none => .char c nesting.isTop :: scanAfter (nesting.step c) 0 rest

/-- The characters and connectors of a text. -/
def scan (s : List Char) : List Mark :=
  scanAfter .outside 0 s

/-- The marks of a scan put together are the text that the scan does not pass over. -/
theorem flatMap_text_scanAfter (nesting : Nesting) (skip : Nat) (s : List Char) :
    (scanAfter nesting skip s).flatMap Mark.text = s.drop skip := by
  fun_induction scanAfter nesting skip s with
  | case1 => simp
  | case2 nesting skip c rest ih => simpa using ih
  | case3 nesting c rest connector h ih =>
    have h : Connector.read? (c :: rest) = some connector := by
      split at h
      · exact h
      · cases h
    obtain ⟨after, whole⟩ := Connector.text_prefix h
    rw [List.flatMap_cons, ih, Mark.text]
    cases text : connector.text with
    | nil => exact absurd text (Connector.text_ne_nil h)
    | cons d more =>
      rw [text] at whole
      obtain ⟨rfl, rfl⟩ := List.cons.inj whole
      simp
  | case4 nesting c rest h ih => simp [ih, Mark.text]

/-- A scan loses nothing: its marks put together are the text. -/
theorem flatMap_text_scan (s : List Char) : (scan s).flatMap Mark.text = s :=
  flatMap_text_scanAfter .outside 0 s

/-! ## Splitting -/

/-- The pieces trimmed, without those that are empty then. -/
def trimmedPieces (pieces : List (List Char)) : List (List Char) :=
  (pieces.map Text.trim).filter (!·.isEmpty)

/-- The statements of a line. A `;` inside the label of a connector does not end a statement. -/
def splitStatements (body : List Char) : List (List Char) :=
  trimmedPieces (((scan body).splitOnP Mark.isSeparator).map (·.flatMap Mark.text))

/-- The characters of a text with whether each stands at the top level, connectors being text. -/
def levels (nesting : Nesting) : List Char → List (Char × Bool)
  | [] => []
  | c :: rest => (c, nesting.isTop) :: levels (nesting.step c) rest

/-- The members of one group: the pieces between its top-level ampersands, or a single empty member
    if there are none. -/
def splitMembers (segment : List Char) : List (List Char) :=
  let pieces := (levels .outside segment).splitOnP (· == ('&', true))
  match trimmedPieces (pieces.map (·.map Prod.fst)) with
  | [] => [[]]
  | members => members

/-! ## Chains -/

/-- A chain of text segments joined by connectors. -/
structure Segments where
  first : List Char
  rest : List (Connector × List Char)
  deriving DecidableEq, Repr

/-- Cut a scanned text at its connectors. -/
def Segments.ofMarks : List Mark → Segments
  | [] => ⟨[], []⟩
  | .char c _ :: marks =>
    let segments := ofMarks marks
    { segments with first := c :: segments.first }
  | .link connector :: marks =>
    let segments := ofMarks marks
    ⟨[], (connector, segments.first) :: segments.rest⟩

/-- The members that stand between two connectors. -/
abbrev Group := List (List Char)

/-- Groups of members, each joined to the next by a connector. -/
structure Chain where
  first : Group
  rest : List (Connector × Group)
  deriving DecidableEq, Repr

/-- The chain that a statement spells out. -/
def Chain.read (statement : List Char) : Chain :=
  let segments := Segments.ofMarks (scan statement)
  ⟨splitMembers segments.first,
    segments.rest.map fun (link, segment) => (link, splitMembers segment)⟩

/-- All groups, in order. -/
def Chain.groups (chain : Chain) : List Group :=
  chain.first :: chain.rest.map Prod.snd

/-- The connectors, in order, each with the groups on both sides of it. -/
def Chain.joints (chain : Chain) : List (Group × Connector × Group) :=
  go chain.first chain.rest
where
  go (left : Group) : List (Connector × Group) → List (Group × Connector × Group)
    | [] => []
    | (link, right) :: rest => (left, link, right) :: go right rest

end Flowchart
