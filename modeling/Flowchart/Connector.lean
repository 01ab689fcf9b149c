-- SUMMARY: Connectors: the arrows and lines between the nodes of a statement.
import Flowchart.Text.White

/-!
# Connectors

A connector is a token such as `-->`, `---`, `-.->` or `==>` with a label between pipes after it or
not, or a text between two runs of dashes: `-- text -->`. A reader looks at the start of a text and
gives the connector there together with the characters it takes up.
-/

namespace Flowchart

/-- Whether the end of an edge has an arrow head. -/
inductive EdgeKind where
  | arrow
  | line
  deriving DecidableEq, Repr

/-- The name of a kind in all output. -/
def EdgeKind.name : EdgeKind → String
  | arrow => "arrow"
  | line => "line"

/-- How an edge is drawn. -/
inductive Stroke where
  | solid
  | dotted
  | thick
  deriving DecidableEq, Repr

/-- The name of a stroke in all output. -/
def Stroke.name : Stroke → String
  | solid => "solid"
  | dotted => "dotted"
  | thick => "thick"

/-- A connector and the text it was read from. The label is as written, not decoded. -/
structure Connector where
  kind : EdgeKind
  stroke : Stroke
  label : Option (List Char)
  text : List Char
  deriving DecidableEq, Repr

/-! ## Tokens -/

/-- A connector token without a label, and what follows it. -/
structure Connector.Token where
  kind : EdgeKind
  stroke : Stroke
  text : List Char
  rest : List Char
  deriving DecidableEq, Repr

namespace Connector

/-- A run of `mark`: an arrow if `>` follows at least two of them, else a line of at least three. -/
def Token.readRun? (stroke : Stroke) (mark : Char) (s : List Char) : Option Token :=
  let run := s.takeWhile (· == mark)
  match s.dropWhile (· == mark) with
  | '>' :: rest => if 2 ≤ run.length then some ⟨.arrow, stroke, run ++ ['>'], rest⟩ else none
  | rest => if 3 ≤ run.length then some ⟨.line, stroke, run, rest⟩ else none

/-- Dots between two dashes, and `>` or not. -/
def Token.readDotted? : List Char → Option Token
  | '-' :: '.' :: s =>
    let dots := '.' :: s.takeWhile (· == '.')
    match s.dropWhile (· == '.') with
    | '-' :: '>' :: rest => some ⟨.arrow, .dotted, '-' :: dots ++ ['-', '>'], rest⟩
    | '-' :: rest => some ⟨.line, .dotted, '-' :: dots ++ ['-'], rest⟩
    | _ => none
  | _ => none

/-- The token that a text starts with. -/
def Token.read? (s : List Char) : Option Token :=
  match s with
  | '-' :: '.' :: _ => readDotted? s
  | '-' :: _ => readRun? .solid '-' s
  | '=' :: _ => readRun? .thick '=' s
  | _ => none

theorem Token.text_append_rest_of_readRun? {stroke : Stroke} {mark : Char} {s : List Char}
    {token : Token} (h : readRun? stroke mark s = some token) : token.text ++ token.rest = s := by
  have parts := List.takeWhile_append_dropWhile (p := (· == mark)) (l := s)
  simp only [readRun?] at h
  split at h
  · next rest eq =>
    split at h
    · obtain rfl := Option.some.inj h
      rw [eq] at parts
      simpa using parts
    · cases h
  · split at h
    · obtain rfl := Option.some.inj h
      exact parts
    · cases h

theorem Token.text_append_rest_of_readDotted? {s : List Char} {token : Token}
    (h : readDotted? s = some token) : token.text ++ token.rest = s := by
  unfold readDotted? at h
  split at h
  · next s =>
    have parts := List.takeWhile_append_dropWhile (p := (· == '.')) (l := s)
    simp only at h
    split at h
    · next rest eq =>
      obtain rfl := Option.some.inj h
      rw [eq] at parts
      simpa using parts
    · next rest _ eq =>
      obtain rfl := Option.some.inj h
      rw [eq] at parts
      simpa using parts
    · cases h
  · cases h

/-- A token and its rest make up the text it was read from. -/
theorem Token.text_append_rest {s : List Char} {token : Token} (h : Token.read? s = some token) :
    token.text ++ token.rest = s := by
  unfold Token.read? at h
  split at h
  · exact text_append_rest_of_readDotted? h
  · exact text_append_rest_of_readRun? h
  · exact text_append_rest_of_readRun? h
  · cases h

/-- A token is never empty. -/
theorem Token.text_ne_nil {s : List Char} {token : Token} (h : Token.read? s = some token) :
    token.text ≠ [] := by
  have run {stroke : Stroke} {mark : Char} (h : readRun? stroke mark s = some token) :
      token.text ≠ [] := by
    simp only [readRun?] at h
    split at h <;> split at h
    · obtain rfl := Option.some.inj h
      simp
    · cases h
    · next long =>
      obtain rfl := Option.some.inj h
      exact List.ne_nil_of_length_pos (Nat.lt_of_lt_of_le (by decide) long)
    · cases h
  unfold Token.read? at h
  split at h
  · unfold readDotted? at h
    simp only at h
    split at h
    · obtain rfl := Option.some.inj h
      simp
    · obtain rfl := Option.some.inj h
      simp
    · cases h
  · exact run h
  · exact run h
  · cases h

/-! ## Connectors -/

/-- A token and, after blanks, a label between pipes. The blanks belong to the connector even if no
    label follows. -/
def readPiped? (s : List Char) : Option Connector :=
  (Token.read? s).map fun token =>
    let blanks := token.rest.takeWhile Text.isBlank
    let bare : Connector := ⟨token.kind, token.stroke, none, token.text ++ blanks⟩
    match Text.skipBlanks token.rest with
    | '|' :: rest =>
      let label := rest.takeWhile (· != '|')
      match rest.dropWhile (· != '|') with
      | [] => bare
      | _ :: _ => { bare with label := some label, text := bare.text ++ '|' :: label ++ ['|'] }
    | _ => bare

/-- The text before the first two dashes in a row, and the rest from them on. -/
def beforeDashes? : List Char → Option (List Char × List Char)
  | [] => none
  | '-' :: '-' :: rest => some ([], '-' :: '-' :: rest)
  | c :: rest => (beforeDashes? rest).map fun (before, dashes) => (c :: before, dashes)

/-- The text before the dashes and the text from them on make up the whole. -/
theorem append_of_beforeDashes? {s before dashes : List Char}
    (h : beforeDashes? s = some (before, dashes)) : before ++ dashes = s := by
  fun_induction beforeDashes? s generalizing before with
  | case1 => cases h
  | case2 rest =>
    obtain ⟨rfl, rfl⟩ := Prod.mk.inj (Option.some.inj h)
    rfl
  | case3 c rest _ ih =>
    obtain ⟨⟨before, dashes⟩, found, same⟩ := Option.map_eq_some_iff.1 h
    obtain ⟨rfl, rfl⟩ := Prod.mk.inj same
    rw [List.cons_append, ih found]

/-- A text between `--` and `-->` or `---`. It stands apart from the dashes before it, is not empty
    and ends at the first two dashes in a row. -/
def readLabelled? : List Char → Option Connector
  | '-' :: '-' :: c :: s =>
    if Text.isBlank c then
      let opening := '-' :: '-' :: c :: s.takeWhile Text.isBlank
      match beforeDashes? (Text.skipBlanks s) with
      | some (d :: label, '-' :: '-' :: '>' :: _) =>
        some ⟨.arrow, .solid, some (d :: label), opening ++ d :: label ++ ['-', '-', '>']⟩
      | some (d :: label, '-' :: '-' :: '-' :: _) =>
        some ⟨.line, .solid, some (d :: label), opening ++ d :: label ++ ['-', '-', '-']⟩
      | _ => none
    else none
  | _ => none

/-- The connector that a text starts with. -/
def read? (s : List Char) : Option Connector :=
  (readLabelled? s).or (readPiped? s)

theorem text_prefix_of_readPiped? {s : List Char} {connector : Connector}
    (h : readPiped? s = some connector) : connector.text <+: s := by
  obtain ⟨token, ht, rfl⟩ := Option.map_eq_some_iff.1 h
  have whole := Token.text_append_rest ht
  have blanks := List.takeWhile_append_dropWhile (p := Text.isBlank) (l := token.rest)
  have bare : token.text ++ token.rest.takeWhile Text.isBlank <+: s :=
    ⟨token.rest.dropWhile Text.isBlank, by rw [List.append_assoc, blanks, whole]⟩
  simp only [Text.skipBlanks]
  split
  · next rest eq =>
    have label := List.takeWhile_append_dropWhile (p := (· != '|')) (l := rest)
    split
    · exact bare
    · next bar after stop =>
      have ended := List.head_dropWhile_not (· != '|') (show rest.dropWhile _ ≠ [] by simp [stop])
      obtain rfl : bar = '|' := by simpa [stop] using ended
      rw [stop] at label
      rw [eq, ← label] at blanks
      exact ⟨after, by rw [← whole]; simpa using blanks⟩
  · exact bare

theorem text_prefix_of_readLabelled? {s : List Char} {connector : Connector}
    (h : readLabelled? s = some connector) : connector.text <+: s := by
  unfold readLabelled? at h
  split at h
  · next c s =>
    have blanks := List.takeWhile_append_dropWhile (p := Text.isBlank) (l := s)
    simp only [Text.skipBlanks] at h
    split at h
    · split at h
      · next d label rest found =>
        obtain rfl := Option.some.inj h
        have whole := append_of_beforeDashes? found
        rw [← whole] at blanks
        exact ⟨rest, by simpa using blanks⟩
      · next d label rest found =>
        obtain rfl := Option.some.inj h
        have whole := append_of_beforeDashes? found
        rw [← whole] at blanks
        exact ⟨rest, by simpa using blanks⟩
      · cases h
    · cases h
  · cases h

/-- A connector takes up the start of the text it was read from. -/
theorem text_prefix {s : List Char} {connector : Connector} (h : read? s = some connector) :
    connector.text <+: s := by
  rcases Option.or_eq_some_iff.1 h with h | ⟨_, h⟩
  · exact text_prefix_of_readLabelled? h
  · exact text_prefix_of_readPiped? h

/-- A connector is never empty. -/
theorem text_ne_nil {s : List Char} {connector : Connector} (h : read? s = some connector) :
    connector.text ≠ [] := by
  rcases Option.or_eq_some_iff.1 h with h | ⟨_, h⟩
  · unfold readLabelled? at h
    split at h
    · simp only at h
      split at h
      · split at h
        · obtain rfl := Option.some.inj h
          simp
        · obtain rfl := Option.some.inj h
          simp
        · cases h
      · cases h
    · cases h
  · obtain ⟨token, ht, rfl⟩ := Option.map_eq_some_iff.1 h
    have := Token.text_ne_nil ht
    simp only
    split
    · split <;> simp [this]
    · simp [this]

end Connector

end Flowchart
