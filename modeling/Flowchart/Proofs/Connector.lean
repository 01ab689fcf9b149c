-- SUMMARY: The grammar of connectors: which texts are tokens and connectors, and what may follow them.
import Mathlib.Data.List.TakeWhile
import Mathlib.Data.List.Infix
import Flowchart.Connector
import Flowchart.Proofs.White

/-!
# The grammar of connectors

The readers of tokens and connectors are characterised by how a token or connector is spelled and by
what may not follow it. A connector read from a text is therefore read from every text that starts
with it and has no more of it to offer, and appending to a text never hides a connector.
-/

namespace Flowchart

/-- The characters that make a headless token longer. -/
def Stroke.extends : Stroke → Char → Bool
  | .solid, c => c == '-' || c == '>'
  | .thick, c => c == '=' || c == '>'
  | .dotted, c => c == '>'

/-- What ends a text between dashes. -/
def EdgeKind.tip : EdgeKind → Char
  | .arrow => '>'
  | .line => '-'

namespace Connector

/-! ## Runs -/

section Runs

variable {stroke : Stroke} {mark : Char} {rest : List Char}

theorem takeWhile_beq (s : List Char) :
    s.takeWhile (· == mark) = List.replicate (s.takeWhile (· == mark)).length mark := by
  rw [List.eq_replicate_length]
  intro c hc
  simpa using List.mem_takeWhile_imp hc

theorem takeWhile_replicate_append (n : Nat) (h : ∀ c ∈ rest.head?, c ≠ mark) :
    (List.replicate n mark ++ rest).takeWhile (· == mark) = List.replicate n mark :=
  Text.takeWhile_append_of_head? (by simp) fun c hc => by simpa using h c hc

theorem dropWhile_replicate_append (n : Nat) (h : ∀ c ∈ rest.head?, c ≠ mark) :
    (List.replicate n mark ++ rest).dropWhile (· == mark) = rest :=
  Text.dropWhile_append_of_head? (by simp) fun c hc => by simpa using h c hc

/-- What follows a run does not go on with its mark. -/
theorem head?_dropWhile_beq (s : List Char) : ∀ c ∈ (s.dropWhile (· == mark)).head?, c ≠ mark := by
  intro c hc
  simpa using Text.apply_head?_dropWhile (· == mark) s c hc

theorem Token.readRun?_arrow {n : Nat} (hn : 2 ≤ n) (hmark : mark ≠ '>') :
    readRun? stroke mark (List.replicate n mark ++ '>' :: rest) =
      some ⟨.arrow, stroke, List.replicate n mark ++ ['>'], rest⟩ := by
  have hhead : ∀ c ∈ ('>' :: rest).head?, c ≠ mark := by simpa using hmark.symm
  simp [readRun?, takeWhile_replicate_append n hhead, dropWhile_replicate_append n hhead, hn]

theorem Token.readRun?_line {n : Nat} (hn : 3 ≤ n)
    (hrest : ∀ c ∈ rest.head?, c ≠ mark ∧ c ≠ '>') :
    readRun? stroke mark (List.replicate n mark ++ rest) =
      some ⟨.line, stroke, List.replicate n mark, rest⟩ := by
  have hhead : ∀ c ∈ rest.head?, c ≠ mark := fun c hc => (hrest c hc).1
  simp only [readRun?, takeWhile_replicate_append n hhead, dropWhile_replicate_append n hhead]
  split
  · exact absurd rfl (hrest '>' rfl).2
  · simp [hn]

/-- A run is read as an arrow or as a line. -/
theorem Token.readRun?_cases {s : List Char} {token : Token}
    (h : readRun? stroke mark s = some token) :
    (∃ n, 2 ≤ n ∧ token = ⟨.arrow, stroke, List.replicate n mark ++ ['>'], token.rest⟩) ∨
    (∃ n, 3 ≤ n ∧ token = ⟨.line, stroke, List.replicate n mark, token.rest⟩ ∧
      ∀ c ∈ token.rest.head?, c ≠ mark ∧ c ≠ '>') := by
  have hrun : s.takeWhile (· == mark) =
      List.replicate (s.takeWhile (· == mark)).length mark := takeWhile_beq s
  have hhead : ∀ c ∈ (s.dropWhile (· == mark)).head?, c ≠ mark := head?_dropWhile_beq s
  simp only [readRun?] at h
  split at h
  · split at h
    · next hlong =>
      obtain rfl := Option.some.inj h
      exact .inl ⟨_, hlong, by rw [← hrun]⟩
    · cases h
  · next hno =>
    split at h
    · next hlong =>
      obtain rfl := Option.some.inj h
      refine .inr ⟨_, hlong, by rw [← hrun], fun c hc => ⟨hhead c hc, ?_⟩⟩
      rintro rfl
      obtain ⟨rest, hrest⟩ := List.head?_eq_some_iff.1 hc
      exact hno rest hrest
    · cases h

end Runs

/-! ## Tokens -/

/-- The tokens as they are spelled. -/
inductive Token.Spelled : EdgeKind → Stroke → List Char → Prop
  | solidArrow {n : Nat} (hn : 2 ≤ n) : Spelled .arrow .solid (List.replicate n '-' ++ ['>'])
  | solidLine {n : Nat} (hn : 3 ≤ n) : Spelled .line .solid (List.replicate n '-')
  | thickArrow {n : Nat} (hn : 2 ≤ n) : Spelled .arrow .thick (List.replicate n '=' ++ ['>'])
  | thickLine {n : Nat} (hn : 3 ≤ n) : Spelled .line .thick (List.replicate n '=')
  | dottedArrow {n : Nat} (hn : 1 ≤ n) :
      Spelled .arrow .dotted ('-' :: List.replicate n '.' ++ ['-', '>'])
  | dottedLine {n : Nat} (hn : 1 ≤ n) : Spelled .line .dotted ('-' :: List.replicate n '.' ++ ['-'])

theorem Token.spelled_of_readDotted? {s : List Char} {token : Token}
    (h : readDotted? s = some token) :
    Spelled token.kind token.stroke token.text ∧
      (token.kind = .line → ∀ c ∈ token.rest.head?, token.stroke.extends c = false) := by
  unfold readDotted? at h
  split at h
  · next s =>
    have hdots : '.' :: s.takeWhile (· == '.') =
        List.replicate ((s.takeWhile (· == '.')).length + 1) '.' := by
      rw [List.replicate_succ, ← takeWhile_beq]
    simp only [hdots] at h
    split at h
    · obtain rfl := Option.some.inj h
      exact ⟨.dottedArrow (Nat.succ_pos _), fun h => by cases h⟩
    · next rest hno hrest =>
      obtain rfl := Option.some.inj h
      refine ⟨.dottedLine (Nat.succ_pos _), fun _ c hc => ?_⟩
      obtain ⟨more, rfl⟩ := List.head?_eq_some_iff.1 hc
      simp only [Stroke.extends, beq_eq_false_iff_ne]
      rintro rfl
      exact hno more rfl
    · cases h
  · cases h

theorem Token.spelled_of_read? {s : List Char} {token : Token} (h : Token.read? s = some token) :
    Spelled token.kind token.stroke token.text ∧
      (token.kind = .line → ∀ c ∈ token.rest.head?, token.stroke.extends c = false) := by
  unfold Token.read? at h
  split at h
  · exact spelled_of_readDotted? h
  · rcases readRun?_cases h with ⟨n, hn, htoken⟩ | ⟨n, hn, htoken, hrest⟩
    · rw [htoken]
      exact ⟨.solidArrow hn, fun h => by cases h⟩
    · rw [htoken]
      exact ⟨.solidLine hn, fun _ c hc => by simpa [Stroke.extends] using hrest c hc⟩
  · rcases readRun?_cases h with ⟨n, hn, htoken⟩ | ⟨n, hn, htoken, hrest⟩
    · rw [htoken]
      exact ⟨.thickArrow hn, fun h => by cases h⟩
    · rw [htoken]
      exact ⟨.thickLine hn, fun _ c hc => by simpa [Stroke.extends] using hrest c hc⟩
  · cases h

/-- A spelled token is read from every text that starts with it and does not make it longer. -/
theorem Token.read?_append {kind : EdgeKind} {stroke : Stroke} {text rest : List Char}
    (h : Spelled kind stroke text)
    (hrest : kind = .line → ∀ c ∈ rest.head?, stroke.extends c = false) :
    Token.read? (text ++ rest) = some ⟨kind, stroke, text, rest⟩ := by
  cases h with
  | @solidArrow n hn =>
    obtain ⟨n, rfl⟩ := Nat.exists_eq_add_of_le' hn
    rw [List.append_assoc]
    exact readRun?_arrow hn (by decide)
  | @solidLine n hn =>
    obtain ⟨n, rfl⟩ := Nat.exists_eq_add_of_le' hn
    exact readRun?_line hn fun c hc => by simpa [Stroke.extends] using hrest rfl c hc
  | @thickArrow n hn =>
    obtain ⟨n, rfl⟩ := Nat.exists_eq_add_of_le' hn
    rw [List.append_assoc]
    exact readRun?_arrow hn (by decide)
  | @thickLine n hn =>
    obtain ⟨n, rfl⟩ := Nat.exists_eq_add_of_le' hn
    exact readRun?_line hn fun c hc => by simpa [Stroke.extends] using hrest rfl c hc
  | @dottedArrow n hn =>
    obtain ⟨n, rfl⟩ := Nat.exists_eq_add_of_le' hn
    have hhead : ∀ c ∈ ('-' :: '>' :: rest).head?, c ≠ '.' := by simp
    have htake := takeWhile_replicate_append n hhead
    have hdrop := dropWhile_replicate_append n hhead
    simp only [List.replicate_succ, List.cons_append, List.append_assoc, List.nil_append]
    simp only [Token.read?, readDotted?, htake, hdrop]
    simp
  | @dottedLine n hn =>
    obtain ⟨n, rfl⟩ := Nat.exists_eq_add_of_le' hn
    have hhead : ∀ c ∈ ('-' :: rest).head?, c ≠ '.' := by simp
    have htake := takeWhile_replicate_append n hhead
    have hdrop := dropWhile_replicate_append n hhead
    simp only [List.replicate_succ, List.cons_append, List.append_assoc, List.nil_append]
    simp only [Token.read?, readDotted?, htake, hdrop]
    split
    · next more heq =>
      have := hrest rfl '>' (by rw [(List.cons.inj heq).2]; rfl)
      simp [Stroke.extends] at this
    · next more heq => simp [(List.cons.inj heq).2]
    · next hno => exact absurd rfl (hno rest)

theorem Token.isSome_readRun?_append {stroke : Stroke} {mark : Char} {n : Nat} (hn : 3 ≤ n)
    (rest : List Char) : (readRun? stroke mark (List.replicate n mark ++ rest)).isSome := by
  have htake : (List.replicate n mark ++ rest).takeWhile (· == mark) =
      List.replicate n mark ++ rest.takeWhile (· == mark) :=
    List.takeWhile_append_of_pos (by simp)
  simp only [readRun?, htake, List.length_append, List.length_replicate]
  split
  · rw [if_pos (by omega)]
    rfl
  · rw [if_pos (by omega)]
    rfl

/-- A token stays a token, maybe a longer one, whatever is appended to it. -/
theorem Token.isSome_read?_append {kind : EdgeKind} {stroke : Stroke} {text : List Char}
    (h : Spelled kind stroke text) (rest : List Char) : (Token.read? (text ++ rest)).isSome := by
  by_cases hends : kind = .line → ∀ c ∈ rest.head?, stroke.extends c = false
  · rw [read?_append h hends]
    rfl
  · cases h with
    | solidArrow | thickArrow | dottedArrow => exact absurd (fun h => by cases h) hends
    | @solidLine n hn =>
      obtain ⟨n, rfl⟩ := Nat.exists_eq_add_of_le' hn
      exact isSome_readRun?_append hn rest
    | @thickLine n hn =>
      obtain ⟨n, rfl⟩ := Nat.exists_eq_add_of_le' hn
      exact isSome_readRun?_append hn rest
    | @dottedLine n hn =>
      simp only [forall_const, not_forall, Bool.not_eq_false] at hends
      obtain ⟨c, hc, hext⟩ := hends
      obtain ⟨more, rfl⟩ := List.head?_eq_some_iff.1 hc
      obtain rfl : c = '>' := by simpa [Stroke.extends] using hext
      have hlonger := read?_append (.dottedArrow hn)
        (show EdgeKind.arrow = .line → ∀ c ∈ more.head?, _ from nofun)
      simp only [List.cons_append, List.append_assoc, List.nil_append] at hlonger ⊢
      rw [hlonger]
      rfl

/-! ## Texts up to two dashes -/

/-- There are no two dashes in a row, not even with a dash behind the text. -/
def Undashed (s : List Char) : Prop :=
  ¬ ['-', '-'] <:+: s ++ ['-']

theorem undashed_nil : Undashed [] := by
  rintro h
  exact absurd h.length_le (by decide)

theorem undashed_cons {c : Char} {s : List Char} :
    Undashed (c :: s) ↔ ¬ (c = '-' ∧ ∃ t, s ++ ['-'] = '-' :: t) ∧ Undashed s := by
  rw [Undashed, List.cons_append, List.infix_cons_iff, not_or, Undashed]
  refine and_congr_left fun _ => not_congr ?_
  constructor
  · rintro ⟨t, ht⟩
    obtain ⟨hc, hs⟩ := List.cons.inj ht
    exact ⟨hc.symm, t, hs.symm⟩
  · rintro ⟨rfl, t, ht⟩
    exact ⟨t, by rw [ht]; rfl⟩

/-- A text without two dashes in a row has none with another character behind it either. -/
theorem undashed_concat {s : List Char} (h : ¬ ['-', '-'] <:+: s) {c : Char} (hc : c ≠ '-') :
    Undashed (s ++ [c]) := by
  rw [Undashed, List.infix_concat_iff, List.infix_concat_iff, not_or, not_or]
  refine ⟨?_, ?_, h⟩
  · rintro ⟨front, hfront⟩
    have hreverse := congrArg List.reverse hfront
    simp [hc.symm] at hreverse
  · rintro ⟨front, hfront⟩
    have hreverse := congrArg List.reverse hfront
    simp [hc.symm] at hreverse

theorem beforeDashes?_append {s : List Char} (h : Undashed s) (rest : List Char) :
    beforeDashes? (s ++ '-' :: '-' :: rest) = some (s, '-' :: '-' :: rest) := by
  induction s with
  | nil => rfl
  | cons c s ih =>
    obtain ⟨hstart, hs⟩ := undashed_cons.1 h
    rw [List.cons_append, beforeDashes?, ih hs]
    · rfl
    · rintro t rfl ht
      refine hstart ⟨rfl, ?_⟩
      cases s with
      | nil => exact ⟨[], rfl⟩
      | cons d s => exact ⟨s ++ ['-'], by rw [(List.cons.inj ht).1]; rfl⟩

theorem undashed_of_beforeDashes? {s before dashes : List Char}
    (h : beforeDashes? s = some (before, dashes)) :
    Undashed before ∧ ∃ rest, dashes = '-' :: '-' :: rest := by
  fun_induction beforeDashes? s generalizing before with
  | case1 => cases h
  | case2 rest =>
    obtain ⟨rfl, rfl⟩ := Prod.mk.inj (Option.some.inj h)
    exact ⟨undashed_nil, rest, rfl⟩
  | case3 c rest hno ih =>
    obtain ⟨⟨more, dashes⟩, hfound, hsame⟩ := Option.map_eq_some_iff.1 h
    obtain ⟨rfl, rfl⟩ := Prod.mk.inj hsame
    obtain ⟨hmore, after, rfl⟩ := ih hfound
    refine ⟨undashed_cons.2 ⟨?_, hmore⟩, after, rfl⟩
    rintro ⟨rfl, t, ht⟩
    have hwhole := append_of_beforeDashes? hfound
    refine hno (t ++ '-' :: after) rfl ?_
    calc rest = (more ++ ['-']) ++ '-' :: after := by rw [← hwhole]; simp
      _ = '-' :: (t ++ '-' :: after) := by rw [ht]; rfl

/-- Nothing starts with two dashes in a text without dashes. -/
theorem beforeDashes?_eq_none {s : List Char} (h : '-' ∉ s) : beforeDashes? s = none := by
  cases hs : beforeDashes? s with
  | none => rfl
  | some parts =>
    obtain ⟨before, dashes⟩ := parts
    obtain ⟨-, rest, rfl⟩ := undashed_of_beforeDashes? hs
    rw [← append_of_beforeDashes? hs] at h
    exact absurd (by simp) h

/-! ## Connectors -/

/-- The connectors as they are spelled. -/
inductive Spelled : Connector → Prop
  | labelled {kind : EdgeKind} {blanks label : List Char} (hne : blanks ≠ [])
      (hblanks : ∀ c ∈ blanks, Text.isBlank c) (hlabel : label ≠ [])
      (hstart : ∀ c ∈ label.head?, Text.isBlank c = false) (hdashes : Undashed label) :
      Spelled ⟨kind, .solid, some label,
        '-' :: '-' :: (blanks ++ (label ++ ['-', '-', kind.tip]))⟩
  | bare {kind : EdgeKind} {stroke : Stroke} {token blanks : List Char}
      (htoken : Token.Spelled kind stroke token) (hblanks : ∀ c ∈ blanks, Text.isBlank c) :
      Spelled ⟨kind, stroke, none, token ++ blanks⟩
  | piped {kind : EdgeKind} {stroke : Stroke} {token blanks label : List Char}
      (htoken : Token.Spelled kind stroke token) (hblanks : ∀ c ∈ blanks, Text.isBlank c)
      (hlabel : '|' ∉ label) :
      Spelled ⟨kind, stroke, some label, token ++ (blanks ++ ('|' :: label ++ ['|']))⟩

/-- What follows a connector does not make it longer: a connector without a label is not followed by
    more of its token, by a blank or by a label between pipes. -/
def Stops (connector : Connector) (rest : List Char) : Prop :=
  connector.label = none → ∀ c ∈ rest.head?, Text.isBlank c = false ∧
    (c = '|' → '|' ∉ rest.tail) ∧
    (connector.kind = .line → connector.stroke.extends c →
      ∃ b ∈ connector.text.getLast?, Text.isBlank b)

theorem spelled_of_readLabelled? {s : List Char} {connector : Connector}
    (h : readLabelled? s = some connector) :
    connector.Spelled ∧ connector.label ≠ none := by
  unfold readLabelled? at h
  split at h
  · next c s =>
    simp only at h
    split at h
    · next hc =>
      have hblanks : ∀ b ∈ c :: s.takeWhile Text.isBlank, Text.isBlank b := by
        intro b hb
        rcases List.mem_cons.1 hb with rfl | hb
        · exact hc
        · exact List.mem_takeWhile_imp hb
      have hstart {d : Char} {label dashes : List Char}
          (hfound : beforeDashes? (Text.skipBlanks s) = some (d :: label, dashes)) :
          ∀ b ∈ (d :: label).head?, Text.isBlank b = false := by
        intro b hb
        refine Text.apply_head?_dropWhile Text.isBlank s b ?_
        rw [← Text.skipBlanks, ← append_of_beforeDashes? hfound]
        exact hb
      split at h
      · next d label rest hfound =>
        obtain rfl := Option.some.inj h
        refine ⟨?_, by simp⟩
        have : Spelled ⟨.arrow, .solid, some (d :: label), _⟩ :=
          .labelled (List.cons_ne_nil _ _) hblanks (List.cons_ne_nil d label) (hstart hfound)
            (undashed_of_beforeDashes? hfound).1
        simpa [EdgeKind.tip] using this
      · next d label rest hfound =>
        obtain rfl := Option.some.inj h
        refine ⟨?_, by simp⟩
        have : Spelled ⟨.line, .solid, some (d :: label), _⟩ :=
          .labelled (List.cons_ne_nil _ _) hblanks (List.cons_ne_nil d label) (hstart hfound)
            (undashed_of_beforeDashes? hfound).1
        simpa [EdgeKind.tip] using this
      · cases h
    · cases h
  · cases h

/-- A token and the blanks after it stop where no more blank, no more of the token and no label
    follows. -/
theorem stops_bare {token : Token} {rest : List Char}
    (htoken : token.kind = .line → ∀ c ∈ token.rest.head?, token.stroke.extends c = false)
    (hrest : Text.skipBlanks token.rest = rest) (hpipe : ∀ more, rest = '|' :: more → '|' ∉ more) :
    Stops ⟨token.kind, token.stroke, none, token.text ++ token.rest.takeWhile Text.isBlank⟩ rest := by
  rintro - c hc
  obtain ⟨more, rfl⟩ := List.head?_eq_some_iff.1 hc
  refine ⟨?_, ?_, fun hkind hext => ?_⟩
  · refine Text.apply_head?_dropWhile Text.isBlank token.rest c ?_
    rw [← Text.skipBlanks, hrest]
    rfl
  · rintro rfl
    exact hpipe more rfl
  · cases hblanks : token.rest.takeWhile Text.isBlank with
    | nil =>
      have hall := List.takeWhile_append_dropWhile (p := Text.isBlank) (l := token.rest)
      rw [hblanks, ← Text.skipBlanks, hrest, List.nil_append] at hall
      have := htoken hkind c (by rw [← hall]; rfl)
      rw [hext] at this
      cases this
    | cons b blanks =>
      refine ⟨(b :: blanks).getLast (List.cons_ne_nil b blanks), ?_, ?_⟩
      · rw [List.getLast?_append_of_ne_nil _ (List.cons_ne_nil b blanks)]
        exact List.getLast?_eq_some_getLast _
      · refine List.mem_takeWhile_imp (l := token.rest) ?_
        rw [hblanks]
        exact List.getLast_mem _

theorem spelled_of_readPiped? {s : List Char} {connector : Connector}
    (h : readPiped? s = some connector) :
    connector.Spelled ∧ ∀ rest, s = connector.text ++ rest → connector.Stops rest := by
  obtain ⟨token, htoken, rfl⟩ := Option.map_eq_some_iff.1 h
  have hwhole := Token.text_append_rest htoken
  obtain ⟨hspelled, hends⟩ := Token.spelled_of_read? htoken
  have hblanks : ∀ c ∈ token.rest.takeWhile Text.isBlank, Text.isBlank c :=
    fun _ => List.mem_takeWhile_imp
  have hall := List.takeWhile_append_dropWhile (p := Text.isBlank) (l := token.rest)
  -- what is left of the text behind a token and its blanks
  have hleft : ∀ rest, s = (token.text ++ token.rest.takeWhile Text.isBlank) ++ rest →
      Text.skipBlanks token.rest = rest := by
    intro rest hs
    rw [← hwhole, List.append_assoc, List.append_cancel_left_eq] at hs
    exact List.append_cancel_left (hall.trans hs)
  simp only
  split
  · next rest heq =>
    split
    · next hnone =>
      refine ⟨.bare hspelled hblanks, fun after hs => stops_bare hends (hleft after hs) ?_⟩
      rintro more rfl
      rw [hleft _ hs] at heq
      obtain rfl := (List.cons.inj heq).2
      intro hmem
      simpa using List.dropWhile_eq_nil_iff.1 hnone _ hmem
    · next c more hsome =>
      refine ⟨?_, fun _ _ hlabel => by cases hlabel⟩
      have hlabel : '|' ∉ rest.takeWhile (· != '|') :=
        fun hmem => by simpa using List.mem_takeWhile_imp hmem
      have := Spelled.piped hspelled hblanks hlabel
      simpa using this
  · next hno =>
    refine ⟨.bare hspelled hblanks, fun after hs => stops_bare hends (hleft after hs) ?_⟩
    rintro more rfl
    exact absurd (hleft _ hs) (hno more)

/-! ## Reading what is spelled -/

/-- The characters that tokens are made of. -/
theorem mem_token_cases {kind : EdgeKind} {stroke : Stroke} {token : List Char}
    (h : Token.Spelled kind stroke token) {c : Char} (hc : c ∈ token) :
    c = '-' ∨ c = '=' ∨ c = '.' ∨ c = '>' := by
  have hrun {n : Nat} {mark : Char} (hc : c ∈ List.replicate n mark) : c = mark :=
    List.eq_of_mem_replicate hc
  cases h with
  | solidArrow =>
    rcases List.mem_append.1 hc with hc | hc
    · exact .inl (hrun hc)
    · exact .inr (.inr (.inr (List.mem_singleton.1 hc)))
  | solidLine => exact .inl (hrun hc)
  | thickArrow =>
    rcases List.mem_append.1 hc with hc | hc
    · exact .inr (.inl (hrun hc))
    · exact .inr (.inr (.inr (List.mem_singleton.1 hc)))
  | thickLine => exact .inr (.inl (hrun hc))
  | dottedArrow | dottedLine =>
    rcases List.mem_append.1 hc with hc | hc
    · rcases List.mem_cons.1 hc with rfl | hc
      · exact .inl rfl
      · exact .inr (.inr (.inl (hrun hc)))
    · simp only [List.mem_cons, List.not_mem_nil, or_false] at hc
      rcases hc with rfl | rfl <;> decide

theorem isWhite_of_mem_token {kind : EdgeKind} {stroke : Stroke} {token : List Char}
    (h : Token.Spelled kind stroke token) : ∀ c ∈ token, Text.isWhite c = false := by
  intro c hc
  rcases mem_token_cases h hc with rfl | rfl | rfl | rfl <;> decide

/-- A token does not open a text between dashes, which stands apart from its first two dashes. -/
theorem readLabelled?_token {kind : EdgeKind} {stroke : Stroke} {token : List Char}
    (h : Token.Spelled kind stroke token) (rest : List Char) :
    readLabelled? (token ++ rest) = none := by
  cases h with
  | @solidArrow n hn =>
    obtain ⟨n, rfl⟩ := Nat.exists_eq_add_of_le' hn
    cases n <;> rfl
  | @solidLine n hn =>
    obtain ⟨n, rfl⟩ := Nat.exists_eq_add_of_le' hn
    rfl
  | @thickArrow n hn =>
    obtain ⟨n, rfl⟩ := Nat.exists_eq_add_of_le' hn
    rfl
  | @thickLine n hn =>
    obtain ⟨n, rfl⟩ := Nat.exists_eq_add_of_le' hn
    rfl
  | @dottedArrow n hn =>
    obtain ⟨n, rfl⟩ := Nat.exists_eq_add_of_le' hn
    rfl
  | @dottedLine n hn =>
    obtain ⟨n, rfl⟩ := Nat.exists_eq_add_of_le' hn
    rfl

theorem readLabelled?_append {kind : EdgeKind} {blanks label : List Char} (hne : blanks ≠ [])
    (hblanks : ∀ c ∈ blanks, Text.isBlank c) (hlabel : label ≠ [])
    (hstart : ∀ c ∈ label.head?, Text.isBlank c = false) (hdashes : Undashed label)
    (rest : List Char) :
    readLabelled? ('-' :: '-' :: (blanks ++ (label ++ ['-', '-', kind.tip])) ++ rest) =
      some ⟨kind, .solid, some label,
        '-' :: '-' :: (blanks ++ (label ++ ['-', '-', kind.tip]))⟩ := by
  obtain ⟨b, blanks, rfl⟩ := List.exists_cons_of_ne_nil hne
  obtain ⟨d, label, rfl⟩ := List.exists_cons_of_ne_nil hlabel
  obtain ⟨hb, hblanks⟩ := List.forall_mem_cons.1 hblanks
  have hhead : ∀ c ∈ (d :: label ++ '-' :: '-' :: kind.tip :: rest).head?,
      Text.isBlank c = false := by
    simpa using hstart d rfl
  have htake := Text.takeWhile_append_of_head? hblanks hhead
  have hdrop := Text.dropWhile_append_of_head? hblanks hhead
  have hbefore := beforeDashes?_append hdashes (kind.tip :: rest)
  have hwhole : '-' :: '-' :: (b :: blanks ++ (d :: label ++ ['-', '-', kind.tip])) ++ rest =
      '-' :: '-' :: b :: (blanks ++ (d :: label ++ '-' :: '-' :: kind.tip :: rest)) := by
    simp
  rw [hwhole]
  simp only [readLabelled?, if_pos hb, Text.skipBlanks, htake, hdrop, hbefore]
  cases kind <;> simp [EdgeKind.tip]

/-- Blanks and pipes never make a token longer. -/
theorem read?_token_blanks {kind : EdgeKind} {stroke : Stroke} {token blanks rest : List Char}
    (htoken : Token.Spelled kind stroke token) (hblanks : ∀ c ∈ blanks, Text.isBlank c)
    (hends : kind = .line → blanks = [] → ∀ c ∈ rest.head?, stroke.extends c = false) :
    Token.read? (token ++ (blanks ++ rest)) = some ⟨kind, stroke, token, blanks ++ rest⟩ := by
  refine Token.read?_append htoken fun hkind c hc => ?_
  cases blanks with
  | nil => exact hends hkind rfl c hc
  | cons b blanks =>
    obtain rfl : b = c := by simpa using hc
    have hb := hblanks b List.mem_cons_self
    simp only [Text.isBlank, Bool.or_eq_true, beq_iff_eq] at hb
    rcases hb with rfl | rfl <;> cases stroke <;> rfl

theorem readPiped?_bare {kind : EdgeKind} {stroke : Stroke} {token blanks rest : List Char}
    (htoken : Token.Spelled kind stroke token) (hblanks : ∀ c ∈ blanks, Text.isBlank c)
    (hrest : ∀ c ∈ rest.head?, Text.isBlank c = false)
    (hpipe : ∀ more, rest = '|' :: more → '|' ∉ more)
    (hends : kind = .line → blanks = [] → ∀ c ∈ rest.head?, stroke.extends c = false) :
    readPiped? (token ++ (blanks ++ rest)) = some ⟨kind, stroke, none, token ++ blanks⟩ := by
  simp only [readPiped?, read?_token_blanks htoken hblanks hends, Option.map_some, Text.skipBlanks,
    Text.takeWhile_append_of_head? hblanks hrest, Text.dropWhile_append_of_head? hblanks hrest]
  split
  · next more =>
    have hnone : more.dropWhile (· != '|') = [] := by
      rw [List.dropWhile_eq_nil_iff]
      intro c hc
      rw [bne_iff_ne]
      rintro rfl
      exact hpipe more rfl hc
    rw [hnone]
  · rfl

theorem readPiped?_label {kind : EdgeKind} {stroke : Stroke} {token blanks label : List Char}
    (htoken : Token.Spelled kind stroke token) (hblanks : ∀ c ∈ blanks, Text.isBlank c)
    (hlabel : '|' ∉ label) (rest : List Char) :
    readPiped? (token ++ (blanks ++ '|' :: (label ++ '|' :: rest))) =
      some ⟨kind, stroke, some label, token ++ (blanks ++ ('|' :: label ++ ['|']))⟩ := by
  have hbar : ∀ c ∈ ('|' :: (label ++ '|' :: rest)).head?, Text.isBlank c = false := by
    simp [Text.isBlank]
  have hends : kind = .line → blanks = [] →
      ∀ c ∈ ('|' :: (label ++ '|' :: rest)).head?, stroke.extends c = false := by
    rintro - - c hc
    obtain rfl : '|' = c := by simpa using hc
    cases stroke <;> rfl
  have hchars : ∀ c ∈ label, (c != '|') = true := by
    intro c hc
    rw [bne_iff_ne]
    rintro rfl
    exact hlabel hc
  have htake : (label ++ '|' :: rest).takeWhile (· != '|') = label :=
    Text.takeWhile_append_of_head? hchars (by simp)
  have hdrop : (label ++ '|' :: rest).dropWhile (· != '|') = '|' :: rest :=
    Text.dropWhile_append_of_head? hchars (by simp)
  simp only [readPiped?, read?_token_blanks htoken hblanks hends, Option.map_some, Text.skipBlanks,
    Text.takeWhile_append_of_head? hblanks hbar, Text.dropWhile_append_of_head? hblanks hbar,
    htake, hdrop]
  simp

/-- A connector is read from a text exactly if the text starts with its spelling and does not go on
    with it. -/
theorem read?_eq_some_iff {s : List Char} {connector : Connector} :
    read? s = some connector ↔
      connector.Spelled ∧ ∃ rest, s = connector.text ++ rest ∧ connector.Stops rest := by
  constructor
  · intro h
    obtain ⟨rest, hrest⟩ := text_prefix h
    rcases Option.or_eq_some_iff.1 h with h | ⟨-, h⟩
    · obtain ⟨hspelled, hlabel⟩ := spelled_of_readLabelled? h
      exact ⟨hspelled, rest, hrest.symm, fun hnone => absurd hnone hlabel⟩
    · obtain ⟨hspelled, hstops⟩ := spelled_of_readPiped? h
      exact ⟨hspelled, rest, hrest.symm, hstops rest hrest.symm⟩
  · rintro ⟨hspelled, rest, rfl, hstops⟩
    cases hspelled with
    | labelled hne hblanks hlabel hstart hdashes =>
      rw [read?, readLabelled?_append hne hblanks hlabel hstart hdashes, Option.some_or]
    | @bare kind stroke token blanks htoken hblanks =>
      have hstop := hstops rfl
      have hends : kind = .line → blanks = [] → ∀ c ∈ rest.head?, stroke.extends c = false := by
        rintro hkind rfl c hc
        by_contra hext
        obtain ⟨b, hb, hblank⟩ := (hstop c hc).2.2 hkind (by simpa using hext)
        rw [List.append_nil] at hb
        have hwhite := isWhite_of_mem_token htoken b (List.mem_of_getLast? hb)
        rw [Text.isBlank_of_isWhite_eq_false hwhite] at hblank
        cases hblank
      rw [read?, List.append_assoc, readLabelled?_token htoken, Option.none_or]
      refine readPiped?_bare htoken hblanks (fun c hc => (hstop c hc).1) ?_ hends
      rintro more rfl
      exact (hstop '|' rfl).2.1 rfl
    | piped htoken hblanks hlabel =>
      rw [read?]
      simp only [List.append_assoc, List.cons_append, List.nil_append]
      rw [readLabelled?_token htoken, Option.none_or]
      simpa using readPiped?_label htoken hblanks hlabel rest

/-! ## Locality -/

theorem Token.exists_cons_of_spelled {kind : EdgeKind} {stroke : Stroke} {token : List Char}
    (h : Spelled kind stroke token) : ∃ c more, token = c :: more ∧ (c = '-' ∨ c = '=') := by
  cases h with
  | @solidArrow n hn | @solidLine n hn =>
    obtain ⟨n, rfl⟩ := Nat.exists_eq_add_of_le' hn
    exact ⟨_, _, rfl, .inl rfl⟩
  | @thickArrow n hn | @thickLine n hn =>
    obtain ⟨n, rfl⟩ := Nat.exists_eq_add_of_le' hn
    exact ⟨_, _, rfl, .inr rfl⟩
  | dottedArrow | dottedLine => exact ⟨_, _, rfl, .inl rfl⟩

/-- A connector starts with a dash or an equals sign. -/
theorem Spelled.exists_cons {connector : Connector} (h : connector.Spelled) :
    ∃ c more, connector.text = c :: more ∧ (c = '-' ∨ c = '=') := by
  cases h with
  | labelled => exact ⟨_, _, rfl, .inl rfl⟩
  | bare htoken | piped htoken =>
    obtain ⟨c, more, rfl, hc⟩ := Token.exists_cons_of_spelled htoken
    exact ⟨c, _, rfl, hc⟩

theorem head_of_read? {c : Char} {s : List Char} {connector : Connector}
    (h : read? (c :: s) = some connector) : c = '-' ∨ c = '=' := by
  obtain ⟨hspelled, rest, hs, -⟩ := read?_eq_some_iff.1 h
  obtain ⟨d, more, htext, hd⟩ := hspelled.exists_cons
  rw [htext] at hs
  obtain ⟨rfl, -⟩ := List.cons.inj hs
  exact hd

theorem read?_eq_none_of_ne {c : Char} (s : List Char) (hdash : c ≠ '-') (hequals : c ≠ '=') :
    read? (c :: s) = none := by
  cases h : read? (c :: s) with
  | none => rfl
  | some connector => exact ((head_of_read? h).elim hdash hequals).elim

/-- A connector that a text holds whole is read from this text alone. -/
theorem read?_of_append {s t : List Char} {connector : Connector}
    (h : read? (s ++ t) = some connector) (hs : connector.text <+: s) :
    read? s = some connector := by
  obtain ⟨hspelled, rest, hrest, hstops⟩ := read?_eq_some_iff.1 h
  obtain ⟨after, rfl⟩ := hs
  rw [List.append_assoc, List.append_cancel_left_eq] at hrest
  subst hrest
  refine read?_eq_some_iff.2 ⟨hspelled, after, rfl, fun hlabel c hc => ?_⟩
  obtain ⟨more, rfl⟩ := List.head?_eq_some_iff.1 hc
  obtain ⟨hblank, hpipe, hext⟩ := hstops hlabel c rfl
  exact ⟨hblank, fun hbar hmem => hpipe hbar (List.mem_append_left _ hmem), hext⟩

/-- Appending to a text hides no connector. -/
theorem read?_eq_none_of_append {s t : List Char} (h : read? (s ++ t) = none) : read? s = none := by
  cases hs : read? s with
  | none => rfl
  | some connector =>
    obtain ⟨hspelled, rest, rfl, -⟩ := read?_eq_some_iff.1 hs
    by_cases hlabel : connector.label = none
    · cases hspelled with
      | labelled | piped => cases hlabel
      | @bare kind stroke token blanks htoken =>
        obtain ⟨found, hfound⟩ :=
          Option.isSome_iff_exists.1 (Token.isSome_read?_append htoken (blanks ++ (rest ++ t)))
        rw [List.append_assoc, List.append_assoc, read?, readLabelled?_token htoken,
          Option.none_or, readPiped?, hfound] at h
        cases h
    · have hread : read? (connector.text ++ (rest ++ t)) = some connector :=
        read?_eq_some_iff.2 ⟨hspelled, rest ++ t, rfl, fun hnone => absurd hnone hlabel⟩
      rw [← List.append_assoc, h] at hread
      cases hread

/-- A connector with a label does not end with white space. -/
theorem isWhite_getLast?_text {connector : Connector} (h : connector.Spelled)
    (hlabel : connector.label ≠ none) : ∀ c ∈ connector.text.getLast?, Text.isWhite c = false := by
  cases h with
  | @labelled kind blanks label =>
    have hend : '-' :: '-' :: (blanks ++ (label ++ ['-', '-', kind.tip])) =
        '-' :: '-' :: (blanks ++ (label ++ ['-', '-'])) ++ [kind.tip] := by simp
    simp only [hend, List.getLast?_concat, Option.mem_some, forall_eq']
    cases kind <;> decide
  | bare => exact absurd rfl hlabel
  | @piped kind stroke token blanks label =>
    have hend : token ++ (blanks ++ ('|' :: label ++ ['|'])) =
        token ++ (blanks ++ '|' :: label) ++ ['|'] := by simp
    simp only [hend, List.getLast?_concat, Option.mem_some, forall_eq']
    decide

/-- White space behind a text adds nothing to a connector but blanks, and those only to a connector
    that takes up the whole text. -/
theorem read?_of_append_white {s t : List Char} {connector : Connector}
    (ht : ∀ c ∈ t, Text.isWhite c) (h : read? (s ++ t) = some connector) :
    read? s = some connector ∨
      ∃ u v, t = u ++ v ∧ connector.text = s ++ u ∧ read? s = some { connector with text := s } := by
  obtain ⟨hspelled, rest, hrest, -⟩ := read?_eq_some_iff.1 h
  rcases List.append_eq_append_iff.1 hrest with ⟨u, htext, rfl⟩ | ⟨u, hs, -⟩
  · have hwhite : ∀ c ∈ u, Text.isWhite c := fun c hc => ht c (List.mem_append_left _ hc)
    by_cases hlabel : connector.label = none
    · refine .inr ⟨u, rest, rfl, htext, ?_⟩
      cases hspelled with
      | labelled | piped => cases hlabel
      | @bare kind stroke token blanks htoken hblanks =>
        rcases List.append_eq_append_iff.1 htext with ⟨w, rfl, hu⟩ | ⟨w, rfl, hu⟩
        · refine read?_eq_some_iff.2 ⟨.bare htoken fun c hc => hblanks c ?_, [], by simp, ?_⟩
          · rw [hu]
            exact List.mem_append_left _ hc
          · rintro - c hc
            cases hc
        · cases w with
          | nil =>
            rw [List.append_nil] at htoken ⊢
            have := Spelled.bare htoken (List.forall_mem_nil _)
            rw [List.append_nil] at this
            exact read?_eq_some_iff.2 ⟨this, [], by simp, by rintro - c hc; cases hc⟩
          | cons c w =>
            have hc := isWhite_of_mem_token htoken c (by simp)
            rw [hwhite c (by simp [hu])] at hc
            cases hc
    · left
      refine read?_of_append h ⟨[], ?_⟩
      cases hu : u with
      | nil => simp [htext, hu]
      | cons c w =>
        have hend := isWhite_getLast?_text hspelled hlabel (u.getLast (by simp [hu]))
          (by rw [htext, List.getLast?_append_of_ne_nil _ (by simp [hu])]
              exact List.getLast?_eq_some_getLast _)
        rw [hwhite _ (List.getLast_mem _)] at hend
        cases hend
  · exact .inl (read?_of_append h ⟨u, hs.symm⟩)

end Connector

end Flowchart
