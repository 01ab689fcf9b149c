-- SUMMARY: What decoding leaves of a label, and how a label is written so that decoding gives it back.
import Flowchart.Label
import Flowchart.Proofs.White

/-!
# Decoding and escaping labels

Decoding never makes a label longer. A label that decoding leaves alone holds no escape token, and
neither starts nor ends with a quote or white space. Unescaping gives the same text whichever
characters are written as tokens. So a label can stand in double quotes if the quotes inside it are
escaped.
-/

namespace Flowchart

/-! ## Tokens -/

/-- A token starts with a hash, and with no other. -/
theorem Escape.exists_token_eq_cons (e : Escape) : ∃ name, e.token = '#' :: name ∧ '#' ∉ name := by
  cases e <;> exact ⟨_, rfl, by decide⟩

/-- No token holds a character that is written as a token. -/
theorem Escape.char_notMem_token (e other : Escape) : other.char ∉ e.token := by
  cases e <;> cases other <;> decide

namespace Label

/-! ## Unescaping -/

/-- A character that no token starts with stays. -/
theorem unescape_cons {c : Char} {s : List Char} (h : ∀ e : Escape, ¬ e.token <+: c :: s) :
    unescape (c :: s) = c :: unescape s := by
  rw [unescape]
  · rintro rest rfl rfl
    exact h .quote ⟨rest, rfl⟩
  · rintro rest rfl rfl
    exact h .openParen ⟨rest, rfl⟩
  · rintro rest rfl rfl
    exact h .closeParen ⟨rest, rfl⟩
  · rintro rest rfl rfl
    exact h .apostrophe ⟨rest, rfl⟩
  · rintro rest rfl rfl
    exact h .ampersand ⟨rest, rfl⟩

theorem unescape_cons_of_ne {c : Char} (h : c ≠ '#') (s : List Char) :
    unescape (c :: s) = c :: unescape s := by
  refine unescape_cons fun e he => h ?_
  obtain ⟨name, hname, -⟩ := e.exists_token_eq_cons
  rw [hname] at he
  exact (List.cons_prefix_cons.1 he).1.symm

/-- To prove something of every text, follow its escape tokens. -/
@[elab_as_elim]
theorem unescapeInduction {motive : List Char → Prop} (nil : motive [])
    (token : ∀ (e : Escape) rest, motive rest → motive (e.token ++ rest))
    (char : ∀ c s, (∀ e : Escape, ¬ e.token <+: c :: s) → motive s → motive (c :: s))
    (s : List Char) : motive s := by
  induction hn : s.length using Nat.strongRecOn generalizing s with
  | ind n ih =>
    cases s with
    | nil => exact nil
    | cons c s =>
      by_cases h : ∃ e : Escape, e.token <+: c :: s
      · obtain ⟨e, rest, hrest⟩ := h
        rw [← hrest] at hn ⊢
        refine token e rest (ih _ ?_ _ rfl)
        rw [← hn, List.length_append]
        cases e <;> exact Nat.lt_add_of_pos_left (by decide)
      · exact char c s (not_exists.1 h) (ih _ (by simp [← hn]) _ rfl)

theorem length_unescape_le (s : List Char) : (unescape s).length ≤ s.length := by
  induction s using unescapeInduction with
  | nil => exact Nat.le_refl _
  | token e rest ih =>
    rw [unescape_token_append, List.length_cons, List.length_append]
    have : 1 ≤ e.token.length := by cases e <;> decide
    omega
  | char c s h ih =>
    rw [unescape_cons h]
    exact Nat.succ_le_succ ih

/-- A token is longer than the character it stands for. -/
theorem length_unescape_token_append_lt (e : Escape) (rest : List Char) :
    (unescape (e.token ++ rest)).length < (e.token ++ rest).length := by
  have hrest := length_unescape_le rest
  rw [unescape_token_append, List.length_cons, List.length_append]
  have : 2 ≤ e.token.length := by cases e <;> decide
  omega

/-- A text that does not get shorter holds no token. -/
theorem unescape_eq_self_of_length {s : List Char} (h : s.length ≤ (unescape s).length) :
    unescape s = s := by
  induction s using unescapeInduction with
  | nil => rfl
  | token e rest ih =>
    have := length_unescape_token_append_lt e rest
    omega
  | char c s hno ih =>
    rw [unescape_cons hno] at h ⊢
    rw [ih (Nat.le_of_succ_le_succ h)]

/-! ## What follows a label -/

/-- What starts with a part that does not hold an element starts so before that element. -/
theorem isPrefix_append_cons_iff {p s t : List Char} {c : Char} (h : c ∉ p) :
    p <+: s ++ c :: t ↔ p <+: s := by
  constructor
  · intro hp
    rcases List.prefix_or_prefix_of_prefix hp (List.prefix_append s (c :: t)) with hps | ⟨u, rfl⟩
    · exact hps
    · rw [List.prefix_append_right_inj] at hp
      cases u with
      | nil => simp
      | cons d u =>
        obtain ⟨rfl, -⟩ := List.cons_prefix_cons.1 hp
        exact absurd (by simp) h
  · exact fun hp => hp.trans (List.prefix_append s (c :: t))

/-- A token does not go on into a text that starts with a character of no token. -/
theorem unescape_append (s : List Char) {t : List Char}
    (ht : ∀ c ∈ t.head?, ∀ e : Escape, c ∉ e.token) :
    unescape (s ++ t) = unescape s ++ unescape t := by
  induction s using unescapeInduction with
  | nil => rfl
  | token e rest ih =>
    rw [List.append_assoc, unescape_token_append, unescape_token_append, ih, List.cons_append]
  | char c s hno ih =>
    rw [List.cons_append, unescape_cons, ih, unescape_cons hno, List.cons_append]
    intro e he
    cases t with
    | nil => exact hno e (by rwa [List.append_nil] at he)
    | cons b t => exact hno e ((isPrefix_append_cons_iff (ht b rfl e)).1 he)

/-- Tokens hold no white space. -/
theorem isWhite_of_mem_token {c : Char} {e : Escape} (h : c ∈ e.token) : Text.isWhite c = false := by
  have hall : e.token.all (!Text.isWhite ·) := by cases e <;> decide
  simpa using List.all_eq_true.1 hall c h

theorem unescape_white {s : List Char} (h : ∀ c ∈ s, Text.isWhite c) : unescape s = s := by
  induction s with
  | nil => rfl
  | cons b s ih =>
    obtain ⟨hb, hmore⟩ := List.forall_mem_cons.1 h
    rw [unescape_cons_of_ne (Text.ne_of_apply hb (by decide)), ih hmore]

/-- White space behind a label does not show. -/
theorem decode_append_white (s : List Char) {t : List Char} (ht : ∀ c ∈ t, Text.isWhite c) :
    decode (s ++ t) = decode s := by
  have hstart : ∀ c ∈ t.head?, ∀ e : Escape, c ∉ e.token := by
    intro c hc e hmem
    exact Text.ne_of_apply (ht c (List.mem_of_mem_head? hc)) (isWhite_of_mem_token hmem) rfl
  rw [decode, unescape_append s hstart, unescape_white ht, Text.trim_append_white _ ht, decode]

/-! ## Labels that decoding leaves alone -/

theorem stripQuotes_sublist (s : List Char) : (stripQuotes s).Sublist s :=
  (List.rdropWhile_prefix _ _).sublist.trans (List.dropWhile_sublist _)

/-- A label that decoding leaves alone is left alone by every step of it. -/
theorem eq_self_of_decode_eq_self {s : List Char} (h : decode s = s) :
    unescape s = s ∧ Text.trim s = s ∧ stripQuotes s = s := by
  have htrim := Text.trim_sublist (unescape s)
  have hstrip := stripQuotes_sublist (Text.trim (unescape s))
  have hinner := Text.trim_sublist (stripQuotes (Text.trim (unescape s)))
  rw [← decode, h] at hinner
  have hunescape : unescape s = s := by
    refine unescape_eq_self_of_length ?_
    exact hinner.length_le.trans (hstrip.length_le.trans htrim.length_le)
  rw [hunescape] at htrim hstrip hinner
  have htrim' : Text.trim s = s :=
    htrim.eq_of_length_le (hinner.length_le.trans hstrip.length_le)
  rw [htrim'] at hstrip hinner
  exact ⟨hunescape, htrim', hstrip.eq_of_length_le hinner.length_le⟩

theorem stripQuotes_reverse (s : List Char) : stripQuotes s.reverse = (stripQuotes s).reverse :=
  Text.dropEndWhile_dropWhile_reverse _ s

/-- What stripping leaves does not start with a quote. -/
theorem ne_quote_head?_stripQuotes (s : List Char) : ∀ c ∈ (stripQuotes s).head?, c ≠ '"' := by
  intro c hc
  have hhead := Text.head?_of_isPrefix (List.rdropWhile_prefix _ _) c hc
  simpa using Text.apply_head?_dropWhile (· == '"') s c hhead

/-- What stripping leaves does not end with a quote. -/
theorem ne_quote_getLast?_stripQuotes (s : List Char) :
    ∀ c ∈ (stripQuotes s).getLast?, c ≠ '"' := by
  rw [← List.head?_reverse, ← stripQuotes_reverse]
  exact ne_quote_head?_stripQuotes s.reverse

theorem stripQuotes_eq_self {s : List Char} (hstart : ∀ c ∈ s.head?, c ≠ '"')
    (hend : ∀ c ∈ s.getLast?, c ≠ '"') : stripQuotes s = s := by
  have hfront : s.dropWhile (· == '"') = s := by
    apply Text.dropWhile_eq_self
    intro c hc
    simpa using hstart c hc
  rw [stripQuotes, hfront, Text.dropEndWhile_eq_rdropWhile, List.rdropWhile_eq_self_iff]
  intro hne
  simpa using hend _ (List.getLast?_eq_some_getLast hne)

/-! ## Characters written as tokens -/

/-- The second text is the first one with some of its characters written as tokens. -/
inductive Respelled : List Char → List Char → Prop
  | nil : Respelled [] []
  | keep (c : Char) {s t : List Char} (h : Respelled s t) : Respelled (c :: s) (c :: t)
  | escape (e : Escape) {s t : List Char} (h : Respelled s t) :
      Respelled (e.char :: s) (e.token ++ t)

namespace Respelled

variable {s t : List Char}

theorem refl (s : List Char) : Respelled s s := by
  induction s with
  | nil => exact .nil
  | cons c s ih => exact .keep c ih

theorem append {s' t' : List Char} (h : Respelled s t) (h' : Respelled s' t') :
    Respelled (s ++ s') (t ++ t') := by
  induction h with
  | nil => exact h'
  | keep c _ ih => exact .keep c ih
  | escape e _ ih =>
    rw [List.append_assoc]
    exact .escape e ih

/-- What holds no hash is no part of a token that was written. -/
theorem isPrefix_of_isPrefix {p : List Char} (h : Respelled s t) (hp : '#' ∉ p) (ht : p <+: t) :
    p <+: s := by
  induction h generalizing p with
  | nil => exact ht
  | keep c _ ih =>
    cases p with
    | nil => exact List.nil_prefix
    | cons d p =>
      obtain ⟨rfl, hrest⟩ := List.cons_prefix_cons.1 ht
      exact List.cons_prefix_cons.2 ⟨rfl, ih (fun hmem => hp (List.mem_cons_of_mem d hmem)) hrest⟩
  | escape e _ _ =>
    cases p with
    | nil => exact List.nil_prefix
    | cons d p =>
      obtain ⟨name, hname, -⟩ := e.exists_token_eq_cons
      rw [hname, List.cons_append] at ht
      obtain ⟨rfl, -⟩ := List.cons_prefix_cons.1 ht
      exact absurd List.mem_cons_self hp

/-- Characters that cannot be written as tokens are kept. -/
theorem exists_of_append {p : List Char} (hp : ∀ e : Escape, e.char ∉ p)
    (h : Respelled (p ++ s) t) : ∃ t', t = p ++ t' ∧ Respelled s t' := by
  induction p generalizing t with
  | nil => exact ⟨t, rfl, h⟩
  | cons c p ih =>
    rw [List.cons_append] at h
    cases h with
    | keep _ h =>
      obtain ⟨t', rfl, ht⟩ := ih (fun e hmem => hp e (List.mem_cons_of_mem c hmem)) h
      exact ⟨t', rfl, ht⟩
    | escape e _ => exact absurd List.mem_cons_self (hp e)

/-- Unescaping does not tell which characters were written as tokens. -/
theorem unescape_eq (h : Respelled s t) : unescape t = unescape s := by
  induction s using unescapeInduction generalizing t with
  | nil =>
    cases h
    rfl
  | token e rest ih =>
    obtain ⟨t', rfl, ht⟩ := h.exists_of_append e.char_notMem_token
    rw [unescape_token_append, unescape_token_append, ih ht]
  | char c s hno ih =>
    cases h with
    | keep _ h =>
      rw [unescape_cons hno, unescape_cons, ih h]
      -- a token that starts with `c` now did so before
      intro e he
      obtain ⟨name, hname, hhash⟩ := e.exists_token_eq_cons
      rw [hname] at he
      obtain ⟨rfl, hrest⟩ := List.cons_prefix_cons.1 he
      apply hno e
      rw [hname]
      exact List.cons_prefix_cons.2 ⟨rfl, h.isPrefix_of_isPrefix hhash hrest⟩
    | escape e h => rw [unescape_token_append, unescape_cons hno, ih h]

end Respelled

/-! ## Writing a label in quotes -/

/-- A text with its double quotes written as tokens. -/
def escapeQuotes (s : List Char) : List Char :=
  s.flatMap fun c => if c = '"' then Escape.quote.token else [c]

theorem escapeQuotes_cons_of_ne {c : Char} (h : c ≠ '"') (s : List Char) :
    escapeQuotes (c :: s) = c :: escapeQuotes s := by
  simp [escapeQuotes, h]

/-- A label as it is written between delimiters. -/
def quoted (s : List Char) : List Char :=
  '"' :: (escapeQuotes s ++ ['"'])

theorem mem_of_mem_escapeQuotes {c : Char} {s : List Char} (h : c ∈ escapeQuotes s) :
    c ∈ Escape.quote.token ∨ c ∈ s ∧ c ≠ '"' := by
  obtain ⟨d, hd, hc⟩ := List.mem_flatMap.1 h
  by_cases hquote : d = '"'
  · rw [if_pos hquote] at hc
    exact .inl hc
  · rw [if_neg hquote, List.mem_singleton] at hc
    exact .inr ⟨hc ▸ hd, hc ▸ hquote⟩

theorem respelled_escapeQuotes (s : List Char) : Respelled s (escapeQuotes s) := by
  induction s with
  | nil => exact .nil
  | cons c s ih =>
    by_cases hc : c = '"'
    · subst hc
      exact .escape .quote ih
    · rw [escapeQuotes_cons_of_ne hc]
      exact .keep c ih

/-- Unescaping undoes the escaping of quotes in a text without tokens. -/
theorem unescape_escapeQuotes_append {s : List Char} (h : unescape s = s) (rest : List Char) :
    unescape (escapeQuotes s ++ '"' :: rest) = s ++ '"' :: unescape rest := by
  have hquote : ∀ c ∈ ('"' :: rest).head?, ∀ e : Escape, c ∉ e.token := by
    rintro c ⟨⟩ e
    exact e.char_notMem_token .quote
  calc unescape (escapeQuotes s ++ '"' :: rest)
    _ = unescape (s ++ '"' :: rest) := ((respelled_escapeQuotes s).append (.refl _)).unescape_eq
    _ = s ++ '"' :: unescape rest := by
      rw [unescape_append s hquote, h, unescape_cons_of_ne (by decide)]

/-- A label that decoding leaves alone is read back from its quotes. -/
theorem decode_quoted {s : List Char} (hne : s ≠ []) (h : decode s = s) : decode (quoted s) = s := by
  obtain ⟨hunescape, htrim, hstrip⟩ := eq_self_of_decode_eq_self h
  have hstart := ne_quote_head?_stripQuotes s
  have hend := ne_quote_getLast?_stripQuotes s
  rw [hstrip] at hstart hend
  have hraw : unescape (quoted s) = '"' :: (s ++ ['"']) := by
    rw [quoted, unescape_cons_of_ne (by decide), unescape_escapeQuotes_append hunescape]
    rfl
  have houter : Text.trim ('"' :: (s ++ ['"'])) = '"' :: (s ++ ['"']) := by
    refine Text.trim_eq_self ?_ ?_
    · rintro c ⟨⟩
      decide
    · rw [← List.cons_append, List.getLast?_concat]
      rintro c ⟨⟩
      decide
  have hquotes : stripQuotes ('"' :: (s ++ ['"'])) = s := by
    have hfront : (s ++ ['"']).dropWhile (· == '"') = s ++ ['"'] := by
      obtain ⟨c, t, rfl⟩ := List.exists_cons_of_ne_nil hne
      exact List.dropWhile_cons_of_neg (by simpa using hstart c rfl)
    rw [stripQuotes, List.dropWhile_cons_of_pos rfl, hfront, Text.dropEndWhile_eq_rdropWhile,
      List.rdropWhile_concat_pos _ _ _ rfl, List.rdropWhile_eq_self_iff]
    intro hne'
    simpa using hend _ (List.getLast?_eq_some_getLast hne')
  rw [decode, hraw, houter, hquotes, htrim]

end Label

end Flowchart
