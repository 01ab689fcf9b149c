-- SUMMARY: What decoding settles: it leaves no escape token, does not tell how characters were written, and can leave quotes.
import Mathlib.Data.List.Infix
import Flowchart.Proofs.Label

/-!
# Decoded labels

Decoding leaves no escape token in a label, since what a token stands for is no part of a token. It
gives the same label whichever characters are written as tokens. White space never stands at the ends
of a decoded label. Quotes are stripped only once, so they can stand there if white space and quotes
alternate, and then decoding a second time changes the label.
-/

namespace Flowchart.Label

/-! ## Tokens -/

/-- What does not hold a character that a token stands for is found before unescaping too. -/
theorem isPrefix_of_isPrefix_unescape {p s : List Char} (hp : ∀ e : Escape, e.char ∉ p)
    (h : p <+: unescape s) : p <+: s := by
  induction s using unescapeInduction generalizing p with
  | nil => exact h
  | token e rest ih =>
    cases p with
    | nil => exact List.nil_prefix
    | cons c p =>
      rw [unescape_token_append] at h
      obtain ⟨rfl, -⟩ := List.cons_prefix_cons.1 h
      exact absurd List.mem_cons_self (hp e)
  | char c s hno ih =>
    cases p with
    | nil => exact List.nil_prefix
    | cons d p =>
      rw [unescape_cons hno] at h
      obtain ⟨rfl, hrest⟩ := List.cons_prefix_cons.1 h
      refine List.cons_prefix_cons.2 ⟨rfl, ih (fun e he => hp e ?_) hrest⟩
      exact List.mem_cons_of_mem d he

/-- Unescaping makes no new tokens. -/
theorem not_isInfix_unescape (e : Escape) (s : List Char) : ¬ e.token <:+: unescape s := by
  have hchar (other : Escape) (rest : List Char) : ¬ e.token <+: other.char :: rest := by
    intro h
    obtain ⟨name, hname, -⟩ := e.exists_token_eq_cons
    rw [hname] at h
    obtain ⟨hhash, -⟩ := List.cons_prefix_cons.1 h
    exact e.char_notMem_token other (by rw [hname, hhash]; exact List.mem_cons_self)
  induction s using unescapeInduction with
  | nil => cases e <;> decide
  | token other rest ih =>
    rw [unescape_token_append, List.infix_cons_iff, not_or]
    exact ⟨hchar other _, ih⟩
  | char c s hno ih =>
    rw [unescape_cons hno, List.infix_cons_iff, not_or, ← unescape_cons hno]
    refine ⟨fun h => hno e ?_, ih⟩
    exact isPrefix_of_isPrefix_unescape e.char_notMem_token h

/-- A text without tokens is left alone. -/
theorem unescape_eq_self {s : List Char} (h : ∀ e : Escape, ¬ e.token <:+: s) : unescape s = s := by
  induction s with
  | nil => rfl
  | cons c s ih =>
    rw [unescape_cons fun e he => h e he.isInfix, ih fun e he => h e (List.infix_cons he)]

theorem mem_of_mem_unescape {s : List Char} {c : Char} (h : c ∈ unescape s) :
    c ∈ s ∨ ∃ e : Escape, c = e.char := by
  induction s using unescapeInduction with
  | nil => exact .inl h
  | token e rest ih =>
    rw [unescape_token_append] at h
    rcases List.mem_cons.1 h with rfl | h
    · exact .inr ⟨e, rfl⟩
    · exact (ih h).imp_left (List.mem_append_right _)
  | char d s hno ih =>
    rw [unescape_cons hno] at h
    rcases List.mem_cons.1 h with rfl | h
    · exact .inl List.mem_cons_self
    · exact (ih h).imp_left (List.mem_cons_of_mem d)

/-- Decoding leaves a part of what unescaping gives. -/
theorem decode_isInfix (raw : List Char) : decode raw <:+: unescape raw := by
  have hstrip (s : List Char) : stripQuotes s <:+: s :=
    (List.rdropWhile_prefix _ _).isInfix.trans (List.dropWhile_suffix _).isInfix
  calc decode raw
    _ <:+: stripQuotes (Text.trim (unescape raw)) := Text.trim_isInfix _
    _ <:+: Text.trim (unescape raw) := hstrip _
    _ <:+: unescape raw := Text.trim_isInfix _

theorem not_isInfix_decode (e : Escape) (raw : List Char) : ¬ e.token <:+: decode raw :=
  fun h => not_isInfix_unescape e raw (h.trans (decode_isInfix raw))

/-- A decoded label holds no escape token, and it does not depend on which of its characters are
    written as tokens. -/
theorem decode_respelled (raw : List Char) :
    (∀ e : Escape, ¬ e.token <:+: decode raw) ∧
      ∀ respelled, Respelled raw respelled → decode respelled = decode raw := by
  refine ⟨fun e => not_isInfix_decode e raw, ?_⟩
  intro respelled h
  rw [decode, decode, h.unescape_eq]

/-- A text with tokens already, of which one bracket and one ampersand are written as tokens. -/
theorem decode_respelled_mixed :
    Respelled "#(a) &amp#39; &".toList "##40;a) #amp;amp#39; &".toList ∧
      (∀ e : Escape, ¬ e.token <:+: decode "#(a) &amp#39; &".toList) ∧
      decode "##40;a) #amp;amp#39; &".toList = decode "#(a) &amp#39; &".toList := by
  have hrespelled : Respelled "#(a) &amp#39; &".toList "##40;a) #amp;amp#39; &".toList :=
    .keep '#' (.escape .openParen (.keep 'a' (.keep ')' (.keep ' ' (.escape .ampersand (.refl _))))))
  obtain ⟨htokens, hsame⟩ := decode_respelled "#(a) &amp#39; &".toList
  exact ⟨hrespelled, htokens, hsame _ hrespelled⟩

/-! ## Quotes -/

/-- Quotes at the start of a text, then white space, then quotes again with more behind them. -/
def Requoted (text : List Char) : Prop :=
  ∃ quotes white rest, text = quotes ++ (white ++ '"' :: rest) ∧
    quotes ≠ [] ∧ (∀ c ∈ quotes, c = '"') ∧ white ≠ [] ∧ (∀ c ∈ white, Text.isWhite c) ∧
    ∃ c ∈ rest, c ≠ '"'

/-- Stripping takes off quotes at both ends. -/
theorem exists_eq_append_stripQuotes (s : List Char) :
    ∃ before after, s = before ++ (stripQuotes s ++ after) ∧ (∀ c ∈ before, c = '"') ∧
      ∀ c ∈ after, c = '"' := by
  refine ⟨s.takeWhile (· == '"'), (s.dropWhile (· == '"')).rtakeWhile (· == '"'), ?_, ?_, ?_⟩
  · rw [stripQuotes, Text.dropEndWhile_eq_rdropWhile, List.rdropWhile_append_rtakeWhile,
      List.takeWhile_append_dropWhile]
  · exact fun c hc => by simpa using List.mem_takeWhile_imp hc
  · exact fun c hc => by simpa using List.mem_rtakeWhile_imp hc

/-- A quote is left at the start of a text exactly if the quotes in front of it were parted from it by
    white space. -/
theorem head?_trim_stripQuotes {text : List Char} (htrim : Text.trim text = text) :
    (Text.trim (stripQuotes text)).head? = some '"' ↔ Requoted text := by
  constructor
  · intro h
    obtain ⟨more, hmore⟩ := List.head?_eq_some_iff.1 h
    obtain ⟨quotes, behind, htext, hquotes, -⟩ := exists_eq_append_stripQuotes text
    obtain ⟨white, after, hstrip, hwhite, -⟩ := Text.exists_eq_append_trim (stripQuotes text)
    have hhead := ne_quote_head?_stripQuotes text
    have hlast := ne_quote_getLast?_stripQuotes text
    rw [hmore, List.append_assoc, List.cons_append] at hstrip
    rw [hstrip] at htext hhead hlast
    have hwhitene : white ≠ [] := by
      rintro rfl
      exact hhead '"' rfl rfl
    obtain ⟨b, tail, hb⟩ := List.exists_cons_of_ne_nil hwhitene
    refine ⟨quotes, white, more ++ after ++ behind, ?_, ?_, hquotes, hwhitene, hwhite, ?_⟩
    · rw [htext]
      simp
    · -- otherwise the text would start with the white space
      rintro rfl
      have hstart := Text.isWhite_head?_trim text
      rw [htrim, htext, hb] at hstart
      have hbwhite := hwhite b (by simp [hb])
      rw [hstart b rfl] at hbwhite
      cases hbwhite
    · -- the last character that stripping leaves stands behind the quote
      have hne : more ++ after ≠ [] := by
        intro hnil
        rw [hnil] at hlast
        exact hlast '"' (by simp) rfl
      refine ⟨(more ++ after).getLast hne, ?_, hlast _ ?_⟩
      · exact List.mem_append_left _ (List.getLast_mem hne)
      · rw [List.getLast?_append_of_ne_nil _ (by simp), List.getLast?_cons_of_ne_nil hne,
          List.getLast?_eq_some_getLast hne]
        rfl
  · rintro ⟨quotes, white, rest, rfl, -, hquotes, hne, hwhite, c, hc, hcquote⟩
    have hdrop : (quotes ++ (white ++ '"' :: rest)).dropWhile (· == '"') = white ++ '"' :: rest := by
      refine Text.dropWhile_append_of_head? (fun c hc => by simp [hquotes c hc]) ?_
      rw [List.head?_append_of_ne_nil _ hne]
      intro c hc
      have hwhite := hwhite c (List.mem_of_mem_head? hc)
      simpa using Text.ne_of_apply hwhite (d := '"') (by decide)
    have hkept : Text.dropEndWhile (· == '"') (white ++ '"' :: rest) =
        white ++ '"' :: Text.dropEndWhile (· == '"') rest := by
      have happend := Text.dropEndWhile_append (p := (· == '"')) (white ++ ['"'])
        ⟨c, hc, by simpa using hcquote⟩
      simpa using happend
    rw [stripQuotes, hdrop, hkept, Text.trim_white_append hwhite]
    exact Text.head?_trim_cons (by decide) _

/-- Decoding leaves a decoded label alone exactly if no quote stands at its ends. -/
theorem decode_decode_eq_self {raw : List Char} :
    decode (decode raw) = decode raw ↔
      (∀ c ∈ (decode raw).head?, c ≠ '"') ∧ ∀ c ∈ (decode raw).getLast?, c ≠ '"' := by
  constructor
  · intro h
    obtain ⟨-, -, hstrip⟩ := eq_self_of_decode_eq_self h
    have hstart := ne_quote_head?_stripQuotes (decode raw)
    have hend := ne_quote_getLast?_stripQuotes (decode raw)
    rw [hstrip] at hstart hend
    exact ⟨hstart, hend⟩
  · rintro ⟨hstart, hend⟩
    have hunescape : unescape (decode raw) = decode raw :=
      unescape_eq_self fun e => not_isInfix_decode e raw
    have htrim : Text.trim (decode raw) = decode raw := Text.trim_trim _
    have hstrip : stripQuotes (decode raw) = decode raw := stripQuotes_eq_self hstart hend
    calc decode (decode raw)
      _ = Text.trim (stripQuotes (Text.trim (unescape (decode raw)))) := rfl
      _ = decode raw := by rw [hunescape, htrim, hstrip, htrim]

/-- Decoding leaves a decoded label alone, unless quotes and white space alternate at one of the ends
    of the unescaped text. Exactly then a quote is left at that end of the label. White space is
    never left there. -/
theorem decode_decode_iff (raw : List Char) :
    let text := Text.trim (unescape raw)
    (decode (decode raw) = decode raw ↔ ¬ Requoted text ∧ ¬ Requoted text.reverse) ∧
      ((decode raw).head? = some '"' ↔ Requoted text) ∧
      ((decode raw).getLast? = some '"' ↔ Requoted text.reverse) ∧
      (∀ c ∈ (decode raw).head?, Text.isWhite c = false) ∧
      ∀ c ∈ (decode raw).getLast?, Text.isWhite c = false := by
  intro text
  have htrim : Text.trim text = text := Text.trim_trim _
  have hstart : (decode raw).head? = some '"' ↔ Requoted text := head?_trim_stripQuotes htrim
  have hend : (decode raw).getLast? = some '"' ↔ Requoted text.reverse := by
    have hback : Text.trim text.reverse = text.reverse := by rw [Text.trim_reverse, htrim]
    rw [← head?_trim_stripQuotes hback, stripQuotes_reverse, Text.trim_reverse, List.head?_reverse]
    rfl
  have hne (o : Option Char) : (∀ c ∈ o, c ≠ '"') ↔ o ≠ some '"' := by
    cases o <;> simp
  refine ⟨?_, hstart, hend, Text.isWhite_head?_trim _, Text.isWhite_getLast?_trimEnd _⟩
  rw [decode_decode_eq_self, hne, hne, Ne, Ne, hstart, hend]

/-- The quotes inside are left when the outer ones are stripped, and a second time they are not. -/
theorem decode_decode_nested :
    decode "\" \"Yes\" \"".toList = "\"Yes\"".toList ∧
      Requoted (Text.trim (unescape "\" \"Yes\" \"".toList)) ∧
      decode (decode "\" \"Yes\" \"".toList) ≠ decode "\" \"Yes\" \"".toList := by
  have hraw : decode "\" \"Yes\" \"".toList = "\"Yes\"".toList := by decide +kernel
  obtain ⟨hsame, hstart, -⟩ := decode_decode_iff "\" \"Yes\" \"".toList
  have hrequoted := hstart.1 (by rw [hraw]; rfl)
  exact ⟨hraw, hrequoted, fun h => (hsame.1 h).1 hrequoted⟩

end Flowchart.Label
