-- SUMMARY: The number of columns a text takes in a fixed-width font.
import Flowchart.Text.Width.Tables

/-!
# Display width

The width of a text is read from its end to its start. Each character adds its own width, except
where it joins with what follows it: an emoji sequence is one glyph of two columns, a carriage
return vanishes before a line feed, and some scripts have ligatures. What a character can join
with is all that has to be remembered of the text after it.
-/

namespace Flowchart.Text

/-! ## What follows a character -/

/-- The start of a text, as far as a character before it can join with it. -/
inductive Joint where
  /-- Nothing to join with. -/
  | none
  | lineFeed
  | skinTone
  /-- Regional indicators: one, or several of which pairs are flags. -/
  | flag (several : Bool)
  | emoji
  /-- A joiner before an emoji. -/
  | joinedEmoji
  /-- A combining keycap before a joiner and an emoji. -/
  | joinedKeycap
  /-- Regional indicators before a joiner and an emoji: one, or an even or odd number. -/
  | joinedIndicator
  | joinedFlags (even : Bool)
  /-- Tag characters before the end of a subdivision flag: digits or letters, and how many. -/
  | tagEnd
  | tagDigits (count : Nat)
  | tagLetters (count : Nat)
  | kiratRaiE
  | kiratRaiAi
  | alef
  /-- Letters that a joiner before them ties to the letter before it. -/
  | lamed (joined : Bool)
  | ya (joined : Bool)
  | tifinagh (joined : Bool)
  | orkhonI (joined : Bool)
  /-- The vowel sign that stands before a tied ya. -/
  | yaWithVowel
  /-- The Tifinagh joiner before a consonant. -/
  | tifinaghJoiner
  | lisuTone
  | khmerLetter
  deriving DecidableEq, Repr

/-- The variation selectors that ask how the character before them is to be shown. -/
structure Selectors where
  emoji : Bool := false
  text : Bool := false
  /-- As the two-column form of a quotation mark. -/
  fullwidth : Bool := false
  deriving DecidableEq, Repr

/-- No selector. -/
def Selectors.none : Selectors := {}

/-- What follows a character: a joint, and the variation selectors before it. -/
structure Follow where
  joint : Joint
  selectors : Selectors := .none
  deriving DecidableEq, Repr

/-- The end of the text, or a character that nothing joins with. -/
def Follow.nothing : Follow := ⟨.none, .none⟩

/-- Joints that are seen through joiners and other invisible characters. -/
def Joint.isSeenThrough : Joint → Bool
  | .lamed _ | .ya _ | .tifinagh _ | .orkhonI _ | .yaWithVowel | .tifinaghJoiner
  | .lisuTone | .khmerLetter => true
  | _ => false

/-- Joints that stay what they are when a variation selector comes before them: the vowel signs of
    Kirat Rai, for one, do not. -/
def Joint.outlastsSelector (joint : Joint) : Bool :=
  joint = .alef || joint.isSeenThrough

/-- What stays when a variation selector is read or has asked in vain: a joint that outlasts it, and
    the selectors already in front of that joint. -/
def Follow.kept (next : Follow) : Follow :=
  if next.joint.outlastsSelector then next else .nothing

/-- The joint with a joiner before it. -/
def Joint.tied : Joint → Joint
  | .lamed _ => .lamed true
  | .ya _ => .ya true
  | .tifinagh _ => .tifinagh true
  | .orkhonI _ => .orkhonI true
  | joint => joint

/-- An emoji that an emoji before it is glued to by a joiner. -/
def Joint.isGlued : Joint → Bool
  | .joinedEmoji | .joinedKeycap => true
  | _ => false

/-! ## Characters -/

/-- The regional indicators, which pair up to flags. -/
def isRegionalIndicator (n : Nat) : Bool :=
  0x1F1E6 ≤ n && n ≤ 0x1F1FF

/-- The skin tones. -/
def isSkinTone (n : Nat) : Bool :=
  0x1F3FB ≤ n && n ≤ 0x1F3FF

/-- The Arabic letters of the shape of lam. -/
def isLam (n : Nat) : Bool :=
  n == 0x644 || (0x6B5 ≤ n && n ≤ 0x6B8) || n == 0x76A || n == 0x8A6 || n == 0x8C7

/-- The Arabic letters of the shape of alef. -/
def alefRanges : Ranges :=
  [(0x622, 0x623), (0x625, 0x625), (0x627, 0x627), (0x671, 0x673), (0x675, 0x675),
   (0x773, 0x774), (0x870, 0x882)]

/-- The Khmer letters that can stand below another one. -/
def khmerLetterRanges : Ranges :=
  [(0x1780, 0x1782), (0x1784, 0x1787), (0x1789, 0x178C), (0x178E, 0x1793), (0x1795, 0x1798),
   (0x179B, 0x179D), (0x17A0, 0x17A0), (0x17A2, 0x17A2), (0x17A7, 0x17A7), (0x17AB, 0x17AC),
   (0x17AF, 0x17AF)]

/-- The Tifinagh consonants. -/
def isTifinaghConsonant (n : Nat) : Bool :=
  (0x2D31 ≤ n && n ≤ 0x2D65) || n == 0x2D6F

/-- Invisible characters that do not come between a joint and what joins with it. -/
def seenThroughRanges : Ranges :=
  [(0x34F, 0x34F), (0x17B4, 0x17B5), (0x180B, 0x180D), (0x180F, 0x180F), (0xFE00, 0xFE0F),
   (0xE0100, 0xE01EF)]

/-- The quotation marks that have a form of two columns. -/
def isQuotationMark (n : Nat) : Bool :=
  n == 0x2018 || n == 0x2019 || n == 0x201C || n == 0x201D

/-- Characters of width zero that the joining of Arabic letters looks past. -/
def isTransparentMark (n : Nat) : Bool :=
  zeroWidthRanges.holds n && !solidZeroWidthRanges.holds n

/-- The width of a character beyond U+00A0 and what it leaves to join with. -/
def plainWidth (n : Nat) : Nat × Follow :=
  if n == 0xFE01 then (0, ⟨.none, { fullwidth := true }⟩)
  else if n == 0xFE0E then (0, ⟨.none, { text := true }⟩)
  else if n == 0xFE0F then (0, ⟨.none, { emoji := true }⟩)
  else if n == 0x17D8 then (3, .nothing)
  else if n == 0x5DC then (1, ⟨.lamed false, .none⟩)
  else if n == 0x1A10 then (1, ⟨.ya false, .none⟩)
  else if n == 0x10C03 then (1, ⟨.orkhonI false, .none⟩)
  else if n == 0x16D67 then (1, ⟨.kiratRaiE, .none⟩)
  else if n == 0x16D68 then (1, ⟨.kiratRaiAi, .none⟩)
  else if n == 0xA4FC || n == 0xA4FD then (1, ⟨.lisuTone, .none⟩)
  else if isTifinaghConsonant n then (1, ⟨.tifinagh false, .none⟩)
  else if isRegionalIndicator n then (1, ⟨.flag false, .none⟩)
  else if isSkinTone n then (2, ⟨.skinTone, .none⟩)
  else if alefRanges.holds n then (1, ⟨.alef, .none⟩)
  else if khmerLetterRanges.holds n then (1, ⟨.khmerLetter, .none⟩)
  else if emojiRanges.holds n then (2, ⟨.emoji, .none⟩)
  else if zeroWidthRanges.holds n then (0, .nothing)
  else if wideRanges.holds n then (2, .nothing)
  else (1, .nothing)

/-- The width of a character on its own. A control character has none. -/
def charWidth? (c : Char) : Option Nat :=
  let n := c.toNat
  if n < 0x20 || (0x7F ≤ n && n < 0xA0) then none
  else if n ≤ 0xA0 then some 1
  else some (plainWidth n).1

/-! ## Joining -/

/-- The character `n` joined with what follows it: the columns this adds, and what is left to join
    with. Nothing if the two stay apart. -/
def Joint.join? (joint : Joint) (n : Nat) : Option (Int × Joint) :=
  let when (b : Bool) (width : Int) (left : Joint) : Option (Int × Joint) :=
    if b then some (width, left) else Option.none
  let tagDigit := 0xE0030 ≤ n && n ≤ 0xE0039
  let tagLetter := 0xE0061 ≤ n && n ≤ 0xE007A
  let blackFlag := n == 0x1F3F4
  match joint with
  | .alef => (when (isLam n) 0 .none).or (when (isTransparentMark n) 0 .alef)
  | .lamed true => when (n == 0x5D0) 0 .none
  | .khmerLetter => when (n == 0x17D2) (-1) .none
  | .ya true => when (n == 0x1A17) 0 .yaWithVowel
  | .yaWithVowel => when (n == 0x1A15) 0 .none
  | .tifinagh tied =>
    (when (n == 0x2D7F) 1 .tifinaghJoiner).or (when (tied && isTifinaghConsonant n) 0 .none)
  | .tifinaghJoiner => when (isTifinaghConsonant n) (-1) .none
  | .lisuTone => when (0xA4F8 ≤ n && n ≤ 0xA4FB) 0 .none
  | .orkhonI true => when (n == 0x10C32) 0 .none
  | .skinTone =>
    (when (emojiModifierBaseRanges.holds n) 0 .emoji).or (when (n == 0x200D) 0 .joinedEmoji)
  | .flag several =>
    (when (isRegionalIndicator n) 1 (.flag true)).or
      (when (several && n == 0x200D) 0 .joinedEmoji)
  | .emoji => when (n == 0x200D) 0 .joinedEmoji
  | .joinedEmoji =>
    if n == 0x20E3 then some (0, .joinedKeycap)
    else if isRegionalIndicator n then some (1, .joinedIndicator)
    else if isSkinTone n then some (0, .skinTone)
    else if n == 0xE007F then some (0, .tagEnd)
    else when (emojiRanges.holds n) 0 .emoji
  | .joinedIndicator => when (isRegionalIndicator n) (-1) (.joinedFlags true)
  | .joinedFlags even =>
    (when (isRegionalIndicator n) (if even then 3 else -1) (.joinedFlags (!even))).or
      (when (n == 0x200D) 0 .joinedEmoji)
  | .tagEnd => (when tagDigit 0 (.tagDigits 1)).or (when tagLetter 0 (.tagLetters 1))
  | .tagDigits count =>
    if count < 3 then when tagDigit 0 (.tagDigits (count + 1)) else when blackFlag 0 .emoji
  | .tagLetters count =>
    (when (tagLetter && count < 6) 0 (.tagLetters (count + 1))).or
      ((when (tagDigit && count < 5) 0 (.tagDigits 1)).or
        (when (blackFlag && 3 ≤ count) 0 .emoji))
  | .kiratRaiE =>
    if n == 0x16D63 || n == 0x16D69 then some (0, .none)
    else if n == 0x16D67 then some (0, .kiratRaiAi)
    else when (n == 0x16D68) 1 .kiratRaiE
  | .kiratRaiAi => when (n == 0x16D63) 0 .none
  | _ => Option.none

/-- The columns that `c` adds to the text after it, and the new start of the text. -/
def widthBefore (c : Char) (next : Follow) : Int × Follow :=
  let n := c.toNat
  if next.selectors.emoji && emojiSelectableRanges.holds n then
    (if next.joint.isGlued then 0 else 2, ⟨.emoji, .none⟩)
  else
    let next :=
      if next.selectors.emoji then
        ⟨next.kept.joint, { next.kept.selectors with emoji := false }⟩
      else next
    let ⟨joint, selectors⟩ := next
    if n ≤ 0xA0 then
      if c = '\n' then (1, ⟨.lineFeed, .none⟩)
      else if c = '\r' && joint = .lineFeed then (0, .nothing)
      else (1, .nothing)
    else if n = 0xFE0F then
      let left := if joint.isGlued then next else next.kept
      (0, ⟨left.joint, { left.selectors with emoji := true }⟩)
    else if n = 0xFE0E then
      (0, ⟨next.kept.joint, { next.kept.selectors with text := true }⟩)
    else if n = 0xFE01 then
      (0, ⟨next.kept.joint, { next.kept.selectors with fullwidth := true }⟩)
    else if selectors.text && textSelectableRanges.holds n then (1, .nothing)
    else if selectors.fullwidth && isQuotationMark n then (2, .nothing)
    else if joint.isSeenThrough && n = 0x200D then (0, ⟨joint.tied, .none⟩)
    else if joint.isSeenThrough && seenThroughRanges.holds n then (0, ⟨joint, .none⟩)
    else
      match joint.join? n with
      | some (width, left) => (width, ⟨left, .none⟩)
      | none => ((plainWidth n).1, (plainWidth n).2)

/-- The columns of a text, and what a character before it can join with. -/
def widthAndStart : List Char → Int × Follow
  | [] => (0, .nothing)
  | c :: rest =>
    let (width, next) := widthAndStart rest
    let (more, start) := widthBefore c next
    (width + more, start)

/-- The number of columns a text takes. Control characters count one column each. -/
def displayWidth (s : List Char) : Nat :=
  (widthAndStart s).1.toNat

end Flowchart.Text
