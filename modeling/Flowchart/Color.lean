-- SUMMARY: Node colors: named ones, and one derived from an identifier.
import Flowchart.Text.White

/-!
# Colors

A color name from shape detection is looked up in a small palette. A node without one gets a color
from its identifier: a hue hashed over the UTF-16 units of the identifier, at fixed saturation and
lightness.
-/

namespace Flowchart

structure Color where
  red : UInt8
  green : UInt8
  blue : UInt8
  deriving DecidableEq, Repr

namespace Color

/-- The two hexadecimal digits of a byte, in lower case. -/
def hexByte (byte : UInt8) : List Char :=
  [Nat.digitChar (byte.toNat / 16), Nat.digitChar (byte.toNat % 16)]

/-- The color as `#rrggbb`. -/
def toHex (color : Color) : String :=
  String.ofList ('#' :: hexByte color.red ++ hexByte color.green ++ hexByte color.blue)

/-! ## Named colors -/

/-- The color of every name that the palette does not have. -/
def standard : Color := ⟨0x97, 0xC2, 0xFC⟩

def palette : List (String × Color) :=
  [("blue", standard),
   ("red", ⟨0xFB, 0x7E, 0x81⟩),
   ("green", ⟨0x7B, 0xE1, 0x41⟩),
   ("yellow", ⟨0xFF, 0xFF, 0x00⟩),
   ("orange", ⟨0xFF, 0xA8, 0x07⟩),
   ("purple", ⟨0xAD, 0x85, 0xE4⟩),
   ("pink", ⟨0xEB, 0x7D, 0xF4⟩),
   ("cyan", ⟨0x6E, 0x6E, 0xFD⟩),
   ("brown", ⟨0xC3, 0x9B, 0x6E⟩),
   ("gray", ⟨0xC2, 0xC2, 0xC2⟩),
   ("grey", ⟨0xC2, 0xC2, 0xC2⟩),
   ("white", ⟨0xFF, 0xFF, 0xFF⟩)]

/-- The color of a name, in any case and with white space around it. -/
def ofName (name : String) : Color :=
  let key := String.ofList ((Text.trim name.toList).map Char.toLower)
  (palette.lookup key).getD standard

/-! ## Colors of identifiers -/

/-- The UTF-16 units of a character: one, or a surrogate pair from U+10000 on. -/
def unitsOfChar (c : Char) : List UInt32 :=
  if c.val < 0x10000 then [c.val]
  else
    let offset := c.val - 0x10000
    [0xD800 + offset / 0x400, 0xDC00 + offset % 0x400]

/-- The UTF-16 units of a text. -/
def units (s : List Char) : List UInt32 :=
  s.flatMap unitsOfChar

/-- The hash after one more unit. It stays below 360. -/
def hueStep (hash unit : UInt32) : UInt32 :=
  (hash * 31 + unit) % 360

/-- The hue of an identifier, in whole degrees. -/
def hueOf (id : String) : UInt32 :=
  if id.isEmpty then 180 else (units id.toList).foldl hueStep 0

/-- One channel of a color of full hue, between the least value `p` and the greatest value `q`, at
    `t` turns around the color wheel. -/
def channelAt (p q t : Float) : Float :=
  let t := if t < 0 then t + 1 else t
  let t := if t > 1 then t - 1 else t
  if t < 1 / 6 then p + (q - p) * 6 * t
  else if t < 1 / 2 then q
  else if t < 2 / 3 then p + (q - p) * (2 / 3 - t) * 6
  else p

/-- A channel between 0 and 1 as a byte, rounded to the nearest. -/
def byteOf (channel : Float) : UInt8 :=
  let scaled := (channel * 255).round
  (if scaled < 0 then 0 else if scaled > 255 then 255 else scaled).toUInt8

/-- The color of a hue in degrees, at a saturation and a lightness between 0 and 1. -/
def ofHsl (hue : UInt32) (saturation lightness : Float) : Color :=
  let turn := (hue % 360).toFloat / 360
  let q :=
    if lightness < 0.5 then lightness * (1 + saturation)
    else lightness + saturation - lightness * saturation
  let p := 2 * lightness - q
  ⟨byteOf (channelAt p q (turn + 1 / 3)), byteOf (channelAt p q turn),
    byteOf (channelAt p q (turn - 1 / 3))⟩

/-- The color of a node that has none, always the same for the same identifier. -/
def ofId (id : String) : Color :=
  ofHsl (hueOf id) 0.65 0.5

end Color

end Flowchart
