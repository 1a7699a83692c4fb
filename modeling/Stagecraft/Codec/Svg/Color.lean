import Stagecraft.Codec.Xml.Character
import Stagecraft.Number.Decimal
import Stagecraft.Number.Integral
import Stagecraft.Raster.Pixel
import Stagecraft.Text.Blank
import Stagecraft.Text.Numeral

/-!
Colours in drawings: in hexadecimal, by their channels, by hue, or by name.
-/

set_option autoImplicit false

namespace Stagecraft.Svg

def byte? (high low : Char) : Option UInt8 := do
  return .ofNat (16 * (← Text.hexDigit? high) + (← Text.hexDigit? low))

def hexColor? : List Char → Option Pixel
  | ['#', a, b, c, d, e, f, g, h] => do
    return ⟨← byte? a b, ← byte? c d, ← byte? e f, ← byte? g h⟩
  | ['#', a, b, c, d, e, f] => do return ⟨← byte? a b, ← byte? c d, ← byte? e f, 255⟩
  | ['#', a, b, c, d] => do return ⟨← byte? a a, ← byte? b b, ← byte? c c, ← byte? d d⟩
  | ['#', a, b, c] => do return ⟨← byte? a a, ← byte? b b, ← byte? c c, 255⟩
  | _ => none

def colorNames : List (String × Nat) :=
  [("aliceblue", 0xf0f8ff), ("antiquewhite", 0xfaebd7), ("aqua", 0x00ffff),
   ("aquamarine", 0x7fffd4), ("azure", 0xf0ffff), ("beige", 0xf5f5dc), ("bisque", 0xffe4c4),
   ("black", 0x000000), ("blanchedalmond", 0xffebcd), ("blue", 0x0000ff),
   ("blueviolet", 0x8a2be2), ("brown", 0xa52a2a), ("burlywood", 0xdeb887),
   ("cadetblue", 0x5f9ea0), ("chartreuse", 0x7fff00), ("chocolate", 0xd2691e),
   ("coral", 0xff7f50), ("cornflowerblue", 0x6495ed), ("cornsilk", 0xfff8dc),
   ("crimson", 0xdc143c), ("cyan", 0x00ffff), ("darkblue", 0x00008b), ("darkcyan", 0x008b8b),
   ("darkgoldenrod", 0xb8860b), ("darkgray", 0xa9a9a9), ("darkgreen", 0x006400),
   ("darkgrey", 0xa9a9a9), ("darkkhaki", 0xbdb76b), ("darkmagenta", 0x8b008b),
   ("darkolivegreen", 0x556b2f), ("darkorange", 0xff8c00), ("darkorchid", 0x9932cc),
   ("darkred", 0x8b0000), ("darksalmon", 0xe9967a), ("darkseagreen", 0x8fbc8f),
   ("darkslateblue", 0x483d8b), ("darkslategray", 0x2f4f4f), ("darkslategrey", 0x2f4f4f),
   ("darkturquoise", 0x00ced1), ("darkviolet", 0x9400d3), ("deeppink", 0xff1493),
   ("deepskyblue", 0x00bfff), ("dimgray", 0x696969), ("dimgrey", 0x696969),
   ("dodgerblue", 0x1e90ff), ("firebrick", 0xb22222), ("floralwhite", 0xfffaf0),
   ("forestgreen", 0x228b22), ("fuchsia", 0xff00ff), ("gainsboro", 0xdcdcdc),
   ("ghostwhite", 0xf8f8ff), ("gold", 0xffd700), ("goldenrod", 0xdaa520), ("gray", 0x808080),
   ("green", 0x008000), ("greenyellow", 0xadff2f), ("grey", 0x808080), ("honeydew", 0xf0fff0),
   ("hotpink", 0xff69b4), ("indianred", 0xcd5c5c), ("indigo", 0x4b0082), ("ivory", 0xfffff0),
   ("khaki", 0xf0e68c), ("lavender", 0xe6e6fa), ("lavenderblush", 0xfff0f5),
   ("lawngreen", 0x7cfc00), ("lemonchiffon", 0xfffacd), ("lightblue", 0xadd8e6),
   ("lightcoral", 0xf08080), ("lightcyan", 0xe0ffff), ("lightgoldenrodyellow", 0xfafad2),
   ("lightgray", 0xd3d3d3), ("lightgreen", 0x90ee90), ("lightgrey", 0xd3d3d3),
   ("lightpink", 0xffb6c1), ("lightsalmon", 0xffa07a), ("lightseagreen", 0x20b2aa),
   ("lightskyblue", 0x87cefa), ("lightslategray", 0x778899), ("lightslategrey", 0x778899),
   ("lightsteelblue", 0xb0c4de), ("lightyellow", 0xffffe0), ("lime", 0x00ff00),
   ("limegreen", 0x32cd32), ("linen", 0xfaf0e6), ("magenta", 0xff00ff), ("maroon", 0x800000),
   ("mediumaquamarine", 0x66cdaa), ("mediumblue", 0x0000cd), ("mediumorchid", 0xba55d3),
   ("mediumpurple", 0x9370db), ("mediumseagreen", 0x3cb371), ("mediumslateblue", 0x7b68ee),
   ("mediumspringgreen", 0x00fa9a), ("mediumturquoise", 0x48d1cc), ("mediumvioletred", 0xc71585),
   ("midnightblue", 0x191970), ("mintcream", 0xf5fffa), ("mistyrose", 0xffe4e1),
   ("moccasin", 0xffe4b5), ("navajowhite", 0xffdead), ("navy", 0x000080), ("oldlace", 0xfdf5e6),
   ("olive", 0x808000), ("olivedrab", 0x6b8e23), ("orange", 0xffa500), ("orangered", 0xff4500),
   ("orchid", 0xda70d6), ("palegoldenrod", 0xeee8aa), ("palegreen", 0x98fb98),
   ("paleturquoise", 0xafeeee), ("palevioletred", 0xdb7093), ("papayawhip", 0xffefd5),
   ("peachpuff", 0xffdab9), ("peru", 0xcd853f), ("pink", 0xffc0cb), ("plum", 0xdda0dd),
   ("powderblue", 0xb0e0e6), ("purple", 0x800080), ("red", 0xff0000), ("rosybrown", 0xbc8f8f),
   ("royalblue", 0x4169e1), ("saddlebrown", 0x8b4513), ("salmon", 0xfa8072),
   ("sandybrown", 0xf4a460), ("seagreen", 0x2e8b57), ("seashell", 0xfff5ee), ("sienna", 0xa0522d),
   ("silver", 0xc0c0c0), ("skyblue", 0x87ceeb), ("slateblue", 0x6a5acd), ("slategray", 0x708090),
   ("slategrey", 0x708090), ("snow", 0xfffafa), ("springgreen", 0x00ff7f),
   ("steelblue", 0x4682b4), ("tan", 0xd2b48c), ("teal", 0x008080), ("thistle", 0xd8bfd8),
   ("tomato", 0xff6347), ("turquoise", 0x40e0d0), ("violet", 0xee82ee), ("wheat", 0xf5deb3),
   ("white", 0xffffff), ("whitesmoke", 0xf5f5f5), ("yellow", 0xffff00), ("yellowgreen", 0x9acd32)]

def namedColor? (s : String) : Option Pixel :=
  if s.toLower = "transparent" then some ⟨0, 0, 0, 0⟩
  else do
    let n ← colorNames.lookup s.toLower
    return ⟨.ofNat (n / 65536), .ofNat (n / 256), .ofNat n, 255⟩

structure Component where
  number : Binary double
  isPercent : Bool

/-- The next number, which spaces may surround and a comma may follow. -/
def component? (s : List Char) : Option (Component × List Char) := do
  let (d, r) ← Decimal.front? (s.dropWhile Xml.isSpace)
  let number : Binary double := d.toBinary
  if number.isFinite then
    let r' := (if r.head? = some '%' then r.drop 1 else r).dropWhile Xml.isSpace
    return (⟨number, r.head? = some '%'⟩, if r'.head? = some ',' then r'.drop 1 else r')
  else none

def components? : Nat → List Char → Option (List Component)
  | 0, _ => none
  | fuel + 1, s =>
    match s.dropWhile Xml.isSpace with
    | ')' :: r => if r.all Xml.isSpace then some [] else none
    | s => do
      let (c, r) ← component? s
      return c :: (← components? fuel r)

def wordOfByte : WordRange := ⟨0, 255⟩

def toByte {f : BinaryFormat} (x : Binary f) : UInt8 :=
  .ofNat (x.toWord .halfAway wordOfByte).toNat

def Component.fraction (c : Component) : Binary double :=
  if c.isPercent then c.number / 100 else c.number

def Component.channel (c : Component) : UInt8 :=
  if c.isPercent then toByte (c.fraction * 255) else toByte c.number

def Component.opacity (c : Component) : UInt8 := toByte (c.fraction.clamp 0 1 * 255)

/-- How strong a channel is at a hue, which counts sixths of the circle. -/
def hueChannel (low high hue : Scalar) : Scalar :=
  let hue := if hue < 0 then hue + 6 else hue
  let hue := if hue < 6 then hue else hue - 6
  if hue < 1 then (high - low) * hue + low
  else if hue < 3 then high
  else if hue < 4 then (high - low) * (4 - hue) + low
  else low

def hueColor (degrees : Int) (saturation lightness : Component) : Pixel :=
  let hue : Scalar := .ofNat (degrees % 360).toNat / 60
  let s : Scalar := (saturation.fraction.clamp 0 1).convert
  let l : Scalar := (lightness.fraction.clamp 0 1).convert
  let high := if l ≤ 1 / 2 then l * (s + 1) else l + s - l * s
  let low := l * 2 - high
  let channel (h : Scalar) : UInt8 := toByte (hueChannel low high h * 255)
  ⟨channel (hue + 2), channel hue, channel (hue - 2), 255⟩

def hueRange : WordRange := ⟨-2 ^ 31, 2 ^ 31 - 1⟩

def functionColor? (s : List Char) : Option Pixel := do
  let (name, r) := s.span (· != '(')
  let cs ← components? (r.length + 1) (r.drop 1)
  let (solid, opacity) ← match cs with
    | [a, b, c] => some ((a, b, c), none)
    | [a, b, c, d] => some ((a, b, c), some d)
    | _ => none
  let (a, b, c) := solid
  let color ← match (String.ofList name).toLower with
    | "rgb" | "rgba" => some ⟨a.channel, b.channel, c.channel, 255⟩
    | "hsl" | "hsla" => some (hueColor (a.number.toWord .halfAway hueRange) b c)
    | _ => none
  return { color with alpha := (opacity.map Component.opacity).getD 255 }

def black : Pixel := ⟨0, 0, 0, 255⟩

def readColor? (s : String) : Option Pixel :=
  hexColor? s.toList <|> namedColor? s <|> functionColor? s.toList

def pastReference? (s : List Char) : Option (List Char) :=
  let isQuote (c : Char) : Bool := c == '\x27' || c == '"'
  let target (stop : Char → Bool) (s : List Char) : Option (List Char) :=
    match s with
    | '#' :: s =>
      let (name, rest) := s.span fun c => !stop c
      if name.any isQuote then none else some rest
    | _ => none
  let close (s : List Char) : Option (List Char) :=
    match s.dropWhile Xml.isSpace with
    | ')' :: s => some (s.dropWhile Xml.isSpace)
    | _ => none
  match s with
  | 'u' :: 'r' :: 'l' :: '(' :: s =>
    match s.dropWhile Xml.isSpace with
    | c :: s =>
      if isQuote c then do
        match ← target (· == c) (s.dropWhile Xml.isSpace) with
        | _ :: s => close s
        | [] => none
      else do close (← target (fun d => d == ' ' || d == ')') (c :: s))
    | [] => none
  | _ => none

/-- The colour of a fill, `current` being the colour of everything else. One that cannot be read is
black; none paints nothing, and neither does one that is found elsewhere. -/
def color? (current s : String) : Option Pixel :=
  let currentColor := some ((readColor? (Text.trim current)).getD black)
  match Text.trim s with
  | "none" => none
  | "context-fill" => none
  | "context-stroke" => none
  | "currentColor" => currentColor
  | s =>
    match pastReference? s.toList with
    | some fallback =>
      match String.ofList fallback with
      | "" => none
      | "none" => none
      | "currentColor" => currentColor
      | fallback => some ((readColor? fallback).getD black)
    | none => some ((readColor? s).getD black)

end Stagecraft.Svg
