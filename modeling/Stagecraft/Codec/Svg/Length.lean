import Stagecraft.Codec.Xml.Character
import Stagecraft.Number.Decimal

set_option autoImplicit false

namespace Stagecraft.Svg

inductive Measure where
  | plain
  | percent
  | pixel
  | inch
  | centimetre
  | millimetre
  | point
  | pica
  | em
  | ex
  deriving DecidableEq, Repr

def Measure.ofName? : String → Option Measure
  | "" => some .plain
  | "%" => some .percent
  | "px" => some .pixel
  | "in" => some .inch
  | "cm" => some .centimetre
  | "mm" => some .millimetre
  | "pt" => some .point
  | "pc" => some .pica
  | "em" => some .em
  | "ex" => some .ex
  | _ => none

structure Length where
  number : Binary double
  measure : Measure

namespace Length

def zero : Length := ⟨0, .plain⟩

def whole : Length := ⟨100, .percent⟩

/-- Reads a length, which spaces may precede. Nothing follows it, and its number is finite. -/
def parse? (s : String) : Option Length := do
  let (d, unread) ← Decimal.front? (s.toList.dropWhile Xml.isSpace)
  let number : Binary double := d.toBinary
  if number.isFinite then return ⟨number, ← Measure.ofName? (String.ofList unread)⟩ else none

def inch : Scalar := 96

def letter : Scalar := 12

def units (side : Scalar) (l : Length) : Scalar :=
  let n : Scalar := l.number.convert
  match l.measure with
  | .plain => n
  | .pixel => n
  | .percent => side * n / 100
  | .inch => n * inch
  | .centimetre => n * inch / .ofDecimal false 254 (-2)
  | .millimetre => n * inch / .ofDecimal false 254 (-1)
  | .point => n * inch / 72
  | .pica => n * inch / 6
  | .em => n * letter
  | .ex => n * letter / 2

end Length

end Stagecraft.Svg
