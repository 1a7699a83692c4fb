import Stagecraft.Number.Power
import Stagecraft.Raster.Pixel

/-!
A palette learned from colours. Its entries form a chain; for each colour that is shown, the entry
that wins a contest moves towards it and takes its neighbours along, ever less as time goes on.
-/

set_option autoImplicit false

namespace Stagecraft.Quantize

/-- An entry while it is learned: its place, how often it won, and how much that counts against
it. -/
structure Entry where
  red : Float
  green : Float
  blue : Float
  alpha : Float
  frequency : Float
  bias : Float

def size : Nat := 256

def initial : Array Entry :=
  .ofFn fun i : Fin size =>
    let shade := i.val.toFloat * 256 / size.toFloat
    let alpha := if i.val < 16 then i.val.toFloat * 16 else 255
    ⟨shade, shade, shade, alpha, 1 / size.toFloat, 0⟩

def rate : Float := 1 / 1024

/-- The nearest entry, and the one that is nearest after what counts against each. -/
structure Contest where
  nearest : Float := 1.7976931348623157e308
  nearestAt : Nat := 0
  fairest : Float := 1.7976931348623157e308
  fairestAt : Nat := 0

def Contest.enter (c : Contest) (p : Pixel) (i : Nat) (e : Entry) : Contest :=
  let part := (e.blue - p.blue.toFloat).abs + (e.red - p.red.toFloat).abs
  if part < c.nearest || part < c.fairest + e.bias then
    let distance := part + (e.green - p.green.toFloat).abs + (e.alpha - p.alpha.toFloat).abs
    let c := if distance < c.nearest then { c with nearest := distance, nearestAt := i } else c
    let fair := distance - e.bias
    if fair < c.fairest then { c with fairest := fair, fairestAt := i } else c
  else c

def contest (p : Pixel) : Nat → List Entry → Contest → Contest
  | _, [], c => c
  | i, e :: r, c => contest p (i + 1) r (c.enter p i e)

def Entry.fade (e : Entry) : Entry :=
  let frequency := e.frequency - rate * e.frequency
  { e with frequency := frequency, bias := e.bias + frequency }

def Entry.win (e : Entry) : Entry := { e with frequency := e.frequency + rate, bias := e.bias - 1 }

def Entry.approach (e : Entry) (part : Float) (p : Pixel) : Entry :=
  { e with
    blue := e.blue - part * (e.blue - p.blue.toFloat)
    green := e.green - part * (e.green - p.green.toFloat)
    red := e.red - part * (e.red - p.red.toFloat)
    alpha := e.alpha - part * (e.alpha - p.alpha.toFloat) }

def approachAround (part : Float) (radius place : Nat) (p : Pixel) (es : Array Entry) :
    Array Entry :=
  let whole := radius.toFloat * radius.toFloat
  (List.range radius).foldl (fun es q =>
    let part := part * (whole - q.toFloat * q.toFloat) / whole
    let above := place + 1 + q
    let es := if above < min (place + radius) size then es.modify above (·.approach part p) else es
    if place - radius + q + 1 < place then es.modify (place - 1 - q) (·.approach part p) else es) es

structure Pace where
  alpha : Nat := 1024
  radius : Nat := 2048

def Pace.reach (p : Pace) : Nat := if p.radius / 64 ≤ 1 then 0 else p.radius / 64

def Pace.slow (p : Pace) : Pace := ⟨p.alpha - p.alpha / 30, p.radius - p.radius / 30⟩

def learnColor (pace : Pace) (p : Pixel) (es : Array Entry) : Array Entry :=
  let c := contest p 0 es.toList {}
  let es := (es.map Entry.fade).modify c.nearestAt Entry.win
  let part := pace.alpha.toFloat / 1024
  let es := es.modify c.fairestAt (·.approach part p)
  if pace.reach = 0 then es else approachAround part pace.reach c.fairestAt p es

/-- The steps between the colours that are shown; the first that does not divide their number is
taken. -/
def strides : List Nat := [499, 491, 478, 503]

def learn (pixels : Array Pixel) (stride delta : Nat) :
    Nat → Nat → Nat → Pace → Array Entry → Array Entry
  | 0, _, _, _, es => es
  | n + 1, done, place, pace, es =>
    let es := learnColor pace (pixels.getD place .transparent) es
    let pace := if (done + 1) % delta = 0 then pace.slow else pace
    learn pixels stride delta n (done + 1) ((place + stride) % pixels.size) pace es

def learned (pixels : Array Pixel) : Array Entry :=
  let stride := (strides.find? fun s => pixels.size % s ≠ 0).getD 503
  learn pixels stride (max 1 (pixels.size / 128)) pixels.size 0 0 {} initial

def Entry.color (e : Entry) : Pixel :=
  ⟨e.red.round.toUInt8, e.green.round.toUInt8, e.blue.round.toUInt8, e.alpha.round.toUInt8⟩

def selectFrom (place : Nat) (colors : Array Pixel) : Array Pixel :=
  let green (i : Nat) : UInt8 := (colors.getD i .transparent).green
  let least := (List.range' (place + 1) (colors.size - (place + 1))).foldl
    (fun best i => if green i < green best then i else best) place
  colors.swapIfInBounds place least

def sorted (colors : Array Pixel) : Array Pixel :=
  (List.range colors.size).foldl (fun cs i => selectFrom i cs) colors

structure Palette where
  colors : Array Pixel
  starts : Array Nat

def startsOf (colors : Array Pixel) : Array Nat :=
  let last := colors.size - 1
  let run (s : Array Nat × Nat × Nat) (i : Nat) : Array Nat × Nat × Nat :=
    let (starts, green, first) := s
    let next := (colors.getD i .transparent).green.toNat
    if next = green then s
    else (starts ++ Array.replicate 1 ((first + i) / 2) ++ Array.replicate (next - green - 1) i,
      next, i)
  let (starts, green, first) := (List.range colors.size).foldl run (#[], 0, 0)
  starts ++ Array.replicate 1 ((first + last) / 2) ++ Array.replicate (255 - green) last

def Palette.ofColors (pixels : Array Pixel) : Palette :=
  let colors := sorted ((learned pixels).map Entry.color)
  ⟨colors, startsOf colors⟩

def square (a b : UInt8) : Nat :=
  let d := max a.toNat b.toNat - min a.toNat b.toNat
  d * d

def search (p : Pixel) : List (Nat × Pixel) → Nat × Nat → Nat × Nat
  | [], found => found
  | (i, q) :: r, (distance, place) =>
    let green := square q.green p.green
    if distance < green then (distance, place)
    else
      let all := green + square q.red p.red + square q.blue p.blue + square q.alpha p.alpha
      search p r (if all < distance then (all, i) else (distance, place))

/-- The entry that stands for a colour: the nearest one, looked for on both sides of where its green
would be. -/
def Palette.index (t : Palette) (p : Pixel) : Nat :=
  let start := t.starts.getD p.green.toNat 0
  let numbered := t.colors.toList.zipIdx.map fun c => (c.2, c.1)
  let found := search p (numbered.drop start) (2 ^ 31 - 1, start)
  (search p (numbered.take start).reverse found).2

end Stagecraft.Quantize
