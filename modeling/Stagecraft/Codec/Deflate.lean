import Stagecraft.Codec.Bytes

/-!
Compressed data as blocks of literal bytes and references to bytes already produced. Reading takes
stored blocks and both kinds of coded blocks; writing makes stored blocks only.
-/

set_option autoImplicit false

namespace Stagecraft.Deflate

/-- Input bytes with a position counted in bits, the low bit of a byte first, and the bytes produced
so far. -/
structure Tape where
  bytes : Array UInt8
  position : Nat := 0
  out : Array UInt8 := #[]
  wanted : Option Nat := none

/-- Whether more bits were read than there are; those past the end are zero. -/
def Tape.isOverrun (t : Tape) : Bool := 8 * t.bytes.size < t.position

def Tape.ahead (t : Tape) : Nat := 8 * t.bytes.size - t.position

def Tape.room (t : Tape) (n : Nat) : Nat :=
  match t.wanted with
  | some w => min n (w - t.out.size)
  | none => n

def Tape.isFull (t : Tape) : Bool := t.room 1 == 0

inductive Stop where
  | exhausted
  | full
  | malformed
  deriving DecidableEq, Repr

/-- A reading of the tape. What was produced before it stops is kept. -/
abbrev Reader := ExceptT Stop (StateM Tape)

/-- A rule broken by bits past the end is none. -/
def malformed {α : Type} : Reader α := do
  throw (if (← get).isOverrun then .exhausted else .malformed)

def demand {α : Type} : Option α → Reader α
  | some x => return x
  | none => malformed

def within {α : Type} (r : Reader α) : Reader α := do
  let x ← r
  if (← get).isOverrun then throw .exhausted
  return x

def need (n : Nat) : Reader Unit := do
  if (← get).ahead < n then throw .exhausted

def bit : Reader Nat := do
  let t ← get
  set { t with position := t.position + 1 }
  return (t.bytes.getD (t.position / 8) 0).toNat / 2 ^ (t.position % 8) % 2

def bits : Nat → Reader Nat
  | 0 => return 0
  | n + 1 => do
    let low ← bit
    let high ← bits n
    return low + 2 * high

def align : Reader Unit := modify fun t => { t with position := (t.position + 7) / 8 * 8 }

def produce (b : UInt8) : Reader Unit :=
  modify fun t => if t.isFull then t else { t with out := t.out.push b }

def maxLength : Nat := 15

/-- A prefix code in which shorter words come first and words of one length are consecutive: how
many words there are of each length from one on, and the symbols in the order of their words. -/
structure Code where
  counts : List Nat
  symbols : Array Nat

/-- The code whose symbol `i` has a word of the `i`-th length; length zero means no word. -/
def Code.ofLengths (lengths : List Nat) : Code :=
  let indexed := lengths.zipIdx
  let sizes := List.range' 1 maxLength
  ⟨sizes.map fun n => lengths.count n,
    (sizes.flatMap fun n => (indexed.filter fun p => p.1 == n).map (·.2)).toArray⟩

/-- Whether every sequence of bits begins with a word, and with one only. -/
def isComplete (lengths : List Nat) : Bool :=
  lengths.foldl (fun n l => if l = 0 then n else n + 2 ^ (maxLength - l)) 0 == 2 ^ maxLength

def Code.complete? (lengths : List Nat) : Option Code :=
  if isComplete lengths then some (.ofLengths lengths) else none

/-- A code for distances may also have no word, or a single one of one bit. -/
def Code.distances? (lengths : List Nat) : Option Code :=
  match lengths.filter (· ≠ 0) with
  | [] => some (.ofLengths lengths)
  | [1] => some (.ofLengths lengths)
  | _ => complete? lengths

/-- Reads a word bit by bit. `first` is the first word of the current length and `index` the number
of symbols with shorter words. -/
def symbolFrom (symbols : Array Nat) (word first index : Nat) : List Nat → Reader Nat
  | [] => malformed
  | count :: counts => do
    let word := word + (← bit)
    if word < first + count then demand symbols[index + (word - first)]?
    else symbolFrom symbols (2 * word) (2 * (first + count)) (index + count) counts

def Code.symbol (c : Code) : Reader Nat := symbolFrom c.symbols 0 0 0 c.counts

/-- The symbol that ends a block; those below it are literal bytes, those above it lengths. -/
def endSymbol : Nat := 256

def lengthRanges : List (Nat × Nat) :=
  [(3, 0), (4, 0), (5, 0), (6, 0), (7, 0), (8, 0), (9, 0), (10, 0), (11, 1), (13, 1), (15, 1),
   (17, 1), (19, 2), (23, 2), (27, 2), (31, 2), (35, 3), (43, 3), (51, 3), (59, 3), (67, 4),
   (83, 4), (99, 4), (115, 4), (131, 5), (163, 5), (195, 5), (227, 5), (258, 0)]

def distanceRanges : List (Nat × Nat) :=
  [(1, 0), (2, 0), (3, 0), (4, 0), (5, 1), (7, 1), (9, 2), (13, 2), (17, 3), (25, 3), (33, 4),
   (49, 4), (65, 5), (97, 5), (129, 6), (193, 6), (257, 7), (385, 7), (513, 8), (769, 8),
   (1025, 9), (1537, 9), (2049, 10), (3073, 10), (4097, 11), (6145, 11), (8193, 12), (12289, 12),
   (16385, 13), (24577, 13)]

def ranged (ranges : List (Nat × Nat)) (i : Nat) : Reader Nat := do
  let (least, more) ← demand ranges[i]?
  return least + (← bits more)

/-- Repeats `n` bytes from `distance` bytes back; the copy may overlap what it makes. -/
def copied (distance : Nat) : Nat → Array UInt8 → Array UInt8
  | 0, out => out
  | n + 1, out => copied distance n (out.push (out.getD (out.size - distance) 0))

def copy (distance length : Nat) : Reader Unit := do
  if distance ≤ (← get).out.size then
    modify fun t => { t with out := copied distance (t.room length) t.out }
  else malformed

/-- Short words for two literals are read as one when the second has at least two bits and both
together no more than this. -/
def maxPair : Nat := 12

def paired (literals : Code) (start : Nat) : Reader (Option Nat) := do
  let middle := (← get).position
  if maxPair < middle - start + 2 then return none
  let s ← literals.symbol
  let stop := (← get).position
  if s < endSymbol ∧ middle + 2 ≤ stop ∧ stop ≤ start + maxPair then return some s
  modify fun t => { t with position := middle }
  return none

/-- The contents of a coded block, up to and with its end symbol; no symbol is read when no more is
wanted. Every symbol takes input, so fuel for each bit of the input is enough. -/
def coded (literals distances : Code) : Nat → Reader Unit
  | 0 => malformed
  | fuel + 1 => do
    if (← get).isFull then throw .full
    let start := (← get).position
    let s ← literals.symbol
    if s < endSymbol then
      let more ← within (paired literals start)
      produce (.ofNat s)
      if let some t := more then produce (.ofNat t)
      coded literals distances fuel
    else if s = endSymbol then within (return)
    else
      let (length, distance) ← within do
        let length ← ranged lengthRanges (s - endSymbol - 1)
        let distance ← ranged distanceRanges (← distances.symbol)
        return (length, distance)
      copy distance length
      coded literals distances fuel

def fixedLiterals : List Nat :=
  List.replicate 144 8 ++ List.replicate 112 9 ++ List.replicate 24 7 ++ List.replicate 8 8

def fixedDistances : List Nat := List.replicate 32 5

def lengthOrder : List Nat := [16, 17, 18, 0, 8, 7, 9, 6, 10, 5, 11, 4, 12, 3, 13, 2, 14, 1, 15]

def maxLengthWord : Nat := 7

/-- Word lengths, with short forms for runs, until there are at least `total`. Each step adds a
length, so fuel for each of them is enough. -/
def lengthsFrom (code : Code) (total : Nat) : Nat → List Nat → Reader (List Nat)
  | 0, _ => malformed
  | fuel + 1, done => do
    if total ≤ done.length then return done
    need maxLengthWord
    let s ← code.symbol
    if s < 16 then lengthsFrom code total fuel (done ++ [s])
    else if s = 16 then
      let count ← within (bits 2)
      let last ← demand done.getLast?
      lengthsFrom code total fuel (done ++ List.replicate (3 + count) last)
    else if s = 17 then
      let count ← within (bits 3)
      lengthsFrom code total fuel (done ++ List.replicate (3 + count) 0)
    else
      let count ← within (bits 7)
      lengthsFrom code total fuel (done ++ List.replicate (11 + count) 0)

def maxLiterals : Nat := 286
def maxDistances : Nat := 30

def codes : Reader (Code × Code) := do
  need 14
  let literalCount := 257 + (← bits 5)
  let distanceCount := 1 + (← bits 5)
  let lengthCount := 4 + (← bits 4)
  if maxLiterals < literalCount ∨ maxDistances < distanceCount then malformed
  else
    need (3 * lengthCount)
    let written ← (lengthOrder.take lengthCount).mapM fun i => return (i, ← bits 3)
    let lengths := (List.range 19).map fun i => (written.lookup i).getD 0
    let code ← demand (Code.complete? lengths)
    let total := literalCount + distanceCount
    let all ← lengthsFrom code total (total + 1) []
    if all.length = total ∧ all[endSymbol]? ≠ some 0 then
      let literals ← demand (Code.complete? (all.take literalCount))
      let distances ← demand (Code.distances? (all.drop literalCount))
      return (literals, distances)
    else malformed

def stored : Reader Unit := do
  align
  need 32
  let length ← bits 16
  let check ← bits 16
  if length + check ≠ 65535 then malformed
  else
    let start := (← get).position / 8
    let room := (← get).room length
    modify fun t => { t with
      position := t.position + 8 * length
      out := t.out ++ t.bytes.extract start (start + room) }
    if (← get).isOverrun then throw .exhausted
    if room < length then throw .full

/-- The contents of a block of the fixed codes. The end symbol, which is seven zeros, is also read
when no more is wanted, if it comes first. -/
def fixed (fuel : Nat) : Reader Unit := do
  let start := (← get).position
  if (← bits 7) ≠ 0 then
    modify fun t => { t with position := start }
    coded (.ofLengths fixedLiterals) (.ofLengths fixedDistances) fuel

def leastBlock : Nat := 10

def blocks : Nat → Reader Unit
  | 0 => malformed
  | fuel + 1 => do
    need leastBlock
    let last ← bit
    let limit := 8 * (← get).bytes.size + 1
    match ← bits 2 with
    | 0 => stored
    | 1 => fixed limit
    | 2 =>
      let (literals, distances) ← codes
      coded literals distances limit
    | _ => malformed
    if last = 1 then return else blocks fuel

def read (wanted : Option Nat) (input : Array UInt8) : Except Stop Unit × Tape :=
  (blocks (8 * input.size + 1)).run.run ⟨input, 0, #[], wanted⟩

/-- The first `wanted` bytes, or as many of them as the input holds; none if it breaks a rule before
there are enough. -/
def inflate? (wanted : Nat) (b : Bytes) : Option (Array UInt8) :=
  match read (some wanted) b.toArray with
  | (.error .malformed, _) => none
  | (_, t) => some t.out

def inflateAll? (b : Bytes) : Option (Array UInt8 × Bytes) :=
  match read none b.toArray with
  | (.ok _, t) => some (t.out, b.drop ((t.position + 7) / 8))
  | (.error _, _) => none

def maxStored : Nat := 65535

def storedBlock (last : Bool) (b : Bytes) : Bytes :=
  (if last then 1 else 0) ::
    (Bytes.ofNatLE 2 b.length ++ Bytes.ofNatLE 2 (maxStored - b.length) ++ b)

def store (b : Bytes) : Bytes :=
  if maxStored < b.length then
    storedBlock false (b.take maxStored) ++ store (b.drop maxStored)
  else
    storedBlock true b
termination_by b.length
decreasing_by simp only [maxStored, List.length_drop] at *; omega

end Stagecraft.Deflate
