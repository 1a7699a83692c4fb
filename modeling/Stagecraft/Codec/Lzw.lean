import Stagecraft.Codec.Bytes

/-!
Compressed data as numbers of words, where each number makes a new word of the last one and the
first byte of this one. Writing makes words of single bytes only.
-/

set_option autoImplicit false

namespace Stagecraft.Lzw

def maxWords : Nat := 4096

/-- The words at first: those of one byte, and two without bytes, which start afresh and end. -/
def firstWords (least : Nat) : Array Bytes :=
  ((List.range (2 ^ least)).map fun n => [.ofNat n]).toArray ++ #[[], []]

def width (words : Nat) : Nat := min 12 (words.log2 + 1)

structure State where
  words : Array Bytes
  last : Bytes := []
  out : Array UInt8 := #[]

def State.take? (s : State) (n : Nat) : Option State := do
  let word ← match s.words[n]? with
    | some w => some w
    | none => if n = s.words.size ∧ s.last ≠ [] then some (s.last ++ s.last.take 1) else none
  if word = [] then none
  else
    let words :=
      if s.last = [] ∨ maxWords ≤ s.words.size then s.words
      else s.words.push (s.last ++ word.take 1)
    some ⟨words, word, s.out ++ word.toArray⟩

def bitsAt (b : Array UInt8) (position : Nat) : Nat → Nat
  | 0 => 0
  | n + 1 =>
    (b.getD (position / 8) 0).toNat / 2 ^ (position % 8) % 2 + 2 * bitsAt b (position + 1) n

/-- Reads numbers until there are `wanted` bytes, the end is marked or the input is used up. Each
takes input, so fuel for each bit is enough. -/
def read? (least wanted : Nat) (b : Array UInt8) : Nat → Nat → State → Option (Array UInt8)
  | 0, _, s => some s.out
  | fuel + 1, position, s =>
    let n := width s.words.size
    if wanted ≤ s.out.size ∨ 8 * b.size < position + n then some s.out
    else
      let code := bitsAt b position n
      if code = 2 ^ least then
        read? least wanted b fuel (position + n) ⟨firstWords least, [], s.out⟩
      else if code = 2 ^ least + 1 then some s.out
      else do read? least wanted b fuel (position + n) (← s.take? code)

def decode? (least wanted : Nat) (b : Bytes) : Option Bytes := do
  let b := b.toArray
  let out ← read? least wanted b (8 * b.size + 1) 0 { words := firstWords least }
  return (out.extract 0 wanted).toList

def packed : List Bool → Bytes
  | [] => []
  | a :: r =>
    let byte := (a :: r).take 8
    .ofNat (byte.foldr (fun b n => b.toNat + 2 * n) 0) :: packed (r.drop 7)
termination_by l => l.length
decreasing_by simp only [List.length_drop, List.length_cons]; omega

def bitsOf (n : Nat) : Nat → List Bool
  | 0 => []
  | k + 1 => (n % 2 == 1) :: bitsOf (n / 2) k

/-- Bytes with a fresh start before so many of them that the numbers keep nine bits. -/
def marked : Nat → Bytes → List Nat
  | _, [] => [257]
  | 0, b :: r => 256 :: b.toNat :: marked 253 r
  | n + 1, b :: r => b.toNat :: marked n r

def encode (b : Bytes) : Bytes := packed ((marked 0 b).flatMap (bitsOf · 9))

end Stagecraft.Lzw
