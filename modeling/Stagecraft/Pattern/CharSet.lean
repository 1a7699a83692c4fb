/-!
Sets of characters as ranges of their numbers, in order and with other numbers between them.
-/

set_option autoImplicit false

namespace Stagecraft

structure CharSet where
  ranges : List (Nat × Nat)
  deriving DecidableEq, Repr

namespace CharSet

def contains (s : CharSet) (n : Nat) : Bool := s.ranges.any fun r => r.1 ≤ n && n ≤ r.2

def empty : CharSet := ⟨[]⟩

@[simp] theorem contains_empty (n : Nat) : empty.contains n = false := rfl

def maxChar : Nat := 0x10ffff

def all : CharSet := ⟨[(0, maxChar)]⟩

/-- Numbers next to one; some in the middle are not for characters. -/
def after (n : Nat) : Nat := if n = 0xd7ff then 0xe000 else n + 1
def before (n : Nat) : Nat := if n = 0xe000 then 0xd7ff else n - 1

def insert (lo hi : Nat) : List (Nat × Nat) → List (Nat × Nat)
  | [] => [(lo, hi)]
  | (a, b) :: r =>
    if hi + 1 < a then (lo, hi) :: (a, b) :: r
    else if b + 1 < lo then (a, b) :: insert lo hi r
    else insert (min lo a) (max hi b) r

def ofRanges (rs : List (Nat × Nat)) : CharSet := ⟨rs.foldl (fun s r => insert r.1 r.2 s) []⟩

def single (c : Char) : CharSet := ⟨[(c.toNat, c.toNat)]⟩

def union (a b : CharSet) : CharSet := ⟨b.ranges.foldl (fun s r => insert r.1 r.2 s) a.ranges⟩

def common? (r s : Nat × Nat) : Option (Nat × Nat) :=
  if max r.1 s.1 ≤ min r.2 s.2 then some (max r.1 s.1, min r.2 s.2) else none

def inter (a b : CharSet) : CharSet := ⟨a.ranges.flatMap fun r => b.ranges.filterMap (common? r)⟩

def without (lo hi : Nat) : List (Nat × Nat) → List (Nat × Nat)
  | [] => [(lo, hi)]
  | (a, b) :: r =>
    if b < lo then without lo hi r
    else if hi < a then [(lo, hi)]
    else
      (if lo < a then [(lo, before a)] else []) ++
        (if b < hi then without (after b) hi r else [])

def diff (a b : CharSet) : CharSet := ⟨a.ranges.flatMap fun r => without r.1 r.2 b.ranges⟩

def symmDiff (a b : CharSet) : CharSet := (a.union b).diff (a.inter b)

/-- The gaps after a number. One that holds no character counts as the two that are beside it. -/
def gapsAfter (n : Nat) : List (Nat × Nat) → List (Nat × Nat)
  | [] => if n < maxChar then [(after n, maxChar)] else []
  | (a, b) :: r => (min (after n) (before a), max (after n) (before a)) :: gapsAfter b r

def other : CharSet → CharSet
  | ⟨[]⟩ => all
  | ⟨(a, b) :: r⟩ => ⟨(if 0 < a then [(0, before a)] else []) ++ gapsAfter b r⟩

def capitals : CharSet := ⟨[(65, 90)]⟩
def smalls : CharSet := ⟨[(97, 122)]⟩

/-- With each letter also that letter in the other case, of the 26 basic ones. -/
def anyCase (s : CharSet) : CharSet :=
  (s.union ⟨(s.inter capitals).ranges.map fun r => (r.1 + 32, r.2 + 32)⟩).union
    ⟨(s.inter smalls).ranges.map fun r => (r.1 - 32, r.2 - 32)⟩

def isBasic (s : CharSet) : Bool := s.ranges.all (·.2 < 128)

def only? : CharSet → Option Char
  | ⟨[(a, b)]⟩ => if a = b then some (.ofNat a) else none
  | _ => none

def ofChars (rs : List (Char × Char)) : CharSet :=
  ofRanges (rs.map fun r => (r.1.toNat, r.2.toNat))

def named? : String → Option CharSet
  | "alnum" => some (ofChars [('0', '9'), ('A', 'Z'), ('a', 'z')])
  | "alpha" => some (ofChars [('A', 'Z'), ('a', 'z')])
  | "ascii" => some (ofRanges [(0, 127)])
  | "blank" => some (ofChars [('\t', '\t'), (' ', ' ')])
  | "cntrl" => some (ofChars [('\x00', '\x1f'), ('\x7f', '\x7f')])
  | "digit" => some (ofChars [('0', '9')])
  | "graph" => some (ofChars [('!', '~')])
  | "lower" => some (ofChars [('a', 'z')])
  | "print" => some (ofChars [(' ', '~')])
  | "punct" => some (ofChars [('!', '/'), (':', '@'), ('[', '\x60'), ('\x7b', '~')])
  | "space" => some (ofChars [('\t', '\r'), (' ', ' ')])
  | "upper" => some (ofChars [('A', 'Z')])
  | "word" => some (ofChars [('0', '9'), ('A', 'Z'), ('_', '_'), ('a', 'z')])
  | "xdigit" => some (ofChars [('0', '9'), ('A', 'F'), ('a', 'f')])
  | _ => none

end CharSet

end Stagecraft
