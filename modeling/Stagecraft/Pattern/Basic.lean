import Stagecraft.Pattern.CharSet

/-!
Patterns for texts: characters and sets of them, in sequence, in choice and repeated, and conditions
on the places between characters. A set of places of a text is a list of truth values, one for each
place from before the first character to past the last; a pattern leads from places to places.
-/

set_option autoImplicit false

namespace Stagecraft

/-- A condition on a place: what may stand before it and after it. -/
inductive Edge where
  | textStart
  | textEnd
  | lineStart
  | lineEnd
  /-- The same where a line may also end with a return, with or without a feed after it. -/
  | returnStart
  | returnEnd
  | word
  | noWord
  | wordStart
  | wordEnd
  | halfStart
  | halfEnd
  /-- An edge of words of every alphabet. What these are is not known, so it may only stand where it
  does not count. -/
  | unknown
  deriving DecidableEq, Repr

namespace Edge

def isWord (c : Option Char) : Bool := c.any fun c => c.isAlphanum || c == '_'

def holds : Edge → Option Char → Option Char → Bool
  | .textStart, before, _ => before.isNone
  | .textEnd, _, after => after.isNone
  | .lineStart, before, _ => before.all (· == '\n')
  | .lineEnd, _, after => after.all (· == '\n')
  | .returnStart, before, after =>
    before.all (· == '\n') || before == some '\r' && after != some '\n'
  | .returnEnd, before, after =>
    after.all (· == '\r') || after == some '\n' && before != some '\r'
  | .word, before, after => isWord before != isWord after
  | .noWord, before, after => isWord before == isWord after
  | .wordStart, before, after => !isWord before && isWord after
  | .wordEnd, before, after => isWord before && !isWord after
  | .halfStart, before, _ => !isWord before
  | .halfEnd, _, after => !isWord after
  | .unknown, _, _ => false

def places (e : Edge) : Option Char → List Char → List Bool
  | before, [] => [e.holds before none]
  | before, c :: r => e.holds before (some c) :: e.places (some c) r

end Edge

inductive Pattern where
  | empty
  | literal (s : List Char)
  /-- A character of a set, which may be one of characters of every alphabet or one of bytes. -/
  | one (wide : Bool) (s : CharSet)
  | edge (e : Edge)
  | repeated (p : Pattern) (least : Nat) (most : Option Nat) (greedy : Bool)
  | group (number : Nat) (p : Pattern)
  | sequence (ps : List Pattern)
  | choice (ps : List Pattern)

namespace Pattern

def settle {α : Type} [DecidableEq α] (f : α → α) : Nat → α → α
  | 0, x => x
  | n + 1, x => if f x = x then x else settle f n (f x)

def join (s t : List Bool) : List Bool := List.zipWith (· || ·) s t

def stepOver (p : Char → Bool) (text : List Char) (s : List Bool) : List Bool :=
  false :: List.zipWith (fun here x => here && p x) s text

mutual

/-- Where a pattern leads from some places. A text of `n` characters has no more than `n` steps
forward, so after that many repetitions and one nothing new is reached. -/
def reach (text : List Char) : Pattern → List Bool → List Bool
  | .empty, s => s
  | .literal cs, s => cs.foldl (fun t c => stepOver (· == c) text t) s
  | .one _ c, s => stepOver (fun x => c.contains x.toNat) text s
  | .edge e, s => List.zipWith (· && ·) s (e.places none text)
  | .repeated p least most _, s =>
    let enough := text.length + 1
    let begun := settle (reach text p) (min least enough) s
    let further := (most.map fun m => min (m - least) enough).getD enough
    settle (fun t => join t (reach text p t)) further begun
  | .group _ p, s => reach text p s
  | .sequence ps, s => reachAll text ps s
  | .choice ps, s => reachAny text ps s

def reachAll (text : List Char) : List Pattern → List Bool → List Bool
  | [], s => s
  | p :: ps, s => reachAll text ps (reach text p s)

def reachAny (text : List Char) : List Pattern → List Bool → List Bool
  | [], s => s.map fun _ => false
  | p :: ps, s => join (reach text p s) (reachAny text ps s)

end

def occursIn (p : Pattern) (text : String) : Bool :=
  let cs := text.toList
  (p.reach cs (List.replicate (cs.length + 1) true)).any id

end Pattern

end Stagecraft
