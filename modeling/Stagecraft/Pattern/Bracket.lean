import Stagecraft.Pattern.Escape

/-!
Sets of characters in brackets: characters, ranges, classes with a name and further brackets, and
three operations on what stands left and right of them.
-/

set_option autoImplicit false

namespace Stagecraft.Pattern

inductive Operation where
  | inter
  | diff
  | symmDiff
  deriving DecidableEq, Repr

def Operation.apply : Operation → CharSet → CharSet → CharSet
  | .inter => .inter
  | .diff => .diff
  | .symmDiff => .symmDiff

/-- A set as it is read: whether it is known to have both cases of all its letters, of how many
items it was put together, and how deep these nest. -/
structure Items where
  set : CharSet := .empty
  bothCases : Bool := true
  count : Nat := 0
  depth : Nat := 0

def Items.addRange (s : Items) (lo hi : Nat) : Items :=
  { s with set := s.set.union ⟨[(lo, hi)]⟩, bothCases := false, count := s.count + 1 }

def Items.add (s t : Items) : Items :=
  let isMore := !t.set.ranges.isEmpty && s.set != t.set
  { set := s.set.union t.set
    bothCases := s.bothCases && (!isMore || t.bothCases)
    count := s.count + 1
    depth := max s.depth t.depth }

def Items.closed (s : Items) : Items :=
  { s with count := 1, depth := if 2 ≤ s.count then s.depth + 1 else s.depth }

/-- A set with both cases of its letters, where either stands for both. Case is known in bytes
only. -/
def folded (s : Items) : Reader Items := do
  let f ← settings
  if !f.anyCase then return s
  else if f.wide then
    require (s.bothCases || s.set.ranges.isEmpty)
    return { s with bothCases := true }
  else return { s with set := s.set.anyCase, bothCases := true }

/-- A set with the settings and with a negation applied. In bytes no set holds more than the first
128. -/
def finished (negated : Bool) (s : Items) : Reader Items := do
  let s ← folded s
  if negated then
    require (← settings).wide
    return { s with set := s.set.other, bothCases := s.bothCases || s.set.ranges.isEmpty }
  else return s

def resolved (pending : Option (Items × Operation)) (s : Items) : Reader Items := do
  let s := s.closed
  match pending with
  | none => return s
  | some (left, o) =>
    let right ← folded s
    let left ← folded left
    return {
      set := o.apply left.set right.set
      bothCases := left.bothCases && right.bothCases
      count := 1
      depth := max left.depth right.depth + 1 }

def bracketItem : Reader Token := do
  let c ← next
  if c = '\\' then escape else return .literal c

def literalOf : Token → Reader Char
  | .literal c => do
    require ((← settings).wide || c.toNat < 128)
    return c
  | _ => failure

def bracketRange (s : Items) : Reader Items := do
  let first ← bracketItem
  skipBlank
  require !(← ahead).isEmpty
  let after ← second?
  if (← ahead).head? != some '-' || after == some ']' || after == some '-' then
    match first with
    | .set c => return s.add { set := c, bothCases := false }
    | t =>
      let c ← literalOf t
      return s.addRange c.toNat c.toNat
  else
    let _ ← next
    skipBlank
    let lo ← literalOf first
    let hi ← literalOf (← bracketItem)
    require (lo ≤ hi)
    return s.addRange lo.toNat hi.toNat

def namedClass? : List Char → Option (Bool × CharSet × List Char)
  | '[' :: ':' :: r =>
    let negated := r.head? == some '^'
    let (n, more) := (if negated then r.drop 1 else r).span (· != ':')
    match CharSet.named? (String.ofList n), more with
    | some s, ':' :: ']' :: unread => some (negated, s, unread)
    | _, _ => none
  | _ => none

/-- Hyphens at the front, which stand for themselves, or else a bracket, which does too. -/
def opening : Nat → Items → Reader Items
  | 0, _ => failure
  | fuel + 1, s => do
    if ← accept "-" then
      skipBlank
      opening fuel (s.addRange '-'.toNat '-'.toNat)
    else if s.count = 0 then
      if ← accept "]" then
        skipBlank
        return s.addRange ']'.toNat ']'.toNat
      else return s
    else return s

mutual

def bracket : Nat → Reader Items
  | 0 => failure
  | fuel + 1 => do
    skipBlank
    let negated ← accept "^"
    skipBlank
    let s ← opening (fuel + 1) {}
    members fuel negated none s

def members : Nat → Bool → Option (Items × Operation) → Items → Reader Items
  | 0, _, _, _ => failure
  | fuel + 1, negated, pending, s => do
    skipBlank
    if ← accept "]" then
      let s ← finished negated (← resolved pending s)
      return { s with depth := s.depth + 1 }
    else if ← accept "&&" then
      members fuel negated (some (← resolved pending s, .inter)) {}
    else if ← accept "--" then
      members fuel negated (some (← resolved pending s, .diff)) {}
    else if ← accept "~~" then
      members fuel negated (some (← resolved pending s, .symmDiff)) {}
    else if (← ahead).head? = some '[' then
      match namedClass? (← ahead) with
      | some (n, c, r) =>
        continueWith r
        members fuel negated pending (s.add (← finished n { set := c, bothCases := false }))
      | none =>
        let _ ← next
        let inner ← bracket fuel
        members fuel negated pending (s.add inner)
    else members fuel negated pending (← bracketRange s)

end

end Stagecraft.Pattern
