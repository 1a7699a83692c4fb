import Stagecraft.Pattern.Basic

/-!
Patterns put together from parts in a normal form. Parts that follow each other are joined, what
fits nothing but the empty text is not repeated, and a choice between single characters is a set.
-/

set_option autoImplicit false

namespace Stagecraft.Pattern

mutual

def beq : Pattern → Pattern → Bool
  | .empty, .empty => true
  | .literal s, .literal t => s == t
  | .one w s, .one v t => w == v && s == t
  | .edge e, .edge f => e == f
  | .repeated p l m g, .repeated q k n h => beq p q && l == k && m == n && g == h
  | .group m p, .group n q => m == n && beq p q
  | .sequence ps, .sequence qs => beqAll ps qs
  | .choice ps, .choice qs => beqAll ps qs
  | _, _ => false

def beqAll : List Pattern → List Pattern → Bool
  | [], [] => true
  | p :: ps, q :: qs => beq p q && beqAll ps qs
  | _, _ => false

end

mutual

def isVoid : Pattern → Bool
  | .empty => true
  | .literal _ => false
  | .one _ _ => false
  | .edge _ => true
  | .repeated p _ _ _ => isVoid p
  | .group _ p => isVoid p
  | .sequence ps => areVoid ps
  | .choice ps => areVoid ps

def areVoid : List Pattern → Bool
  | [] => true
  | p :: ps => isVoid p && areVoid ps

end

def ofSet (wide : Bool) (s : CharSet) : Pattern :=
  match s.only? with
  | some c => .literal [c]
  | none => .one (wide && !s.ranges.isEmpty) s

def parts : Pattern → List Pattern
  | .empty => []
  | .sequence ps => ps
  | p => [p]

/-- Neighbours that stand for themselves as one. -/
def glued : List Pattern → List Pattern
  | [] => []
  | p :: ps =>
    match p, glued ps with
    | .literal s, .literal t :: qs => .literal (s ++ t) :: qs
    | p, qs => p :: qs

def inSequence (ps : List Pattern) : Pattern :=
  match glued (ps.flatMap parts) with
  | [] => .empty
  | [p] => p
  | qs => .sequence qs

def branches : Pattern → List Pattern
  | .choice ps => ps
  | p => [p]

def literalSet? : Pattern → Option CharSet
  | .literal [c] => some (.single c)
  | _ => none

def setOf? : Pattern → Option CharSet
  | .one _ s => some s
  | _ => none

def mergedSet? (ps : List Pattern) : Option CharSet := do
  let sets ← ps.mapM literalSet? <|> ps.mapM setOf?
  return sets.foldl .union .empty

def commonLength : List Pattern → List Pattern → Nat
  | p :: ps, q :: qs => if beq p q then commonLength ps qs + 1 else 0
  | _, _ => 0

def sequence? : Pattern → Option (List Pattern)
  | .sequence ps => some ps
  | _ => none

def simpleChoice (ps : List Pattern) : Pattern :=
  match ps.flatMap branches with
  | [p] => p
  | qs =>
    match mergedSet? qs with
    | some s => ofSet true s
    | none => .choice qs

/-- What sequences begin with in common, followed by a choice between the rests. -/
def lifted? (ps : List Pattern) : Option Pattern := do
  match ← ps.mapM sequence? with
  | [] => none
  | first :: others =>
    let n := others.foldl (fun n q => min n (commonLength first q)) first.length
    if n = 0 then none
    else
      let rests := (first :: others).map fun q => inSequence (q.drop n)
      return inSequence (first.take n ++ [simpleChoice rests])

def inChoice (ps : List Pattern) : Pattern :=
  match simpleChoice ps with
  | .choice qs => (lifted? qs).getD (.choice qs)
  | p => p

def inRepetition (p : Pattern) (least : Nat) (most : Option Nat) (greedy : Bool) : Pattern :=
  let (least, most) := if p.isVoid then (min least 1, some (min (most.getD 1) 1)) else (least, most)
  if most = some 0 then .empty
  else if least = 1 ∧ most = some 1 then p
  else .repeated p least most greedy

mutual

def isKnown : Pattern → Bool
  | .edge e => e != .unknown
  | .repeated p _ _ _ => isKnown p
  | .group _ p => isKnown p
  | .sequence ps => areKnown ps
  | .choice ps => areKnown ps
  | _ => true

def areKnown : List Pattern → Bool
  | [] => true
  | p :: ps => isKnown p && areKnown ps

end

end Stagecraft.Pattern
