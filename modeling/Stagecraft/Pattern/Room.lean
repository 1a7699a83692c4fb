import Stagecraft.Pattern.Encoding
import Stagecraft.Pattern.Normal

/-!
The room that following a pattern takes: it is followed by the bytes of a text as a graph of steps,
in both directions. A pattern that takes too much is refused.
-/

set_option autoImplicit false

namespace Stagecraft.Pattern

inductive Direction where
  | forward
  | backward
  deriving DecidableEq, Repr

/-- Room for a step, for a range of bytes in a step that has several, and for one of the ways on
from a fork. -/
def stepRoom : Nat := 32
def rangeRoom : Nat := 8
def wayRoom : Nat := 4

def forkRoom (ways : Nat) : Nat := stepRoom + wayRoom * ways

def branchRoom (ranges : Nat) : Nat := stepRoom + rangeRoom * ranges

def firsts {α : Type} [BEq α] (l : List (List α)) : List α := (l.filterMap List.head?).eraseDups

def restsOf {α : Type} [BEq α] (l : List (List α)) (x : α) : List (List α) :=
  l.filterMap fun
    | [] => none
    | y :: r => if y == x then some r else none

/-- The steps of a graph that follows sequences from their fronts; a step is known by the sequences
that are left. The fuel bounds their lengths. -/
def stepsOf {α : Type} [BEq α] : Nat → List (List α) → List (List (List α))
  | 0, _ => []
  | fuel + 1, l =>
    if (firsts l).isEmpty then []
    else l :: (firsts l).flatMap fun x => stepsOf fuel (restsOf l x)

def maxEncoding : Nat := 4

/-- Room for a character of a set. Forward, steps that go on in the same way are one; backward,
those that come from the same way are. -/
def setRoom (d : Direction) (s : CharSet) : Nat :=
  if s.isBasic then stepRoom + branchRoom s.ranges.length
  else
    let all := s.encodings
    match d with
    | .forward =>
      let steps := (stepsOf (maxEncoding + 1) all).eraseDups
      steps.foldl (fun n l => n + branchRoom (firsts l).length) stepRoom
    | .backward =>
      let steps := (all.flatMap fun e => (List.range' 1 e.length).map (e.take ·)).eraseDups
      stepRoom + forkRoom all.length + stepRoom * steps.length

def groupsOf : List (List UInt8) → List (List (List UInt8))
  | [] => [[]]
  | [] :: ws => [] :: groupsOf ws
  | w :: ws =>
    match groupsOf ws with
    | g :: gs => (w :: g) :: gs
    | [] => [[w]]

def onceAtFront : List (List UInt8) → List (List UInt8)
  | [] :: ws => [] :: ws.dropWhile List.isEmpty
  | ws => ws

/-- Room for the steps of a tree of words. A group of words leads on in one step, and a fork leads
to the groups and to the ends between them. The fuel bounds the lengths of the words. -/
def treeRoom : Nat → List (List UInt8) → Nat
  | 0, _ => 0
  | fuel + 1, ws =>
    if ws.all List.isEmpty then 0
    else
      let groups := groupsOf (onceAtFront ws)
      let sizes := (groups.map fun g => (firsts g).length).filter (· ≠ 0)
      let steps := (sizes.map fun n => if n = 1 then stepRoom else branchRoom n).sum
      steps + forkRoom (sizes.length + (groups.length - 1)) +
        (groups.map fun g => ((firsts g).map fun b => treeRoom fuel (restsOf g b)).sum).sum

def bytesOf (s : List Char) : List UInt8 := s.flatMap String.utf8EncodeChar

def words? (ps : List Pattern) : Option (List (List UInt8)) :=
  ps.mapM fun
    | .literal s => some (bytesOf s)
    | _ => none

def wordsRoom (d : Direction) (ws : List (List UInt8)) : Nat :=
  let ws := if d = .backward then ws.map List.reverse else ws
  stepRoom + treeRoom ((ws.map List.length).foldl max 0 + 1) ws

mutual

def shortest? : Pattern → Option Nat
  | .empty => some 0
  | .literal s => some (bytesOf s).length
  | .one _ s => if s.ranges.isEmpty then none else some 1
  | .edge _ => some 0
  | .repeated p least _ _ => (shortest? p).map (least * ·)
  | .group _ p => shortest? p
  | .sequence ps => shortestAll? ps
  | .choice ps => shortestAny? ps

def shortestAll? : List Pattern → Option Nat
  | [] => some 0
  | p :: ps => do return (← shortest? p) + (← shortestAll? ps)

def shortestAny? : List Pattern → Option Nat
  | [] => none
  | [p] => shortest? p
  | p :: ps => do return min (← shortest? p) (← shortestAny? ps)

end

/-- Room for repetitions of something that takes `room`. Without a bound there is a way back, and a
second one where nothing may be repeated. -/
def repeatedRoom (room : Nat) (isProper : Bool) (least : Nat) : Option Nat → Nat
  | none =>
    if least = 0 then
      if isProper then forkRoom 2 + room else room + forkRoom 2 + forkRoom 2 + stepRoom
    else least * room + forkRoom 2
  | some most =>
    if most = 1 then forkRoom 2 + room + stepRoom
    else
      let front := if least = 0 then stepRoom else least * room
      if least = most then front
      else front + stepRoom + (most - least) * (forkRoom 2 + room)

mutual

def room (d : Direction) : Pattern → Nat
  | .empty => stepRoom
  | .literal s => stepRoom * (bytesOf s).length
  | .one _ s => setRoom d s
  | .edge _ => stepRoom
  | .repeated p least most _ =>
    repeatedRoom (room d p) ((shortest? p).any (0 < ·)) least most
  | .group _ p => (if d = .forward then 2 * stepRoom else 0) + room d p
  | .sequence ps => roomAll d ps
  | .choice ps =>
    match words? ps with
    | some ws => wordsRoom d ws
    | none => forkRoom ps.length + stepRoom + roomAll d ps

def roomAll (d : Direction) : List Pattern → Nat
  | [] => 0
  | p :: ps => room d p + roomAll d ps

end

mutual

def isBound (d : Direction) : Pattern → Bool
  | .edge e => e == (if d = .forward then .textStart else .textEnd)
  | .repeated p least _ _ => 0 < least && isBound d p
  | .group _ p => isBound d p
  | .sequence ps => (if d = .forward then firstBound d ps else lastBound d ps).1
  | .choice ps => areBound d ps
  | _ => false

def firstBound (d : Direction) : List Pattern → Bool × Bool
  | [] => (false, true)
  | p :: ps =>
    let (bound, void) := firstBound d ps
    (isBound d p || isVoid p && bound, isVoid p && void)

def lastBound (d : Direction) : List Pattern → Bool × Bool
  | [] => (false, true)
  | p :: ps =>
    let (bound, void) := lastBound d ps
    (bound || void && isBound d p, void && isVoid p)

def areBound (d : Direction) : List Pattern → Bool
  | [] => true
  | p :: ps => isBound d p && areBound d ps

end

def searchRoom (d : Direction) (p : Pattern) : Nat :=
  if p.isBound d then stepRoom else forkRoom 2 + stepRoom + branchRoom 1

def endRoom : Direction → Nat
  | .forward => 3 * stepRoom
  | .backward => stepRoom

def maxRoom : Nat := 10 * 2 ^ 20

def fits (p : Pattern) : Bool :=
  [.forward, .backward].all fun d => p.searchRoom d + p.room d + endRoom d ≤ maxRoom

end Stagecraft.Pattern
