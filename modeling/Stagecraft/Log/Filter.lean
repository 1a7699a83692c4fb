import Stagecraft.Log.Line
import Stagecraft.Pattern.Read
import Stagecraft.Text.Blank

/-!
Log filters: which lines of which targets pass. A filter is written as directives divided by
commas: a level, a target, or a target and a level; what follows a slash is a pattern that has to
occur in the text.
-/

set_option autoImplicit false

namespace Stagecraft.Log

/-- The most verbose level that passes, none if nothing does. -/
abbrev Threshold := Option Level

namespace Threshold

def rank : Threshold → Nat
  | none => 0
  | some l => l.rank

def name : Threshold → String
  | none => "OFF"
  | some l => l.name

def all : List Threshold :=
  [none, some .error, some .warn, some .info, some .debug, some .trace]

def ofName? (s : String) : Option Threshold := all.find? fun t => name t = s.toUpper

def admits (t : Threshold) (l : Level) : Bool := l.rank ≤ rank t

def max (s t : Threshold) : Threshold := if rank s ≤ rank t then t else s

end Threshold

structure Directive where
  target : Option String
  threshold : Threshold
  deriving DecidableEq, Repr

structure Filter where
  directives : List Directive := []
  pattern : Option Pattern := none

namespace Filter

def directive (s : String) : Except String Directive :=
  match s.splitOn "=" with
  | [] => .error s
  | [x] =>
    match Threshold.ofName? x with
    | some t => .ok ⟨none, t⟩
    | none => .ok ⟨some x, some .trace⟩
  | [x, level] =>
    let level := Text.trim level
    if level = "" then .ok ⟨some x, some .trace⟩
    else match Threshold.ofName? level with
      | some t => .ok ⟨some x, t⟩
      | none => .error level
  | _ => .error s

def insert (ds : List Directive) (d : Directive) : List Directive :=
  if ds.any (·.target = d.target) then ds.map fun e => if e.target = d.target then d else e
  else ds ++ [d]

def targetLength (d : Directive) : Nat := (d.target.getD "").utf8ByteSize

/-- Puts the directives in order: those for longer targets first, and of two for targets of one
length the later one. Without any, errors pass. -/
def arrange (ds : List Directive) : List Directive :=
  if ds.isEmpty then [⟨none, some .error⟩]
  else (ds.mergeSort fun a b => targetLength a ≤ targetLength b).reverse

def badPart (part : String) : String := "invalid logging spec '" ++ part ++ "'"

def readPattern : Option String → Option Pattern × List String
  | none => (none, [])
  | some s =>
    match Pattern.parse? s with
    | some p => (some p, [])
    | none => (none, ["invalid regex filter - " ++ s])

def read (s : String) : Filter × List String :=
  match s.splitOn "/" with
  | directives :: rest =>
    if 1 < rest.length then
      (⟨arrange [], none⟩, [badPart s ++ " (too many '/'s)"])
    else
      let parts := ((directives.splitOn ",").map Text.trim).filter (· ≠ "")
      let made := parts.map directive
      let good := made.filterMap Except.toOption
      let bad := made.filterMap fun | .error e => some (badPart e) | .ok _ => none
      let (pattern, worse) := readPattern rest.head?
      (⟨arrange (good.foldl insert []), pattern⟩, bad ++ worse)
  | [] => (⟨arrange [], none⟩, [])

/-- The first directive for a target decides; where there is none, nothing passes. -/
def threshold (f : Filter) (target : String) : Threshold :=
  match f.directives.find? fun d => d.target.all (target.startsWith ·) with
  | some d => d.threshold
  | none => none

def enabled (f : Filter) (target : String) (l : Level) : Bool := (f.threshold target).admits l

def maxLevel (f : Filter) : Threshold :=
  f.directives.foldl (fun t d => Threshold.max t d.threshold) none

def passes (f : Filter) (target : String) (l : Line) : Bool :=
  f.enabled target l.level && f.pattern.all (·.occursIn l.text)

end Filter

end Stagecraft.Log
