import Stagecraft.Pattern.Bracket
import Stagecraft.Pattern.Room
import Stagecraft.Text.Letter

/-!
Patterns in text. A pattern that nests too deeply, or that repeats so much that following it would
take too much room, is none.
-/

set_option autoImplicit false

namespace Stagecraft.Pattern

/-- A part of a pattern with how deep it nests. A switch of settings is a part too. -/
structure Part where
  pattern : Pattern := .empty
  depth : Nat := 0
  isSwitch : Bool := false

def Part.joined (join : List Pattern → Pattern) : List Part → Part
  | [] => {}
  | [p] => p
  | ps =>
    { pattern := join (ps.map (·.pattern))
      depth := 1 + (ps.map (·.depth)).foldl max 0 }

def Part.sequence : List Part → Part := .joined inSequence

def Part.choice : List Part → Part := .joined inChoice

def Part.group (p : Part) : Option Nat → Part
  | some n => ⟨.group n p.pattern, p.depth + 1, false⟩
  | none => ⟨p.pattern, p.depth + 1, false⟩

def Part.repeated (p : Part) (least : Nat) (most : Option Nat) (greedy : Bool) : Part :=
  ⟨inRepetition p.pattern least most greedy, p.depth + 1, false⟩

def readLiteral (c : Char) : Reader Part := do
  let f ← settings
  if f.anyCase then
    require (!f.wide && c.toNat < 128)
    return { pattern := ofSet false (CharSet.single c).anyCase }
  else return { pattern := .literal [c] }

/-- Any character, or any but the ends of lines. Single bytes would not make up a text. -/
def dot : Reader Part := do
  let f ← settings
  require f.wide
  let ends := CharSet.union (.single '\n') (if f.returns then .single '\r' else .empty)
  return { pattern := ofSet true (if f.dotAll then .all else ends.other) }

def startEdge (f : Settings) : Edge :=
  if f.multiLine then if f.returns then .returnStart else .lineStart else .textStart

def endEdge (f : Settings) : Edge :=
  if f.multiLine then if f.returns then .returnEnd else .lineEnd else .textEnd

def primitive : Reader Part := do
  match ← next with
  | '.' => dot
  | '^' => return { pattern := .edge (startEdge (← settings)) }
  | '$' => return { pattern := .edge (endEdge (← settings)) }
  | '\\' =>
    match ← escape with
    | .literal c => readLiteral c
    | .edge e => return { pattern := .edge e }
    | .set s => return { pattern := ofSet false s }
  | c => readLiteral c

def maxCount : Nat := 2 ^ 32 - 1

def count : Reader (Option Nat) := do
  continueWith ((← ahead).dropWhile Text.isBlank)
  let digits ← takeSpaced Char.isDigit ((← ahead).length + 1)
  continueWith ((← ahead).dropWhile Text.isBlank)
  skipBlank
  if digits.isEmpty then return none
  let n ← Text.numeral? 10 digits
  require (n ≤ maxCount)
  return some n

def bounds : Reader (Nat × Option Nat) := do
  skipBlank
  let least ← count
  let range ← if ← accept "," then do
      skipBlank
      let l ← least
      if (← ahead).head? = some '\x7d' then pure (l, none)
      else do
        let m ← count
        pure (l, some (← m))
    else do
      let l ← least
      pure (l, some l)
  require (← accept "\x7d")
  require (range.2.all (range.1 ≤ ·))
  return range

def repetition : Reader (Nat × Option Nat) := do
  match ← next with
  | '?' => return (0, some 1)
  | '*' => return (0, none)
  | '+' => return (1, none)
  | _ =>
    let b ← bounds
    skipBlank
    return b

/-- The settings after some letters, those after a hyphen switched off. No letter comes twice, and a
hyphen is not the last. -/
def switched (f : Settings) (letters : List Char) : Option Settings :=
  let (on, off) := letters.span (· != '-')
  if letters.Nodup ∧ letters.getLast? ≠ some '-' then do
    let f ← on.foldlM (·.switch? true ·) f
    (off.drop 1).foldlM (·.switch? false ·) f
  else none

def isNameStart (c : Char) : Bool := c == '_' || Text.isLetter c

def isNameChar (c : Char) : Bool :=
  isNameStart c || Text.isNumber c || c == '.' || c == '[' || c == ']'

def groupName : Reader Unit := do
  let (n, r) := (← ahead).span isNameChar
  continueWith r
  let name := String.ofList n
  require ((n.head?.map isNameStart).getD false && !(← get).names.contains name)
  modify fun c => { c with names := name :: c.names }
  require (← accept ">")

def nextGroup : Reader Nat := do
  let n := (← get).groups + 1
  modify fun c => { c with groups := n }
  return n

mutual

/-- Parts up to a bar, a closing parenthesis or the end; `done` are those before, the last one
first. -/
def readSequence : Nat → List Part → Reader Part
  | 0, _ => failure
  | fuel + 1, done => do
    skipBlank
    match (← ahead).head?, done with
    | none, _ => return .sequence done.reverse
    | some c, done =>
      if c = '|' ∨ c = ')' then return .sequence done.reverse
      else if c = '(' then
        let _ ← next
        readSequence fuel ((← readGroup fuel) :: done)
      else if c = '[' then
        let _ ← next
        let s ← bracket fuel
        readSequence fuel (⟨ofSet (← settings).wide s.set, s.depth, false⟩ :: done)
      else if c = '?' ∨ c = '*' ∨ c = '+' ∨ c = '\x7b' then
        match done with
        | last :: before =>
          require !last.isSwitch
          let (least, most) ← repetition
          let isShort ← accept "?"
          let greedy := isShort == (← settings).reluctant
          readSequence fuel (last.repeated least most greedy :: before)
        | [] => failure
      else readSequence fuel ((← primitive) :: done)

def readChoice : Nat → List Part → Reader Part
  | 0, _ => failure
  | fuel + 1, done => do
    let done := (← readSequence fuel []) :: done
    if ← accept "|" then readChoice fuel done else return .choice done.reverse

/-- What follows an opening parenthesis, up to and with the closing one. The settings inside end
with it; a switch has no inside and holds on. -/
def readGroup : Nat → Reader Part
  | 0 => failure
  | fuel + 1 => do
    skipBlank
    let outside ← settings
    if (← accept "?P<") || (← accept "?<") then
      let n ← nextGroup
      groupName
      readInner fuel outside (some n)
    else if ← accept "?" then
      let (letters, r) := (← ahead).span fun c => c != ':' && c != ')'
      continueWith r
      let f ← switched outside letters
      modify fun c => { c with settings := f }
      if ← accept ":" then readInner fuel outside none
      else
        require (← accept ")")
        require !letters.isEmpty
        return { isSwitch := true }
    else readInner fuel outside (some (← nextGroup))

def readInner : Nat → Settings → Option Nat → Reader Part
  | 0, _, _ => failure
  | fuel + 1, outside, number => do
    let p ← readChoice fuel []
    require (← accept ")")
    modify fun c => { c with settings := outside }
    return p.group number

end

def maxDepth : Nat := 250

def parse? (s : String) : Option Pattern := do
  let cs := s.toList
  let (p, after) ← (readChoice (4 * (cs.length + 2)) []).run { rest := cs }
  if after.rest.isEmpty ∧ p.depth ≤ maxDepth ∧ p.pattern.isKnown ∧ p.pattern.fits then
    some p.pattern
  else none

end Stagecraft.Pattern
