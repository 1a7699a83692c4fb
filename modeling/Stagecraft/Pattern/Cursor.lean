import Stagecraft.Text.Blank

/-!
Reading patterns: the characters ahead and the settings in force. Whatever breaks a rule fails the
whole reading.
-/

set_option autoImplicit false

namespace Stagecraft.Pattern

structure Settings where
  anyCase : Bool := false
  multiLine : Bool := false
  dotAll : Bool := false
  /-- Repetitions take as little as they can; which texts fit does not hang on it. -/
  reluctant : Bool := false
  /-- Characters of every alphabet, rather than single bytes. -/
  wide : Bool := true
  returns : Bool := false
  spaced : Bool := false
  deriving DecidableEq, Repr

def Settings.switch? (s : Settings) (on : Bool) : Char → Option Settings
  | 'i' => some { s with anyCase := on }
  | 'm' => some { s with multiLine := on }
  | 's' => some { s with dotAll := on }
  | 'U' => some { s with reluctant := on }
  | 'u' => some { s with wide := on }
  | 'R' => some { s with returns := on }
  | 'x' => some { s with spaced := on }
  | _ => none

structure Cursor where
  rest : List Char
  settings : Settings := {}
  groups : Nat := 0
  names : List String := []

abbrev Reader := StateT Cursor Option

def ahead : Reader (List Char) := return (← get).rest

def settings : Reader Settings := return (← get).settings

def continueWith (r : List Char) : Reader Unit := modify fun c => { c with rest := r }

def require (condition : Bool) : Reader Unit := if condition then return else failure

def next : Reader Char := do
  match ← ahead with
  | c :: r =>
    continueWith r
    return c
  | [] => failure

def accept (s : String) : Reader Bool := do
  if s.toList.isPrefixOf (← ahead) then
    continueWith ((← ahead).drop s.length)
    return true
  else return false

def pastBlank : Bool → List Char → List Char
  | _, [] => []
  | true, c :: r => pastBlank (c != '\n') r
  | false, c :: r =>
    if Text.isBlank c then pastBlank false r
    else if c == '#' then pastBlank true r
    else c :: r

def skipBlank : Reader Unit := do
  if (← settings).spaced then continueWith (pastBlank false (← ahead))

def second? : Reader (Option Char) := do
  let r := (← ahead).drop 1
  if (← settings).spaced then
    match r.dropWhile Text.isBlank with
    | '#' :: r => return (r.dropWhile Text.isBlank).head?
    | r => return r.head?
  else return r.head?

/-- Takes characters of a class, passing over blanks between them. Each takes input, so fuel for
each character is enough. -/
def takeSpaced (p : Char → Bool) : Nat → Reader (List Char)
  | 0 => failure
  | fuel + 1 => do
    match ← ahead with
    | c :: r =>
      if p c then
        continueWith r
        skipBlank
        return c :: (← takeSpaced p fuel)
      else return []
    | [] => return []

end Stagecraft.Pattern
