import Stagecraft.Codec.Xml.Element
import Stagecraft.Fault

/-!
Reading the small parts of a document: names, quoted values, comments and instructions. A part that
breaks a rule fails the whole reading.
-/

set_option autoImplicit false

namespace Stagecraft.Xml

/-- An element that is not closed yet, with the nodes in it so far, the last one first. -/
structure Opened where
  label : Label
  name : Name
  attributes : List Attribute
  scope : Scope
  children : List Node := []

structure Source where
  rest : List Char
  /-- How many replacements the characters ahead are in, and how many were made inside the outermost
  of these. -/
  depth : Nat := 0
  nested : Nat := 0
  begun : Bool := false
  settings : List Setting := []
  opened : List Opened := []
  roots : List Node := []

abbrev Reader := StateT Source (OptionT (Except Fault))

def demand {α : Type} : Option α → Reader α
  | some x => return x
  | none => failure

def rest : Reader (List Char) := return (← get).rest

def continueWith (r : List Char) : Reader Unit := modify fun s => { s with rest := r }

def require (condition : Bool) : Reader Unit := if condition then return else failure

def follows (s : String) : Reader Bool := return s.toList.isPrefixOf (← rest)

def expect (s : String) : Reader Unit := do
  require (← follows s)
  continueWith ((← rest).drop s.length)

def take (p : Char → Bool) : Reader (List Char) := do
  let (front, more) := (← rest).span p
  continueWith more
  return front

def skipSpace : Reader Unit := do let _ ← take isSpace

def space : Reader Unit := do require (!(← take isSpace).isEmpty)

/-- Looks for `stop`; `seen` are the characters passed on the way, the last one first. -/
def splitFrom? (stop seen : List Char) : List Char → Option (List Char × List Char)
  | [] => none
  | c :: r =>
    if stop.isPrefixOf (c :: r) then some (seen.reverse, (c :: r).drop stop.length)
    else splitFrom? stop (c :: seen) r

def splitAt? (stop s : List Char) : Option (List Char × List Char) := splitFrom? stop [] s

def before (stop : String) : Reader (List Char) := do
  let (front, more) ← demand (splitAt? stop.toList (← rest))
  continueWith more
  return front

def charsBefore (stop : String) : Reader (List Char) := do
  let front ← before stop
  require (front.all isChar)
  return front

def beginsName (s : List Char) : Bool := (s.head?.map isNameStart).getD false

def name : Reader String := do
  let n ← take isNameChar
  require (beginsName n)
  return String.ofList n

def label : Reader Label := do
  let n ← take isNameChar
  let (qualifier, base) := (splitAt? [':'] n).getD ([], n)
  require (qualifier.isEmpty || beginsName qualifier)
  require (beginsName base && !base.contains ':')
  return ⟨String.ofList qualifier, String.ofList base⟩

def quote : Reader Char := do
  match ← rest with
  | c :: r =>
    require (c == '"' || c == '\x27')
    continueWith r
    return c
  | [] => failure

def quoted : Reader (List Char) := do
  let q ← quote
  before (String.singleton q)

def assignment : Reader (Label × List Char) := do
  let l ← label
  skipSpace
  expect "="
  skipSpace
  let v ← quoted
  require (v.all fun c => isChar c && c != '<')
  return (l, v)

/-- Two hyphens do not meet inside a comment. -/
def comment : Reader Unit := do
  expect "<!--"
  let text ← charsBefore "-->"
  require ((splitAt? "--".toList text).isNone && text.getLast? != some '-')

/-- An instruction to some program. The declaration of a document is none. -/
def instruction : Reader Unit := do
  require (!(← follows "<?xml "))
  expect "<?"
  let _ ← name
  let _ ← charsBefore "?>"

end Stagecraft.Xml
