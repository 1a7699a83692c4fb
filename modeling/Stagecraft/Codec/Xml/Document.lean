import Stagecraft.Codec.Xml.Element
import Stagecraft.Codec.Xml.Entity

/-!
Documents: one element with what may stand around it. Reading refuses what is not well-formed. What
replaces a reference may end in the middle of an element, or close one that was opened outside.
-/

set_option autoImplicit false

namespace Stagecraft.Xml

/-- How deep replacements may be nested, and how many may be made inside one. -/
def maxDepth : Nat := 10
def maxNested : Nat := 255

def replacing {α : Type} (text : List Char) (r : Reader α) : Reader α := do
  let s ← get
  require (s.depth < maxDepth && (s.depth == 0 || s.nested < maxNested))
  set { s with
    rest := text
    depth := s.depth + 1
    nested := if s.depth = 0 then 0 else s.nested + 1 }
  let x ← r
  modify fun t => { t with
    rest := s.rest
    depth := s.depth
    nested := if s.depth = 0 then 0 else t.nested }
  return x

def inside {α : Type} (other : List Char) (r : Reader α) : Reader α := do
  let here ← rest
  continueWith other
  let x ← r
  continueWith here
  return x

def spaced : List Char → List Char
  | '\r' :: '\n' :: r => ' ' :: spaced r
  | c :: r => (if isSpace c then ' ' else c) :: spaced r
  | [] => []

/-- The rest of the input as a value, with its references replaced. A reference takes input or goes
one deeper. -/
def value (es : Entities) : Nat → Reader (List Char)
  | 0 => failure
  | fuel + 1 => do
    let front := spaced (← take (· != '&'))
    if (← rest).isEmpty then return front
    let middle ← match ← reference with
      | .char c => do
        let depth := (← get).depth
        require (depth == 0 || c != '<')
        pure (if depth = 0 then [c] else spaced [c])
      | .entity n => replacing (← demand (es.value? n)) (value es fuel)
    return front ++ middle ++ (← value es fuel)

def setting (es : Entities) (fuel : Nat) : Reader Unit := do
  let (l, written) ← assignment
  let s := (l, String.ofList (← inside written (value es fuel)))
  require (isAllowed (← get).settings s)
  modify fun t => { t with settings := t.settings ++ [s] }

inductive TagEnd where
  | closed
  | opened
  | missing
  deriving DecidableEq, Repr

def settings (es : Entities) : Nat → Reader TagEnd
  | 0 => failure
  | fuel + 1 => do
    if (← rest).isEmpty then return .missing
    let spaces ← take isSpace
    if ← follows ">" then
      expect ">"
      return .opened
    else if ← follows "/" then
      expect "/>"
      return .closed
    else
      require !spaces.isEmpty
      setting es (fuel + 1)
      settings es fuel

def collected : Reader (Scope × List Attribute) := do
  let s ← get
  let scope := Scope.enter ((s.opened.head?.map (·.scope)).getD []) s.settings
  let as ← demand (scope.attributes? s.settings)
  set { s with settings := [] }
  return (scope, as)

def addNode (n : Node) : Reader Unit :=
  modify fun s =>
    match s.opened with
    | [] => { s with roots := n :: s.roots }
    | o :: more => { s with opened := { o with children := n :: o.children } :: more }

/-- Closes the innermost element. A tag that does so follows another one in the same text, and there
has to be an element to close. -/
def close : Reader Unit := do
  expect "</"
  let l ← label
  skipSpace
  expect ">"
  require (← get).begun
  let _ ← collected
  match (← get).opened with
  | [] => throwThe Fault .nothingOpen
  | o :: more =>
    require (l == o.label)
    modify fun s => { s with opened := more }
    addNode (.element o.name o.attributes o.children.reverse)

mutual

/-- Everything up to a tag that closes an element, or to the end of the input. Every step takes
input or goes one deeper into replacements. -/
def content (es : Entities) : Nat → Reader Unit
  | 0 => failure
  | fuel + 1 => do
    if (← rest).isEmpty then return
    else if ← follows "</" then close
    else if ← follows "<!--" then
      comment
      addNode .other
      content es fuel
    else if ← follows "<![CDATA[" then
      expect "<![CDATA["
      let _ ← charsBefore "]]>"
      addNode .other
      content es fuel
    else if ← follows "<?" then
      instruction
      addNode .other
      content es fuel
    else if ← follows "<" then
      element es fuel
      content es fuel
    else
      let text ← take (· != '<')
      require (text.all isChar && (splitAt? "]]>".toList text).isNone)
      inside text (replaced es fuel)
      content es fuel

def replaced (es : Entities) : Nat → Reader Unit
  | 0 => failure
  | fuel + 1 => do
    let front ← take (· != '&')
    if !front.isEmpty then addNode .other
    if (← rest).isEmpty then return
    match ← reference with
    | .char _ =>
      addNode .other
      replaced es fuel
    | .entity n =>
      let v ← demand (es.value? n)
      let begun := (← get).begun
      replacing v do
        modify fun s => { s with begun := false }
        content es fuel
      modify fun s => { s with begun := begun }
      replaced es fuel

def element (es : Entities) : Nat → Reader Unit
  | 0 => failure
  | fuel + 1 => do
    expect "<"
    let l ← label
    require (l.qualifier != "xmlns")
    modify fun s => { s with begun := true }
    match ← settings es (fuel + 1) with
    | .missing => return
    | .closed =>
      let (scope, as) ← collected
      addNode (.element (← demand (scope.name? l)) as [])
    | .opened =>
      let (scope, as) ← collected
      let n ← demand (scope.name? l)
      modify fun s => { s with opened := ⟨l, n, as, scope, []⟩ :: s.opened }
      content es fuel

end

/-- Space, comments and instructions. Each takes input, so fuel for each character is enough. -/
def surroundings : Nat → Reader Unit
  | 0 => failure
  | fuel + 1 => do
    skipSpace
    if ← follows "<!--" then
      comment
      surroundings fuel
    else if ← follows "<?" then
      instruction
      surroundings fuel

def divider : Reader Unit := do
  let spaces ← take isSpace
  require (!spaces.isEmpty || (← follows "?>"))

def declaration : Reader Unit := do
  expect "<?xml"
  divider
  require (← follows "version")
  let _ ← assignment
  divider
  if ← follows "encoding" then
    let _ ← assignment
    divider
  if ← follows "standalone" then
    let _ ← assignment
  skipSpace
  expect "?>"

/-- Fuel for reading this many characters, each at every depth of replacement. -/
def enough (length : Nat) : Nat := (maxDepth + 2) * (length + 2)

def Node.isElement : Node → Bool
  | .element _ _ _ => true
  | .other => false

def document (fuel : Nat) : Reader (List Node) := do
  if ← follows "<?xml " then declaration
  surroundings fuel
  let es ← if ← follows "<!DOCTYPE" then do
      let es ← doctype
      surroundings fuel
      pure es
    else pure []
  element es fuel
  surroundings fuel
  let s ← get
  require (s.rest.isEmpty && s.opened.isEmpty && s.roots.any Node.isElement)
  return s.roots.reverse

def parse? (s : List Char) : Except Fault (Option (List Node)) := do
  let s := if s.head? = some '\ufeff' then s.tail else s
  let read ← (document (enough s.length)).run { rest := s }
  return read.map (·.1)

end Stagecraft.Xml
