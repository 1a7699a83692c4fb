import Stagecraft.Codec.Xml.Reader
import Stagecraft.Number.Power
import Stagecraft.Text.Numeral

/-!
References, and the type declaration of a document, which names texts to put in place of them.
-/

set_option autoImplicit false

namespace Stagecraft.Xml

/-- A name for a text. Of two for one name the first counts. -/
structure Entity where
  name : String
  value : List Char
  deriving DecidableEq, Repr

abbrev Entities := List Entity

def Entities.value? (es : Entities) (n : String) : Option (List Char) :=
  (es.find? (·.name == n)).map (·.value)

inductive Reference where
  | char (c : Char)
  | entity (name : String)
  deriving DecidableEq, Repr

def maxNumeral : Nat := 2 ^ 32 - 1

/-- The character with a number; a number without one gives the replacement character. -/
def numbered (n : Nat) : Char := if n.isValidChar then .ofNat n else '\ufffd'

def Reference.ofName : String → Reference
  | "quot" => .char '"'
  | "amp" => .char '&'
  | "apos" => .char '\x27'
  | "lt" => .char '<'
  | "gt" => .char '>'
  | n => .entity n

def numeral : Reader Nat := do
  let base ← if ← follows "x" then do expect "x"; pure 16 else pure 10
  let n ← demand (Text.numeral? base (← take (Text.isDigitOf base)))
  require (n ≤ maxNumeral)
  return n

def reference : Reader Reference := do
  expect "&"
  let r ← if ← follows "#" then do
      expect "#"
      let c := numbered (← numeral)
      require (isChar c)
      pure (.char c)
    else pure (.ofName (← name))
  expect ";"
  return r

def externalId : Reader Bool := do
  if ← follows "SYSTEM" then
    expect "SYSTEM"
    space
    let _ ← quoted
    return true
  else if ← follows "PUBLIC" then
    expect "PUBLIC"
    space
    let _ ← quoted
    space
    let _ ← quoted
    return true
  else return false

def entityValue (general : Bool) : Reader (Option (List Char)) := do
  if ← externalId then
    if general then
      skipSpace
      if ← follows "NDATA" then
        expect "NDATA"
        space
        let _ ← name
    return none
  else return some (← quoted)

def entity : Reader Entities := do
  expect "<!ENTITY"
  space
  let general := !(← follows "%")
  if !general then
    expect "%"
    space
  let n ← name
  space
  let v ← entityValue general
  skipSpace
  expect ">"
  return (v.map (Entity.mk n)).toList

/-- The declarations between brackets, with their end. Each takes input, so fuel for each character
is enough. -/
def declarations : Nat → Reader Entities
  | 0 => failure
  | fuel + 1 => do
    skipSpace
    if ← follows "<!ENTITY" then return (← entity) ++ (← declarations fuel)
    else if ← follows "<!--" then
      comment
      declarations fuel
    else if ← follows "<?" then
      instruction
      declarations fuel
    else if (← follows "<!ELEMENT") || (← follows "<!ATTLIST") || (← follows "<!NOTATION") then
      let _ ← before ">"
      declarations fuel
    else
      expect "]"
      skipSpace
      expect ">"
      return []

def doctype : Reader Entities := do
  expect "<!DOCTYPE"
  space
  let _ ← name
  skipSpace
  let _ ← externalId
  skipSpace
  if ← follows ">" then
    expect ">"
    return []
  else
    expect "["
    declarations ((← rest).length + 1)

end Stagecraft.Xml
