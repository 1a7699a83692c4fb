import Stagecraft.Number.Power
import Stagecraft.Pattern.Basic
import Stagecraft.Pattern.Cursor
import Stagecraft.Text.Numeral

/-!
What follows a backslash in a pattern. Classes and edges of words are known for the first 128
characters only, so they need the setting for single bytes.
-/

set_option autoImplicit false

namespace Stagecraft.Pattern

inductive Token where
  | literal (c : Char)
  | edge (e : Edge)
  | set (s : CharSet)
  deriving DecidableEq, Repr

def isMeta (c : Char) : Bool := "\\.+*?()|[]\x7b\x7d^$#&-~".contains c

/-- A backslash takes the meaning from these; letters and digits get one from it. -/
def isPlainEscape (c : Char) : Bool :=
  isMeta c || c.toNat < 128 && !c.isAlphanum && c != '<' && c != '>'

/-- The character with a number in hexadecimal; the number of digits is fixed, or braces stand
around them. -/
def hexEscape (count : Nat) : Reader Char := do
  skipBlank
  let braced ← accept "\x7b"
  let digits ← if braced then do
      skipBlank
      let digits ← takeSpaced (Text.isDigitOf 16) ((← ahead).length + 1)
      require (← accept "\x7d")
      pure digits
    else (List.replicate count ()).mapM fun _ => do
      skipBlank
      next
  let n ← Text.numeral? 16 digits
  skipBlank
  let wide := (← settings).wide
  require (n.isValidChar && (wide || braced || count != 2 || n < 128))
  return .ofNat n

/-- A class in bytes; with characters of every alphabet there is none. -/
def byteClass (n : String) : Reader Token := do
  require !(← settings).wide
  return .set (← CharSet.named? n)

def wordEdge (e : Edge) : Reader Token := do
  return .edge (if (← settings).wide then .unknown else e)

def isEdgeName (c : Char) : Bool := c.isAlpha || c == '-'

def edgeName : Reader Edge := do
  let back ← ahead
  if !(← accept "\x7b") then return .word
  skipBlank
  require !(← ahead).isEmpty
  if !(((← ahead).head?.map isEdgeName).getD false) then
    continueWith back
    return .word
  let n ← takeSpaced isEdgeName ((← ahead).length + 1)
  require (← accept "\x7d")
  match String.ofList n with
  | "start" => return .wordStart
  | "end" => return .wordEnd
  | "start-half" => return .halfStart
  | "end-half" => return .halfEnd
  | _ => failure

def escape : Reader Token := do
  let c ← next
  if isPlainEscape c then return .literal c
  match c with
  | 'x' => return .literal (← hexEscape 2)
  | 'u' => return .literal (← hexEscape 4)
  | 'U' => return .literal (← hexEscape 8)
  | 'd' => byteClass "digit"
  | 's' => byteClass "space"
  | 'w' => byteClass "word"
  | 'a' => return .literal '\x07'
  | 'f' => return .literal '\x0c'
  | 't' => return .literal '\t'
  | 'n' => return .literal '\n'
  | 'r' => return .literal '\r'
  | 'v' => return .literal '\x0b'
  | 'A' => return .edge .textStart
  | 'z' => return .edge .textEnd
  | 'b' => wordEdge (← edgeName)
  | 'B' => wordEdge .noWord
  | '<' => wordEdge .wordStart
  | '>' => wordEdge .wordEnd
  | _ => failure

end Stagecraft.Pattern
