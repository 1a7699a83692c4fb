import Stagecraft.Text.Extending
import Stagecraft.Text.Unprintable

/-!
Quoted text: a text between double quotes in which a character that could not be told from its
surroundings is written as an escape.
-/

set_option autoImplicit false

namespace Stagecraft.Text

def codePoint (c : Char) : List Char :=
  '\\' :: 'u' :: '\x7b' :: (Nat.toDigits 16 c.toNat ++ ['\x7d'])

def isPlain (c : Char) : Bool :=
  (' ' ≤ c && c ≤ '~') || !(isExtending c || isUnprintable c)

def escape (c : Char) : List Char :=
  if c = '\x00' then ['\\', '0']
  else if c = '\t' then ['\\', 't']
  else if c = '\r' then ['\\', 'r']
  else if c = '\n' then ['\\', 'n']
  else if c = '\\' then ['\\', '\\']
  else if c = '"' then ['\\', '"']
  else if isPlain c then [c]
  else codePoint c

def quote (s : String) : String :=
  String.ofList ('"' :: (s.toList.flatMap escape ++ ['"']))

end Stagecraft.Text
