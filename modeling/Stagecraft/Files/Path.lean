/-!
Paths: parts divided by slashes. An empty part and a single dot mean nothing.
-/

set_option autoImplicit false

namespace Stagecraft.Path

/-- What stands between slashes; `done` holds the characters since the last one, in reverse. -/
def segmentsFrom (done : List Char) : List Char → List String
  | [] => [String.ofList done.reverse]
  | c :: r =>
    if c = '/' then String.ofList done.reverse :: segmentsFrom [] r
    else segmentsFrom (c :: done) r

def segments (path : String) : List String := segmentsFrom [] path.toList

def parts (path : String) : List String :=
  (segments path).filter fun p => p != "" && p != "."

def fileName? (path : String) : Option String :=
  match (parts path).getLast? with
  | some ".." => none
  | last => last

/-- What follows the last dot of a file name. A dot at the front does not count. -/
def extension? (path : String) : Option String := do
  let name := (← fileName? path).toList.reverse
  let after := name.takeWhile (· != '.')
  match name.dropWhile (· != '.') with
  | '.' :: _ :: _ => some (String.ofList after.reverse)
  | _ => none

def kind? (path : String) : Option String := (extension? path).map String.toLower

end Stagecraft.Path
