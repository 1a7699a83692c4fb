import Stagecraft.Codec.Xml.Character

/-!
Elements and their names. A name belongs to the space that its qualifier stands for, which some
element around it declares.
-/

set_option autoImplicit false

namespace Stagecraft.Xml

/-- A name as it is written: what stands before its colon, if it has one, and the rest. -/
structure Label where
  qualifier : String
  base : String
  deriving DecidableEq, Repr

structure Name where
  space : Option String
  base : String
  deriving DecidableEq, Repr

structure Attribute where
  name : Name
  value : String
  deriving DecidableEq, Repr

inductive Node where
  | element (name : Name) (attributes : List Attribute) (children : List Node)
  | other

/-- Qualifiers with the spaces that they stand for, the inner ones first; the empty qualifier is for
elements without one. -/
abbrev Scope := List (String × String)

def xmlSpace : String := "http://www.w3.org/XML/1998/namespace"

def declarationSpace : String := "http://www.w3.org/2000/xmlns/"

abbrev Setting := Label × String

def isDeclaration (s : Setting) : Bool := s.1.qualifier == "xmlns" || s.1.base == "xmlns"

def declared (s : Setting) : String := if s.1.qualifier == "xmlns" then s.1.base else ""

/-- Whether a setting may follow others. Only the qualifier `xml` is for its space, none is for that
of declarations, and no other qualifier is declared twice. -/
def isAllowed (before : List Setting) (s : Setting) : Bool :=
  !isDeclaration s ||
    s.2 != declarationSpace && (declared s == "xml") == (s.2 == xmlSpace) &&
      (declared s == "" || declared s == "xml" ||
        before.all fun t => !isDeclaration t || declared t != declared s)

def Scope.enter (scope : Scope) (settings : List Setting) : Scope :=
  ((settings.filter isDeclaration).map fun s => (declared s, s.2)).filter (·.2 != xmlSpace) ++ scope

def Scope.name? (scope : Scope) (l : Label) : Option Name :=
  match scope.lookup l.qualifier with
  | some space => some ⟨some space, l.base⟩
  | none => if l.qualifier == "" then some ⟨none, l.base⟩ else none

/-- The name of an attribute, which has no space without a qualifier. -/
def Scope.attributeName? (scope : Scope) (l : Label) : Option Name :=
  if l.qualifier == "" then some ⟨none, l.base⟩
  else if l.qualifier == "xml" then some ⟨some xmlSpace, l.base⟩
  else scope.name? l

def Scope.attributes? (scope : Scope) (settings : List Setting) : Option (List Attribute) := do
  let as ← (settings.filter (!isDeclaration ·)).mapM fun s => do
    return ⟨← scope.attributeName? s.1, s.2⟩
  if (as.map (·.name)).Nodup then some as else none

end Stagecraft.Xml
