import Stagecraft.Store.Blackboard

set_option autoImplicit false

namespace Stagecraft

inductive Request where
  /-- Writes a value and asks for the one it replaces. -/
  | set (key : String) (v : Value)
  | put (key : String) (v : Value)
  | get (key : String)
  | remove (key : String)
  | same (key other : String)
  deriving DecidableEq

inductive Reply where
  | done
  | replaced (old : Option Value)
  | found (v : Option Value)
  | removed (old : Option Value)
  | same (yes : Bool)
  deriving DecidableEq

def Blackboard.serve (b : Blackboard) : Request → Reply × Blackboard
  | .set key v => (.replaced (b.get? key), b.set key v)
  | .put key v => (.done, b.set key v)
  | .get key => (.found (b.get? key), b)
  | .remove key => (.removed (b.get? key), b.erase key)
  | .same key other => (.same (b.same key other), b)

end Stagecraft
