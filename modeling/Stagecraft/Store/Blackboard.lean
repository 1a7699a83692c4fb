import Std.Data.TreeMap.Lemmas
import Stagecraft.Number.Binary

/-!
The blackboard of a game: named values that its children and its host share.
-/

set_option autoImplicit false

namespace Stagecraft

inductive Value where
  | bool (b : Bool)
  | int (i : Int64)
  | float (x : Binary double)
  | str (s : String)
  deriving DecidableEq

def Value.equal : Value → Value → Bool
  | .bool a, .bool b => a == b
  | .int i, .int j => i == j
  | .float x, .float y => x.equal y
  | .str s, .str t => s == t
  | _, _ => false

namespace Value

def bool? : Value → Option Bool
  | .bool b => some b
  | _ => none

def int? : Value → Option Int64
  | .int i => some i
  | _ => none

def float? : Value → Option (Binary double)
  | .float x => some x
  | _ => none

def str? : Value → Option String
  | .str s => some s
  | _ => none

end Value

structure Blackboard where
  entries : Std.TreeMap String Value := {}

namespace Blackboard

instance : Inhabited Blackboard := ⟨{}⟩

def get? (b : Blackboard) (key : String) : Option Value := b.entries[key]?

def contains (b : Blackboard) (key : String) : Bool := b.entries.contains key

def set (b : Blackboard) (key : String) (v : Value) : Blackboard := ⟨b.entries.insert key v⟩

@[simp] theorem get?_set_self (b : Blackboard) (key : String) (v : Value) :
    (b.set key v).get? key = some v := by simp [get?, set]

theorem get?_set_of_ne (b : Blackboard) {key other : String} (v : Value) (h : key ≠ other) :
    (b.set key v).get? other = b.get? other := by
  simp [get?, set, Std.TreeMap.getElem?_insert, h]

def erase (b : Blackboard) (key : String) : Blackboard := ⟨b.entries.erase key⟩

def bool? (b : Blackboard) (key : String) : Option Bool := (b.get? key).bind Value.bool?

def int? (b : Blackboard) (key : String) : Option Int64 := (b.get? key).bind Value.int?

def float? (b : Blackboard) (key : String) : Option (Binary double) :=
  (b.get? key).bind Value.float?

def str? (b : Blackboard) (key : String) : Option String := (b.get? key).bind Value.str?

/-- Whether two keys hold equal values; two keys that hold nothing do. -/
def same (b : Blackboard) (key other : String) : Bool :=
  match b.get? key, b.get? other with
  | none, none => true
  | some v, some w => v.equal w
  | _, _ => false

/-- The whole number under a key plus `n`, counting from zero where there is none; none if the
sum does not fit. -/
def plus? (b : Blackboard) (key : String) (n : Int64) : Option Int64 :=
  let sum := ((b.int? key).getD 0).toInt + n.toInt
  if -2 ^ 63 ≤ sum ∧ sum < 2 ^ 63 then some (.ofInt sum) else none

def firstCycle : String := "GAME_FIRST_CYCLE"

end Blackboard

end Stagecraft
