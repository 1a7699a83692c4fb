set_option autoImplicit false

namespace Stagecraft.Log

inductive Level where
  | error
  | warn
  | info
  | debug
  | trace
  deriving DecidableEq, Repr

/-- More verbose levels rank higher; nothing ranks below one. -/
def Level.rank : Level → Nat
  | .error => 1
  | .warn => 2
  | .info => 3
  | .debug => 4
  | .trace => 5

def Level.name : Level → String
  | .error => "ERROR"
  | .warn => "WARN"
  | .info => "INFO"
  | .debug => "DEBUG"
  | .trace => "TRACE"

structure Line where
  level : Level
  text : String
  deriving DecidableEq, Repr

def Line.render (l : Line) : String := l.level.name ++ " " ++ l.text

end Stagecraft.Log
