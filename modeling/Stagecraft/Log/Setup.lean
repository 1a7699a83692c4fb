import Stagecraft.Log.Filter
import Stagecraft.Text.Quoted

/-!
Setting up the log: at most once, and only if nobody else has installed a logger. The lines that
pass go to a stream, each with its target.
-/

set_option autoImplicit false

namespace Stagecraft.Log

def defaultFilter : String := "info"

inductive Logger where
  | silent
  | filtering (f : Filter)
  /-- One that somebody else installed: it takes the lines of some targets and shows none. -/
  | foreign (targets : List String)

namespace Logger

def enabled : Logger → String → Level → Bool
  | .silent, _, _ => false
  | .filtering f, target, l => f.enabled target l
  | .foreign ts, target, _ => ts.any (target.startsWith ·)

def maxLevel : Logger → Threshold
  | .silent => none
  | .filtering f => f.maxLevel
  | .foreign _ => some .trace

end Logger

structure Station where
  logger : Logger := .silent
  tried : Bool := false
  warnings : List String := []
  stream : List String := []

def Level.paddedName (l : Level) : String := String.ofList (l.name.toList.rightpad 5 ' ')

def Line.withTarget (l : Line) (target : String) : String :=
  if target = "" then s!"[{l.level.paddedName}] {l.text}"
  else s!"[{l.level.paddedName} {target}] {l.text}"

namespace Station

def enabled (s : Station) (target : String) (l : Level) : Bool :=
  s.logger.maxLevel.admits l && s.logger.enabled target l

def write (s : Station) (text : String) : Station := { s with stream := s.stream ++ [text] }

def log (s : Station) (target : String) (l : Line) : Station :=
  match s.logger with
  | .filtering f =>
    if s.enabled target l.level && f.passes target l then s.write (l.withTarget target) else s
  | _ => s

def setupTarget : String := "proscenium_engine::logging::init"

/-- Sets up the log with the filter of the caller, else that of the environment. Only the first
call has an effect. -/
def setup (s : Station) (filter environment : Option String) : Station :=
  if s.tried then s
  else
    let text := (filter <|> environment).getD defaultFilter
    let (f, wrong) := Filter.read text
    let warnings := wrong.map fun w => s!"warning: {w}, ignoring it"
    let s := { s with tried := true, warnings := s.warnings ++ warnings }
    match s.logger with
    | .silent =>
      let s := { s with logger := .filtering f }
      s.log setupTarget ⟨.debug, "logging initialized with filter " ++ Text.quote text⟩
    | _ =>
      s.write "proscenium: logger already installed: attempted to set a logger after the logging system was already initialized"

end Station

end Stagecraft.Log
