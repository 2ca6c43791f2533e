/-
Whether output may hold ANSI escape sequences: a mode, and whether a console is known to be there.
-/
import Startup.Config.Environment

namespace Startup

inductive AnsiMode where
  | detect
  | always
  | never
  deriving DecidableEq, Repr

def AnsiMode.name : AnsiMode → String
  | .detect => "detect"
  | .always => "always"
  | .never => "never"

/-- A mode by its name, in any case and with blanks around it. -/
def AnsiMode.ofText? (s : String) : Option AnsiMode :=
  [AnsiMode.detect, .always, .never].find? (·.name == Text.toLower (Text.trim s))

structure AnsiOutput where
  mode : AnsiMode := .detect
  console : Option Bool := none
  deriving DecidableEq, Repr

namespace AnsiOutput

instance : Inhabited AnsiOutput := ⟨{}⟩

def modeKey : String := "output.ansi.enabled"
def consoleKey : String := "output.ansi.console-available"

/-- Whether escape sequences are written, where `terminal` says whether the output of the process goes to
a terminal. This counts only as long as nothing is known of a console. -/
def isEnabled (o : AnsiOutput) (terminal : Bool) : Bool :=
  match o.mode with
  | .always => true
  | .never => false
  | .detect => o.console.getD terminal

/-- The mode that an environment asks for. -/
def modeOf (env : Environment) : Except StartupError (Option AnsiMode) :=
  match env.getText? modeKey with
  | none => .ok none
  | some s =>
    match AnsiMode.ofText? s with
    | some mode => .ok (some mode)
    | none => .error (.binding modeKey s "one of detect, always, never")

/-- The settings of an environment put into effect one after the other, the mode first. -/
def configure (o : AnsiOutput) (env : Environment) : Except StartupError Unit × AnsiOutput :=
  match modeOf env with
  | .error e => (.error e, o)
  | .ok mode =>
    let o := { o with mode := mode.getD o.mode }
    match env.getTriState consoleKey with
    | .error e => (.error e, o)
    | .ok console => (.ok (), { o with console := console })

end AnsiOutput

end Startup
