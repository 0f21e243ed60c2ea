import ModLint.Command.Fix
import ModLint.Command.Init
import ModLint.Command.Lint

/-!
# Running commands
-/

namespace ModLint.Command

variable {m : Type → Type} [Monad m]

/-- Lists the conditions with the settings of a configuration (`run_rules`). -/
def runRules (fs : FileSystem m) (color : Bool) (config : Option String) : Action m Outcome := do
  let (config, _) ← loadConfig fs config
  let analyzer ← analyzerOf config
  return { output := Pretty.rules color analyzer.catalog }

/-- Runs a command. -/
def run (fs : FileSystem m) (overflow : Overflow) (color : Bool) (command : Command) :
    m Outcome :=
  Action.outcome <|
    match command with
    | .lint arguments => runLint fs color arguments
    | .fix arguments => runFix fs overflow color arguments
    | .rules config => runRules fs color config
    | .init path => runInit fs path

end ModLint.Command
