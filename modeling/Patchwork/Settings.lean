import Patchwork.Text.Uppercase
import Patchwork.Value

/-!
# Settings

What the environment decides: how much is logged, and whether warnings count as errors.

* `Settings.ofEnvironment` reads the settings.
* `LogLevel.ofText` gives the level that a name stands for; a name that is none counts as
  `WARNING`.
-/

set_option autoImplicit false

namespace Patchwork
namespace LogLevel

/-- The level at which everything is logged. -/
def debug : Nat := 10

/-- The level of warnings, which an unknown name stands for. -/
def warning : Nat := 30

/-- The names of the levels and their numbers. -/
def names : List (String × Nat) :=
  [("CRITICAL", 50), ("FATAL", 50), ("ERROR", 40), ("WARNING", warning), ("WARN", warning),
    ("INFO", 20), ("DEBUG", debug), ("NOTSET", 0)]

/-- The switches of the log that are on. -/
def switches : List String :=
  ["raiseExceptions", "logThreads", "logMultiprocessing", "logProcesses"]

/-- The level that a name stands for: the number of a level, and of a switch its state. -/
def ofText (name : String) : Value :=
  if switches.contains name then .bool true
  else .int ((names.lookup name).getD warning)

end LogLevel

/-- What the environment decides. -/
structure Settings where
  logLevel : String := "WARNING"
  strict : Bool := false
  deriving DecidableEq, Repr

namespace Settings

/-- The variable that names the log level. -/
def logLevelVariable : String := "KUBEOBJECT_LOG_LEVEL"

/-- The variable that makes warnings count as errors. -/
def strictVariable : String := "KUBEOBJECT_STRICT"

/-- The texts that switch a setting on, apart from case.  They are ASCII, and no other character
has an ASCII letter of them as its lower case. -/
def onWords : List String := ["1", "true", "yes"]

/-- The settings of an environment, given as the value of each variable. -/
def ofEnvironment (valueOf : String → Option String) : Settings where
  logLevel := Text.toUpper ((valueOf logLevelVariable).getD "WARNING")
  strict := onWords.contains ((valueOf strictVariable).getD "").toLower

/-- The level to log at; `verbose` asks for everything. -/
def level (s : Settings) (verbose : Bool) : Value :=
  if verbose then .int LogLevel.debug else LogLevel.ofText s.logLevel

end Settings
end Patchwork
