import BrowserPlan.Json.Display

/-!
# Log records and levels

A log record has a level, a speaker and a message. A level is set by its name, in which letter
case does not count, or by any whole number; the library that runs tasks is never set below
warnings.
-/
namespace BrowserPlan.Log

/-- How grave a record is. -/
inductive Level where
  | debug
  | info
  | warning
  | error
  deriving DecidableEq, Repr

namespace Level

/-- The number of a level. -/
def number : Level → Int
  | debug => 10
  | info => 20
  | warning => 30
  | error => 40

/-- The name of a level. -/
def name : Level → String
  | debug => "DEBUG"
  | info => "INFO"
  | warning => "WARNING"
  | error => "ERROR"

end Level

/-- The parts of the program that speak in the log. -/
inductive Speaker where
  | commandLine
  | telemetry
  | planner
  | runner
  | interpreter
  | extraction
  | session
  | pool
  deriving DecidableEq, Repr

/-- The name under which a part speaks. -/
def Speaker.name : Speaker → String
  | commandLine => "stepwright.cli"
  | telemetry => "stepwright.telemetry"
  | planner => "stepwright.core.planner.plan_builder"
  | runner => "stepwright.core.executor.runner"
  | interpreter => "stepwright.core.executor.interpreter"
  | extraction => "stepwright.core.extractor.extract"
  | session => "stepwright.adapters.playwright"
  | pool => "stepwright.adapters.page_pool"

/-- One entry of the log. -/
structure Record where
  level : Level
  speaker : Speaker
  message : String
  deriving DecidableEq, Repr

/-! ## Setting the level -/

/-- Every name of a level that can be set. -/
def levelNames : List (String × Int) :=
  [("CRITICAL", 50), ("FATAL", 50), ("ERROR", 40), ("WARN", 30), ("WARNING", 30), ("INFO", 20),
   ("DEBUG", 10), ("NOTSET", 0)]

/-- The capital of a letter, as far as it matters for names of levels: two letters outside ASCII
have ASCII capitals. -/
def capital (c : Char) : Char :=
  if c == 'ı' then 'I' else if c == 'ſ' then 'S' else c.toUpper

/-- The level a name stands for. -/
def levelNamed? (name : String) : Option Int :=
  let capitals := String.ofList (name.toList.map capital)
  (levelNames.find? fun l => l.1 == capitals).map (·.2)

/-- A level as it is set: a truth value stands for 0 or 1 and is kept as it is. -/
inductive Setting where
  | number (n : Int)
  | flag (b : Bool)
  deriving DecidableEq, Repr

/-- The number a setting stands for. -/
def Setting.value : Setting → Int
  | number n => n
  | flag b => if b then 1 else 0

/-- Why a level cannot be set. -/
inductive Fault where
  | unknownLevel (name : String)
  | notALevel (shown : String)
  deriving DecidableEq, Repr

/-- What a fault says. -/
def Fault.message : Fault → String
  | unknownLevel name => s!"Unknown log level: {name}"
  | notALevel shown => s!"Level not an integer or a valid string: {shown}"

/-- The state of logging: the level of all records, that of the task library, and whether the
program's own handler is installed. -/
structure State where
  root : Setting
  tasks : Int
  installed : Bool
  deriving DecidableEq, Repr

/-- Logging before it is set up. -/
def State.initial : State := ⟨.number 30, 0, false⟩

/-- The state at a level. -/
def State.at (level : Setting) : State :=
  ⟨level, max level.value Level.warning.number, true⟩

/-- Sets the level. An unknown name changes nothing; a value that is no level at all is found out
only after the handler is installed. -/
def configure (s : State) (level : Json) : State × Option Fault :=
  match level with
  | .str name | .unpaired name =>
    match levelNamed? name with
    | some n => (.at (.number n), none)
    | none => (s, some (.unknownLevel name))
  | .int n => (.at (.number n), none)
  | .bool b => (.at (.flag b), none)
  | other => ({ s with installed := true }, some (.notALevel other.display))

/-- Whether a record is let through at a level. -/
def Record.passes (r : Record) (threshold : Int) : Bool := threshold ≤ r.level.number

end BrowserPlan.Log
