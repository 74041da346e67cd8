import BrowserPlan.Number
import BrowserPlan.Json.Basic

/-!
# Documents

The document that describes a run, member by member as it was written: nothing is looked up or
resolved yet. A plan is built from it.
-/
namespace BrowserPlan

/-- A document's description of what to wait for. -/
structure WaitDocument where
  «for» : String
  selector : Option String
  xpath : Option String
  state : Option String
  visible : Option Bool
  hidden : Option Bool
  timeout : Option Float
  waitUntil : Option String
  url : Option String
  function : Option String
  args : List Json
  /-- How often a function is tried: a float or a word. -/
  polling : Option Json
  deriving Inhabited

/-- What a step does. -/
inductive Action where
  | click
  | type
  | go
  | wait
  | scrape
  | screenshot
  | repeat
  | crawl
  deriving DecidableEq, Repr, Inhabited

namespace Action

/-- The name of an action. -/
def name : Action → String
  | click => "click"
  | type => "type"
  | go => "go"
  | wait => "wait"
  | scrape => "scrape"
  | screenshot => "screenshot"
  | «repeat» => "repeat"
  | crawl => "crawl"

/-- Every action. -/
def all : List Action := [click, type, go, wait, scrape, screenshot, «repeat», crawl]

/-- The action of a name. -/
def ofString? (name : String) : Option Action := all.find? fun a => a.name == name

/-- Each action is named by its own name. -/
theorem ofString?_name (a : Action) : ofString? a.name = some a := by
  cases a <;> decide

end Action

/-- A document's description of a step. -/
inductive StepDocument where
  | click (selector xpath : Option String) (wait : Option WaitDocument) (waitFor : Option String)
  | type (text : String) (selector xpath : Option String) (delay : Number)
  | go (place : String) (waitUntil : Option String) (timeout : Option Float)
  | wait (what : WaitDocument)
  | scrape (data : Json.Members) (path : String)
  | screenshot (path : String) (fullPage : Bool)
  | repeat (times : Int) (steps : List StepDocument)
  | crawl (selector xpath : Option String) (attributeName : String) (steps : List StepDocument)
  deriving Inhabited

/-- How long the browser stays open when the steps are done. -/
inductive KeepOpen where
  /-- Until it is closed by hand, or not at all. -/
  | flag (untilClosed : Bool)
  /-- For so many milliseconds. -/
  | millis (n : Int)
  deriving DecidableEq, Repr, Inhabited

/-- A document that describes a run. -/
structure Document where
  url : String
  headless : Option Bool
  defaultTimeout : Option Float
  defaultNavigationTimeout : Option Float
  maxPages : Int
  keepOpenAfter : KeepOpen
  steps : List StepDocument
  deriving Inhabited

end BrowserPlan
