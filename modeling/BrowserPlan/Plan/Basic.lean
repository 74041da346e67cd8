import BrowserPlan.Document.Basic
import BrowserPlan.Spec.Basic
import BrowserPlan.Wait.Condition

/-!
# Plans

What is to be done in a run: a tree of steps, and the options of the run. A plan is built once and
does not change while it is carried out.
-/
namespace BrowserPlan

/-- A step of a plan. -/
inductive Step where
  | click (selector xpath : Option String) (wait : Option WaitCondition)
  | type (text : String) (selector xpath : Option String) (delay : Number)
  | go (place : String) (waitUntil : Option String) (timeout : Option Number)
  | wait (condition : WaitCondition)
  | scrape (data : Spec) (path : String)
  | screenshot (path : String) (fullPage : Bool)
  | repeat (steps : List Step) (times : Nat)
  | crawl (selector xpath : Option String) (attributeName : String) (steps : List Step)
  deriving Inhabited

namespace Step

/-- What a step does. -/
def action : Step → Action
  | click .. => .click
  | type .. => .type
  | go .. => .go
  | wait .. => .wait
  | scrape .. => .scrape
  | screenshot .. => .screenshot
  | «repeat» .. => .repeat
  | crawl .. => .crawl

/-- The steps below a step. -/
def subSteps : Step → List Step
  | «repeat» steps _ | crawl _ _ _ steps => steps
  | _ => []

end Step

/-- A plan: the steps to carry out, and how to carry them out. -/
structure Plan where
  url : String
  steps : List Step
  headless : Bool
  /-- How long the browser's calls may take, in milliseconds. -/
  defaultTimeout : Option Float
  defaultNavigationTimeout : Option Float
  /-- How many pages a crawl may have open at once. -/
  maxPages : Int
  keepOpenAfter : KeepOpen
  /-- The path of the document the plan was read from. -/
  source : Option String
  deriving Inhabited

end BrowserPlan
