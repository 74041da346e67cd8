import BrowserPlan.Plan.Basic
import BrowserPlan.Document.Reader
import BrowserPlan.Spec.Reader
import BrowserPlan.Settings
import BrowserPlan.Log

/-!
# Plans built from documents

A document is turned into a plan: waits are checked, extraction specs are read, and a crawl below
another crawl is refused, because a task that holds a page must never wait for another one.
-/
namespace BrowserPlan

/-- Why no plan can be built. -/
inductive PlanFault where
  | notObject (kind : String)
  | invalid (complaints : List Schema.Complaint)
  /-- A crawl below another one. -/
  | nestedCrawl (place : String)
  | badWait (place : String) (fault : WaitFault)
  | badSpec (fault : SpecFault)

namespace PlanFault

/-- Whether a fault is one of the document's, told by its place. Numbers that no pattern can have
are not. -/
def isPlaced : PlanFault → Bool
  | badWait _ (.unreadable _) | badSpec (.unreadable _) => false
  | _ => true

/-- What a fault says, apart from which document it is in. -/
def reason : PlanFault → String
  | notObject kind => s!"top level must be an object, got {kind}"
  | invalid _ => "invalid config"
  | nestedCrawl place => place ++ ": crawl steps cannot be nested inside another crawl"
  | badWait _ (.unreadable fault) => fault.message ""
  | badWait place fault => place ++ ": " ++ fault.message
  | badSpec fault => fault.message

/-- What a fault in the document `source` says. -/
def message (source : Option String) (fault : PlanFault) : String :=
  if fault.isPlaced then
    (source.filter (· != "")).getD "config" ++ ": " ++ fault.reason
  else fault.reason

end PlanFault

/-! ## Waits -/

namespace WaitDocument

/-- The element state a wait names, in words or by a switch. -/
def state? (d : WaitDocument) : Option String :=
  match d.state with
  | some s => some s
  | none =>
    if d.visible == some true then some "visible"
    else if d.hidden == some true then some "hidden"
    else none

/-- The condition a wait describes. -/
def condition (d : WaitDocument) (kind : WaitKind) : WaitCondition :=
  { kind := kind, selector := d.selector, xpath := d.xpath, state := d.state?,
    timeout := d.timeout.map .float, waitUntil := d.waitUntil, url := d.url,
    function := d.function, args := d.args, polling := d.polling }

end WaitDocument

namespace Plan

/-- Tells where a wait is at fault. -/
def placed {α : Type} (place : String) (a : Except WaitFault α) : Except PlanFault α :=
  a.mapError (.badWait place)

/-- The condition of a wait. -/
def buildWait (place : String) (d : WaitDocument) : Except PlanFault WaitCondition := do
  let kind ← placed place (WaitKind.read (.str d.for))
  placed place (d.condition kind).check

/-- The condition that a mere word for its kind describes. -/
def buildWaitFor (place : String) (word : String) : Except PlanFault WaitCondition := do
  let kind ← placed place (WaitKind.read (.str word))
  placed (place ++ ".waitFor") { kind := kind : WaitCondition }.check

/-- The condition of a click, however it is written. -/
def buildClickWait (place : String) (d : Option WaitDocument) (word : Option String) :
    Except PlanFault (Option WaitCondition) :=
  match d, word with
  | some d, _ => some <$> buildWait (place ++ ".wait") d
  | none, some word =>
    if word == "" then .ok none else some <$> buildWaitFor place word
  | none, none => .ok none

/-! ## Steps -/

/-- How often a step is repeated where the document does not say. -/
def defaultTimes : Nat := 10

/-- How often a step is repeated: the sign does not matter, and 0 says nothing. -/
def timesOf (n : Int) : Nat := if n = 0 then defaultTimes else n.natAbs

/-- The place of an item of the list at `place`. -/
def itemPlace (place : String) (position : Nat) : String := s!"{place}[{position}]"

mutual

/-- The step a document describes. -/
def buildStep (inCrawl : Bool) (place : String) : StepDocument → Except PlanFault Step
  | .click selector xpath d word => do
    return .click selector xpath (← buildClickWait place d word)
  | .type text selector xpath delay => .ok (.type text selector xpath delay)
  | .go place waitUntil timeout => .ok (.go place waitUntil (timeout.map .float))
  | .wait d => Step.wait <$> buildWait place d
  | .scrape data path => do
    let spec ← (Spec.read (place ++ ".data") (.obj data)).mapError .badSpec
    return .scrape spec path
  | .screenshot path fullPage => .ok (.screenshot path fullPage)
  | .repeat times steps => do
    return .repeat (← buildSteps inCrawl (place ++ ".subSteps") 0 steps) (timesOf times)
  | .crawl selector xpath attributeName steps =>
    if inCrawl then .error (.nestedCrawl place)
    else do
      return .crawl selector xpath attributeName (← buildSteps true (place ++ ".subSteps") 0 steps)

/-- The steps that documents describe, the first of them at `position`. -/
def buildSteps (inCrawl : Bool) (place : String) (position : Nat) :
    List StepDocument → Except PlanFault (List Step)
  | [] => .ok []
  | d :: rest => do
    let step ← buildStep inCrawl (itemPlace place position) d
    let steps ← buildSteps inCrawl place (position + 1) rest
    return step :: steps

end

/-- The plan a document describes. -/
def build (settings : Settings) (source : Option String) (d : Document) : Except PlanFault Plan := do
  let steps ← buildSteps false "steps" 0 d.steps
  return {
    url := d.url, steps := steps, headless := d.headless.getD settings.headless,
    defaultTimeout := d.defaultTimeout, defaultNavigationTimeout := d.defaultNavigationTimeout,
    maxPages := d.maxPages, keepOpenAfter := d.keepOpenAfter, source := source }

/-- The plan that a JSON value describes. -/
def ofJson (settings : Settings) (source : Option String) (v : Json) : Except PlanFault Plan :=
  match v with
  | .obj ms =>
    match Document.ofMembers ms with
    | .ok d => build settings source d
    | .error complaints => .error (.invalid complaints)
  | other => .error (.notObject other.kindName)

/-- What is noted once a plan is built. -/
def builtRecord (p : Plan) : Log.Record :=
  let origin := (p.source.filter (· != "")).getD "mapping"
  let count := p.steps.length
  ⟨.debug, .planner, s!"Built plan with {count} top-level steps from {origin}"⟩

end Plan
end BrowserPlan
