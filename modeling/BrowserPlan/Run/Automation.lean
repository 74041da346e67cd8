import BrowserPlan.Run.Closing
import BrowserPlan.Run.Steps

/-!
# Carrying out a plan

A run launches the browser, opens the start address, carries out the steps, and closes what it has
opened, whatever happens in between. Only when all has gone well may the session stay open for a
while.
-/
namespace BrowserPlan.Run

open BrowserPlan.Task BrowserPlan.Browser

/-- Opens the start address of a plan and carries out its steps. -/
def perform (plan : Plan) (page : PageId) : Program scene Unit := do
  say .info .runner ("Opening " ++ plan.url)
  invoke (.page page) (.goto plan.url none none)
  runSteps page .root plan.steps

/-- Launches the browser, opens the page of the run and makes ready the pool. -/
def openUp (plan : Plan) : Program scene PageId := do
  Session.start
  let page ← Session.newPage
  failIf ((← ask (.openPool plan.maxPages)).map .pool)
  return page

/-- Closes the session and comes to a bad end. -/
def giveUp {α : Type} (s : Stop Fault) : Program scene α := do
  Session.close
  Program.ending (I := scene) (.error s)

/-- Carries out a plan in a session that is set up for it. The pool's pages are closed however the
steps end, and the session is closed when anything has gone wrong. -/
def performInSession (plan : Plan) : Program scene Unit := do
  match ← (openUp plan).attempt with
  | .error s => giveUp s
  | .ok page =>
    let r ← (perform plan page).attempt
    closePages
    match r with
    | .error s => giveUp s
    | .ok _ => return

/-- Says what a run has done. -/
def sayDone : Program scene Unit := do
  let r ← ask .report
  let steps := r.executed.size
  let files := r.outputs.size
  let failures := r.failures.size
  say .info .runner
    s!"Run complete: {steps} steps executed, {files} files written, {failures} crawl failures"

/-- Carries out a plan. The result is the task that closes the session, if it is still to be
closed. -/
def automation (plan : Plan) (engine : String) : Program scene (Option TaskId) := do
  let options := Session.ofOptions plan.headless engine
    (plan.defaultTimeout.map .float) (plan.defaultNavigationTimeout.map .float)
  ask (.setSession (← settleFor id options))
  performInSession plan
  let closing ← scheduleClose (Deferral.of? plan.keepOpenAfter)
  if closing.isNone then Session.close
  sayDone
  return closing

/-- Waits for the task that closes the session, if there is one. -/
def awaitClose (closing : Option TaskId) : Program scene Unit := do
  match closing with
  | some t =>
    let _ ← Program.join (I := scene) t
  | none => pure ()

/-- Waits for the task that closes the session; it does not matter if that task gives up. -/
def attendClose (closing : Option TaskId) : Program scene Unit := do
  match ← (awaitClose closing).attempt with
  | .error .cancelled => return
  | r => Program.ending (I := scene) r

/-- Carries out a plan in a task of its own, and waits until its session is closed. -/
def attended (plan : Plan) (engine : String) : Program scene Yield := do
  let t ← Program.start (I := scene) (.automation plan engine)
  match ← Program.join (I := scene) t with
  | .closing closing =>
    ask (.returned closing.isSome)
    attendClose closing
    return .closing closing
  | other => return other

/-- Mentions the branches that failed. -/
def mentionFailures : Program scene Unit := do
  let r ← ask .report
  Program.each (fun f => say .warning .commandLine ("Crawl failure at " ++ f.index.toString ++
    " (" ++ f.link ++ "): " ++ f.error)) r.failures.toList

/-- Carries out a plan, mentions the branches that failed, and waits until the session is closed. -/
def commanded (plan : Plan) (engine : String) : Program scene Yield := do
  let closing ← automation plan engine
  mentionFailures
  awaitClose closing
  return .nothing

/-- What a task does. -/
def program : Job → Program scene Yield
  | .automation plan engine => do return .closing (← automation plan engine)
  | .attended plan engine => attended plan engine
  | .commanded plan engine => commanded plan engine
  | .steps page steps index => do
    runSteps page index steps
    return .nothing
  | .branch link index steps => do
    branch link index steps
    return .nothing
  | .wait page condition => do return .text (← waitFor page condition)
  | .click page target => do
    invoke (.page page) (.click target)
    return .nothing
  | .defer d => do return .closing (← scheduleClose d)
  | .close d => closeLater d
  | .session deed => Session.perform deed
  | .extract root spec => do return .values (← extract root spec)
  | .look root l => look root l

/-- How the world of a run works. -/
def machine : Machine scene World :=
  { perform := World.perform, forsake := World.forsake, program := program }

/-- A run on its way. -/
abbrev RunState := Loop scene World

end BrowserPlan.Run
