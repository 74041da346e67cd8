import BrowserPlan.Run.Automation

/-!
# Runs from beginning to end

Sets up a world, starts one task in it, and lets the task come to its end. The browser may go away
and the task may be told to give up at times laid down beforehand.
-/
namespace BrowserPlan.Run

open BrowserPlan.Task BrowserPlan.Browser

/-- A world before anything has been done in it. -/
def World.ofSite (site : Site) (files : Files) : World :=
  { browser := { site := site, files := files } }

/-- A world in which a first page of the given name is at an address. -/
def World.withPage (w : World) (name url : String) : World :=
  { w with browser := (w.browser.addPage name url).1 }

/-- A world in which a browser was launched before. -/
def World.launched (w : World) : World :=
  let session := { w.session with isLauncherStarted := true, browser := some 0, hasContext := true }
  { w with browser := { w.browser with processes := #[{}] }, session := session }

/-- Things that happen at times laid down beforehand, in milliseconds. -/
structure Mishaps where
  /-- The browser goes away. -/
  goneAt : Option Nat := none
  /-- The run is told to give up. -/
  cancelledAt : Option Nat := none

/-- Sets the timers of mishaps; `t` is the task that may be told to give up. -/
def Mishaps.set (h : Mishaps) (t : TaskId) (L : RunState) : RunState :=
  let L := match h.goneAt with
    | some millis => L.setTimer (millis * 1000) (.call .goAway)
    | none => L
  match h.cancelledAt with
  | some millis => L.setTimer (millis * 1000) (.cancel t)
  | none => L

/-- A world with a first task for a job. -/
def beginning (w : World) (job : Job) : RunState :=
  (Loop.spawn (I := scene) { world := w } (program job)).1

/-- Lets a task come to its end, and then tells all tasks that are left to give up. -/
def conclude (L : RunState) (t : TaskId) : RunState := (L.seeOut machine t).cleanUp machine

/-- Carries out a job in a world. -/
def carryOut (w : World) (job : Job) : RunState := conclude (beginning w job) 0

/-- How the first task has ended. -/
def outcome (L : RunState) : Outcome Fault Yield := (L.result? 0).getD (.error .cancelled)

/-- Carries out a plan. The second task is the run itself. -/
def followPlan (w : World) (plan : Plan) (engine : String) (h : Mishaps) : RunState :=
  conclude (h.set 1 (beginning w (.attended plan engine))) 0

/-- Carries out steps on the first page of a world, with a pool of so many pages. -/
def followSteps (w : World) (steps : List Step) (index : IterationIndex) (limit : Int) :
    Except PoolFault RunState := do
  let pool ← Pool.ofLimit limit
  let session := { w.session with hasContext := true }
  return carryOut { w with pool := pool, session := session } (.steps 0 steps index)

/-- Puts off the close of a session with a browser; tells whether it is pending. The second task is
the one that closes the session. -/
def putOffClose (w : World) (d : Option Deferral) (h : Mishaps) : RunState × Bool :=
  let (L, _) := Loop.atOnce machine { world := w.launched } (.defer d)
  if d.isSome then (conclude (h.set 1 L) 1, true) else (L, false)

/-! ## Sessions step by step -/

/-- Does something with the session, or lets the browser go away when there is nothing to do, and
lets all tasks go on for as long as they can. Answers the task that does it. -/
def sessionStep (L : RunState) (deed : Option SessionDeed) : RunState × TaskId :=
  match deed with
  | some deed =>
    let (L, t) := L.spawn (program (.session deed))
    (L.settle machine, t)
  | none => ((L.intervene machine .goAway).settle machine, L.tasks.size)

/-- Whether the browser of the session is connected. -/
def World.isConnected (w : World) : Bool := w.session.browser.any w.browser.isConnected

end BrowserPlan.Run
