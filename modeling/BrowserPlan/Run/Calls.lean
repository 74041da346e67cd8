import BrowserPlan.Run.World

/-!
# Calls that tasks make

How a task reaches the world. A call to the browser begins, takes the time that its course lays
down, and completes; on the way it may be interrupted, fail, or be broken off because the task is
told to give up.
-/
namespace BrowserPlan.Run

open BrowserPlan.Task BrowserPlan.Browser

/-- Asks the world. -/
def ask (q : Call) : Program scene q.Answer := Program.call (I := scene) q fun a => .done (.ok a)

/-- Fails. -/
def fail {α : Type} (fault : Fault) : Program scene α := Program.fail (I := scene) fault

/-- Fails where there is a fault. -/
def failIf (fault : Option Fault) : Program scene Unit :=
  match fault with
  | some fault => fail fault
  | none => pure ()

/-- Waits. -/
def wait (on : Pause Signal) : Program scene Unit := Program.wait (I := scene) on

/-- What an outcome in the world comes to. -/
def settleFor {α ε : Type} (toFault : ε → Fault) : Except ε α → Program scene α
  | .ok a => pure a
  | .error e => fail (toFault e)

/-! ## The log and the report -/

/-- Writes a record to the log. -/
def say (level : Log.Level) (speaker : Log.Speaker) (message : String) : Program scene Unit :=
  ask (.log ⟨level, speaker, message⟩)

/-- Carries out a step within a span of its own. -/
def spanned (action : Action) (index : IterationIndex) (p : Program scene Unit) :
    Program scene Unit := do
  let n ← ask (.openSpan action index)
  p.ensuring fun r => ask (.closeSpan n (SpanStatus.ofOutcome r))

/-! ## Calls to the browser -/

/-- What a course makes a call wait for. -/
def holdUp (course : Course) : Option (Pause Signal) :=
  if course.hangs then some .forever
  else if course.delay = 0 then none
  else some (.timer course.delay)

/-- Waits for what a course makes a call wait for; a call that is broken off is put into the log. -/
def sitOut (who : Party) (op : Operation) (course : Course) : Program scene Unit := do
  match holdUp course with
  | none => pure ()
  | some on =>
    match ← (wait on).attempt with
    | .error .cancelled =>
      ask (.breakOff who op)
      Program.ending (I := scene) (.error .cancelled)
    | r => Program.ending (I := scene) r

/-- Calls the browser. -/
def invoke (who : Party) (op : Operation) : Program scene op.Answer := do
  let course ← ask (.begin who op)
  sitOut who op course
  if course.interrupts then Program.ending (I := scene) (.error .interrupted)
  failIf (course.fault.map .call)
  settleFor .call (← ask (.complete who course.landing op))

/-! ## Files -/

/-- Makes the directory that a path lies in. -/
def ensureParent (path : FilePath) : Program scene Unit := do
  failIf ((← ask (.ensureParent path)).map .file)

/-- Writes records to a file. -/
def writeRecords (path : FilePath) (data : Json) : Program scene Unit := do
  failIf ((← ask (.writeRecords path data)).map .file)

end BrowserPlan.Run
