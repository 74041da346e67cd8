import BrowserPlan.Browser.State
import BrowserPlan.Log
import BrowserPlan.Plan.Basic
import BrowserPlan.Pool.Basic
import BrowserPlan.Records
import BrowserPlan.Task.Loop
import BrowserPlan.Url

/-!
# The world of a run

What the tasks of a run share: the browser and the files, the session that owns the browser, the
pool of pages, the report, the spans and the log. Tasks reach it by calls, each of which is
answered at once; the calls to the browser that take time are made of several of them.
-/
namespace BrowserPlan.Run

open BrowserPlan.Task BrowserPlan.Browser

/-! ## Faults -/

/-- Why a run, or a part of it, fails. -/
inductive Fault where
  | call (fault : CallFault)
  | pool (fault : PoolFault)
  | file (fault : FileFault)
  | address (fault : UrlFault)
  | pattern (regex : String) (fault : Pattern.Fault)
  /-- Neither a selector nor a path expression says what is meant. -/
  | noTarget
  /-- The session has no browser. -/
  | notStarted
  | unknownEngine (engine : String)
  /-- There is no number to wait for. -/
  | noTime
  /-- A time is longer than any clock can tell. -/
  | tooLong
  /-- A step failed. -/
  | step (action : Action) (index : IterationIndex) (cause : Fault)
  deriving Inhabited

namespace Fault

/-- What a fault says. -/
def message : Fault → String
  | call fault => fault.message
  | pool fault => fault.message
  | file fault => fault.message
  | address fault => fault.message
  | pattern regex fault => fault.message regex
  | noTarget => noTargetMessage
  | notStarted => "Browser not started. Call start() first."
  | unknownEngine engine => s!"Unknown browser engine: {engine}"
  | noTime => "'>' not supported between instances of 'NoneType' and 'int'"
  | tooLong => "integer division result too large for a float"
  | step action index cause =>
    action.name ++ " step failed at index " ++ index.toString ++ ": " ++ cause.message

/-- Whether a fault is one of the program's own, which a step passes on as it is. -/
def isOwn : Fault → Bool
  | call (.raised .own _) | call (.raised .pool _) | step .. => true
  | pool (.badLimit _) => false
  | pool _ => true
  | _ => false

end Fault

/-! ## Report and spans -/

/-- A branch of a crawl that failed. -/
structure BranchFailure where
  link : String
  index : IterationIndex
  error : String
  deriving DecidableEq, Repr, Inhabited

/-- What a run has done. -/
structure Report where
  /-- The steps in the order in which they were begun. -/
  executed : Array Action := #[]
  /-- The files in the order in which they were written. -/
  outputs : Array FilePath := #[]
  failures : Array BranchFailure := #[]
  deriving Inhabited

/-- How a span ended. -/
inductive SpanStatus where
  | «open»
  | ok
  | error
  | cancelled
  deriving DecidableEq, Repr, Inhabited

/-- The time a step takes. -/
structure Span where
  action : Action
  index : IterationIndex
  status : SpanStatus := .open
  deriving Inhabited

/-- The status of a span that ends like `r`. -/
def SpanStatus.ofOutcome {φ α : Type} : Outcome φ α → SpanStatus
  | .ok _ => ok
  | .error .cancelled => cancelled
  | .error _ => error

/-! ## The session -/

/-- The browser of a run, and how it is set up. -/
structure Session where
  headless : Bool := true
  engine : String := "chromium"
  defaultTimeout : Option Number := none
  defaultNavigationTimeout : Option Number := none
  isLauncherStarted : Bool := false
  browser : Option BrowserId := none
  hasContext : Bool := false
  /-- The session was closed; it is not closed again. -/
  isClosed : Bool := false
  deriving Inhabited

namespace Session

/-- The browsers that can be launched. -/
def engines : List String := ["chromium", "firefox", "webkit"]

/-- A session that is set up but not started. -/
def ofOptions (headless : Bool) (engine : String) (timeout navigationTimeout : Option Number) :
    Except Fault Session :=
  if engines.contains engine then
    .ok { headless := headless, engine := engine, defaultTimeout := timeout
          defaultNavigationTimeout := navigationTimeout }
  else .error (.unknownEngine engine)

end Session

/-! ## The interface -/

/-- What tasks wait for, apart from times and each other. -/
inductive Signal where
  /-- A ticket of the pool was granted something. -/
  | granted (ticket : Nat)
  /-- The browser went away. -/
  | gone (listener : Nat)
  deriving DecidableEq, Repr

/-- What can be read from a document at one go. -/
inductive Look where
  | all (target : String)
  | read (target : Option String) (attributeName : String)
  | content (source : String)

/-- What can be done with a session. -/
inductive SessionDeed where
  | start
  | newPage
  | waitClosed
  | close
  /-- Asks for the browser. -/
  | browser
  deriving DecidableEq, Repr

/-- When a session is closed that outlives its run. -/
inductive Deferral where
  | whenGone
  | after (millis : Number)
  deriving Inhabited

/-- What tasks are for. -/
inductive Job where
  /-- Carries out a plan. -/
  | automation (plan : Plan) (engine : String)
  /-- Carries out a plan and waits until its browser is closed. -/
  | attended (plan : Plan) (engine : String)
  /-- Carries out a plan and mentions the branches that failed. -/
  | commanded (plan : Plan) (engine : String)
  | steps (page : PageId) (steps : List Step) (index : IterationIndex)
  | branch (link : String) (index : IterationIndex) (steps : List Step)
  | wait (page : PageId) (condition : WaitCondition)
  | click (page : PageId) (target : String)
  /-- Puts off the close of the session, if it is put off. -/
  | defer (d : Option Deferral)
  | close (d : Deferral)
  | session (deed : SessionDeed)
  | extract (root : Party) (spec : Spec)
  | look (root : Party) (look : Look)

/-- What comes of a task. -/
inductive Yield where
  | nothing
  | text (value : Option String)
  | page (p : PageId)
  | values (vs : List Json)
  /-- The task that closes the session, if it is still to be closed. -/
  | closing (t : Option TaskId)
  deriving Inhabited

/-- Calls into the world. -/
inductive Call where
  | «begin» (who : Party) (op : Operation)
  | complete (who : Party) (landing : Option String) (op : Operation)
  | breakOff (who : Party) (op : Operation)
  | urlOf (p : PageId)
  | isConnected (b : BrowserId)
  /-- The browser goes away. -/
  | goAway
  | session
  | setSession (s : Session)
  | openPool (limit : Int)
  | pool (q : PoolCall PageId)
  /-- Asks for the pool as it stands. -/
  | poolState
  | log (record : Log.Record)
  | executed (action : Action)
  | produced (path : FilePath)
  | branchFailed (failure : BranchFailure)
  | report
  | openSpan (action : Action) (index : IterationIndex)
  | closeSpan (n : Nat) (status : SpanStatus)
  | ensureParent (path : FilePath)
  | writeRecords (path : FilePath) (data : Json)
  /-- The run is over. -/
  | returned (closeIsPending : Bool)

/-- What the world answers. -/
abbrev Call.Answer : Call → Type
  | «begin» .. => Course
  | complete _ _ op => Except CallFault op.Answer
  | urlOf _ => String
  | isConnected _ => Bool
  | session => Session
  | openPool _ => Option PoolFault
  | pool q => q.Answer
  | poolState => Pool PageId
  | report => Report
  | openSpan .. => Nat
  | ensureParent _ | writeRecords .. => Option FileFault
  | _ => Unit

/-- A run as its tasks see it. -/
abbrev scene : Interface :=
  { Call := Call, Answer := Call.Answer, Signal := Signal, Job := Job, Fault := Fault,
    Result := Yield }

instance : DecidableEq scene.Signal := inferInstanceAs (DecidableEq Signal)

/-! ## The world -/

/-- What the tasks of a run share. -/
structure World where
  browser : Browser.State
  session : Session := {}
  pool : Pool PageId := { maxPages := 0 }
  report : Report := {}
  spans : Array Span := #[]
  records : Array Log.Record := #[]

namespace World

/-- The files of the world. -/
def files (w : World) : Files := w.browser.files

/-- Changes the files of the world. -/
def withFiles (w : World) (files : Files) : World :=
  { w with browser := { w.browser with files := files } }

/-- Changes the report. -/
def reporting (w : World) (f : Report → Report) : World := { w with report := f w.report }

/-- Signals that are given without a fault. -/
def raised (signals : List Signal) : List (Signal × Outcome Fault Unit) :=
  signals.map fun s => (s, .ok ())

/-- Answers a call; tells which signals it gives. -/
def perform (now : Nat) (w : World) :
    (q : Call) → World × q.Answer × List (Signal × Outcome Fault Unit)
  | .begin who op =>
    let (browser, course) := w.browser.begin now who op
    ({ w with browser := browser }, course, [])
  | .complete who landing op =>
    let (browser, answer) := w.browser.complete who landing op
    ({ w with browser := browser }, answer, [])
  | .breakOff who op => ({ w with browser := w.browser.breakOff now who op }, (), [])
  | .urlOf p => (w, (w.browser.page p).url, [])
  | .isConnected b => (w, w.browser.isConnected b, [])
  | .goAway =>
    let (browser, listeners) := w.browser.goAway now
    ({ w with browser := browser }, (), raised (listeners.map .gone))
  | .session => (w, w.session, [])
  | .setSession s => ({ w with session := s }, (), [])
  | .openPool limit =>
    match Pool.ofLimit limit with
    | .ok pool => ({ w with pool := pool }, none, [])
    | .error fault => (w, some fault, [])
  | .pool q =>
    let (pool, answer, tickets) := w.pool.perform q
    ({ w with pool := pool }, answer, raised (tickets.map .granted))
  | .poolState => (w, w.pool, [])
  | .log record => ({ w with records := w.records.push record }, (), [])
  | .executed action => (w.reporting fun r => { r with executed := r.executed.push action }, (), [])
  | .produced path => (w.reporting fun r => { r with outputs := r.outputs.push path }, (), [])
  | .branchFailed failure =>
    (w.reporting fun r => { r with failures := r.failures.push failure }, (), [])
  | .report => (w, w.report, [])
  | .openSpan action index =>
    ({ w with spans := w.spans.push { action := action, index := index } }, w.spans.size, [])
  | .closeSpan n status =>
    ({ w with spans := w.spans.modify n fun s => { s with status := status } }, (), [])
  | .ensureParent path =>
    match w.files.ensureParent path with
    | .ok files => (w.withFiles files, none, [])
    | .error fault => (w, some fault, [])
  | .writeRecords path data =>
    match w.files.writeRecords path data with
    | .ok files => (w.withFiles files, none, [])
    | .error (files, fault) => (w.withFiles files, some fault, [])
  | .returned closeIsPending =>
    ({ w with browser := w.browser.note now "driver" (.returned closeIsPending) }, (), [])

/-- A task no longer waits for a signal. -/
def forsake (w : World) : Signal → World
  | .granted ticket => { w with pool := w.pool.forsake ticket }
  | .gone _ => w

end World
end BrowserPlan.Run
