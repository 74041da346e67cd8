import BrowserPlan.Pool.Client
import BrowserPlan.Task.Loop

/-!
# Scenarios with a pool

Named callers borrow pages from a pool and bring them back, in any order one cares to try. The
creation of a page may be held up at a gate, and a lease lasts until its own gate is opened; a gate
can be opened with an error. What a caller does when it gets no page can be laid down beforehand.
-/
namespace BrowserPlan.Pool.Scenario

open BrowserPlan.Task

/-- A deed in a scenario. -/
inductive Deed where
  /-- Starts a caller who borrows a page for good; `onError` is done when there is none. -/
  | acquire (caller : String) (onError : List Deed)
  /-- Starts a caller who borrows a page until its gate opens. -/
  | lease (caller : String) (onError : List Deed)
  /-- Opens the gate at the end of a lease. -/
  | finish (caller : String) (error : Option String)
  /-- Opens the gate before the creation of a page. -/
  | openGate (number : Nat) (error : Option String)
  | release (page : String)
  | cancel (caller : String)
  | close
  deriving Inhabited

/-- What callers wait for. -/
inductive Signal where
  | granted (ticket : Nat)
  | gate (number : Nat)
  | leaseEnd (caller : String)
  deriving DecidableEq, Repr

/-- Why a caller fails. -/
inductive Fault where
  | pool (fault : PoolFault)
  | failure (text : String)
  deriving DecidableEq, Repr

/-- What a fault says. -/
def Fault.message : Fault → String
  | pool fault => fault.message
  | failure text => text

/-- What tasks are for. -/
inductive Job where
  | acquire (caller : String) (onError : List Deed)
  | lease (caller : String) (onError : List Deed)
  /-- A deed that is done at once. -/
  | deed (d : Deed)

/-- Calls into the world of a scenario. -/
inductive Call where
  | pool (q : PoolCall String)
  /-- The gate that a page has to pass next, none where pages are created freely. -/
  | nextGate
  /-- The name of the next page. -/
  | nextPage
  | closePage (page : String)
  /-- Puts up the gate at the end of a lease. -/
  | putUp (caller : String)
  /-- Opens a gate; answers whether there was a shut one. -/
  | openGate (gate : Signal) (error : Option String)
  /-- What came of a gate that is open. -/
  | passage (gate : Signal)
  | name (caller : String) (t : TaskId)
  | taskOf (caller : String)

/-- The answers of a scenario's world. -/
abbrev Call.Answer : Call → Type
  | pool q => q.Answer
  | nextGate => Option Nat
  | nextPage => String
  | closePage _ => Option Fault
  | putUp _ | name _ _ => Unit
  | openGate _ _ => Bool
  | passage _ => Option (Outcome Fault Unit)
  | taskOf _ => Option TaskId

/-- A scenario as its programs see it. Tasks result in the name of a page, deeds in a remark. -/
abbrev scene : Interface :=
  { Call := Call, Answer := Call.Answer, Signal := Signal, Job := Job, Fault := Fault,
    Result := String }

instance : DecidableEq scene.Signal := inferInstanceAs (DecidableEq Signal)

/-- The world of a scenario. -/
structure World where
  pool : Pool String
  isGated : Bool
  /-- Pages that cannot be closed properly. -/
  badClose : List String
  /-- Gates that are shut. -/
  shut : List Signal := []
  /-- Gates that have been opened, each with what came of it. -/
  opened : List (Signal × Outcome Fault Unit) := []
  gateCount : Nat := 0
  pageCount : Nat := 0
  /-- Pages in the order in which they were closed. -/
  closed : List String := []
  callers : List (String × TaskId) := []

/-- Answers a call. -/
def World.perform (w : World) :
    (q : Call) → World × q.Answer × List (Signal × Outcome Fault Unit)
  | .pool q =>
    let (pool, answer, tickets) := w.pool.perform q
    ({ w with pool := pool }, answer, tickets.map fun t => (.granted t, .ok ()))
  | .nextGate =>
    if w.isGated then
      ({ w with gateCount := w.gateCount + 1, shut := w.shut ++ [.gate w.gateCount] },
        some w.gateCount, [])
    else (w, none, [])
  | .nextPage =>
    let number := w.pageCount + 1
    ({ w with pageCount := number }, s!"p{number}", [])
  | .closePage page =>
    ({ w with closed := w.closed ++ [page] },
      if w.badClose.contains page then some (.failure "close failed") else none, [])
  | .putUp caller => ({ w with shut := w.shut ++ [.leaseEnd caller] }, (), [])
  | .openGate gate error =>
    if w.shut.contains gate then
      let r := match error with
        | some text => .error (.failed (.failure text))
        | none => .ok ()
      let shut := w.shut.filter (· != gate)
      ({ w with shut := shut, opened := w.opened ++ [(gate, r)] }, true, [(gate, r)])
    else (w, false, [])
  | .passage gate => (w, (w.opened.find? fun g => g.1 == gate).map (·.2), [])
  | .name caller t => ({ w with callers := w.callers ++ [(caller, t)] }, (), [])
  | .taskOf caller => (w, (w.callers.find? fun c => c.1 == caller).map (·.2), [])

/-- A caller no longer waits for a signal. -/
def World.forsake (w : World) : Signal → World
  | .granted ticket => { w with pool := w.pool.forsake ticket }
  | gate => { w with shut := w.shut.filter (· != gate) }

/-! ## Programs -/

/-- Asks the world of the scenario. -/
def ask (q : Call) : Program scene q.Answer := Program.call (I := scene) q fun a => .done (.ok a)

/-- Fails where there is a fault. -/
def failIf (fault : Option Fault) : Program scene Unit :=
  match fault with
  | some fault => Program.fail (I := scene) fault
  | none => pure ()

/-- Creates a page, once its gate is open. -/
def createPage : Program scene String := do
  match ← ask .nextGate with
  | some n => Program.wait (I := scene) (.signal (.gate n))
  | none => pure ()
  ask .nextPage

/-- The pool of the scenario. -/
def client : Client scene String :=
  { ask := fun q => ask (.pool q)
    granted := .granted
    fault := .pool
    create := createPage
    noteQueued := pure ()
    noteCreated := pure ()
    noteClosed := pure () }

/-- The remark on a gate that is not shut. -/
def noGate : String := "no gate"

/-- Opens a gate. -/
def openShut (gate : Signal) (error : Option String) : Program scene String := do
  if ← ask (.openGate gate error) then return "" else return noGate

/-- Starts a caller. -/
def startCaller (caller : String) (job : Job) : Program scene String := do
  let t ← Program.start (I := scene) job
  ask (.name caller t)
  return ""

/-- Does a deed. The result is a remark, mostly none. -/
def perform : Deed → Program scene String
  | .acquire caller onError => startCaller caller (.acquire caller onError)
  | .lease caller onError => startCaller caller (.lease caller onError)
  | .finish caller error => openShut (.leaseEnd caller) error
  | .openGate n error => openShut (.gate n) error
  | .release page => do
    client.release page
    return ""
  | .cancel caller => do
    match ← ask (.taskOf caller) with
    | some t => Program.stop t
    | none => pure ()
    return ""
  | .close => do
    client.close fun page => do failIf (← ask (.closePage page))
    return ""

/-- Does what is laid down for a bad end, and comes to that end. -/
def reacting (onError : List Deed) (p : Program scene String) : Program scene String := do
  match ← p.attempt with
  | .ok page => return page
  | .error s =>
    Program.each (fun d => do let _ ← perform d) onError
    Program.ending (.error s)

/-- Borrows a page until the gate at the end of the lease opens. -/
def leaseUntilEnd (caller : String) : Program scene String := do
  ask (.putUp caller)
  client.lease fun page => do
    match ← ask (.passage (.leaseEnd caller)) with
    | some r => Program.ending (I := scene) r
    | none => Program.wait (I := scene) (.signal (.leaseEnd caller))
    return page

/-- What a task does. -/
def program : Job → Program scene String
  | .acquire _ onError => reacting onError client.acquire
  | .lease caller onError => reacting onError (leaseUntilEnd caller)
  | .deed d => perform d

/-- How the world of a scenario works. -/
def machine : Machine scene World :=
  { perform := fun _ w q => w.perform q, forsake := World.forsake, program := program }

/-! ## Scenarios -/

/-- A scenario on its way. -/
abbrev State := Loop scene World

/-- The start of a scenario. -/
def initial (maxPages : Int) (isGated : Bool) (badClose : List String) : Except PoolFault State :=
  (Pool.ofLimit maxPages).map fun pool =>
    { world := { pool := pool, isGated := isGated, badClose := badClose } }

/-- Does a deed from outside and, if `settles`, lets everybody go on for as long as they can.
Answers how the deed ended. -/
def step (s : State) (d : Deed) (settles : Bool) : State × Outcome Fault String :=
  let (s, t) := s.atOnce machine (.deed d)
  let r := (s.result? t).getD (.ok "")
  (if settles then s.settle machine else s, r)

/-- The callers, and how each one ended. -/
def callers (s : State) : List (String × Option (Outcome Fault String)) :=
  s.world.callers.map fun c => (c.1, s.result? c.2)

end BrowserPlan.Pool.Scenario
