import BrowserPlan.Task.Program

/-!
# The task loop

Tasks take turns. Those that can go on stand in a queue, first come first served; a task keeps its
turn until it pauses, waits for other tasks or ends. When the queue is empty the earliest timer
goes off, and time passes only then.

Telling a task to give up reaches it where it waits: a pause is broken off, and a wait for other
tasks passes the message on to them. A task that is already due to go on learns of it when its turn
comes. What a gathering hears of the ends of its tasks takes a turn of its own each.
-/
namespace BrowserPlan.Task

/-- Who is told when a task ends. -/
inductive Watcher where
  | gathering (g : Nat)
  | task (t : TaskId)
  deriving DecidableEq, Repr

/-- Where a task stands. -/
inductive Standing (I : Interface) where
  /-- In the queue; it goes on in one way or, if it has been told to give up, in another. -/
  | ready (resume : (isCancelling : Bool) → Program I I.Result)
  | running
  | paused (on : Pause I.Signal) (next : Outcome I.Fault Unit → Program I I.Result)
  | awaiting (t : TaskId) (next : Outcome I.Fault I.Result → Program I I.Result)
  | gathering (g : Nat) (next : Outcome I.Fault Unit → Program I I.Result)
  | finished (r : Outcome I.Fault I.Result)

/-- A task. -/
structure Entry (I : Interface) where
  standing : Standing I
  /-- Told to give up, but not yet aware of it. -/
  isCancelling : Bool := false
  watchers : List Watcher := []

/-- A wait of one task for several others. -/
structure Gathering where
  owner : TaskId
  members : List TaskId
  /-- How many ends have not been heard of. -/
  missing : Nat
  patient : Bool
  isOver : Bool := false
  isCancelling : Bool := false
  deriving Repr

/-- What takes a turn. -/
inductive Turn where
  | resume (t : TaskId)
  /-- A gathering hears of the end of a member. -/
  | hear (g : Nat) (member : TaskId)
  deriving DecidableEq, Repr

/-- What happens when a timer goes off. -/
inductive Alarm (I : Interface) where
  | wake (t : TaskId)
  | cancel (t : TaskId)
  | call (q : I.Call)

/-- A timer. -/
structure Timer (I : Interface) where
  due : Nat
  alarm : Alarm I

/-- How calls change the world and which signals they give, what it means for the world that a
task no longer waits for a signal, and what the jobs are. -/
structure Machine (I : Interface) (W : Type) where
  perform : (now : Nat) → W → (q : I.Call) → W × I.Answer q × List (I.Signal × Outcome I.Fault Unit)
  forsake : W → I.Signal → W
  program : I.Job → Program I I.Result

/-- The tasks, the world they live in, and the time in microseconds. -/
structure Loop (I : Interface) (W : Type) where
  world : W
  now : Nat := 0
  tasks : Array (Entry I) := #[]
  gatherings : Array Gathering := #[]
  queue : List Turn := []
  /-- In the order in which they were set. -/
  timers : List (Timer I) := []
  /-- A task was interrupted, which no task survives. -/
  isInterrupted : Bool := false

namespace Loop

variable {I : Interface} {W : Type}

/-! ## Single changes -/

/-- Where a task stands. -/
def standing? (L : Loop I W) (t : TaskId) : Option (Standing I) := (L.tasks[t]?).map (·.standing)

/-- Changes the place where a task stands. -/
def place (L : Loop I W) (t : TaskId) (s : Standing I) : Loop I W :=
  { L with tasks := L.tasks.modify t fun e => { e with standing := s } }

/-- Notes whether a task has yet to learn that it is to give up. -/
def markTask (L : Loop I W) (t : TaskId) (isCancelling : Bool) : Loop I W :=
  { L with tasks := L.tasks.modify t fun e => { e with isCancelling := isCancelling } }

/-- Puts a turn at the end of the queue. -/
def enqueue (L : Loop I W) (turn : Turn) : Loop I W := { L with queue := L.queue ++ [turn] }

/-- Lets a task go on when its turn comes. -/
def wake (L : Loop I W) (t : TaskId) (resume : Bool → Program I I.Result) : Loop I W :=
  (L.place t (.ready resume)).enqueue (.resume t)

/-- How a task goes on when it hears `r`, or that it is to give up. -/
def resumption {α : Type} (next : Outcome I.Fault α → Program I I.Result) (r : Outcome I.Fault α)
    (isCancelling : Bool) : Program I I.Result :=
  next (if isCancelling then .error .cancelled else r)

/-- Starts a task. -/
def spawn (L : Loop I W) (p : Program I I.Result) : Loop I W × TaskId :=
  let t := L.tasks.size
  let resume (isCancelling : Bool) := if isCancelling then .done (.error .cancelled) else p
  ({ L with tasks := L.tasks.push { standing := .ready resume } }.enqueue (.resume t), t)

/-- Sets a timer that goes off after `micros`. -/
def setTimer (L : Loop I W) (micros : Nat) (alarm : Alarm I) : Loop I W :=
  { L with timers := L.timers ++ [⟨L.now + micros, alarm⟩] }

/-- Takes back the timer that wakes a task. -/
def dropTimer (L : Loop I W) (t : TaskId) : Loop I W :=
  { L with timers := L.timers.filter fun r => match r.alarm with
      | .wake u => u != t
      | _ => true }

/-- Wakes the tasks that wait for a signal. -/
def deliver [DecidableEq I.Signal] (L : Loop I W) (s : I.Signal) (r : Outcome I.Fault Unit) :
    Loop I W :=
  (List.range L.tasks.size).foldl (fun L t =>
    match L.standing? t with
    | some (.paused (.signal s') next) => if s' = s then L.wake t (resumption next r) else L
    | _ => L) L

/-! ## Giving up -/

/-- Breaks off a pause. -/
def breakPause (m : Machine I W) (L : Loop I W) (t : TaskId) (on : Pause I.Signal)
    (next : Outcome I.Fault Unit → Program I I.Result) : Loop I W :=
  let L := match on with
    | .signal s => { L with world := m.forsake L.world s }
    | .timer _ => L.dropTimer t
    | .forever => L
  L.wake t (resumption next (.error .cancelled))

/-- Notes that a gathering is to give up. -/
def markGathering (L : Loop I W) (g : Nat) : Loop I W :=
  { L with gatherings := L.gatherings.modify g fun e => { e with isCancelling := true } }

mutual

/-- Breaks off what a task waits for; tells whether there was anything to break off. The depth
bounds the chain of tasks that wait for each other. -/
def breakWait (m : Machine I W) : (depth : Nat) → Loop I W → TaskId → Loop I W × Bool
  | 0, L, _ => (L, false)
  | depth + 1, L, t =>
    match L.standing? t with
    | some (.paused on next) => (L.breakPause m t on next, true)
    | some (.awaiting u _) => cancelTask m depth L u
    | some (.gathering g _) =>
      let members := ((L.gatherings[g]?).map (·.members)).getD []
      let (L, any) := members.foldl (fun (acc : Loop I W × Bool) u =>
        let (L, reached) := cancelTask m depth acc.1 u
        (L, acc.2 || reached)) (L, false)
      (if any then L.markGathering g else L, any)
    | _ => (L, false)

/-- Tells a task to give up; tells whether it still could. -/
def cancelTask (m : Machine I W) : (depth : Nat) → Loop I W → TaskId → Loop I W × Bool
  | 0, L, _ => (L, false)
  | depth + 1, L, t =>
    match L.standing? t with
    | none | some (.finished _) => (L, false)
    | some _ =>
      let (L, broken) := breakWait m depth L t
      (if broken then L else L.markTask t true, true)

end

/-- A depth that no chain of waiting tasks exceeds: each step leads to another task. -/
def chainBound (L : Loop I W) : Nat := 2 * L.tasks.size + 2

/-- Tells a task to give up. -/
def cancel (m : Machine I W) (L : Loop I W) (t : TaskId) : Loop I W :=
  (cancelTask m L.chainBound L t).1

/-- Lets a task wait; one that has yet to learn that it is to give up does not wait at all. -/
def suspend (m : Machine I W) (L : Loop I W) (t : TaskId) (s : Standing I) : Loop I W :=
  let L := L.place t s
  if (L.tasks[t]?).any (·.isCancelling) then
    let (L, broken) := breakWait m L.chainBound L t
    if broken then L.markTask t false else L
  else L

/-! ## Ends of tasks -/

/-- Tells a watcher of the end of a task. -/
def tell (L : Loop I W) (t : TaskId) (r : Outcome I.Fault I.Result) (w : Watcher) : Loop I W :=
  match w with
  | .gathering g => L.enqueue (.hear g t)
  | .task u =>
    match L.standing? u with
    | some (.awaiting _ next) => L.wake u (resumption next r)
    | _ => L

/-- Ends a task. -/
def finish (L : Loop I W) (t : TaskId) (r : Outcome I.Fault I.Result) : Loop I W :=
  let watchers := ((L.tasks[t]?).map (·.watchers)).getD []
  let L := watchers.foldl (fun L w => L.tell t r w) (L.place t (.finished r))
  match r with
  | .error .interrupted => { L with isInterrupted := true }
  | _ => L

/-- How a task ends that comes to the end `r`: one that has yet to learn that it is to give up has
given up after all, unless it ends badly on its own account. -/
def ending (L : Loop I W) (t : TaskId) (r : Outcome I.Fault I.Result) : Outcome I.Fault I.Result :=
  match r with
  | .ok a => if (L.tasks[t]?).any (·.isCancelling) then .error .cancelled else .ok a
  | r => r

/-- Adds a watcher to a task. -/
def watch (L : Loop I W) (t : TaskId) (w : Watcher) : Loop I W :=
  { L with tasks := L.tasks.modify t fun e => { e with watchers := e.watchers ++ [w] } }

/-- Lets a gathering hear of a member's end: at once in a turn of its own where the member has
ended, else when it does. -/
def attend (L : Loop I W) (g : Nat) (t : TaskId) : Loop I W :=
  match L.standing? t with
  | some (.finished _) => L.enqueue (.hear g t)
  | _ => L.watch t (.gathering g)

/-- Starts a gathering. -/
def convene (L : Loop I W) (owner : TaskId) (members : List TaskId) (patient : Bool) :
    Loop I W × Nat :=
  let g := L.gatherings.size
  let gathering : Gathering :=
    { owner := owner, members := members, missing := members.length, patient := patient }
  let L := { L with gatherings := L.gatherings.push gathering }
  (members.foldl (fun L t => L.attend g t) L, g)

/-- Ends a gathering. -/
def conclude (L : Loop I W) (g : Nat) (owner : TaskId) (r : Outcome I.Fault Unit) : Loop I W :=
  let L := { L with gatherings := L.gatherings.modify g fun e => { e with isOver := true } }
  match L.standing? owner with
  | some (.gathering _ next) => L.wake owner (resumption next r)
  | _ => L

/-- A gathering hears of the end of a member. -/
def hear (L : Loop I W) (g : Nat) (t : TaskId) : Loop I W :=
  let L := { L with gatherings := L.gatherings.modify g fun e => { e with missing := e.missing - 1 } }
  match L.gatherings[g]?, L.standing? t with
  | some e, some (.finished r) =>
    if e.isOver then L
    else
      match e.patient, r with
      | false, .error s => L.conclude g e.owner (.error s)
      | _, _ =>
        if e.missing = 0 then
          L.conclude g e.owner (if e.isCancelling then .error .cancelled else .ok ())
        else L
  | _, _ => L

/-! ## Turns -/

/-- Carries out the program of a task until it has to wait or ends. -/
def exec [DecidableEq I.Signal] (m : Machine I W) (t : TaskId) :
    Program I I.Result → Loop I W → Loop I W
  | .done r, L => L.finish t (L.ending t r)
  | .call q next, L =>
    let (world, answer, signals) := m.perform L.now L.world q
    exec m t (next answer) (signals.foldl (fun L s => L.deliver s.1 s.2) { L with world := world })
  | .pause on next, L =>
    let L := match on with
      | .timer micros => L.setTimer micros (.wake t)
      | _ => L
    L.suspend m t (.paused on next)
  | .fork job next, L =>
    let (L, u) := L.spawn (m.program job)
    exec m t (next u) L
  | .cancel u next, L => exec m t next (L.cancel m u)
  | .await u next, L =>
    match L.standing? u with
    | some (.finished r) => exec m t (next r) L
    | _ => (L.watch u (.task t)).suspend m t (.awaiting u next)
  | .gather ts patient next, L =>
    match ts with
    | [] => exec m t (next (.ok ())) L
    | _ =>
      let (L, g) := L.convene t ts patient
      L.suspend m t (.gathering g next)

/-- Gives a turn to a task that is ready. -/
def resume [DecidableEq I.Signal] (m : Machine I W) (L : Loop I W) (t : TaskId) : Loop I W :=
  match L.tasks[t]? with
  | some ⟨.ready resume, isCancelling, _⟩ =>
    exec m t (resume isCancelling) ((L.place t .running).markTask t false)
  | _ => L

/-- Carries out a job at once, out of turn, in a task of its own. -/
def atOnce [DecidableEq I.Signal] (m : Machine I W) (L : Loop I W) (job : I.Job) :
    Loop I W × TaskId :=
  let t := L.tasks.size
  (exec m t (m.program job) { L with tasks := L.tasks.push { standing := .running } }, t)

/-- Takes a turn. -/
def take [DecidableEq I.Signal] (m : Machine I W) (L : Loop I W) : Turn → Loop I W
  | .resume t => L.resume m t
  | .hear g t => L.hear g t

/-- The earliest timer, of several the one that was set first, and the others. -/
def earliest : List (Timer I) → Option (Timer I × List (Timer I))
  | [] => none
  | r :: rest =>
    match earliest rest with
    | none => some (r, [])
    | some (s, others) =>
      if r.due ≤ s.due then some (r, rest) else some (s, r :: others)

/-- Something happens in the world, outside any task. -/
def intervene [DecidableEq I.Signal] (m : Machine I W) (L : Loop I W) (q : I.Call) : Loop I W :=
  let (world, _, signals) := m.perform L.now L.world q
  signals.foldl (fun L s => L.deliver s.1 s.2) { L with world := world }

/-- A timer goes off. -/
def goOff [DecidableEq I.Signal] (m : Machine I W) (L : Loop I W) : Alarm I → Loop I W
  | .wake t =>
    match L.standing? t with
    | some (.paused (.timer _) next) => L.wake t (resumption next (.ok ()))
    | _ => L
  | .cancel t => L.cancel m t
  | .call q => L.intervene m q

/-- The next turn of the queue, none when nothing can go on. -/
def turn? [DecidableEq I.Signal] (m : Machine I W) (L : Loop I W) : Option (Loop I W) :=
  match L.queue with
  | turn :: rest => some ({ L with queue := rest }.take m turn)
  | [] => none

/-- The next timer, none when none is set. -/
def tick? [DecidableEq I.Signal] (m : Machine I W) (L : Loop I W) : Option (Loop I W) :=
  match earliest L.timers with
  | some (r, rest) => some ({ L with now := max L.now r.due, timers := rest }.goOff m r.alarm)
  | none => none

/-- More turns than any run takes. -/
def plenty : Nat := 1000000000000000000

/-- Takes turns until nothing can go on at this time. -/
def settleIn [DecidableEq I.Signal] (m : Machine I W) : (turns : Nat) → Loop I W → Loop I W
  | 0, L => L
  | n + 1, L =>
    if L.isInterrupted then L
    else
      match L.turn? m with
      | some L => settleIn m n L
      | none => L

/-- How a task ended, none while it goes on. -/
def result? (L : Loop I W) (t : TaskId) : Option (Outcome I.Fault I.Result) :=
  match L.standing? t with
  | some (.finished r) => some r
  | _ => none

/-- Takes turns and lets time pass until a task has ended or nothing can ever go on. -/
def runIn [DecidableEq I.Signal] (m : Machine I W) (t : TaskId) : (turns : Nat) → Loop I W →
    Loop I W
  | 0, L => L
  | n + 1, L =>
    if L.isInterrupted || (L.result? t).isSome then L
    else
      match L.turn? m with
      | some L => runIn m t n L
      | none =>
        match L.tick? m with
        | some L => runIn m t n L
        | none => L

/-- Takes turns until nothing can go on at this time. -/
def settle [DecidableEq I.Signal] (m : Machine I W) (L : Loop I W) : Loop I W := settleIn m plenty L

/-- Takes turns and lets time pass until a task has ended or nothing can ever go on. -/
def run [DecidableEq I.Signal] (m : Machine I W) (L : Loop I W) (t : TaskId) : Loop I W :=
  runIn m t plenty L

/-- Lets a task come to its end; whenever nothing can go on, the task is told to give up. -/
def seeOutIn [DecidableEq I.Signal] (m : Machine I W) (t : TaskId) : (times : Nat) → Loop I W →
    Loop I W
  | 0, L => L
  | n + 1, L =>
    let L := L.run m t
    if L.isInterrupted || (L.result? t).isSome then L else seeOutIn m t n (L.cancel m t)

/-- Lets a task come to its end; whenever nothing can go on, the task is told to give up. -/
def seeOut [DecidableEq I.Signal] (m : Machine I W) (L : Loop I W) (t : TaskId) : Loop I W :=
  seeOutIn m t plenty L

/-- Tells every task to give up. -/
def cancelAll (m : Machine I W) (L : Loop I W) : Loop I W :=
  (List.range L.tasks.size).foldl (fun L t => L.cancel m t) L

/-- Whether a task goes on. -/
def isUnfinished (e : Entry I) : Bool :=
  match e.standing with
  | .finished _ => false
  | _ => true

/-- Takes turns and lets time pass until all tasks have ended or nothing can ever go on. -/
def drainIn [DecidableEq I.Signal] (m : Machine I W) : (turns : Nat) → Loop I W → Loop I W
  | 0, L => L
  | n + 1, L =>
    if L.isInterrupted || !L.tasks.any isUnfinished then L
    else
      match L.turn? m with
      | some L => drainIn m n L
      | none =>
        match L.tick? m with
        | some L => drainIn m n L
        | none => L

/-- Tells every task that goes on to give up, and lets them all come to their ends. -/
def cleanUp [DecidableEq I.Signal] (m : Machine I W) (L : Loop I W) : Loop I W :=
  drainIn m plenty { L.cancelAll m with isInterrupted := false }

end Loop
end BrowserPlan.Task
