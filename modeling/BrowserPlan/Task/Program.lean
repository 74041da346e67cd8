/-!
# Programs

A program is a tree of the steps that a task takes: calls into the world, which are answered at
once; pauses, during which other tasks run; and steps that concern other tasks. Whatever stops a
program early travels outwards until an `attempt` meets it. `bind_assoc` and `bind_pure` say that
programs compose as expected.
-/
namespace BrowserPlan.Task

/-- What ends a program before its end. -/
inductive Stop (φ : Type) where
  | failed (fault : φ)
  /-- The task was told to give up. -/
  | cancelled
  /-- The user interrupts everything. -/
  | interrupted
  deriving DecidableEq, Repr, Inhabited

/-- How a program ends. -/
abbrev Outcome (φ α : Type) := Except (Stop φ) α

/-- The world as programs see it: calls with their answers, signals that can be waited for, jobs
that new tasks can be given, faults, and what tasks result in. -/
structure Interface where
  Call : Type
  Answer : Call → Type
  Signal : Type
  Job : Type
  Fault : Type
  Result : Type

/-- Tasks are numbered in the order in which they are started. -/
abbrev TaskId := Nat

/-- What a pause ends with. -/
inductive Pause (σ : Type) where
  | signal (s : σ)
  | timer (micros : Nat)
  | forever
  deriving DecidableEq, Repr

/-- A program that results in an `α`. -/
inductive Program (I : Interface) (α : Type) : Type where
  | done (outcome : Outcome I.Fault α)
  | call (q : I.Call) (next : I.Answer q → Program I α)
  | pause (on : Pause I.Signal) (next : Outcome I.Fault Unit → Program I α)
  /-- Starts a task. -/
  | fork (job : I.Job) (next : TaskId → Program I α)
  /-- Tells a task to give up. -/
  | cancel (t : TaskId) (next : Program I α)
  /-- Waits for the end of a task. -/
  | await (t : TaskId) (next : Outcome I.Fault I.Result → Program I α)
  /-- Waits for the end of all tasks, or, unless patient, for the first that does not end well. -/
  | gather (ts : List TaskId) (patient : Bool) (next : Outcome I.Fault Unit → Program I α)

namespace Program

variable {I : Interface} {α β γ : Type}

/-- One program after the other. -/
protected def bind : Program I α → (α → Program I β) → Program I β
  | done (.ok a), f => f a
  | done (.error s), _ => done (.error s)
  | call q next, f => call q fun a => (next a).bind f
  | pause on next, f => pause on fun r => (next r).bind f
  | fork job next, f => fork job fun t => (next t).bind f
  | cancel t next, f => cancel t (next.bind f)
  | await t next, f => await t fun r => (next r).bind f
  | gather ts patient next, f => gather ts patient fun r => (next r).bind f

instance : Monad (Program I) where
  pure a := done (.ok a)
  bind := Program.bind

theorem bind_pure (p : Program I α) : p.bind (fun a => done (.ok a)) = p := by
  induction p with
  | done r => cases r <;> rfl
  | _ => simp_all [Program.bind]

theorem bind_assoc (p : Program I α) (f : α → Program I β) (g : β → Program I γ) :
    (p.bind f).bind g = p.bind fun a => (f a).bind g := by
  induction p with
  | done r => cases r <;> rfl
  | _ => simp_all [Program.bind]

/-- A program that ends at once, well or not. -/
def ending (r : Outcome I.Fault α) : Program I α := done r

/-- A program that fails. -/
def fail (fault : I.Fault) : Program I α := done (.error (.failed fault))

/-- A call and its answer. -/
def ask (q : I.Call) : Program I (I.Answer q) := call q fun a => done (.ok a)

/-- A pause. -/
def wait (on : Pause I.Signal) : Program I Unit := pause on done

/-- Starts a task. -/
def start (job : I.Job) : Program I TaskId := fork job fun t => done (.ok t)

/-- Tells a task to give up. -/
def stop (t : TaskId) : Program I Unit := cancel t (done (.ok ()))

/-- The end of a task, which is this program's own end if it is not a good one. -/
def join (t : TaskId) : Program I I.Result := await t done

/-- The end of several tasks. -/
def joinAll (ts : List TaskId) (patient : Bool) : Program I Unit := gather ts patient done

/-- How a program ends, as a result. -/
def attempt : Program I α → Program I (Outcome I.Fault α)
  | done r => done (.ok r)
  | call q next => call q fun a => (next a).attempt
  | pause on next => pause on fun r => (next r).attempt
  | fork job next => fork job fun t => (next t).attempt
  | cancel t next => cancel t next.attempt
  | await t next => await t fun r => (next r).attempt
  | gather ts patient next => gather ts patient fun r => (next r).attempt

/-- A program followed by another one however it ends; the end of the second is what counts if it
is not a good one. -/
def ensuring (p : Program I α) (after : Outcome I.Fault α → Program I Unit) : Program I α := do
  let r ← p.attempt
  after r
  done r

/-- A program whose failures are passed over. -/
def tolerating (p : Program I Unit) : Program I Unit := do
  match ← p.attempt with
  | .error (.failed _) => pure ()
  | r => done r

/-- A program for each item, one after the other. -/
def each (f : α → Program I Unit) : List α → Program I Unit
  | [] => done (.ok ())
  | a :: rest => (f a).bind fun _ => each f rest

/-- A program for each of `count` numbers from `first` on. -/
def count (f : Nat → Program I Unit) : (first count : Nat) → Program I Unit
  | _, 0 => done (.ok ())
  | first, n + 1 => (f first).bind fun _ => count f (first + 1) n

/-- Runs jobs in tasks of their own until all have ended well. When one does not, the others are
told to give up and waited for. -/
def together (jobs : List I.Job) : Program I Unit := do
  let ts ← jobs.mapM start
  match ← (joinAll ts false).attempt with
  | .ok _ => pure ()
  | .error s =>
    each stop ts
    joinAll ts true
    done (.error s)

end Program
end BrowserPlan.Task
