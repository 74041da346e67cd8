import BrowserPlan.Pool.Client
import BrowserPlan.Proofs.Task.Turn

/-!
# A crowd at a pool

Any number of callers use one pool through a `Client`. Each runs its program from one pause to the
next (`advance`); who goes on next, what a pause or the creation of a page ends with and who is told
to give up is up to the `Event`s, so the histories of a crowd are all the orders in which turns can
be taken. A page that is created is one that the pool does not have.

`exec_eq_advance`: a task of a task loop does to the pool in its turn what a caller does. The loop
takes turns in the order of its queue, a crowd in any order.
-/
namespace BrowserPlan.Pool.Crowd

open BrowserPlan.Task

/-- What callers pause for. -/
inductive Signal (π : Type) where
  /-- A ticket was granted something. -/
  | granted (ticket : Nat)
  /-- The caller has done what it borrowed the page for. -/
  | used (page : π)
  /-- A page of a pool that is closed has been closed itself. -/
  | shut (page : π)
  deriving DecidableEq, Repr

/-- Why a caller fails. -/
inductive Fault where
  | pool (fault : PoolFault)
  /-- What goes wrong outside the pool. -/
  | outside (text : String)
  deriving DecidableEq, Repr

/-- A pool as its callers see it. Tasks result in the page that they keep, if any. -/
abbrev scene (π : Type) : Interface :=
  { Call := PoolCall π, Answer := PoolCall.Answer, Signal := Signal π, Job := Empty, Fault := Fault,
    Result := Option π }

/-- A program of a caller. -/
abbrev Script (π : Type) := Program (scene π) (Option π)

variable {π : Type}

/-- The page that a task has created. -/
def pageOf : Option π → Outcome Fault π
  | some page => .ok page
  | none => .error (.failed (.outside "no page"))

/-- The use of the pool. A page is created by a task that does not belong to the crowd; its number
does not matter. -/
def client : Client (scene π) π :=
  { ask := fun q => Program.ask (I := scene π) q
    granted := .granted
    fault := .pool
    create := (Program.join (I := scene π) 0).bind fun page => .done (pageOf page)
    noteQueued := pure ()
    noteCreated := pure ()
    noteClosed := pure () }

/-- What a caller comes for. -/
inductive Visit (π : Type) where
  /-- Borrows a page and keeps it. -/
  | acquire
  /-- Borrows a page until it has done with it. -/
  | lease
  /-- Brings back a page that it does not hold. -/
  | release (page : π)
  | close
  deriving DecidableEq, Repr

/-- Brings a page back. -/
def giveBack (page : π) : Program (scene π) (Option π) := do
  client.release page
  return none

/-- What a caller does. -/
def Visit.script : Visit π → Program (scene π) (Option π)
  | acquire => do return some (← client.acquire)
  | lease => do
    client.lease fun page => Program.wait (I := scene π) (.signal (.used page))
    return none
  | release page => giveBack page
  | close => do
    client.close fun page => Program.wait (I := scene π) (.signal (.shut page))
    return none

/-- Where a caller stands. -/
inductive Standing (π : Type) where
  | paused (on : Pause (Signal π)) (next : Outcome Fault Unit → Script π)
  /-- Waits for the task that creates a page. -/
  | creating (next : Outcome Fault (Option π) → Script π)
  /-- Is about to do what no caller does (`Conduct`). -/
  | astray (rest : Script π)
  | over (r : Outcome Fault (Option π))

/-- A caller. -/
structure Caller (π : Type) where
  standing : Standing π
  /-- Told to give up while it waited for a ticket, and not yet aware of it. -/
  isTold : Bool := false

/-- A pool and all callers who ever came, in the order in which they came. -/
structure State (π : Type) where
  pool : Pool π
  callers : List (Caller π) := []

/-- Where a caller stands who has made all calls it could. -/
def Standing.before : Script π → Standing π
  | .done r => .over r
  | .pause on next => .paused on next
  | .await 0 next => .creating next
  | rest => .astray rest

variable [DecidableEq π]

/-- Carries out the calls of a caller until it has to wait or is over. -/
def advance (s : Script π) (p : Pool π) : Pool π × Standing π :=
  let (p, rest) := s.ahead (fun p q => ((p.perform q).1, (p.perform q).2.1)) p
  (p, .before rest)

/-- What can happen next. -/
inductive Event (π : Type) where
  /-- A caller comes. -/
  | enter (v : Visit π)
  /-- The `i`-th caller is told to give up while it waits for a ticket. -/
  | tell (i : Nat)
  /-- The `i`-th caller has its turn: its ticket was granted something, or it was told to give
  up. -/
  | hear (i : Nat)
  /-- The creation that the `i`-th caller waits for ends with a page, fails or is given up. -/
  | make (i : Nat) (r : Outcome Fault π)
  /-- What the `i`-th caller does outside the pool ends well, fails or is given up. -/
  | goOn (i : Nat) (r : Outcome Fault Unit)
  /-- The `i`-th caller brings back the page that it keeps. -/
  | bringBack (i : Nat)

/-- The `i`-th caller takes a turn. -/
def turn (c : State π) (i : Nat) (s : Script π) : State π :=
  { pool := (advance s c.pool).1, callers := c.callers.set i ⟨(advance s c.pool).2, false⟩ }

/-- A page that the pool does not have. -/
def IsFresh (p : Pool π) (page : π) : Prop := page ∉ p.entries.map (·.page)

instance (p : Pool π) (page : π) : Decidable (IsFresh p page) :=
  inferInstanceAs (Decidable (page ∉ p.entries.map (·.page)))

/-- What comes of an event, nothing if it cannot happen. -/
def step (c : State π) : Event π → Option (State π)
  | .enter v =>
    let (pool, standing) := advance v.script c.pool
    some { pool := pool, callers := c.callers ++ [⟨standing, false⟩] }
  | .tell i =>
    match c.callers[i]? with
    | some ⟨.paused (.signal (.granted k)) next, _⟩ =>
      some { pool := c.pool.forsake k
             callers := c.callers.set i ⟨.paused (.signal (.granted k)) next, true⟩ }
    | _ => none
  | .hear i =>
    match c.callers[i]? with
    | some ⟨.paused (.signal (.granted _)) next, true⟩ => some (turn c i (next (.error .cancelled)))
    | some ⟨.paused (.signal (.granted k)) next, false⟩ =>
      if (c.pool.handout? k).isSome then some (turn c i (next (.ok ()))) else none
    | _ => none
  | .make i r =>
    match c.callers[i]?, r with
    | some ⟨.creating next, _⟩, .ok page =>
      if IsFresh c.pool page then some (turn c i (next (.ok (some page)))) else none
    | some ⟨.creating next, _⟩, .error s => some (turn c i (next (.error s)))
    | _, _ => none
  | .goOn i r =>
    match c.callers[i]? with
    | some ⟨.paused (.signal (.used _)) next, _⟩ => some (turn c i (next r))
    | some ⟨.paused (.signal (.shut _)) next, _⟩ => some (turn c i (next r))
    | _ => none
  | .bringBack i =>
    match c.callers[i]? with
    | some ⟨.over (.ok (some page)), _⟩ => some (turn c i (giveBack page))
    | _ => none

/-- `Happens c e d`: the event `e` can happen, and `d` comes of it. -/
inductive Happens (c : State π) : Event π → State π → Prop where
  | enter (v) : Happens c (.enter v)
    { pool := (advance v.script c.pool).1
      callers := c.callers ++ [⟨(advance v.script c.pool).2, false⟩] }
  | tell {i k next told} (hx : c.callers[i]? = some ⟨.paused (.signal (.granted k)) next, told⟩) :
    Happens c (.tell i)
      { pool := c.pool.forsake k, callers := c.callers.set i ⟨.paused (.signal (.granted k)) next, true⟩ }
  | hearTold {i k next} (hx : c.callers[i]? = some ⟨.paused (.signal (.granted k)) next, true⟩) :
    Happens c (.hear i) (turn c i (next (.error .cancelled)))
  | hear {i k next} (hx : c.callers[i]? = some ⟨.paused (.signal (.granted k)) next, false⟩)
    (hk : (c.pool.handout? k).isSome = true) : Happens c (.hear i) (turn c i (next (.ok ())))
  | make {i next told page} (hx : c.callers[i]? = some ⟨.creating next, told⟩)
    (hp : IsFresh c.pool page) : Happens c (.make i (.ok page)) (turn c i (next (.ok (some page))))
  | makeFails {i next told s} (hx : c.callers[i]? = some ⟨.creating next, told⟩) :
    Happens c (.make i (.error s)) (turn c i (next (.error s)))
  | used {i page next told} (r)
    (hx : c.callers[i]? = some ⟨.paused (.signal (.used page)) next, told⟩) :
    Happens c (.goOn i r) (turn c i (next r))
  | shut {i page next told} (r)
    (hx : c.callers[i]? = some ⟨.paused (.signal (.shut page)) next, told⟩) :
    Happens c (.goOn i r) (turn c i (next r))
  | bringBack {i page told} (hx : c.callers[i]? = some ⟨.over (.ok (some page)), told⟩) :
    Happens c (.bringBack i) (turn c i (giveBack page))

/-- All that a step can be. -/
theorem happens_of_step {c d : State π} {e : Event π} (hd : step c e = some d) : Happens c e d := by
  cases e with
  | enter v =>
    obtain rfl := Option.some.inj hd
    exact .enter v
  | tell i =>
    simp only [step] at hd
    split at hd
    · rename_i hx
      obtain rfl := Option.some.inj hd
      exact .tell hx
    · cases hd
  | hear i =>
    simp only [step] at hd
    split at hd
    · rename_i hx
      obtain rfl := Option.some.inj hd
      exact .hearTold hx
    · rename_i hx
      split at hd
      · rename_i hk
        obtain rfl := Option.some.inj hd
        exact .hear hx hk
      · cases hd
    · cases hd
  | make i r =>
    simp only [step] at hd
    split at hd
    · rename_i hx
      split at hd
      · rename_i hp
        obtain rfl := Option.some.inj hd
        exact .make hx hp
      · cases hd
    · rename_i hx
      obtain rfl := Option.some.inj hd
      exact .makeFails hx
    · cases hd
  | goOn i r =>
    simp only [step] at hd
    split at hd
    · rename_i hx
      obtain rfl := Option.some.inj hd
      exact .used r hx
    · rename_i hx
      obtain rfl := Option.some.inj hd
      exact .shut r hx
    · cases hd
  | bringBack i =>
    simp only [step] at hd
    split at hd
    · rename_i hx
      obtain rfl := Option.some.inj hd
      exact .bringBack hx
    · cases hd

/-- What comes of a history, nothing if it cannot happen. -/
def run (c : State π) : List (Event π) → Option (State π)
  | [] => some c
  | e :: es => (step c e).bind fun d => run d es

/-- The crowd at a pool of `limit` pages after a history, nothing if there is no such pool. -/
def after (limit : Int) (es : List (Event π)) : Option (State π) :=
  match Pool.ofLimit limit with
  | .ok p => run { pool := p } es
  | .error _ => none

/-! ## Scripts, from one pause to the next -/

/-- The end `r`, unless the pool finds fault. -/
def unlessFault {α : Type} (r : Outcome Fault α) : Option PoolFault → Program (scene π) α
  | some fault => .done (.error (.failed (.pool fault)))
  | none => .done r

/-- How a caller goes on that waited for ticket `k`. -/
def heard (k : Nat) : Outcome Fault Unit → Program (scene π) π
  | .ok _ => .call (.redeem k) client.enter
  | .error s => .call (.renounce k) (unlessFault (.error s))

/-- How a caller goes on that asked for a page. -/
def asked : Admission π → Program (scene π) π
  | .queue k => .pause (.signal (.granted k)) (heard k)
  | admission => client.enter admission

/-- How a caller goes on that waited for the creation of a page. -/
def made : Outcome Fault π → Program (scene π) π
  | .ok page => do
    client.ask (.created page)
    return page
  | .error s => do
    client.ask .notCreated
    Program.ending (I := scene π) (.error s)

/-- How a caller goes on that has done what it borrowed a page for. -/
def usedUp (page : π) (r : Outcome Fault Unit) : Script π :=
  .call (.release page) (unlessFault (r.map fun _ => none))

/-- What a caller does with the page that it gets. -/
inductive Purpose where
  | keep
  | borrow

def Purpose.follow : Purpose → π → Script π
  | keep, page => .done (.ok (some page))
  | borrow, page => .pause (.signal (.used page)) (usedUp page)

/-- The script `s`, unless the caller is stopped; failures are passed over. -/
def unlessStopped (s : Script π) : Outcome Fault Unit → Script π
  | .ok _ | .error (.failed _) => s
  | .error .cancelled => .done (.error .cancelled)
  | .error .interrupted => .done (.error .interrupted)

/-- Closes what is left of the pages of a pool. -/
def closeRest : List π → Script π
  | [] => .call .clear fun _ => .done (.ok none)
  | page :: rest => .pause (.signal (.shut page)) (unlessStopped (closeRest rest))

section
omit [DecidableEq π]

theorem queueUp_eq (k : Nat) :
    client.queueUp k = (.pause (.signal (.granted k)) (heard k) : Program (scene π) π) := by
  refine congrArg (Program.pause _) (funext fun r => ?_)
  cases r with
  | ok _ => rfl
  | error s => exact congrArg (Program.call _) (funext fun fault => by cases fault <;> rfl)

theorem acquire_eq : client.acquire = (.call .acquire asked : Program (scene π) π) := by
  refine congrArg (Program.call _) (funext fun admission => ?_)
  cases admission with
  | queue k => exact queueUp_eq k
  | page | create | refused => rfl

theorem createPage_eq :
    client.createPage = (.await 0 fun r => made (r.bind pageOf) : Program (scene π) π) := by
  refine congrArg (Program.await _) (funext fun r => ?_)
  match r with
  | .ok (some _) | .ok none | .error _ => rfl

theorem release_bind {α : Type} (page : π) (r : Outcome Fault α) :
    (client.release page).bind (fun _ => .done r) = .call (.release page) (unlessFault r) :=
  congrArg (Program.call _) (funext fun fault => by cases fault <;> rfl)

theorem giveBack_eq (page : π) : giveBack page = .call (.release page) (unlessFault (.ok none)) :=
  release_bind page _

theorem script_lease :
    (Visit.lease : Visit π).script = client.acquire.bind Purpose.borrow.follow := by
  have hfollow : ∀ page : π, Program.bind
      ((Program.wait (I := scene π) (.signal (.used page))).ensuring fun _ => client.release page)
      (fun _ => .done (.ok none)) = Purpose.borrow.follow page := by
    intro page
    refine congrArg (Program.pause _) (funext fun r => ?_)
    change ((client.release page).bind fun _ => Program.done r).bind _ = usedUp page r
    rw [Program.bind_assoc, usedUp, ← release_bind]
    cases r <;> rfl
  exact (Program.bind_assoc _ _ _).trans (congrArg (Program.bind _) (funext hfollow))

theorem script_close : (Visit.close : Visit π).script = .call .shut closeRest := by
  refine congrArg (Program.call _) (funext fun pages => ?_)
  induction pages with
  | nil => rfl
  | cons page rest ih =>
    refine congrArg (Program.pause _) (funext fun r => ?_)
    match r with
    | .ok _ | .error (.failed _) => exact ih
    | .error .cancelled | .error .interrupted => rfl

end

/-! ## The task loop -/

section
variable {L : Loop (scene π) (Pool π)} {t : TaskId}

/-- A pool as the world of a task loop. -/
def machine : Machine (scene π) (Pool π) :=
  { perform := fun _ p q =>
      let (p, answer, tickets) := p.perform q
      (p, answer, tickets.map fun k => (.granted k, .ok ()))
    forsake := fun p s => match s with
      | .granted k => p.forsake k
      | _ => p
    program := fun job => nomatch job }

instance : DecidableEq (scene π).Signal := inferInstanceAs (DecidableEq (Signal π))

/-- What a task does to the pool in its turn is what a caller does. -/
theorem exec_eq_advance {s : Script π} (htold : L.isTold t = false)
    (hmaker : ∀ r, L.standing? 0 ≠ some (.finished r))
    (hrest : ∀ rest, (advance s L.world).2 ≠ .astray rest) :
    (Loop.exec machine t s L).world = (advance s L.world).1 := by
  refine Loop.exec_world machine htold ?_
  have hrest : ∀ rest, Standing.before (s.ahead (machine.reply L.now) L.world).2 ≠ .astray rest :=
    hrest
  split
  · trivial
  · trivial
  · rename_i u next hu
    rw [hu] at hrest
    cases u with
    | zero => exact hmaker
    | succ u => exact absurd rfl (hrest _)
  all_goals
    rename_i hu
    rw [hu] at hrest
    exact absurd rfl (hrest _)

end

end BrowserPlan.Pool.Crowd
