import BrowserPlan.Proofs.Task.Conduct
import BrowserPlan.Proofs.Task.Runs

/-!
# A task loop, move by move

A loop moves when a turn is taken and when a timer goes off. Somebody outside can tell a task to give up, start
one, set a timer or change the world at any time in between. `Passes` says by which moves one loop leads to another,
and which steps the tasks take on the way; `Arises` says what a loop can come to, and `ComesTo` what a task comes to
in its turn, which it takes step by step (`ComesTo.path`). Wherever a loop stands, a crew stands there as well
(`Arises.enacts`).
-/
namespace BrowserPlan.Task

variable {I : Interface} {W : Type}

/-- One move of a loop. -/
inductive Happening (I : Interface) where
  /-- A task has its turn and takes these steps in it. -/
  | turn (t : TaskId) (deeds : List (Deed I))
  /-- It is the turn of a task that cannot go on. -/
  | stale (t : TaskId)
  /-- A gathering hears of the end of a task. -/
  | hear (g : Nat) (t : TaskId)
  /-- A timer goes off. -/
  | tick (alarm : Alarm I)
  /-- Somebody outside tells a task to give up. -/
  | tell (t : TaskId)
  /-- Something happens in the world, outside any task. -/
  | happen (q : I.Call)
  /-- Somebody outside starts a task. -/
  | start (job : I.Job)
  /-- Somebody outside sets a timer. -/
  | set (micros : Nat) (alarm : Alarm I)
  /-- It is noted, or passed over, that a task was interrupted. -/
  | note (isInterrupted : Bool)

namespace Loop

variable [DecidableEq I.Signal] {m : Machine I W} {L M N : Loop I W} {t u : TaskId}

/-- The steps that a task takes before it has to wait or ends. -/
def deeds (m : Machine I W) (t : TaskId) : Program I I.Result → Loop I W → List (Deed I)
  | .call q next, L =>
    let (world, answer, signals) := m.perform L.now L.world q
    .ask q answer ::
      deeds m t (next answer) (signals.foldl (fun L s => L.deliver s.1 s.2) { L with world := world })
  | .fork job next, L =>
    let (L, u) := L.spawn (m.program job)
    .start job u :: deeds m t (next u) L
  | .cancel u next, L => .stop u :: deeds m t next (L.cancel m u)
  | .await u next, L =>
    match L.standing? u with
    | some (.finished r) => .learn u r :: deeds m t (next r) L
    | _ => []
  | .gather ts patient next, L =>
    match ts with
    | [] => .meet [] patient (.ok ()) :: deeds m t (next (.ok ())) L
    | _ => []
  | .done _, _ | .pause _ _, _ => []

/-- A task that is ready has its turn; `rest` is what is queued behind it. -/
def begun (L : Loop I W) (t : TaskId) (rest : List Turn) : Loop I W :=
  (place { L with queue := rest } t .running).markTask t false

/-- What can happen next, and what comes of it. -/
inductive Next (m : Machine I W) (L : Loop I W) : Happening I → Loop I W → Prop where
  | turn {t rest resume isCancelling watchers} (hq : L.queue = .resume t :: rest)
    (ht : L.tasks[t]? = some ⟨.ready resume, isCancelling, watchers⟩) :
    Next m L (.turn t (deeds m t (resume isCancelling) (L.begun t rest)))
      (exec m t (resume isCancelling) (L.begun t rest))
  | stale {t rest} (hq : L.queue = .resume t :: rest) (ht : ∀ resume, L.standing? t ≠ some (.ready resume)) :
    Next m L (.stale t) { L with queue := rest }
  | hear {g t rest} (hq : L.queue = .hear g t :: rest) : Next m L (.hear g t) ({ L with queue := rest }.hear g t)
  | tick {r others} (hr : earliest L.timers = some (r, others)) :
    Next m L (.tick r.alarm) ({ L with now := max L.now r.due, timers := others }.goOff m r.alarm)
  | tell (t : TaskId) : Next m L (.tell t) (L.cancel m t)
  | happen (q : I.Call) : Next m L (.happen q) (L.intervene m q)
  | start (job : I.Job) : Next m L (.start job) (L.spawn (m.program job)).1
  | set (micros : Nat) (alarm : Alarm I) : Next m L (.set micros alarm) (L.setTimer micros alarm)
  | note (isInterrupted : Bool) : Next m L (.note isInterrupted) { L with isInterrupted := isInterrupted }

/-- `Passes m L es M`: the moves `es` lead from the loop `L` to the loop `M`. -/
inductive Passes (m : Machine I W) (L : Loop I W) : List (Happening I) → Loop I W → Prop where
  | refl : Passes m L [] L
  | step {es e M N} (h : Passes m L es M) (he : Next m M e N) : Passes m L (es ++ [e]) N

/-- A loop that begins with no task can come to `L`. -/
def Arises (m : Machine I W) (L : Loop I W) : Prop := ∃ w es, Passes m { world := w } es L

/-- In its turn, the task `t` has come to where the program `p` is left of it, and the loop is `L`. -/
inductive ComesTo (m : Machine I W) (t : TaskId) : Program I I.Result → Loop I W → Prop where
  | turn {L rest resume isCancelling watchers} (hL : Arises m L) (hq : L.queue = .resume t :: rest)
    (ht : L.tasks[t]? = some ⟨.ready resume, isCancelling, watchers⟩) :
    ComesTo m t (resume isCancelling) (L.begun t rest)
  | call {q next L} (h : ComesTo m t (.call q next) L) :
    ComesTo m t (next (m.perform L.now L.world q).2.1) ((m.perform L.now L.world q).2.2.foldl
      (fun L s => L.deliver s.1 s.2) { L with world := (m.perform L.now L.world q).1 })
  | fork {job next L} (h : ComesTo m t (.fork job next) L) :
    ComesTo m t (next L.tasks.size) (L.spawn (m.program job)).1
  | cancel {u next L} (h : ComesTo m t (.cancel u next) L) : ComesTo m t next (L.cancel m u)
  | learn {u next r L} (h : ComesTo m t (.await u next) L) (hu : L.standing? u = some (.finished r)) :
    ComesTo m t (next r) L
  | meet {patient next L} (h : ComesTo m t (.gather [] patient next) L) : ComesTo m t (next (.ok ())) L

/-! ## Moves and turns -/

theorem Passes.trans {es es' : List (Happening I)} (h : Passes m L es M) (h' : Passes m M es' N) :
    Passes m L (es ++ es') N := by
  induction h' with
  | refl => simpa using h
  | step _ he ih =>
    rw [← List.append_assoc]
    exact ih.step he

theorem Arises.passes {es : List (Happening I)} (h : Arises m L) (hM : Passes m L es M) : Arises m M := by
  obtain ⟨w, es', hL⟩ := h
  exact ⟨w, es' ++ es, hL.trans hM⟩

theorem Arises.next {e : Happening I} (h : Arises m L) (hM : Next m L e M) : Arises m M :=
  h.passes (.step .refl hM)

theorem exists_next_of_turn? (h : L.turn? m = some M) : ∃ e, Next m L e M := by
  rw [turn?] at h
  split at h
  · rename_i turn rest hq
    obtain rfl := Option.some.inj h
    cases turn with
    | hear g t => exact ⟨_, .hear hq⟩
    | resume t =>
      rw [take, resume]
      split
      · rename_i resume isCancelling watchers ht
        exact ⟨_, .turn hq ht⟩
      · rename_i hne
        refine ⟨_, .stale hq fun resume hs => ?_⟩
        obtain ⟨⟨s, isCancelling, watchers⟩, he, rfl⟩ := Option.map_eq_some_iff.1 hs
        exact hne _ _ _ he
  · cases h

theorem exists_next_of_tick? (h : L.tick? m = some M) : ∃ e, Next m L e M := by
  rw [tick?] at h
  split at h
  · rename_i r others hr
    obtain rfl := Option.some.inj h
    exact ⟨_, .tick hr⟩
  · cases h

theorem exists_passes_then {f : Loop I W → Loop I W} (hf : ∀ M, ∃ es, Passes m M es (f M)) (L : Loop I W) :
    ∃ es, Passes m L es (match L.turn? m with
      | some M => f M
      | none => match L.tick? m with
        | some M => f M
        | none => L) := by
  have hthen : ∀ {M e}, Next m L e M → ∃ es, Passes m L es (f M) := by
    intro M e he
    obtain ⟨es, hM⟩ := hf M
    exact ⟨_, (Passes.refl.step he).trans hM⟩
  split
  · obtain ⟨e, he⟩ := exists_next_of_turn? ‹_›
    exact hthen he
  · split
    · obtain ⟨e, he⟩ := exists_next_of_tick? ‹_›
      exact hthen he
    · exact ⟨[], .refl⟩

theorem exists_passes_runIn (m : Machine I W) (t : TaskId) (n : Nat) : ∀ L : Loop I W, ∃ es,
    Passes m L es (L.runIn m t n) := by
  induction n with
  | zero => exact fun L => ⟨[], .refl⟩
  | succ n ih =>
    intro L
    rw [runIn]
    split
    · exact ⟨[], .refl⟩
    · exact exists_passes_then ih L

theorem exists_passes_drainIn (m : Machine I W) (n : Nat) : ∀ L : Loop I W, ∃ es, Passes m L es (L.drainIn m n) := by
  induction n with
  | zero => exact fun L => ⟨[], .refl⟩
  | succ n ih =>
    intro L
    rw [drainIn]
    split
    · exact ⟨[], .refl⟩
    · exact exists_passes_then ih L

theorem exists_passes_seeOut (m : Machine I W) (t : TaskId) (L : Loop I W) : ∃ es, Passes m L es (L.seeOut m t) := by
  rw [seeOut]
  generalize plenty = n
  induction n generalizing L with
  | zero => exact ⟨[], .refl⟩
  | succ n ih =>
    obtain ⟨es, hrun⟩ := exists_passes_runIn m t plenty L
    rw [seeOutIn]
    split
    · exact ⟨es, hrun⟩
    · obtain ⟨es', hrest⟩ := ih ((L.run m t).cancel m t)
      exact ⟨_, (hrun.step (.tell t)).trans hrest⟩

theorem exists_passes_cleanUp (m : Machine I W) (L : Loop I W) : ∃ es, Passes m L es (L.cleanUp m) := by
  have hall : ∀ (ts : List TaskId) (L : Loop I W), ∃ es, Passes m L es (ts.foldl (fun L t => L.cancel m t) L) := by
    intro ts
    induction ts with
    | nil => exact fun L => ⟨[], .refl⟩
    | cons t ts ih =>
      intro L
      obtain ⟨es, hrest⟩ := ih (L.cancel m t)
      exact ⟨_, (Passes.refl.step (.tell t)).trans hrest⟩
  obtain ⟨es, hcancel⟩ := hall (List.range L.tasks.size) L
  obtain ⟨es', hdrain⟩ := exists_passes_drainIn m plenty { L.cancelAll m with isInterrupted := false }
  exact ⟨_, (hcancel.step (.note false)).trans hdrain⟩

theorem ComesTo.arises {p : Program I I.Result} (h : ComesTo m t p L) : Arises m (exec m t p L) := by
  induction h with
  | turn hL hq ht => exact hL.next (.turn hq ht)
  | call _ ih | fork _ ih | cancel _ ih | meet _ ih => exact ih
  | @learn u next r L _ hu ih =>
    rw [exec, hu] at ih
    exact ih

/-- In its turn a task takes these steps and comes to where it waits or ends. -/
theorem ComesTo.path {p : Program I I.Result} : ∀ {L : Loop I W}, ComesTo m t p L → ∃ q M,
    ComesTo m t q M ∧ p.Path (deeds m t p L) q ∧ deeds m t q M = [] ∧ exec m t q M = exec m t p L := by
  -- the program goes on after a step, and so the turn does
  have hgoOn : ∀ {p p' : Program I I.Result} {d ds} {N : Loop I W}, p.Does d p' →
      (∃ q M, ComesTo m t q M ∧ p'.Path ds q ∧ deeds m t q M = [] ∧ exec m t q M = N) →
      ∃ q M, ComesTo m t q M ∧ p.Path (d :: ds) q ∧ deeds m t q M = [] ∧ exec m t q M = N := by
    intro p p' d ds N hd ⟨q, M, hq, hpath, hrest⟩
    exact ⟨q, M, hq, ((Program.Path.nil p).snoc hd).append hpath, hrest⟩
  induction p with
  | done r => exact fun h => ⟨_, _, h, .nil _, rfl, rfl⟩
  | call q next ih => exact fun h => hgoOn (.ask q next _) (ih _ h.call)
  | pause on next => exact fun h => ⟨_, _, h, .nil _, rfl, rfl⟩
  | fork job next ih => exact fun h => hgoOn (.start job next _) (ih _ h.fork)
  | cancel u next ih => exact fun h => hgoOn (.stop u next) (ih h.cancel)
  | await u next ih =>
    intro L h
    have hwaits : (∃ r, L.standing? u = some (.finished r)) ∨ deeds m t (.await u next) L = [] := by
      rw [deeds]
      split
      · exact .inl ⟨_, ‹_›⟩
      · exact .inr rfl
    rcases hwaits with ⟨r, hr⟩ | hnone
    · rw [deeds, exec, hr]
      exact hgoOn (.learn u next r) (ih r (h.learn hr))
    · exact ⟨_, _, h, hnone ▸ .nil _, hnone, rfl⟩
  | gather ts patient next ih =>
    intro L h
    cases ts with
    | nil => exact hgoOn (.meet [] patient next _) (ih _ h.meet)
    | cons u ts => exact ⟨_, _, h, .nil _, rfl, rfl⟩

/-! ## Moves and the crew -/

/-- Nothing is ruled out that can happen from outside. -/
abbrev Enacted (L : Loop I W) (c : Crew I W) : Prop := Enacts (fun _ => True) (fun _ => True) L c

theorem resume_of_ready {resume : Bool → Program I I.Result} {isCancelling : Bool} {watchers : List Watcher}
    {rest : List Turn} (ht : L.tasks[t]? = some ⟨.ready resume, isCancelling, watchers⟩) :
    { L with queue := rest }.resume m t = exec m t (resume isCancelling) (L.begun t rest) := by
  rw [Loop.resume]
  dsimp only
  rw [ht]
  rfl

theorem resume_of_not_ready {rest : List Turn} (ht : ∀ resume, L.standing? t ≠ some (.ready resume)) :
    { L with queue := rest }.resume m t = { L with queue := rest } := by
  rw [Loop.resume]
  split
  · rename_i resume isCancelling watchers he
    refine absurd (?_ : L.standing? t = some (.ready resume)) (ht resume)
    rw [standing?, show L.tasks[t]? = _ from he]
    rfl
  · rfl

theorem Next.follows {e : Happening I} {c : Crew I W} (h : Next m L e M) (hL : Enacted L c) :
    ∃ d, Enacted M d := by
  have hfollows : ∀ {M}, Follows m (fun _ => True) (fun _ => True) c M → ∃ d, Enacted M d :=
    fun ⟨d, _, hd⟩ => ⟨d, hd⟩
  cases h with
  | turn hq ht => exact hfollows (resume_of_ready ht ▸ hL.take m hq)
  | stale hq ht => exact hfollows (resume_of_not_ready ht ▸ hL.take m hq)
  | hear hq => exact hfollows (hL.take m hq)
  | tick hr => exact hfollows (hL.tick (by rw [tick?, hr]))
  | tell t => exact hfollows (hL.dismiss m trivial)
  | happen q => exact hfollows (hL.intervene m trivial)
  | start job => exact ⟨_, hL.spawn m job⟩
  | set micros alarm => exact ⟨c, hL.setTimer micros alarm (by cases alarm <;> trivial)⟩
  | note isInterrupted => exact ⟨c, hL.clock L.now isInterrupted hL.timers⟩

theorem Passes.enacts {es : List (Happening I)} (h : Passes m L es M) (hL : ∃ c, Enacted L c) : ∃ c, Enacted M c := by
  induction h with
  | refl => exact hL
  | step _ he ih =>
    obtain ⟨c, hc⟩ := ih
    exact he.follows hc

theorem Arises.enacts (h : Arises m L) : ∃ c, Enacted L c := by
  obtain ⟨w, es, hL⟩ := h
  exact hL.enacts ⟨_, enacts_nobody w⟩

end Loop
end BrowserPlan.Task
