import BrowserPlan.Proofs.Task.Bystanders

/-!
# Tasks that quit when they are told to

A program that `Yields` asks the world and pauses, no more, and when a pause of it is broken off it ends with that,
after some last calls at most. A task with such a program that is told to give up before it has ended has given up
when it ends (`Steers.stops_cancel`, `Next.stops`).
-/
namespace BrowserPlan.Task

variable {I : Interface} {W : Type} {α β : Type}

namespace Program

/-- The program asks the world, and then gives up. -/
inductive Quits : Program I α → Prop where
  | done : Quits (.done (.error .cancelled))
  | call {q next} (h : ∀ a, Quits (next a)) : Quits (.call q next)

/-- The program asks the world and pauses; it gives up when a pause is broken off. -/
inductive Yields : Program I α → Prop where
  | done (r) : Yields (.done r)
  | call {q next} (h : ∀ a, Yields (next a)) : Yields (.call q next)
  | pause {on next} (h : ∀ r, Yields (next r)) (hquits : Quits (next (.error .cancelled))) : Yields (.pause on next)

variable {p : Program I α} {f : α → Program I β}

theorem Quits.bind (h : p.Quits) : (p.bind f).Quits := by
  induction h with
  | done => exact .done
  | call _ ih => exact .call ih

theorem Yields.bind (h : p.Yields) (hf : ∀ a, (f a).Yields) : (p.bind f).Yields := by
  induction h with
  | done r =>
    cases r with
    | ok a => exact hf a
    | error s => exact .done _
  | call _ ih => exact .call ih
  | pause _ hquits ih => exact .pause ih hquits.bind

end Program

/-- A task that stands like this yields. -/
inductive Standing.Steers : Standing I → Prop where
  | ready {resume} (h : ∀ b, (resume b).Yields) (hquits : (resume true).Quits) : Steers (.ready resume)
  | paused {on next} (h : ∀ r, (next r).Yields) (hquits : (next (.error .cancelled)).Quits) : Steers (.paused on next)
  | finished (r) : Steers (.finished r)

/-- The task has given up, or does so in its next turn. -/
inductive Entry.Stops (e : Entry I) : Prop where
  | due {resume} (hs : e.standing = .ready resume) (hquits : (resume true).Quits)
    (h : e.isCancelling = true ∨ (resume false).Quits) : Stops e
  | stopped (hs : e.standing = .finished (.error .cancelled))

namespace Loop

/-- The task yields. -/
def Steers (L : Loop I W) (t : TaskId) : Prop := ∃ s, L.standing? t = some s ∧ s.Steers

/-- The task has given up, or does so in its next turn. -/
def Stops (L : Loop I W) (t : TaskId) : Prop := ∃ e, L.tasks[t]? = some e ∧ e.Stops

variable {m : Machine I W} {L M : Loop I W} {t : TaskId} {p : Program I I.Result} {e : Happening I}
  {busy : Option TaskId} {hears : Bool}

theorem Steers.lt (h : L.Steers t) : t < L.tasks.size := by
  obtain ⟨s, hs, -⟩ := h
  obtain ⟨e, he, -⟩ := Option.map_eq_some_iff.1 hs
  exact (Array.getElem?_eq_some_iff.1 he).1

/-- Who gives up and has ended has given up. -/
theorem Stops.eq_of_finished {r : Outcome I.Fault I.Result} (h : L.Stops t)
    (hr : L.standing? t = some (.finished r)) : r = .error .cancelled := by
  obtain ⟨e, he, hstops⟩ := h
  rw [standing?, he] at hr
  have hr := Option.some.inj hr
  cases hstops with
  | due hs => cases hs.symm.trans hr
  | stopped hs =>
    cases hs.symm.trans hr
    rfl

theorem Leaves.steers (h : Leaves busy hears L M) (ht : L.Steers t) (hb : busy ≠ some t) : M.Steers t := by
  obtain ⟨s, hs, hsteers⟩ := ht
  obtain ⟨e, he, rfl⟩ := Option.map_eq_some_iff.1 hs
  obtain ⟨e', he', -, hrests⟩ := h.task he
  refine ⟨e'.standing, by rw [standing?, he']; rfl, ?_⟩
  have hrests := (hrests hb).1
  generalize e.standing = s at hrests hsteers
  generalize e'.standing = s' at hrests
  cases hrests with
  | same => exact hsteers
  | pause on next r =>
    cases hsteers with
    | paused h hquits => exact .ready (fun b => h _) hquits
  | await | gather => cases hsteers

theorem Leaves.stops (h : Leaves busy hears L M) (ht : L.Stops t) (hb : busy ≠ some t) : M.Stops t := by
  obtain ⟨e, he, hstops⟩ := ht
  obtain ⟨e', he', -, hrests⟩ := h.task he
  obtain ⟨hrests, htold⟩ := hrests hb
  refine ⟨e', he', ?_⟩
  cases hstops with
  | due hs hquits h => exact .due (hrests.of_steady (hs ▸ .ready _) ▸ hs) hquits (h.imp_left htold)
  | stopped hs => exact .stopped (hrests.of_steady (hs ▸ .finished _) ▸ hs)

theorem steers_spawn (hp : p.Yields) : (L.spawn p).1.Steers L.tasks.size := by
  refine ⟨_, standing?_spawn_self L p, .ready (fun b => ?_) .done⟩
  cases b with
  | true => exact .done _
  | false => exact hp

/-- A task that yields and is told to give up does so, unless it has ended. -/
theorem Steers.stops_cancel (h : L.Steers t) (hne : ∀ r, L.standing? t ≠ some (.finished r)) :
    (L.cancel m t).Stops t := by
  obtain ⟨s, hs, hsteers⟩ := h
  obtain ⟨e, he, hes⟩ := Option.map_eq_some_iff.1 hs
  have hcancel : L.cancel m t = (cancelTask m (2 * L.tasks.size + 1 + 1) L t).1 := rfl
  rw [hcancel, cancelTask, breakWait, hs]
  cases hsteers with
  | finished r => exact absurd hs (hne r)
  | ready h hquits =>
    refine ⟨{ e with isCancelling := true }, ?_, .due hes hquits (.inl rfl)⟩
    change (L.tasks.modify t _)[t]? = _
    rw [Array.getElem?_modify, if_pos rfl, he]
    rfl
  | @paused on next h hquits =>
    refine ⟨{ e with standing := .ready (resumption next (.error .cancelled)) }, ?_, .due rfl hquits (.inr hquits)⟩
    have hbreak : (L.breakPause m t on next).tasks =
        (L.place t (.ready (resumption next (.error .cancelled)))).tasks := by
      cases on <;> rfl
    dsimp only
    rw [if_pos rfl, hbreak, place, Array.getElem?_modify, if_pos rfl, he]
    rfl

/-! ## Turns -/

variable [DecidableEq I.Signal]

theorem steers_exec (hp : p.Yields) : ∀ {L : Loop I W}, L.standing? t = some .running → (exec m t p L).Steers t := by
  induction hp with
  | done r => exact fun hs => ⟨_, standing?_finish hs _, .finished _⟩
  | call _ ih => exact fun hs => ih _ (standing?_deliverAll _ hs nofun)
  | @pause on next h hquits _ =>
    have hwaits : ∀ {L : Loop I W}, L.standing? t = some .running → (L.suspend m t (.paused on next)).Steers t := by
      intro L hs
      obtain ⟨s', hs', hrests⟩ := rests_suspend m hs (.paused on next)
      refine ⟨s', hs', ?_⟩
      cases hrests with
      | same => exact .paused h hquits
      | pause _ _ r => exact .ready (fun b => h _) hquits
    intro L hs
    cases on with
    | timer micros => exact hwaits (L := L.setTimer micros (.wake t)) hs
    | signal | forever => exact hwaits hs

theorem finished_exec (hp : p.Quits) : ∀ {L : Loop I W}, L.standing? t = some .running →
    (exec m t p L).standing? t = some (.finished (.error .cancelled)) := by
  induction hp with
  | done => exact fun hs => standing?_finish hs _
  | call _ ih => exact fun hs => ih _ (standing?_deliverAll _ hs nofun)

/-- A task goes on to yield. -/
theorem Next.steers (h : Next m L e M) (ht : L.Steers t) : M.Steers t := by
  obtain ⟨rest, -, hleaves⟩ := h.leaves
  by_cases hb : e.busy = some t
  · cases h with
    | turn hq he =>
      cases hb
      obtain ⟨s, hs, hsteers⟩ := ht
      rw [standing?, he] at hs
      cases hs
      cases hsteers with
      | ready h hquits => exact steers_exec (h _) (standing?_begun he)
    | stale | hear | tick | tell | happen | start | set | note => cases hb
  · exact hleaves.steers (L := { L with queue := rest }) ht hb

/-- A task that gives up in its next turn goes on to do so. -/
theorem Next.stops (h : Next m L e M) (ht : L.Stops t) : M.Stops t := by
  obtain ⟨rest, -, hleaves⟩ := h.leaves
  by_cases hb : e.busy = some t
  · cases h with
    | @turn t' rest' resume isCancelling watchers hq he =>
      cases hb
      obtain ⟨e', he', hstops⟩ := ht
      obtain rfl := Option.some.inj (he.symm.trans he')
      cases hstops with
      | due hs hquits h =>
        cases hs
        have hquits : (resume isCancelling).Quits := by
          cases isCancelling with
          | true => exact hquits
          | false => exact h.resolve_left nofun
        obtain ⟨e', he', hs⟩ := Option.map_eq_some_iff.1 (finished_exec (m := m) hquits (standing?_begun he))
        exact ⟨e', he', .stopped hs⟩
      | stopped hs => cases hs
    | stale | hear | tick | tell | happen | start | set | note => cases hb
  · exact hleaves.stops (L := { L with queue := rest }) ht hb

theorem Passes.steers {es : List (Happening I)} (h : Passes m L es M) (ht : L.Steers t) : M.Steers t := by
  induction h with
  | refl => exact ht
  | step _ he ih => exact he.steers ih

theorem Passes.stops {es : List (Happening I)} (h : Passes m L es M) (ht : L.Stops t) : M.Stops t := by
  induction h with
  | refl => exact ht
  | step _ he ih => exact he.stops ih

end Loop
end BrowserPlan.Task
