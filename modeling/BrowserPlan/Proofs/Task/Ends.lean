import BrowserPlan.Proofs.Task.GivingUp

/-!
# Ends of tasks in a task loop

When a task ends, those who watch it are told: tasks that wait for it are due to go on, and gatherings
hear of it in turns of their own (`Enacts.finish`). A gathering goes on when it has heard of all its tasks,
or of one that has ended badly (`Enacts.hear`).
-/
namespace BrowserPlan.Task.Loop

variable {I : Interface} {W : Type} {m : Machine I W} {outside : I.Call → Prop} {tellable : TaskId → Prop}
  {L M : Loop I W} {c : Crew I W} {t u : TaskId} {g : Nat} {e : Entry I} {x : Member I}
  {r : Outcome I.Fault I.Result} {ws : List Watcher}

/-! ## Watchers -/

/-- A task that is watched by these when the watched one ends with `r`. -/
def roused (r : Outcome I.Fault I.Result) (ws : List Watcher) (u : TaskId) (e : Entry I) : Entry I :=
  match e.standing with
  | .awaiting _ next => if .task u ∈ ws then { e with standing := .ready (resumption next r) } else e
  | _ => e

/-- `M` comes of `L` when all these watchers are told that `t` has ended with `r`. -/
structure Informed (t : TaskId) (r : Outcome I.Fault I.Result) (ws : List Watcher) (L M : Loop I W) : Prop where
  world : M.world = L.world
  size : M.tasks.size = L.tasks.size
  gatherings : M.gatherings = L.gatherings
  timers : M.timers = L.timers
  tasks : ∀ u, M.tasks[u]? = (L.tasks[u]?).map (roused r ws u)
  hears : ∀ g u, M.queue.count (.hear g u) = L.queue.count (.hear g u) + if u = t then ws.count (.gathering g) else 0

theorem roused_of_not_mem (h : .task u ∉ ws) (r : Outcome I.Fault I.Result) (e : Entry I) : roused r ws u e = e := by
  rw [roused]
  split
  · exact if_neg h
  · rfl

theorem roused_append (r : Outcome I.Fault I.Result) (ws ws' : List Watcher) (u : TaskId) (e : Entry I) :
    roused r ws' u (roused r ws u e) = roused r (ws ++ ws') u e := by
  by_cases h : .task u ∈ ws
  · have h' : .task u ∈ ws ++ ws' := List.mem_append_left _ h
    cases hs : e.standing <;> simp only [roused, hs, h, h', if_true]
  · rw [roused_of_not_mem h, roused, roused]
    simp only [List.mem_append, h, false_or]

theorem Informed.append {ws' : List Watcher} {N : Loop I W} (h : Informed t r ws L M) (h' : Informed t r ws' M N) :
    Informed t r (ws ++ ws') L N where
  world := h'.world.trans h.world
  size := h'.size.trans h.size
  gatherings := h'.gatherings.trans h.gatherings
  timers := h'.timers.trans h.timers
  tasks u := by
    rw [h'.tasks, h.tasks, Option.map_map]
    exact congrArg (Option.map · _) (funext (roused_append r ws ws' u))
  hears g u := by
    rw [h'.hears, h.hears, List.count_append]
    split <;> omega

theorem informed_nil (t : TaskId) (r : Outcome I.Fault I.Result) (L : Loop I W) : Informed t r [] L L where
  world := rfl
  size := rfl
  gatherings := rfl
  timers := rfl
  tasks u := by
    rw [show roused r [] u = id from funext (roused_of_not_mem List.not_mem_nil r), Option.map_id]
    rfl
  hears g u := by rw [List.count_nil, ite_self, Nat.add_zero]

theorem informed_tell (t : TaskId) (r : Outcome I.Fault I.Result) (w : Watcher) (L : Loop I W) :
    Informed t r [w] L (L.tell t r w) := by
  have hothers : ∀ {u}, .task u ∉ [w] → L.tasks[u]? = (L.tasks[u]?).map (roused r [w] u) := fun h => by
    rw [show roused r [w] _ = id from funext (roused_of_not_mem h r), Option.map_id]
    rfl
  cases w with
  | gathering g' =>
    refine ⟨rfl, rfl, rfl, rfl, fun u => hothers (by simp), fun g u => ?_⟩
    rw [tell, enqueue, List.count_append, List.count_singleton, List.count_singleton]
    by_cases hu : u = t <;> by_cases hg : g' = g <;> simp [hu, hg, Ne.symm]
  | task u' =>
    have hnone : ∀ g, [Watcher.task u'].count (.gathering g) = 0 := fun g => by simp
    rw [tell]
    split
    · rename_i v next hs
      refine ⟨rfl, Array.size_modify, rfl, rfl, fun u => ?_, fun g u => ?_⟩
      · change (L.place u' (.ready (resumption next r))).tasks[u]? = _
        rw [place, Array.getElem?_modify]
        by_cases hu : u' = u
        · subst hu
          obtain ⟨e, he, hawaits⟩ := Option.map_eq_some_iff.1 hs
          rw [if_pos rfl, he, Option.map_some, Option.map_some, roused, hawaits]
          exact congrArg some (if_pos List.mem_cons_self).symm
        · rw [if_neg hu]
          exact hothers (by simpa using Ne.symm hu)
      · rw [hnone, ite_self]
        change (L.queue ++ [_]).count _ = _
        rw [List.count_append, List.count_singleton]
        rfl
    · rename_i hs
      refine ⟨rfl, rfl, rfl, rfl, fun u => ?_, fun g u => by rw [hnone, ite_self, Nat.add_zero]⟩
      cases he : L.tasks[u]? with
      | none => rfl
      | some e =>
        rw [Option.map_some, roused]
        split
        · rename_i v next hawaits
          refine congrArg some (if_neg fun hu => ?_).symm
          obtain rfl : u = u' := by simpa using hu
          exact hs v next (by rw [standing?, he]; exact congrArg some hawaits)
        · rfl

theorem informed (t : TaskId) (r : Outcome I.Fault I.Result) (ws : List Watcher) : ∀ L : Loop I W,
    Informed t r ws L (ws.foldl (fun L w => L.tell t r w) L) := by
  induction ws with
  | nil => exact informed_nil t r
  | cons w ws ih => exact fun L => (informed_tell t r w L).append (ih _)

/-! ## The end of a task -/

/-- What becomes of another task when the watchers `ws` of `t` are told of its end. -/
structure Hears (t : TaskId) (r : Outcome I.Fault I.Result) (ws : List Watcher) (u : TaskId) (e e' : Entry I) :
    Prop where
  watchers : e'.watchers = e.watchers
  isCancelling : e'.isCancelling = e.isCancelling
  standing : e'.standing = e.standing ∨
    ∃ next, e.standing = .awaiting t next ∧ .task u ∈ ws ∧ e'.standing = .ready (resumption next r)

theorem Hears.unfinished {e' : Entry I} (h : Hears t r ws u e e') : isUnfinished e' = isUnfinished e := by
  rw [isUnfinished, isUnfinished]
  rcases h.standing with hs | ⟨next, hs, -, hs'⟩
  · rw [hs]
  · rw [hs, hs']

/-- Who is roused waits for the task that has ended. -/
theorem hears_roused (h : ∀ v next, e.standing = .awaiting v next → .task u ∈ ws → v = t) :
    Hears t r ws u e (roused r ws u e) := by
  rw [roused]
  split
  · rename_i v next hs
    split
    · rename_i hu
      obtain rfl := h v next hs hu
      exact ⟨rfl, rfl, .inr ⟨next, hs, hu, rfl⟩⟩
    · exact ⟨rfl, rfl, .inl rfl⟩
  · exact ⟨rfl, rfl, .inl rfl⟩

section
variable (h : Enacts outside tellable L c) (he : L.tasks[t]? = some e) (hrunning : e.standing = .running)
  (hM : Informed t r e.watchers (L.place t (.finished r)) M)
include he hM

theorem task_ended : M.tasks[t]? = some { e with standing := .finished r } := by
  rw [hM.tasks, place, Array.getElem?_modify, if_pos rfl, he]
  rfl

theorem standing_ended : M.standing? t = some (.finished r) := by
  rw [standing?, task_ended he hM]
  rfl

include h hrunning

/-- What becomes of the other tasks. -/
theorem exists_hears (hne : u ≠ t) {e' : Entry I} (he' : M.tasks[u]? = some e') :
    ∃ e₀, L.tasks[u]? = some e₀ ∧ Hears t r e.watchers u e₀ e' := by
  rw [hM.tasks, place, Array.getElem?_modify, if_neg hne.symm] at he'
  obtain ⟨e₀, he₀, rfl⟩ := Option.map_eq_some_iff.1 he'
  refine ⟨e₀, he₀, hears_roused fun v next hs hin => ?_⟩
  obtain ⟨next', hs'⟩ := h.watched he (by rw [isUnfinished, hrunning]) hin
  rw [standing?, he₀, Option.map_some, hs] at hs'
  cases hs'
  rfl

/-- Tasks that do not wait for the one that has ended stay where they are. -/
theorem standing_kept {s : Standing I} (hs : L.standing? u = some s) (hne : u ≠ t)
    (hawaits : ∀ next, s ≠ .awaiting t next) : M.standing? u = some s := by
  obtain ⟨e₀, he₀, rfl⟩ := Option.map_eq_some_iff.1 hs
  have hlt : u < M.tasks.size := by
    rw [hM.size, place, Array.size_modify]
    exact (Array.getElem?_eq_some_iff.1 he₀).1
  obtain ⟨e₁, he₁, hhears⟩ := exists_hears h he hrunning hM hne (Array.getElem?_eq_getElem hlt)
  obtain rfl := Option.some.inj (he₀.symm.trans he₁)
  rw [standing?, Array.getElem?_eq_getElem hlt]
  exact congrArg some (hhears.standing.resolve_right (by rintro ⟨next, heq, -⟩; exact hawaits next heq))

/-- Gatherings have as much to hear of as before. -/
theorem due_ended (g : Nat) (u : TaskId) : M.due g u = L.due g u := by
  rw [due, due, hM.hears]
  have hqueue : (L.place t (.finished r)).queue = L.queue := rfl
  rw [hqueue]
  by_cases hu : u = t
  · subst hu
    rw [if_pos rfl, task_ended he hM, he, Option.map_some, Option.map_some, Option.getD_some, Option.getD_some, owes,
      owes, isUnfinished, isUnfinished, hrunning]
    rfl
  · rw [if_neg hu, Nat.add_zero]
    refine congrArg (L.queue.count (.hear g u) + Option.getD · 0) ?_
    by_cases hlt : u < M.tasks.size
    · obtain ⟨e₀, he₀, hhears⟩ := exists_hears h he hrunning hM hu (Array.getElem?_eq_getElem hlt)
      rw [he₀, Array.getElem?_eq_getElem hlt, Option.map_some, Option.map_some, owes, owes, hhears.unfinished,
        hhears.watchers]
    · have hsize : M.tasks.size = L.tasks.size := hM.size.trans Array.size_modify
      rw [Array.getElem?_eq_none (Nat.le_of_not_lt hlt), Array.getElem?_eq_none (hsize ▸ Nat.le_of_not_lt hlt)]

/-- When a task has ended and its watchers have been told, the loop stands where the crew does. -/
theorem enacts_ended {x : Member I} (hx : c.members[t]? = some x) (hgoes : x.result = none) :
    Enacts outside tellable M (c.finish t r) := by
  have hsize : M.tasks.size = L.tasks.size := hM.size.trans Array.size_modify
  constructor
  case world => exact hM.world.trans h.world
  case size =>
    rw [hsize, h.size]
    exact (Crew.length_alter ..).symm
  case fits =>
    intro u e' y he' hy
    by_cases hu : u = t
    · subst hu
      obtain rfl := Option.some.inj ((task_ended he hM).symm.trans he')
      rw [Crew.finish, Crew.members_alter_self hx] at hy
      obtain rfl := Option.some.inj hy
      exact ⟨.finished rfl, (h.fits he hx).2⟩
    · rw [Crew.members_finish_of_ne hu] at hy
      obtain ⟨e₀, he₀, hhears⟩ := exists_hears h he hrunning hM hu he'
      obtain ⟨hfits, htold⟩ := h.fits he₀ hy
      refine ⟨?_, fun hc => htold (hhears.isCancelling ▸ hc)⟩
      rcases hhears.standing with hs | ⟨next, hs, -, hs'⟩
      · rw [hs]
        exact hfits.follow (fun _ => Crew.offers_finish hx hgoes) rfl (.inr ⟨rfl, rfl⟩)
      · rw [hs] at hfits
        rw [hs']
        cases hfits with
        | awaiting hr hrest =>
          exact .ready hr (.of_resumption (Deed.learn t) (fun o => hrest ▸ .learn t next o) rfl
            (.learn (Crew.result?_finish_self hx)))
  case watched =>
    intro v e' u he' hun hin
    have hv : v ≠ t := by
      rintro rfl
      obtain rfl := Option.some.inj ((task_ended he hM).symm.trans he')
      cases hun
    obtain ⟨e₀, he₀, hhears⟩ := exists_hears h he hrunning hM hv he'
    obtain ⟨next, hs⟩ := h.watched he₀ (hhears.unfinished ▸ hun) (hhears.watchers ▸ hin)
    refine ⟨next, standing_kept h he hrunning hM hs ?_ fun next' heq => hv ?_⟩
    · rintro rfl
      rw [standing?, he, Option.map_some, hrunning] at hs
      cases hs
    · cases heq
      rfl
  case gathering =>
    intro u g next hs
    have hu : u ≠ t := by
      rintro rfl
      cases (standing_ended he hM).symm.trans hs
    obtain ⟨e', he', hgathering⟩ := Option.map_eq_some_iff.1 hs
    obtain ⟨e₀, he₀, hhears⟩ := exists_hears h he hrunning hM hu he'
    rw [hM.gatherings]
    refine h.gathering (?_ : L.standing? u = some (.gathering g next))
    rw [standing?, he₀, Option.map_some]
    rcases hhears.standing with heq | ⟨_, _, _, heq⟩
    · rw [← heq, hgathering]
    · rw [heq] at hgathering
      cases hgathering
  case gathers =>
    intro g G hG hover
    rw [hM.gatherings] at hG
    obtain ⟨⟨next, y, hs, hy, hrest⟩, ts, hts⟩ := h.gathers hG hover
    have hne : G.owner ≠ t := by
      rintro heq
      rw [heq, standing?, he, Option.map_some, hrunning] at hs
      cases hs
    refine ⟨⟨next, y, standing_kept h he hrunning hM hs hne (by simp),
      (Crew.members_finish_of_ne hne).trans hy, hrest⟩, ts, hts.length, hts.mem, fun u => ?_,
      fun u hu hn => (hts.heard u hu hn).imp fun o ho => ⟨Crew.result?_finish hx hgoes ho.1, ho.2⟩⟩
    rw [due_ended h he hrunning hM]
    exact hts.due u
  case fresh =>
    intro g u hg
    rw [due_ended h he hrunning hM]
    exact h.fresh (hM.gatherings ▸ hg)
  case ended =>
    intro g u hin
    by_cases hu : u = t
    · subst hu
      exact ⟨r, standing_ended he hM⟩
    · have hcount := List.count_pos_iff.2 hin
      rw [hM.hears, if_neg hu, Nat.add_zero] at hcount
      obtain ⟨o, ho⟩ := h.ended (List.count_pos_iff.1 hcount)
      exact ⟨o, standing_kept h he hrunning hM ho hu (by simp)⟩
  case timers => exact fun r hr => h.timers r (hM.timers ▸ hr)

end

/-- When a task ends its watchers are told, and an interruption is noted. -/
theorem exists_informed (he : L.tasks[t]? = some e) (r : Outcome I.Fault I.Result) : ∃ M,
    Informed t r e.watchers (L.place t (.finished r)) M ∧ ∃ b, L.finish t r = { M with isInterrupted := b } := by
  refine ⟨_, informed t r e.watchers (L.place t (.finished r)), ?_⟩
  rw [Loop.finish.eq_def, he]
  split
  · exact ⟨true, rfl⟩
  · exact ⟨_, rfl⟩

theorem standing?_finish (hs : L.standing? t = some .running) (r : Outcome I.Fault I.Result) :
    (L.finish t r).standing? t = some (.finished r) := by
  obtain ⟨e, he, -⟩ := Option.map_eq_some_iff.1 hs
  obtain ⟨M, hM, b, heq⟩ := exists_informed he r
  rw [heq]
  change M.standing? t = _
  exact standing_ended he hM

/-- A task ends, and so does its member. -/
theorem Enacts.finish (h : Enacts outside tellable L c) (hs : L.standing? t = some .running)
    (r : Outcome I.Fault I.Result) : Enacts outside tellable (L.finish t r) (c.finish t r) := by
  obtain ⟨e, he, hrunning⟩ := Option.map_eq_some_iff.1 hs
  obtain ⟨x, hx, -⟩ := h.exists_of_standing hs
  obtain ⟨M, hM, b, heq⟩ := exists_informed he r
  have hdone := enacts_ended h he hrunning hM hx (h.goes hs (by simp) hx)
  rw [heq]
  exact hdone.clock _ b hdone.timers

end BrowserPlan.Task.Loop
