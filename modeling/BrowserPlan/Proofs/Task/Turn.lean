import BrowserPlan.Task.Loop

/-!
# One turn of a task

`Program.ahead` carries out the calls of a program up to its first step of another kind.
`Loop.exec_world`: a task that has its turn does to the world what these calls do, one right after
the other, and nothing else before it waits or ends. Other tasks can come in between only there.
-/
namespace BrowserPlan.Task

variable {I : Interface} {W α : Type}

/-- The world after the calls with which a program begins, and the rest of the program. -/
def Program.ahead (perform : W → (q : I.Call) → W × I.Answer q) : Program I α → W → W × Program I α
  | .call q next, w => (next (perform w q).2).ahead perform (perform w q).1
  | .done r, w => (w, .done r)
  | .pause on next, w => (w, .pause on next)
  | .fork job next, w => (w, .fork job next)
  | .cancel t next, w => (w, .cancel t next)
  | .await t next, w => (w, .await t next)
  | .gather ts patient next, w => (w, .gather ts patient next)

/-- What a call makes of the world and answers, whatever signals it gives. -/
def Machine.reply (m : Machine I W) (now : Nat) (w : W) (q : I.Call) : W × I.Answer q :=
  ((m.perform now w q).1, (m.perform now w q).2.1)

namespace Loop

/-- A task has been told to give up and is not aware of it yet. -/
def isTold (L : Loop I W) (t : TaskId) : Bool := (L.tasks[t]?).any (·.isCancelling)

/-- `M` differs from `L` at most in which tasks that waited are due to go on. -/
structure Stirred (L M : Loop I W) : Prop where
  world : M.world = L.world
  now : M.now = L.now
  told : ∀ u, M.isTold u = L.isTold u
  finished : ∀ u r, M.standing? u = some (.finished r) ↔ L.standing? u = some (.finished r)

variable {L M N : Loop I W} {t : TaskId}

theorem Stirred.refl (L : Loop I W) : Stirred L L :=
  ⟨rfl, rfl, fun _ => rfl, fun _ _ => Iff.rfl⟩

theorem Stirred.trans (h : Stirred L M) (h' : Stirred M N) : Stirred L N :=
  ⟨h'.world.trans h.world, h'.now.trans h.now, fun u => (h'.told u).trans (h.told u),
    fun u r => (h'.finished u r).trans (h.finished u r)⟩

theorem standing?_place (L : Loop I W) (t u : TaskId) (s : Standing I) :
    (L.place t s).standing? u =
      if t = u then (L.standing? u).map fun _ => s else L.standing? u := by
  unfold standing? place
  rw [Array.getElem?_modify]
  by_cases h : t = u
  · rw [if_pos h, if_pos h, Option.map_map, Option.map_map]
    rfl
  · rw [if_neg h, if_neg h]

theorem told_place (L : Loop I W) (t u : TaskId) (s : Standing I) :
    (L.place t s).isTold u = L.isTold u := by
  unfold isTold place
  rw [Array.getElem?_modify]
  split
  · cases L.tasks[u]? <;> rfl
  · rfl

theorem told_watch (L : Loop I W) (t u : TaskId) (w : Watcher) :
    (L.watch t w).isTold u = L.isTold u := by
  unfold isTold watch
  rw [Array.getElem?_modify]
  split
  · cases L.tasks[u]? <;> rfl
  · rfl

theorem standing?_watch (L : Loop I W) (t u : TaskId) (w : Watcher) :
    (L.watch t w).standing? u = L.standing? u := by
  unfold standing? watch
  rw [Array.getElem?_modify]
  split
  · rw [Option.map_map]
    rfl
  · rfl

/-- A task that waits is woken. -/
theorem stirred_wake {on : Pause I.Signal} {next : Outcome I.Fault Unit → Program I I.Result}
    (h : L.standing? t = some (.paused on next)) (resume : Bool → Program I I.Result) :
    Stirred L (L.wake t resume) := by
  refine ⟨rfl, rfl, fun u => told_place L t u _, fun u r => ?_⟩
  have hplace : (L.wake t resume).standing? u = (L.place t (.ready resume)).standing? u := rfl
  rw [hplace, standing?_place]
  by_cases hu : t = u
  · rw [if_pos hu, ← hu, h]
    simp
  · rw [if_neg hu]

variable [DecidableEq I.Signal]

/-- A signal wakes the tasks that wait for it, and does nothing to the others. -/
theorem stirred_deliver (L : Loop I W) (s : I.Signal) (r : Outcome I.Fault Unit) :
    Stirred L (L.deliver s r) := by
  unfold deliver
  generalize List.range L.tasks.size = ts
  induction ts generalizing L with
  | nil => exact .refl L
  | cons t ts ih =>
    rw [List.foldl_cons]
    refine Stirred.trans ?_ (ih _)
    split
    · rename_i s' next hs
      by_cases h : s' = s
      · rw [if_pos h]
        exact stirred_wake hs _
      · rw [if_neg h]
        exact .refl L
    · exact .refl L

theorem stirred_deliverAll (signals : List (I.Signal × Outcome I.Fault Unit)) :
    ∀ L : Loop I W, Stirred L (signals.foldl (fun L s => L.deliver s.1 s.2) L) := by
  induction signals with
  | nil => exact fun L => .refl L
  | cons s signals ih =>
    intro L
    exact (stirred_deliver L s.1 s.2).trans (ih _)

/-- A turn begins with the calls of the program; they stir tasks that wait. -/
theorem exec_ahead (m : Machine I W) (t : TaskId) (p : Program I I.Result) : ∀ L : Loop I W,
    ∃ M, Stirred { L with world := (p.ahead (m.reply L.now) L.world).1 } M ∧
      exec m t p L = exec m t (p.ahead (m.reply L.now) L.world).2 M := by
  induction p with
  | call q next ih =>
    intro L
    have hstirred := stirred_deliverAll (m.perform L.now L.world q).2.2
      { L with world := (m.perform L.now L.world q).1 }
    obtain ⟨M, hM, heq⟩ := ih (m.perform L.now L.world q).2.1 ((m.perform L.now L.world q).2.2.foldl
      (fun L s => L.deliver s.1 s.2) { L with world := (m.perform L.now L.world q).1 })
    rw [hstirred.now, hstirred.world] at hM heq
    exact ⟨M, ⟨hM.world, hM.now, fun u => (hM.told u).trans (hstirred.told u),
      fun u r => (hM.finished u r).trans (hstirred.finished u r)⟩, heq⟩
  | done | pause | fork | cancel | await | gather => exact fun L => ⟨L, .refl L, rfl⟩

/-! ## The end of a turn -/

omit [DecidableEq I.Signal] in
theorem world_finish (L : Loop I W) (t : TaskId) (r : Outcome I.Fault I.Result) :
    (L.finish t r).world = L.world := by
  have htell : ∀ (ws : List Watcher) (L : Loop I W),
      (ws.foldl (fun L w => L.tell t r w) L).world = L.world := by
    intro ws
    induction ws with
    | nil => exact fun _ => rfl
    | cons w ws ih =>
      intro L
      rw [List.foldl_cons, ih]
      unfold tell
      split
      · rfl
      · split <;> rfl
  unfold finish
  split <;> exact htell _ _

omit [DecidableEq I.Signal] in
theorem world_suspend (m : Machine I W) (t : TaskId) (s : Standing I)
    (h : L.isTold t = false) : (L.suspend m t s).world = L.world := by
  have hplace : ((L.place t s).tasks[t]?).any (·.isCancelling) = false :=
    (told_place L t t s).trans h
  unfold suspend
  simp only [hplace, Bool.false_eq_true, if_false]
  rfl

/-- In its turn a task that has not been told to give up does to the world what the calls of its
program do, up to the end of the program or the first time it waits. -/
theorem exec_world (m : Machine I W) {p : Program I I.Result}
    (htold : L.isTold t = false)
    (hrest : match (p.ahead (m.reply L.now) L.world).2 with
      | .done _ | .pause _ _ => True
      | .await u _ => ∀ r, L.standing? u ≠ some (.finished r)
      | .call _ _ | .fork _ _ | .cancel _ _ | .gather _ _ _ => False) :
    (exec m t p L).world = (p.ahead (m.reply L.now) L.world).1 := by
  obtain ⟨M, hM, heq⟩ := exec_ahead m t p L
  have htold : M.isTold t = false := (hM.told t).trans htold
  have hworld : M.world = (p.ahead (m.reply L.now) L.world).1 := hM.world
  rw [heq, ← hworld]
  cases hp : (p.ahead (m.reply L.now) L.world).2 with
  | done r =>
    rw [exec, world_finish]
  | pause on next =>
    cases on with
    | signal s => exact world_suspend m t _ htold
    | timer micros => exact world_suspend m t _ htold
    | forever => exact world_suspend m t _ htold
  | await u next =>
    rw [hp] at hrest
    have hu : ∀ r, M.standing? u ≠ some (.finished r) := fun r hr =>
      hrest r ((hM.finished u r).1 hr)
    rw [exec]
    split
    · rename_i r hr
      exact absurd hr (hu r)
    · rw [world_suspend]
      · rfl
      · exact (told_watch M u t (.task t)).trans htold
  | call | fork | cancel | gather =>
    rw [hp] at hrest
    exact hrest.elim

end Loop
end BrowserPlan.Task
