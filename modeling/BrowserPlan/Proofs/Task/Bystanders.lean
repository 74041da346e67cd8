import BrowserPlan.Proofs.Task.Passage

/-!
# What a move leaves as it is

While one task has its turn, the others stay where they are, except that what they wait for may end
(`Standing.Rests`). Who has been told to give up stays so, watchers are only added, and what is queued is put at the
end of the queue. `Leaves` says all this of two loops. It holds of each change of a loop, so of a whole turn
(`Leaves.exec`), and so of every move (`Next.leaves`). Who ends in a move has its turn in it (`Next.ends`), and the
gatherings that watch it hear of that (`Next.hear_mem`).
-/
namespace BrowserPlan.Task

variable {I : Interface} {W : Type}

/-- What may become of where a task stands that has no turn: what it waits for may end, a gathering only if one of
them `hears` of an end. -/
inductive Standing.Rests (hears : Bool) : Standing I → Standing I → Prop where
  | same (s) : Rests hears s s
  | pause (on next r) : Rests hears (.paused on next) (.ready (Loop.resumption next r))
  | await (u next r) : Rests hears (.awaiting u next) (.ready (Loop.resumption next r))
  | gather (h : hears = true) (g next r) : Rests hears (.gathering g next) (.ready (Loop.resumption next r))

namespace Standing

variable {hears : Bool} {s s' s'' : Standing I}

theorem Rests.trans (h : s.Rests hears s') (h' : s'.Rests hears s'') : s.Rests hears s'' := by
  cases h with
  | same => exact h'
  | pause on next r =>
    cases h' with
    | same => exact .pause on next r
  | await u next r =>
    cases h' with
    | same => exact .await u next r
  | gather h g next r =>
    cases h' with
    | same => exact .gather h g next r

/-- Nobody ends without a turn. -/
theorem Rests.of_finished {r : Outcome I.Fault I.Result} (h : s.Rests hears s') (hs : s' = .finished r) :
    s = .finished r := by
  cases h with
  | same => exact hs
  | pause | await | gather => cases hs

/-- Nothing that ends elsewhere makes who stands like this move, unless a gathering `hears` of it. -/
inductive IsSteady (hears : Bool) : Standing I → Prop where
  | ready (resume) : IsSteady hears (.ready resume)
  | running : IsSteady hears .running
  | gathering (h : hears = false) (g next) : IsSteady hears (.gathering g next)
  | finished (r) : IsSteady hears (.finished r)

theorem Rests.of_steady (h : s.Rests hears s') (hs : s.IsSteady hears) : s' = s := by
  cases h with
  | same => rfl
  | pause | await => cases hs
  | gather h => cases hs with
    | gathering hnot => cases h.symm.trans hnot

end Standing

namespace Loop

/-- `M` comes of `L` while no task has its turn but the one that is `busy`. -/
structure Leaves (busy : Option TaskId) (hears : Bool) (L M : Loop I W) : Prop where
  task : ∀ {x : TaskId} {e : Entry I}, L.tasks[x]? = some e → ∃ e', M.tasks[x]? = some e' ∧
    e.watchers ⊆ e'.watchers ∧ (busy ≠ some x →
      e.standing.Rests hears e'.standing ∧ (e.isCancelling = true → e'.isCancelling = true))
  gathering : ∀ {g : Nat} {G : Gathering}, L.gatherings[g]? = some G → ∃ G', M.gatherings[g]? = some G' ∧
    (hears = false → G' = { G with isCancelling := G'.isCancelling }) ∧ (G.isCancelling = true → G'.isCancelling = true)
  queue : ∃ new, M.queue = L.queue ++ new ∧ ∀ x, .resume x ∈ new → x < M.tasks.size

/-- The end of the task is told to the watcher. -/
def IsWatched (L : Loop I W) (t : TaskId) (w : Watcher) : Prop := ∃ e, L.tasks[t]? = some e ∧ w ∈ e.watchers

namespace Leaves

variable {busy : Option TaskId} {hears : Bool} {L M N : Loop I W} {t u : TaskId} {s : Standing I}

theorem size_le (h : Leaves busy hears L M) : L.tasks.size ≤ M.tasks.size := by
  refine Nat.le_of_not_lt fun hlt => ?_
  obtain ⟨e', he', -⟩ := h.task (Array.getElem?_eq_getElem hlt)
  exact absurd (Array.getElem?_eq_some_iff.1 he').1 (Nat.lt_irrefl _)

theorem of_eq (htasks : M.tasks = L.tasks) (hgatherings : M.gatherings = L.gatherings) (hqueue : M.queue = L.queue) :
    Leaves busy hears L M where
  task he := ⟨_, htasks ▸ he, fun _ => id, fun _ => ⟨.same _, id⟩⟩
  gathering hG := ⟨_, hgatherings ▸ hG, fun _ => rfl, id⟩
  queue := ⟨[], by rw [hqueue, List.append_nil], nofun⟩

theorem refl (L : Loop I W) : Leaves busy hears L L := .of_eq rfl rfl rfl

theorem trans (h : Leaves busy hears L M) (h' : Leaves busy hears M N) : Leaves busy hears L N where
  task he := by
    obtain ⟨e', he', hw, hrests⟩ := h.task he
    obtain ⟨e'', he'', hw', hrests'⟩ := h'.task he'
    refine ⟨e'', he'', fun _ hin => hw' (hw hin), fun hbusy => ?_⟩
    obtain ⟨hs, htold⟩ := hrests hbusy
    obtain ⟨hs', htold'⟩ := hrests' hbusy
    exact ⟨hs.trans hs', fun ht => htold' (htold ht)⟩
  gathering hG := by
    obtain ⟨G', hG', heq, htold⟩ := h.gathering hG
    obtain ⟨G'', hG'', heq', htold'⟩ := h'.gathering hG'
    refine ⟨G'', hG'', fun hnot => ?_, fun ht => htold' (htold ht)⟩
    rw [heq' hnot, heq hnot]
  queue := by
    obtain ⟨new, hnew, hlt⟩ := h.queue
    obtain ⟨new', hnew', hlt'⟩ := h'.queue
    refine ⟨new ++ new', by rw [hnew', hnew, List.append_assoc], fun x hx => ?_⟩
    rcases List.mem_append.1 hx with hx | hx
    · exact Nat.lt_of_lt_of_le (hlt x hx) h'.size_le
    · exact hlt' x hx

/-- Where a steady task stands. -/
theorem standing (h : Leaves busy hears L M) (hs : L.standing? t = some s) (hsteady : s.IsSteady hears)
    (hbusy : busy ≠ some t) : M.standing? t = some s := by
  obtain ⟨e, he, rfl⟩ := Option.map_eq_some_iff.1 hs
  obtain ⟨e', he', -, hrests⟩ := h.task he
  rw [standing?, he']
  exact congrArg some ((hrests hbusy).1.of_steady hsteady)

theorem running (h : Leaves none hears L M) (hs : L.standing? t = some .running) : M.standing? t = some .running :=
  h.standing hs .running nofun

/-- Who has ended without a turn had ended before. -/
theorem of_finished {r : Outcome I.Fault I.Result} (h : Leaves busy hears L M) (hs : L.standing? t = some s)
    (hM : M.standing? t = some (.finished r)) (hbusy : busy ≠ some t) : s = .finished r := by
  obtain ⟨e, he, rfl⟩ := Option.map_eq_some_iff.1 hs
  obtain ⟨e', he', -, hrests⟩ := h.task he
  rw [standing?, he'] at hM
  exact (hrests hbusy).1.of_finished (Option.some.inj hM)

/-- Who is told of the end of a task. -/
theorem watched {w : Watcher} (h : Leaves busy hears L M) (hw : L.IsWatched t w) : M.IsWatched t w := by
  obtain ⟨e, he, hin⟩ := hw
  obtain ⟨e', he', hwatchers, -⟩ := h.task he
  exact ⟨e', he', hwatchers hin⟩

/-- What is done to one task. -/
theorem modify (f : Entry I → Entry I) (h : ∀ e, L.tasks[t]? = some e → e.watchers ⊆ (f e).watchers ∧
    (busy ≠ some t → e.standing.Rests hears (f e).standing ∧ (e.isCancelling = true → (f e).isCancelling = true))) :
    Leaves busy hears L { L with tasks := L.tasks.modify t f } where
  task := by
    intro x e he
    by_cases hx : t = x
    · subst hx
      refine ⟨f e, ?_, h e he⟩
      rw [Array.getElem?_modify, if_pos rfl, he]
      rfl
    · exact ⟨e, by rw [Array.getElem?_modify, if_neg hx, he], fun _ => id, fun _ => ⟨.same _, id⟩⟩
  gathering hG := ⟨_, hG, fun _ => rfl, id⟩
  queue := ⟨[], (List.append_nil _).symm, nofun⟩

theorem place (hs : L.standing? t = some s) {s' : Standing I} (h : busy ≠ some t → s.Rests hears s') :
    Leaves busy hears L (L.place t s') := by
  refine .modify _ fun e he => ⟨fun _ => id, fun hbusy => ⟨?_, id⟩⟩
  rw [standing?, he] at hs
  obtain rfl := Option.some.inj hs
  exact h hbusy

theorem markTask {b : Bool} (h : busy ≠ some t → b = true) : Leaves busy hears L (L.markTask t b) :=
  .modify _ fun _ _ => ⟨fun _ => id, fun hbusy => ⟨.same _, fun _ => h hbusy⟩⟩

theorem watch (w : Watcher) : Leaves busy hears L (L.watch t w) :=
  .modify _ fun _ _ => ⟨fun _ hin => List.mem_append_left _ hin, fun _ => ⟨.same _, id⟩⟩

theorem enqueue {turn : Turn} (h : ∀ x, turn = .resume x → x < L.tasks.size) :
    Leaves busy hears L (L.enqueue turn) where
  task he := ⟨_, he, fun _ => id, fun _ => ⟨.same _, id⟩⟩
  gathering hG := ⟨_, hG, fun _ => rfl, id⟩
  queue := ⟨[turn], rfl, fun x hx => h x (List.mem_singleton.1 hx).symm⟩

/-- What a task has waited for has ended. -/
theorem wake (hs : L.standing? t = some s) {resume : Bool → Program I I.Result} (h : s.Rests hears (.ready resume)) :
    Leaves busy hears L (L.wake t resume) := by
  refine (place hs fun _ => h).trans (enqueue ?_)
  rintro x ⟨⟩
  obtain ⟨e, he, -⟩ := Option.map_eq_some_iff.1 hs
  change t < (L.tasks.modify t _).size
  rw [Array.size_modify]
  exact (Array.getElem?_eq_some_iff.1 he).1

theorem spawn (p : Program I I.Result) : Leaves busy hears L (L.spawn p).1 where
  task := by
    intro x e he
    refine ⟨e, ?_, fun _ => id, fun _ => ⟨.same _, id⟩⟩
    rw [tasks_spawn, if_neg (Nat.ne_of_lt (Array.getElem?_eq_some_iff.1 he).1)]
    exact he
  gathering hG := ⟨_, hG, fun _ => rfl, id⟩
  queue := by
    refine ⟨[.resume L.tasks.size], rfl, fun x hx => ?_⟩
    cases List.mem_singleton.1 hx
    change L.tasks.size < (L.tasks.push _).size
    rw [Array.size_push]
    exact Nat.lt_succ_self _

theorem deliver [DecidableEq I.Signal] (signal : I.Signal) (r : Outcome I.Fault Unit) :
    Leaves busy hears L (L.deliver signal r) := by
  rw [Loop.deliver]
  generalize List.range L.tasks.size = ts
  induction ts generalizing L with
  | nil => exact .refl L
  | cons t ts ih =>
    rw [List.foldl_cons]
    refine Leaves.trans ?_ ih
    split
    · rename_i on next hs
      split
      · exact .wake hs (.pause _ next r)
      · exact .refl L
    · exact .refl L

theorem deliverAll [DecidableEq I.Signal] (signals : List (I.Signal × Outcome I.Fault Unit)) :
    Leaves busy hears L (signals.foldl (fun L s => L.deliver s.1 s.2) L) := by
  induction signals generalizing L with
  | nil => exact .refl L
  | cons s signals ih => exact (deliver s.1 s.2).trans ih

/-! ## Giving up -/

theorem breakPause (m : Machine I W) {on : Pause I.Signal} {next : Outcome I.Fault Unit → Program I I.Result}
    (hs : L.standing? t = some (.paused on next)) : Leaves busy hears L (L.breakPause m t on next) := by
  have hwake : ∀ {M : Loop I W}, Leaves busy hears L M → M.standing? t = some (.paused on next) →
      Leaves busy hears L (M.wake t (resumption next (.error .cancelled))) := fun hM hsM =>
    hM.trans (.wake hsM (.pause on next _))
  cases on with
  | signal s => exact hwake (M := { L with world := m.forsake L.world s }) (.of_eq rfl rfl rfl) hs
  | timer micros => exact hwake (M := L.dropTimer t) (.of_eq rfl rfl rfl) hs
  | forever => exact hwake (.refl L) hs

theorem markGathering (g : Nat) : Leaves busy hears L (L.markGathering g) where
  task he := ⟨_, he, fun _ => id, fun _ => ⟨.same _, id⟩⟩
  gathering := by
    intro i G hG
    rw [Loop.markGathering, Array.getElem?_modify, hG]
    split
    · exact ⟨_, rfl, fun _ => rfl, fun _ => rfl⟩
    · exact ⟨G, rfl, fun _ => rfl, id⟩
  queue := ⟨[], (List.append_nil _).symm, nofun⟩

theorem breakWait_and_cancelTask (m : Machine I W) (depth : Nat) : ∀ {L : Loop I W} {t : TaskId},
    Leaves busy hears L (Loop.breakWait m depth L t).1 ∧ Leaves busy hears L (Loop.cancelTask m depth L t).1 := by
  induction depth with
  | zero => exact ⟨.refl _, .refl _⟩
  | succ depth ih =>
    intro L t
    have hall : ∀ (us : List TaskId) (acc : Loop I W × Bool), Leaves busy hears acc.1
        (us.foldl (fun (acc : Loop I W × Bool) u =>
          ((Loop.cancelTask m depth acc.1 u).1, acc.2 || (Loop.cancelTask m depth acc.1 u).2)) acc).1 := by
      intro us
      induction us with
      | nil => exact fun _ => .refl _
      | cons u us ihus =>
        intro acc
        rw [List.foldl_cons]
        have hrest := ihus ((Loop.cancelTask m depth acc.1 u).1, acc.2 || (Loop.cancelTask m depth acc.1 u).2)
        exact ih.2.trans hrest
    constructor
    · rw [Loop.breakWait]
      split
      · exact .breakPause m ‹_›
      · exact ih.2
      · change Leaves busy hears L (if _ then _ else _)
        split
        · exact (hall _ (L, false)).trans (.markGathering _)
        · exact hall _ (L, false)
      · exact .refl L
    · rw [Loop.cancelTask]
      split
      · exact .refl L
      · exact .refl L
      · change Leaves busy hears L (if _ then _ else _)
        split
        · exact ih.1
        · exact ih.1.trans (.markTask fun _ => rfl)

theorem cancel (m : Machine I W) (t : TaskId) : Leaves busy hears L (L.cancel m t) := (breakWait_and_cancelTask m _).2

/-- The task that has its turn waits, or gives up at once. -/
theorem suspend (m : Machine I W) (hs : L.standing? t = some .running) (s : Standing I) :
    Leaves (some t) hears L (L.suspend m t s) := by
  have hplace : Leaves (some t) hears L (L.place t s) := .place hs fun h => absurd rfl h
  rw [Loop.suspend]
  dsimp only
  split
  · split
    · exact (hplace.trans (breakWait_and_cancelTask m _).1).trans (.markTask fun h => absurd rfl h)
    · exact hplace.trans (breakWait_and_cancelTask m _).1
  · exact hplace

/-! ## Ends of tasks -/

theorem tell (t : TaskId) (r : Outcome I.Fault I.Result) (w : Watcher) : Leaves busy hears L (L.tell t r w) := by
  cases w with
  | gathering g => exact .enqueue (by rintro _ ⟨⟩)
  | task u =>
    rw [Loop.tell]
    split
    · exact .wake ‹_› (.await _ _ r)
    · exact .refl L

theorem tellAll (t : TaskId) (r : Outcome I.Fault I.Result) (ws : List Watcher) :
    Leaves busy hears L (ws.foldl (fun L w => L.tell t r w) L) := by
  induction ws generalizing L with
  | nil => exact .refl L
  | cons w ws ih => exact (tell t r w).trans ih

theorem finish (hs : L.standing? t = some .running) (r : Outcome I.Fault I.Result) :
    Leaves (some t) hears L (L.finish t r) := by
  have hplace : Leaves (some t) hears L (L.place t (.finished r)) := .place hs fun h => absurd rfl h
  have htell := hplace.trans (tellAll t r (((L.tasks[t]?).map (·.watchers)).getD []))
  rw [Loop.finish.eq_def]
  dsimp only
  split
  · exact htell.trans (.of_eq rfl rfl rfl)
  · exact htell

theorem attendAll (g : Nat) (ts : List TaskId) : Leaves busy hears L (ts.foldl (fun L t => L.attend g t) L) := by
  induction ts generalizing L with
  | nil => exact .refl L
  | cons u ts ih =>
    rw [List.foldl_cons]
    refine Leaves.trans ?_ ih
    rw [attend]
    split
    · exact .enqueue (by rintro _ ⟨⟩)
    · exact .watch _

theorem convene (t : TaskId) (ts : List TaskId) (patient : Bool) : Leaves busy hears L (L.convene t ts patient).1 := by
  let G : Gathering := { owner := t, members := ts, missing := ts.length, patient := patient }
  have hpush : Leaves busy hears L { L with gatherings := L.gatherings.push G } := by
    refine ⟨fun he => ⟨_, he, fun _ => id, fun _ => ⟨.same _, id⟩⟩, fun {g G} hG => ⟨G, ?_, fun _ => rfl, id⟩,
      [], (List.append_nil _).symm, nofun⟩
    rw [Array.getElem?_push, if_neg (Nat.ne_of_lt (Array.getElem?_eq_some_iff.1 hG).1)]
    exact hG
  exact hpush.trans (attendAll L.gatherings.size ts)

/-! ## Turns -/

variable [DecidableEq I.Signal]

theorem call (m : Machine I W) (q : I.Call) : Leaves busy hears L ((m.perform L.now L.world q).2.2.foldl
    (fun L s => L.deliver s.1 s.2) { L with world := (m.perform L.now L.world q).1 }) :=
  Leaves.trans (M := { L with world := (m.perform L.now L.world q).1 }) (.of_eq rfl rfl rfl) (deliverAll _)

/-- In its turn a task leaves the others where they are. -/
theorem exec (m : Machine I W) (t : TaskId) (p : Program I I.Result) : ∀ {L : Loop I W},
    L.standing? t = some .running → Leaves (some t) hears L (Loop.exec m t p L) := by
  induction p with
  | done r => exact fun hs => .finish hs _
  | call q next ih =>
    intro L hs
    exact (call m q).trans (ih _ (standing?_deliverAll _ hs nofun))
  | pause on next =>
    intro L hs
    cases on with
    | timer micros =>
      have htimer : Leaves (some t) hears L (L.setTimer micros (.wake t)) := .of_eq rfl rfl rfl
      exact htimer.trans (suspend (L := L.setTimer micros (.wake t)) m hs _)
    | signal | forever => exact .suspend m hs _
  | fork job next ih => exact fun hs => (spawn _).trans (ih _ (standing?_spawn _ hs))
  | cancel u next ih =>
    intro L hs
    have hcancel : Leaves none hears L (L.cancel m u) := .cancel m u
    exact (cancel m u).trans (ih (hcancel.running hs))
  | await u next ih =>
    intro L hs
    rw [Loop.exec]
    split
    · exact ih _ hs
    · exact (watch _).trans (.suspend m ((standing?_watch ..).trans hs) _)
  | gather ts patient next ih =>
    intro L hs
    cases ts with
    | nil => exact ih _ hs
    | cons u ts =>
      have hconvene : Leaves none hears L (L.convene t (u :: ts) patient).1 := .convene t _ _
      exact (convene t (u :: ts) patient).trans (suspend m (hconvene.running hs) _)

theorem intervene (m : Machine I W) (q : I.Call) : Leaves busy hears L (L.intervene m q) := call m q

theorem goOff (m : Machine I W) (alarm : Alarm I) : Leaves busy hears L (L.goOff m alarm) := by
  cases alarm with
  | call q => exact .intervene m q
  | cancel t => exact .cancel m t
  | wake t =>
    rw [Loop.goOff]
    split
    · exact .wake ‹_› (.pause _ _ _)
    · exact .refl L

end Leaves

/-! ## The end of a turn -/

section
variable {L : Loop I W} {t : TaskId} {g : Nat}

/-- A task that begins to wait does so, or what it waits for is broken off at once. -/
theorem rests_suspend (m : Machine I W) (hs : L.standing? t = some .running) (s : Standing I) :
    ∃ s', (L.suspend m t s).standing? t = some s' ∧ s.Rests false s' := by
  have hplace : (L.place t s).standing? t = some s := by
    rw [standing?_place, if_pos rfl, hs]
    rfl
  have hbreak : ∃ s', (breakWait m (L.place t s).chainBound (L.place t s) t).1.standing? t = some s' ∧
      s.Rests false s' := by
    obtain ⟨e, he, rfl⟩ := Option.map_eq_some_iff.1 hplace
    have hleaves : Leaves none false (L.place t e.standing) _ :=
      (Leaves.breakWait_and_cancelTask m (L.place t e.standing).chainBound (t := t)).1
    obtain ⟨e', he', -, hrests⟩ := hleaves.task he
    exact ⟨e'.standing, by rw [standing?, he']; rfl, (hrests nofun).1⟩
  rw [suspend]
  dsimp only
  split
  · split
    · rw [standing?_markTask]
      exact hbreak
    · exact hbreak
  · exact ⟨s, hplace, .same s⟩

variable [DecidableEq I.Signal]

/-- A gathering that watches a task hears of its end. -/
theorem hear_mem_exec (m : Machine I W) (p : Program I I.Result) : ∀ {L : Loop I W},
    L.standing? t = some .running → L.IsWatched t (.gathering g) → ∀ {r},
      (exec m t p L).standing? t = some (.finished r) → .hear g t ∈ (exec m t p L).queue := by
  have hwaits : ∀ {L : Loop I W} {s r}, L.standing? t = some .running → (∀ r, s ≠ .finished r) →
      (L.suspend m t s).standing? t = some (.finished r) → .hear g t ∈ (L.suspend m t s).queue := by
    intro L s r hs hne hr
    obtain ⟨s', hs', hrests⟩ := rests_suspend m hs s
    exact absurd (hrests.of_finished (Option.some.inj (hs'.symm.trans hr))) (hne r)
  induction p with
  | done r =>
    intro L hs hw _ _
    obtain ⟨e, he, hin⟩ := hw
    obtain ⟨M, hM, b, heq⟩ := exists_informed he (L.ending t r)
    have hcount := hM.hears g t
    rw [if_pos rfl] at hcount
    rw [exec, heq]
    change .hear g t ∈ M.queue
    rw [← List.count_pos_iff, hcount]
    exact Nat.lt_of_lt_of_le (List.count_pos_iff.2 hin) (Nat.le_add_left _ _)
  | call q next ih =>
    intro L hs hw r
    have hcall : Leaves none false L _ := .call m q
    exact ih _ (hcall.running hs) (hcall.watched hw)
  | pause on next =>
    intro L hs hw r
    cases on with
    | timer micros => exact hwaits (L := L.setTimer micros (.wake t)) hs fun _ => by simp
    | signal | forever => exact hwaits hs fun _ => by simp
  | fork job next ih =>
    intro L hs hw r
    have hspawn : Leaves none false L (L.spawn (m.program job)).1 := .spawn _
    exact ih _ (hspawn.running hs) (hspawn.watched hw)
  | cancel u next ih =>
    intro L hs hw r
    have hcancel : Leaves none false L (L.cancel m u) := .cancel m u
    exact ih (hcancel.running hs) (hcancel.watched hw)
  | await u next ih =>
    intro L hs hw r
    rw [exec]
    split
    · exact ih _ hs hw
    · exact hwaits ((standing?_watch ..).trans hs) fun _ => by simp
  | gather ts patient next ih =>
    intro L hs hw r
    cases ts with
    | nil => exact ih _ hs hw
    | cons u ts =>
      have hconvene : Leaves none false L (L.convene t (u :: ts) patient).1 := .convene t _ _
      exact hwaits (hconvene.running hs) fun _ => by simp

end

/-! ## What a gathering hears -/

/-- What a gathering hears moves nobody but who waits for it. -/
theorem Leaves.hear {busy : Option TaskId} (L : Loop I W) (g : Nat) (t : TaskId) :
    Leaves busy true L (L.hear g t) := by
  have hmodify : ∀ (L : Loop I W) (f : Gathering → Gathering), (∀ G, (f G).isCancelling = G.isCancelling) →
      Leaves busy true L { L with gatherings := L.gatherings.modify g f } := by
    intro L f hf
    refine ⟨fun he => ⟨_, he, fun _ => id, fun _ => ⟨.same _, id⟩⟩, fun {i G} hG => ?_, [],
      (List.append_nil _).symm, nofun⟩
    by_cases hi : g = i
    · subst hi
      refine ⟨f G, ?_, nofun, fun h => (hf G).trans h⟩
      rw [Array.getElem?_modify, if_pos rfl, hG]
      rfl
    · exact ⟨G, by rw [Array.getElem?_modify, if_neg hi, hG], nofun, id⟩
  have hconclude : ∀ (L : Loop I W) owner r, Leaves busy true L (L.conclude g owner r) := by
    intro L owner r
    rw [conclude]
    split
    · exact (hmodify L (fun e => { e with isOver := true }) fun _ => rfl).trans (.wake ‹_› (.gather rfl _ _ r))
    · exact hmodify L _ fun _ => rfl
  have hless := hmodify L (fun e => { e with missing := e.missing - 1 }) fun _ => rfl
  rw [Loop.hear]
  dsimp only
  split
  · split
    · exact hless
    · split
      · exact hless.trans (hconclude _ _ _)
      · split
        · exact hless.trans (hconclude _ _ _)
        · exact hless
  · exact hless

end Loop

/-! ## Moves -/

namespace Happening

/-- Who has its turn. -/
def busy : Happening I → Option TaskId
  | turn t _ => some t
  | _ => none

/-- Whether a gathering hears of an end. -/
def hears : Happening I → Bool
  | hear _ _ => true
  | _ => false

/-- The turn that is taken. -/
def turn? : Happening I → Option Turn
  | turn t _ | stale t => some (.resume t)
  | hear g t => some (.hear g t)
  | _ => none

end Happening

namespace Loop

variable [DecidableEq I.Signal] {m : Machine I W} {L M : Loop I W} {e : Happening I} {t : TaskId}

omit [DecidableEq I.Signal] in
/-- A task that begins its turn leaves the others where they are. -/
theorem leaves_begun {rest : List Turn} {resume : Bool → Program I I.Result} {isCancelling : Bool}
    {watchers : List Watcher} (ht : L.tasks[t]? = some ⟨.ready resume, isCancelling, watchers⟩) :
    Leaves (some t) false { L with queue := rest } (L.begun t rest) := by
  have hs : standing? { L with queue := rest } t = some (.ready resume) := by
    change (L.tasks[t]?).map (·.standing) = _
    rw [ht]
    rfl
  exact (Leaves.place hs fun h => absurd rfl h).trans (.markTask fun h => absurd rfl h)

omit [DecidableEq I.Signal] in
theorem standing?_begun {rest : List Turn} {resume : Bool → Program I I.Result} {isCancelling : Bool}
    {watchers : List Watcher} (ht : L.tasks[t]? = some ⟨.ready resume, isCancelling, watchers⟩) :
    (L.begun t rest).standing? t = some .running := by
  rw [begun, standing?_markTask, standing?_place, if_pos rfl]
  change ((L.tasks[t]?).map (·.standing)).map _ = _
  rw [ht]
  rfl

/-- A move takes the first turn of the queue, if any, and leaves all but the busy task where they are. -/
theorem Next.leaves (h : Next m L e M) :
    ∃ rest, L.queue = e.turn?.toList ++ rest ∧ Leaves e.busy e.hears { L with queue := rest } M := by
  cases h with
  | turn hq ht => exact ⟨_, hq, (leaves_begun ht).trans (.exec m _ _ (standing?_begun ht))⟩
  | stale hq ht => exact ⟨_, hq, .refl _⟩
  | hear hq => exact ⟨_, hq, .hear _ _ _⟩
  | @tick r others hr =>
    have hclock : Leaves none false L { L with now := max L.now r.due, timers := others } := .of_eq rfl rfl rfl
    exact ⟨L.queue, rfl, hclock.trans (.goOff m r.alarm)⟩
  | tell t => exact ⟨L.queue, rfl, .cancel m t⟩
  | happen q => exact ⟨L.queue, rfl, .intervene m q⟩
  | start job => exact ⟨L.queue, rfl, .spawn _⟩
  | set micros alarm => exact ⟨L.queue, rfl, .of_eq rfl rfl rfl⟩
  | note isInterrupted => exact ⟨L.queue, rfl, .of_eq rfl rfl rfl⟩

theorem Next.standing {s : Standing I} (h : Next m L e M) (hs : L.standing? t = some s) (hsteady : s.IsSteady e.hears)
    (hb : e.busy ≠ some t) : M.standing? t = some s := by
  obtain ⟨rest, -, hleaves⟩ := h.leaves
  exact hleaves.standing (L := { L with queue := rest }) hs hsteady hb

/-! ## Ends of tasks -/

/-- Who has its turn was ready for it. -/
theorem Next.ready (h : Next m L e M) (hb : e.busy = some t) : ∃ resume, L.standing? t = some (.ready resume) := by
  cases h with
  | turn hq ht =>
    cases hb
    exact ⟨_, by rw [standing?, ht]; rfl⟩
  | stale | hear | tick | tell | happen | start | set | note => cases hb

/-- Who has ended stays so. -/
theorem Next.finished {r : Outcome I.Fault I.Result} (h : Next m L e M) (hs : L.standing? t = some (.finished r)) :
    M.standing? t = some (.finished r) := by
  refine h.standing hs (.finished r) fun hb => ?_
  obtain ⟨resume, hready⟩ := h.ready hb
  cases hs.symm.trans hready

/-- Who ends in a move has its turn in it. -/
theorem Next.ends {r : Outcome I.Fault I.Result} {s : Standing I} (h : Next m L e M) (hs : L.standing? t = some s)
    (hne : ∀ r, s ≠ .finished r) (hM : M.standing? t = some (.finished r)) : e.busy = some t := by
  obtain ⟨rest, -, hleaves⟩ := h.leaves
  exact Decidable.of_not_not fun hb => hne r (hleaves.of_finished (L := { L with queue := rest }) hs hM hb)

/-- A gathering that watches a task hears when it ends. -/
theorem Next.hear_mem {r : Outcome I.Fault I.Result} {s : Standing I} {g : Nat} (h : Next m L e M)
    (hs : L.standing? t = some s) (hne : ∀ r, s ≠ .finished r) (hM : M.standing? t = some (.finished r))
    (hw : L.IsWatched t (.gathering g)) : .hear g t ∈ M.queue := by
  have hb := h.ends hs hne hM
  cases h with
  | turn hq ht =>
    cases hb
    exact hear_mem_exec m _ (standing?_begun ht) ((leaves_begun ht).watched hw) hM
  | stale | hear | tick | tell | happen | start | set | note => cases hb

/-! ## Turns that are due -/

/-- What stands in a queue stays there, behind no more, unless its turn comes. -/
theorem exists_queue {first? : Option Turn} {turn : Turn} {q₁ q₂ rest : List Turn}
    (hq : q₁ ++ turn :: q₂ = first?.toList ++ rest) (hne : first? ≠ some turn) :
    ∃ q, rest = q ++ turn :: q₂ ∧ q ⊆ q₁ := by
  cases first? with
  | none => exact ⟨q₁, hq.symm, fun _ => id⟩
  | some first =>
    cases q₁ with
    | nil =>
      obtain ⟨rfl, -⟩ := List.cons.inj hq
      exact absurd rfl hne
    | cons first' q => exact ⟨q, (List.cons.inj hq).2.symm, fun _ => List.mem_cons_of_mem _⟩

/-- Only those tasks are due that there are. -/
def IsSound (L : Loop I W) : Prop := ∀ x, .resume x ∈ L.queue → x < L.tasks.size

omit [DecidableEq I.Signal] in
theorem Leaves.isSound {busy : Option TaskId} {hears : Bool} (h : Leaves busy hears L M) (hL : L.IsSound) :
    M.IsSound := by
  intro x hx
  obtain ⟨new, hnew, hlt⟩ := h.queue
  rw [hnew] at hx
  rcases List.mem_append.1 hx with hx | hx
  · exact Nat.lt_of_lt_of_le (hL x hx) h.size_le
  · exact hlt x hx

theorem Next.isSound (h : Next m L e M) (hL : L.IsSound) : M.IsSound := by
  obtain ⟨rest, hq, hleaves⟩ := h.leaves
  exact hleaves.isSound fun x hx => hL x (hq ▸ List.mem_append_right _ hx)

theorem Arises.isSound (h : Arises m L) : L.IsSound := by
  obtain ⟨w, es, hL⟩ := h
  induction hL with
  | refl => exact nofun
  | step _ he ih => exact he.isSound ih

/-! ## In the middle of a turn -/

namespace ComesTo

variable {p : Program I I.Result}

theorem running (h : ComesTo m t p L) : L.standing? t = some .running := by
  have hleaves : ∀ {L M : Loop I W}, L.standing? t = some .running → Leaves none false L M →
      M.standing? t = some .running := fun hL hM => hM.running hL
  induction h with
  | turn _ _ ht => exact standing?_begun ht
  | call _ ih => exact hleaves ih (.call m _)
  | fork _ ih => exact hleaves ih (.spawn _)
  | cancel _ ih => exact hleaves ih (.cancel m _)
  | learn _ _ ih => exact ih
  | meet _ ih => exact ih

theorem isSound (h : ComesTo m t p L) : L.IsSound := by
  have hleaves : ∀ {L M : Loop I W}, L.IsSound → Leaves none false L M → M.IsSound := fun hL hM => hM.isSound hL
  induction h with
  | turn hL hq ht => exact (leaves_begun ht).isSound fun x hx => hL.isSound x (hq ▸ List.mem_cons_of_mem _ hx)
  | call _ ih => exact hleaves ih (.call m _)
  | fork _ ih => exact hleaves ih (.spawn _)
  | cancel _ ih => exact hleaves ih (.cancel m _)
  | learn _ _ ih => exact ih
  | meet _ ih => exact ih

end ComesTo
end Loop
end BrowserPlan.Task
