import BrowserPlan.Proofs.Task.Gatherings

/-!
# Runs of a task loop are histories of a crew

Whatever a task loop comes to, a crew can come to as well: in a turn (`Enacts.take`), when a timer goes off
(`Enacts.goOff`), and so in any number of them (`Enacts.run`, `Enacts.seeOut`, `Enacts.cleanUp`). What holds
of a crew in all its histories thereby holds of the loop.
-/
namespace BrowserPlan.Task.Loop

variable {I : Interface} {W : Type} {m : Machine I W} {outside : I.Call → Prop} {tellable : TaskId → Prop}
  {L : Loop I W} {c : Crew I W} {t u : TaskId} {s : Standing I} {x : Member I} {r : Outcome I.Fault I.Result}

/-! ## A task is started -/

section
variable (L) (p : Program I I.Result)

theorem tasks_spawn (u : TaskId) : (L.spawn p).1.tasks[u]? = if u = L.tasks.size then
    some { standing := .ready fun isCancelling => if isCancelling then .done (.error .cancelled) else p }
      else L.tasks[u]? := Array.getElem?_push

theorem size_spawn : (L.spawn p).1.tasks.size = L.tasks.size + 1 := Array.size_push _

theorem standing?_spawn_self : (L.spawn p).1.standing? L.tasks.size =
    some (.ready fun isCancelling => if isCancelling then .done (.error .cancelled) else p) := by
  rw [standing?, tasks_spawn, if_pos rfl]
  rfl

variable {L}

theorem standing?_spawn (hs : L.standing? u = some s) : (L.spawn p).1.standing? u = some s := by
  obtain ⟨e, he, rfl⟩ := Option.map_eq_some_iff.1 hs
  rw [standing?, tasks_spawn, if_neg (Nat.ne_of_lt (Array.getElem?_eq_some_iff.1 he).1), he]
  rfl

theorem due_spawn (g : Nat) (u : TaskId) : (L.spawn p).1.due g u = L.due g u := by
  have hqueue : (L.spawn p).1.queue.count (.hear g u) = L.queue.count (.hear g u) := by
    change (L.queue ++ [_]).count _ = _
    rw [List.count_append, List.count_singleton]
    rfl
  rw [due, due, hqueue, tasks_spawn]
  split
  · rename_i hu
    rw [Array.getElem?_eq_none (Nat.le_of_eq hu.symm)]
    rfl
  · rfl

end

/-- A task is started, and a member is. -/
theorem Enacts.spawn (h : Enacts outside tellable L c) (m : Machine I W) (job : I.Job) :
    Enacts outside tellable (L.spawn (m.program job)).1 (c.start m job) := by
  have hmember : ∀ {u x}, c.members[u]? = some x → (c.start m job).members[u]? = some x := fun hx =>
    (List.getElem?_append_left (Crew.lt_of_member hx)).trans hx
  have hresult : ∀ u r, c.result? u = some r → (c.start m job).result? u = some r := by
    intro u r hr
    obtain ⟨x, hx, hxr⟩ := Option.bind_eq_some_iff.1 hr
    exact Option.bind_eq_some_iff.2 ⟨x, hmember hx, hxr⟩
  refine ⟨h.world, ?_, ?_, ?_, ?_, ?_, ?_, ?_, h.timers⟩
  · change (L.tasks.push _).size = (c.members ++ [_]).length
    rw [Array.size_push, List.length_append, h.size]
    rfl
  · intro u e y he hy
    rw [tasks_spawn] at he
    split at he
    · rename_i hu
      obtain rfl := Option.some.inj he
      have hlast : (c.start m job).members[u]? = some { job := job, rest := m.program job } := by
        rw [hu, h.size]
        exact List.getElem?_concat_length
      obtain rfl := Option.some.inj (hlast.symm.trans hy)
      exact ⟨.ready rfl (.new rfl rfl rfl), by rintro ⟨⟩⟩
    · obtain ⟨x, hx, hfits, htold⟩ := h.exists_member he
      obtain rfl := Option.some.inj ((hmember hx).symm.trans hy)
      exact ⟨hfits.follow (fun d hd => hd.mono (fun _ => id) hresult) rfl (.inr ⟨rfl, rfl⟩), htold⟩
  · intro u e v he hun hv
    rw [tasks_spawn] at he
    split at he
    · obtain rfl := Option.some.inj he
      cases hv
    · exact (h.watched he hun hv).imp fun _ => standing?_spawn _
  · intro u g next hs
    rw [standing?, tasks_spawn] at hs
    split at hs
    · cases hs
    · exact h.gathering hs
  · intro g G hG hover
    obtain ⟨⟨next, x, hs, hx, howner⟩, ts, hts⟩ := h.gathers hG hover
    exact ⟨⟨next, x, standing?_spawn _ hs, hmember hx, howner⟩, ts, hts.length, hts.mem,
      fun u => (due_spawn ..).symm ▸ hts.due u, fun u hu hn => (hts.heard u hu hn).imp fun r hr => ⟨hresult u r hr.1, hr.2⟩⟩
  · intro g u hg
    rw [due_spawn]
    exact h.fresh hg
  · intro g u hin
    rcases List.mem_append.1 hin with hin | hin
    · exact (h.ended hin).imp fun _ => standing?_spawn _
    · cases List.mem_singleton.1 hin

/-! ## A turn -/

/-- It makes no difference whether a task first begins to wait or is first watched. -/
theorem place_watch (L : Loop I W) (t u : TaskId) (s : Standing I) (w : Watcher) :
    (L.watch u w).place t s = (L.place t s).watch u w := by
  unfold place watch
  dsimp only
  congr 1
  refine Array.ext_getElem? fun i => ?_
  simp only [Array.getElem?_modify]
  split <;> split <;> cases L.tasks[i]? <;> rfl

/-- Where a loop stands in which the program `p` of the task `t` has its turn. -/
structure Runs (outside : I.Call → Prop) (tellable : TaskId → Prop) (t : TaskId) (p : Program I I.Result)
    (L : Loop I W) (c : Crew I W) : Prop where
  enacts : Enacts outside tellable L c
  running : L.standing? t = some .running
  member : ∃ x, c.members[t]? = some x ∧ x.result = none ∧ x.rest = p

variable {p q : Program I I.Result} {d : Deed I} {c' : Crew I W}

namespace Runs

theorem follows (h : Runs outside tellable t p L c) {M : Loop I W} (hd : p.Does d q)
    (ha : ∀ b, Crew.Allows m c b d c') (hM : Follows m outside tellable (c'.goOn t q) M) :
    Follows m outside tellable c M := by
  obtain ⟨x, hx, hr, hrest⟩ := h.member
  exact hM.after_step (.act hx hr (hrest ▸ hd) (ha x.isTold)) (by rintro _ ⟨⟩)

/-- The member goes on as `q`, in a crew that has come to where the loop stands. -/
theorem goOn (h : Enacts outside tellable L c) (hs : L.standing? t = some .running) (q : Program I I.Result) :
    Runs outside tellable t q L (c.goOn t q) := by
  obtain ⟨x, hx, hfits⟩ := h.exists_of_standing hs
  cases hfits with
  | running hr => exact ⟨h.goOn hs q, hs, _, Crew.members_alter_self hx _, hr, rfl⟩

/-- The task ends, and so does its member. -/
theorem finish (h : Runs outside tellable t (.done r) L c) :
    Follows m outside tellable c (L.finish t (L.ending t r)) := by
  obtain ⟨x, hx, hr, hrest⟩ := h.member
  refine (h.enacts.finish h.running _).follows.after_step (e := .finish t (L.ending t r)) ?_ (by rintro _ ⟨⟩)
  cases r with
  | error s => exact .finish hx hr hrest
  | ok a =>
    rw [ending]
    split
    · rename_i hany
      obtain ⟨e, he, hcancelling⟩ := (Option.any_eq_true _ _).1 hany
      exact .giveUp hx hr hrest ((h.enacts.fits he hx).2 hcancelling)
    · exact .finish hx hr hrest

theorem place (h : Runs outside tellable t p L c) (hplain : s.IsPlain)
    (hfits : ∀ x, x.result = none → x.rest = p → Fits c x s) : Enacts outside tellable (L.place t s) c := by
  obtain ⟨x, hx, hr, hrest⟩ := h.member
  refine h.enacts.place h.running .running hplain fun y hy => ?_
  obtain rfl := Option.some.inj (hx.symm.trans hy)
  exact hfits x hr hrest

theorem setTimer (h : Runs outside tellable t p L c) (micros : Nat) :
    Runs outside tellable t p (L.setTimer micros (.wake t)) c :=
  ⟨h.enacts.setTimer micros (.wake t) trivial, h.running, h.member⟩

/-- The task has asked the world, and has heard the answer. -/
theorem call [DecidableEq I.Signal] {q : I.Call} {next : I.Answer q → Program I I.Result}
    (h : Runs outside tellable t (.call q next) L c) (m : Machine I W) :
    Runs outside tellable t (next (m.perform L.now L.world q).2.1) ((m.perform L.now L.world q).2.2.foldl
      (fun L s => L.deliver s.1 s.2) { L with world := (m.perform L.now L.world q).1 })
      ((c.perform m L.now q).goOn t (next (m.perform L.now L.world q).2.1)) := by
  have hc := h.enacts.perform m L.now q
  have hrun := goOn hc h.running (next (m.perform L.now L.world q).2.1)
  refine ⟨hrun.enacts.deliverAll fun s hs => List.mem_append_right _ ?_,
    standing?_deliverAll _ hrun.running (by rintro _ _ ⟨⟩), hrun.member⟩
  rw [← h.enacts.world]
  exact hs

theorem fork {job : I.Job} {next : TaskId → Program I I.Result} (h : Runs outside tellable t (.fork job next) L c)
    (m : Machine I W) : Runs outside tellable t (next L.tasks.size) (L.spawn (m.program job)).1
      ((c.start m job).goOn t (next L.tasks.size)) :=
  goOn (h.enacts.spawn m job) (standing?_spawn _ h.running) _

/-- The task has told another one to give up. -/
theorem stop {next : Program I I.Result} (h : Runs outside tellable t (.cancel u next) L c) (m : Machine I W) :
    ∃ d, Crew.Comes m outside tellable ((c.tell u).goOn t next) d ∧ Runs outside tellable t next (L.cancel m u) d := by
  have hrun := goOn (h.enacts.tell u) h.running next
  have htold : ((c.tell u).goOn t next).IsTold u := by
    intro y hy
    rw [Crew.goOn, Crew.members_alter] at hy
    split at hy
    · obtain ⟨x, hx, rfl⟩ := Option.map_eq_some_iff.1 hy
      exact c.isTold_tell u x hx
    · exact c.isTold_tell u y hy
  obtain ⟨x, hx, hr, hrest⟩ := hrun.member
  obtain ⟨d, hcomes, hd, hstays⟩ := hrun.enacts.cancel (m := m) htold
  obtain ⟨hs, y, hy, hyrest, hyr, -⟩ := hstays hrun.running (by rintro _ _ ⟨⟩) hx
  exact ⟨d, hcomes, hd, hs, y, hy, hyr.trans hr, hyrest.trans hrest⟩

/-- A task keeps its turn until it has to wait or ends, and its member takes the same steps. -/
theorem exec [DecidableEq I.Signal] (m : Machine I W) (p : Program I I.Result) : ∀ {L : Loop I W} {c : Crew I W},
    Runs outside tellable t p L c → Follows m outside tellable c (Loop.exec m t p L) := by
  induction p with
  | done _ => exact fun h => h.finish
  | call q next ih =>
    intro L c h
    exact h.follows (.ask q next _) (fun _ => .ask L.now (by rw [h.enacts.world])) (ih _ (h.call m))
  | pause on next =>
    intro L c h
    have hpaused : ∀ {L}, Runs outside tellable t (.pause on next) L c →
        Follows m outside tellable c (L.suspend m t (.paused on next)) := fun h =>
      Enacts.suspend (h.place (.loose (.paused on next)) fun _ hr hrest => .paused hr hrest)
    cases on with
    | timer micros => exact hpaused (h.setTimer micros)
    | signal | forever => exact hpaused h
  | fork job next ih =>
    intro L c h
    exact h.follows (.start job next _) (fun _ => .start job h.enacts.size) (ih _ (h.fork m))
  | cancel u next ih =>
    intro L c h
    obtain ⟨d, hcomes, hd⟩ := h.stop m
    obtain ⟨d', hcomes', hd'⟩ := ih hd
    exact h.follows (.stop u next) (fun _ => .stop u) ⟨d', hcomes.trans hcomes', hd'⟩
  | await u next ih =>
    intro L c h
    rw [Loop.exec]
    split
    · rename_i r hs
      exact h.follows (.learn u next r) (fun _ => .wait (.learn (h.enacts.finished_iff.1 hs)))
        (ih r (goOn h.enacts h.running _))
    · have hwaits := h.place (.awaiting u next) fun _ hr hrest => .awaiting hr hrest
      have hs : (L.place t (.awaiting u next)).standing? t = some (.awaiting u next) := by
        rw [standing?_place, if_pos rfl, h.running]
        rfl
      refine Enacts.suspend ?_
      rw [place_watch]
      exact hwaits.watch hs
  | gather ts patient next ih =>
    intro L c h
    cases ts with
    | nil =>
      refine h.follows (.meet [] patient next (.ok ())) (fun _ => .wait ?_) (ih _ (goOn h.enacts h.running _))
      cases patient with
      | true => exact .all (List.forall_mem_nil _)
      | false => exact .good (List.forall_mem_nil _)
    | cons u ts =>
      obtain ⟨x, hx, -, hrest⟩ := h.member
      exact Enacts.suspend (h.enacts.gather h.running hx hrest)

end Runs

namespace Enacts

variable [DecidableEq I.Signal] {M : Loop I W} {first : Turn} {rest : List Turn}

omit [DecidableEq I.Signal] in
/-- A task that is ready begins its turn; one that has not begun and was told to give up does not even begin. -/
theorem begins (h : Enacts outside tellable L c) (m : Machine I W) {resume : Bool → Program I I.Result}
    {isCancelling : Bool} {watchers : List Watcher} (he : L.tasks[t]? = some ⟨.ready resume, isCancelling, watchers⟩) :
    (∃ d, Crew.Comes m outside tellable c d ∧
      Runs outside tellable t (resume isCancelling) ((L.place t .running).markTask t false) d) ∨
    resume isCancelling = .done (.error .cancelled) ∧
      Follows m outside tellable c (((L.place t .running).markTask t false).finish t (.error .cancelled)) := by
  have hs : L.standing? t = some (.ready resume) := by
    rw [standing?, he]
    rfl
  obtain ⟨x, hx, hfits, htold⟩ := h.exists_member he
  obtain ⟨hr, hprepared⟩ : x.result = none ∧ Prepared c x resume := by
    cases hfits with
    | ready hr h => exact ⟨hr, h⟩
  have hruns : Enacts outside tellable ((L.place t .running).markTask t false) c := by
    refine (h.place hs (.ready resume) (.loose .running) fun y hy => ?_).markTask (by rintro ⟨⟩)
    obtain rfl := Option.some.inj (hx.symm.trans hy)
    exact .running hr
  have hrunning : ((L.place t .running).markTask t false).standing? t = some .running := by
    rw [standing?_markTask, standing?_place, if_pos rfl, hs]
    rfl
  -- a step of the member comes before the turn, in which it learns what it has waited for
  have hlearns : ∀ {d}, x.rest.Does d (resume isCancelling) → Crew.Allows m c x.isTold d c → ∃ d,
      Crew.Comes m outside tellable c d ∧
        Runs outside tellable t (resume isCancelling) ((L.place t .running).markTask t false) d :=
    fun hd ha => ⟨_, .of_step (.act hx hr hd ha) (by rintro _ ⟨⟩), Runs.goOn hruns hrunning _⟩
  cases hprepared with
  | new hnew hgo hcancel =>
    cases isCancelling with
    | false => exact .inl ⟨c, .refl c, hruns, hrunning, x, hx, hr, hgo.symm⟩
    | true =>
      exact .inr ⟨hcancel, (hruns.finish hrunning _).follows.after_step (.balk hx hr hnew (htold rfl)) (by rintro _ ⟨⟩)⟩
  | heard d ho hgo hcancel =>
    cases isCancelling with
    | false => exact .inl (hlearns hgo (.wait ho))
    | true => exact .inl (hlearns hcancel (.late (htold rfl) ho rfl))
  | going hgo => exact .inl ⟨c, .refl c, hruns, hrunning, x, hx, hr, (hgo _).symm⟩

/-- A task that is ready has its turn, as long as it goes on. -/
theorem resume (h : Enacts outside tellable L c) (m : Machine I W) (t : TaskId) :
    Follows m outside tellable c (L.resume m t) := by
  rw [Loop.resume]
  split
  · rename_i resume isCancelling watchers he
    rcases h.begins m he with ⟨d, hcomes, hruns⟩ | ⟨hdone, hfollows⟩
    · obtain ⟨d', hcomes', hd'⟩ := Runs.exec m _ hruns
      exact ⟨d', hcomes.trans hcomes', hd'⟩
    · rw [hdone]
      exact hfollows
  · exact h.follows

/-- The next turn is taken. -/
theorem take (h : Enacts outside tellable L c) (m : Machine I W) (hq : L.queue = first :: rest) :
    Follows m outside tellable c ({ L with queue := rest }.take m first) := by
  cases first with
  | hear g t => exact h.hear hq
  | resume t =>
    have hrest : Enacts outside tellable { L with queue := rest } c :=
      h.revise rfl rfl rfl (fun g u => by rw [hq, List.count_cons_of_ne (by rintro ⟨⟩)]) h.timers
        fun u e he => ⟨e, he, h.shifts_self he⟩
    exact hrest.resume m t

theorem turn (h : Enacts outside tellable L c) (hM : L.turn? m = some M) : Follows m outside tellable c M := by
  rw [turn?] at hM
  split at hM
  · rename_i first rest hq
    obtain rfl := Option.some.inj hM
    exact h.take m hq
  · cases hM

/-! ## Time passes -/

omit [DecidableEq I.Signal] in
theorem dismiss (h : Enacts outside tellable L c) (m : Machine I W) (ht : tellable t) :
    Follows m outside tellable c (L.cancel m t) := by
  refine ((h.tell t).cancel (c.isTold_tell t)).follows.after_step (.tell t) ?_
  rintro _ ⟨⟩
  exact ht

/-- Something happens in the world. -/
theorem intervene (h : Enacts outside tellable L c) (m : Machine I W) {q : I.Call} (hq : outside q) :
    Follows m outside tellable c (L.intervene m q) := by
  have hc := h.perform m L.now q
  rw [Loop.intervene, h.world]
  rw [h.world] at hc
  have hin : ∀ s ∈ (m.perform L.now c.world q).2.2, s ∈ (c.perform m L.now q).given :=
    fun s hs => List.mem_append_right _ hs
  exact (hc.deliverAll hin).follows.after_step (.happen L.now q hq) (by rintro _ ⟨⟩)

omit [DecidableEq I.Signal] in
theorem mem_of_earliest {timers : List (Timer I)} : ∀ {r others}, earliest timers = some (r, others) →
    r ∈ timers ∧ ∀ s ∈ others, s ∈ timers := by
  induction timers with
  | nil => rintro _ _ ⟨⟩
  | cons r' timers ih =>
    intro r others h
    rw [earliest] at h
    split at h
    · cases h
      exact ⟨List.mem_cons_self, List.forall_mem_nil _⟩
    · rename_i s others' heq
      obtain ⟨hs, hothers⟩ := ih heq
      split at h
      · cases h
        exact ⟨List.mem_cons_self, fun _ => List.mem_cons_of_mem _⟩
      · cases h
        refine ⟨List.mem_cons_of_mem _ hs, List.forall_mem_cons.2 ⟨List.mem_cons_self, fun s hs => ?_⟩⟩
        exact List.mem_cons_of_mem _ (hothers s hs)

/-- A timer goes off. -/
theorem goOff (h : Enacts outside tellable L c) (m : Machine I W) {alarm : Alarm I}
    (halarm : IsAllowed outside tellable alarm) : Follows m outside tellable c (L.goOff m alarm) := by
  cases alarm with
  | call q => exact h.intervene m halarm
  | cancel t => exact h.dismiss m halarm
  | wake t =>
    rw [Loop.goOff]
    split
    · rename_i micros next hs
      refine (h.wake hs (.paused _ next) fun x hx => ?_).follows
      cases h.fits_of_standing hs hx with
      | paused hr hrest =>
        exact .ready hr (.of_resumption (Deed.wake (.timer micros)) (fun o => hrest ▸ .wake _ next o) rfl (.timer micros))
    · exact h.follows

theorem tick (h : Enacts outside tellable L c) (hM : L.tick? m = some M) : Follows m outside tellable c M := by
  rw [tick?] at hM
  split at hM
  · rename_i r others heq
    obtain rfl := Option.some.inj hM
    obtain ⟨hr, hothers⟩ := mem_of_earliest heq
    exact (h.clock (max L.now r.due) L.isInterrupted fun s hs => h.timers s (hothers s hs)).goOff m (h.timers r hr)
  · cases hM

/-! ## Turn after turn -/

theorem settleIn (m : Machine I W) (n : Nat) : ∀ {L : Loop I W} {c : Crew I W}, Enacts outside tellable L c →
    Follows m outside tellable c (L.settleIn m n) := by
  induction n with
  | zero => exact fun h => h.follows
  | succ n ih =>
    intro L c h
    rw [Loop.settleIn]
    split
    · exact h.follows
    · split
      · exact (h.turn ‹_›).then fun _ => ih
      · exact h.follows

theorem runIn (m : Machine I W) (t : TaskId) (n : Nat) : ∀ {L : Loop I W} {c : Crew I W},
    Enacts outside tellable L c → Follows m outside tellable c (L.runIn m t n) := by
  induction n with
  | zero => exact fun h => h.follows
  | succ n ih =>
    intro L c h
    rw [Loop.runIn]
    split
    · exact h.follows
    · split
      · exact (h.turn ‹_›).then fun _ => ih
      · split
        · exact (h.tick ‹_›).then fun _ => ih
        · exact h.follows

theorem drainIn (m : Machine I W) (n : Nat) : ∀ {L : Loop I W} {c : Crew I W}, Enacts outside tellable L c →
    Follows m outside tellable c (L.drainIn m n) := by
  induction n with
  | zero => exact fun h => h.follows
  | succ n ih =>
    intro L c h
    rw [Loop.drainIn]
    split
    · exact h.follows
    · split
      · exact (h.turn ‹_›).then fun _ => ih
      · split
        · exact (h.tick ‹_›).then fun _ => ih
        · exact h.follows

/-- Tasks take turns until nothing can go on at this time. -/
theorem settle (h : Enacts outside tellable L c) (m : Machine I W) : Follows m outside tellable c (L.settle m) :=
  h.settleIn m plenty

/-- Tasks take turns and time passes until one of them has ended. -/
theorem run (h : Enacts outside tellable L c) (m : Machine I W) (t : TaskId) :
    Follows m outside tellable c (L.run m t) := h.runIn m t plenty

/-- A task comes to its end, and is told to give up whenever nothing can go on. -/
theorem seeOut (h : Enacts outside tellable L c) (m : Machine I W) (ht : tellable t) :
    Follows m outside tellable c (L.seeOut m t) := by
  rw [Loop.seeOut]
  generalize plenty = n
  induction n generalizing L c with
  | zero => exact h.follows
  | succ n ih =>
    rw [seeOutIn]
    refine (h.run m t).then fun d hd => ?_
    split
    · exact hd.follows
    · exact (hd.dismiss m ht).then fun _ => ih

/-- All tasks are told to give up, and come to their ends. -/
theorem cleanUp (h : Enacts outside tellable L c) (m : Machine I W) (htell : ∀ t, tellable t) :
    Follows m outside tellable c (L.cleanUp m) := by
  have hall : Follows m outside tellable c (L.cancelAll m) := by
    rw [cancelAll]
    generalize List.range L.tasks.size = ts
    induction ts generalizing L c with
    | nil => exact h.follows
    | cons t ts ih => exact (h.dismiss m (htell t)).then fun _ => ih
  exact hall.then fun _ hd => (hd.clock _ false hd.timers).drainIn m plenty

end Enacts

/-! ## Beginnings -/

/-- Before anything is done there are no tasks. -/
theorem enacts_nobody (w : W) : Enacts outside tellable ({ world := w } : Loop I W) { world := w } where
  world := rfl
  size := rfl
  fits := by rintro _ _ _ ⟨⟩
  watched := by rintro _ _ _ ⟨⟩
  gathering := by rintro _ _ _ ⟨⟩
  gathers := by rintro _ _ ⟨⟩
  fresh := by
    intro g t _
    rfl
  ended := by rintro _ _ ⟨⟩
  timers := List.forall_mem_nil _

/-- A loop with a first task stands where a crew of one does. -/
theorem enacts_single (m : Machine I W) (w : W) (job : I.Job) :
    Enacts outside tellable (spawn ({ world := w } : Loop I W) (m.program job)).1 (Crew.single m w job) :=
  (enacts_nobody w).spawn m job

/-- A task that is started has its turn before it is due. -/
theorem Runs.start (h : Enacts outside tellable L c) (m : Machine I W) (job : I.Job) :
    Runs outside tellable L.tasks.size (m.program job) { L with tasks := L.tasks.push { standing := .running } }
      (c.start m job) := by
  have hlast : (c.start m job).members[L.tasks.size]? = some { job := job, rest := m.program job } := by
    rw [h.size]
    exact List.getElem?_concat_length
  have hrunning : (L.tasks.push { standing := .running })[L.tasks.size]? = some { standing := .running } :=
    Array.getElem?_push.trans (if_pos rfl)
  refine ⟨(h.spawn m job).revise rfl ?_ rfl (fun g u => ?_) h.timers fun u e' he' => ?_, ?_, _, hlast, rfl, rfl⟩
  · change (L.tasks.push _).size = (L.tasks.push _).size
    rw [Array.size_push, Array.size_push]
  · change L.queue.count _ = (L.queue ++ [_]).count _
    rw [List.count_append, List.count_singleton]
    rfl
  · change (L.tasks.push _)[u]? = some e' at he'
    rw [Array.getElem?_push] at he'
    by_cases hu : u = L.tasks.size
    · rw [if_pos hu] at he'
      obtain rfl := Option.some.inj he'
      refine ⟨_, (tasks_spawn L _ u).trans (if_pos hu), fun _ => rfl, fun _ => .inl, .inr ⟨.ready _, .loose .running⟩,
        fun x hx => ⟨.running ?_, by rintro ⟨⟩⟩⟩
      rw [hu, hlast] at hx
      rw [← Option.some.inj hx]
    · rw [if_neg hu] at he'
      have he : (L.spawn (m.program job)).1.tasks[u]? = some e' := (tasks_spawn L _ u).trans ((if_neg hu).trans he')
      exact ⟨e', he, (h.spawn m job).shifts_self he⟩
  · rw [standing?, hrunning]
    rfl

theorem Enacts.atOnce [DecidableEq I.Signal] (h : Enacts outside tellable L c) (m : Machine I W) (job : I.Job) :
    Follows m outside tellable (c.start m job) (L.atOnce m job).1 := Runs.exec m _ (Runs.start h m job)

/-- What a loop comes to that begins with one task, a crew of one comes to in some history. -/
theorem Follows.history {M : Loop I W} (h : Follows m outside tellable c M) :
    ∃ events d, Crew.Reaches m outside c events d ∧ d.world = M.world ∧ ∀ t, d.result? t = M.result? t := by
  obtain ⟨d, ⟨events, hr, -⟩, hd⟩ := h
  exact ⟨events, d, hr, hd.world.symm, hd.result_eq⟩

end BrowserPlan.Task.Loop
