import BrowserPlan.Proofs.Task.Enactment

/-!
# Giving up in a task loop

To tell a task of a loop to give up is to tell its member, which passes the message on to those it waits
for, and to let those of them break off that pause (`Enacts.cancelTask`). Tasks that do not pause stay where
they are meanwhile (`Stays`).
-/
namespace BrowserPlan.Task

variable {I : Interface} {W : Type} {m : Machine I W} {outside : I.Call → Prop} {tellable : TaskId → Prop}

namespace Crew

variable {c d d' : Crew I W} {e : Event I} {t : TaskId}

/-- Some history leads from `c` to `d` in which somebody outside tells only those to give up that are
`tellable`. -/
def Comes (m : Machine I W) (outside : I.Call → Prop) (tellable : TaskId → Prop) (c d : Crew I W) : Prop :=
  ∃ h, Reaches m outside c h d ∧ ∀ t, .tell t ∈ h → tellable t

theorem Comes.refl (c : Crew I W) : Comes m outside tellable c c := ⟨[], .refl, nofun⟩

theorem Comes.trans (h : Comes m outside tellable c d) (h' : Comes m outside tellable d d') :
    Comes m outside tellable c d' := by
  obtain ⟨l, hr, hl⟩ := h
  obtain ⟨l', hr', hl'⟩ := h'
  exact ⟨l ++ l', hr.trans hr', fun t ht => (List.mem_append.1 ht).elim (hl t) (hl' t)⟩

theorem Comes.step (h : Comes m outside tellable c d) (he : Step m outside d e d')
    (htell : ∀ t, e = .tell t → tellable t) : Comes m outside tellable c d' := by
  obtain ⟨l, hr, hl⟩ := h
  refine ⟨l ++ [e], hr.step he, fun t ht => ?_⟩
  rcases List.mem_append.1 ht with ht | ht
  · exact hl t ht
  · exact htell t (List.mem_singleton.1 ht).symm

theorem Comes.of_step (he : Step m outside c e d) (htell : ∀ t, e = .tell t → tellable t) :
    Comes m outside tellable c d := (Comes.refl c).step he htell

/-- The member, if it is there, has been told to give up. -/
def IsTold (c : Crew I W) (t : TaskId) : Prop := ∀ x, c.members[t]? = some x → x.isTold = true

theorem isTold_tell (c : Crew I W) (t : TaskId) : (c.tell t).IsTold t := by
  intro y hy
  rw [tell, members_alter, if_pos rfl] at hy
  obtain ⟨x, -, rfl⟩ := Option.map_eq_some_iff.1 hy
  rfl

/-- Who has been told to give up stays so. -/
theorem Comes.isTold (h : Comes m outside tellable c d) {x : Member I} (hx : c.members[t]? = some x)
    (ht : x.isTold = true) : d.IsTold t := by
  obtain ⟨l, hr, -⟩ := h
  induction hr with
  | refl =>
    intro y hy
    obtain rfl := Option.some.inj (hx.symm.trans hy)
    exact ht
  | step hd he ih =>
    intro y hy
    rcases he.member hy with ⟨z, hz, hcont⟩ | ⟨_, _, _, hlen, _⟩
    · exact hcont.told (ih z hz)
    · exact absurd (Nat.lt_of_lt_of_le (lt_of_member hx) hd.length_le) (hlen ▸ Nat.lt_irrefl t)

end Crew

namespace Loop

variable {L M N : Loop I W} {c d c' : Crew I W} {t u : TaskId} {g : Nat} {x : Member I}

/-- Tasks that do not pause stay where they are, and so do their members. -/
def Stays (L : Loop I W) (c : Crew I W) (M : Loop I W) (d : Crew I W) : Prop :=
  ∀ ⦃u s x⦄, L.standing? u = some s → (∀ on next, s ≠ .paused on next) → c.members[u]? = some x →
    M.standing? u = some s ∧ ∃ y, d.members[u]? = some y ∧ y.rest = x.rest ∧ y.result = x.result ∧
      (x.isTold = true → y.isTold = true)

theorem Stays.refl (L : Loop I W) (c : Crew I W) : Stays L c L c :=
  fun _ _ _ hs _ hx => ⟨hs, _, hx, rfl, rfl, id⟩

theorem Stays.trans (h : Stays L c M d) (h' : Stays M d N c') : Stays L c N c' := by
  intro u s x hs hpause hx
  obtain ⟨hs', y, hy, hrest, hresult, htold⟩ := h hs hpause hx
  obtain ⟨hs'', z, hz, hrest', hresult', htold'⟩ := h' hs' hpause hy
  exact ⟨hs'', z, hz, hrest'.trans hrest, hresult'.trans hresult, fun hx => htold' (htold hx)⟩

theorem stays_tell (L : Loop I W) (c : Crew I W) (t : TaskId) : Stays L c L (c.tell t) := by
  intro u s x hs _ hx
  refine ⟨hs, ?_⟩
  rw [Crew.tell, Crew.members_alter, hx]
  split
  · exact ⟨_, rfl, rfl, rfl, fun _ => rfl⟩
  · exact ⟨x, rfl, rfl, rfl, id⟩

/-- To change the standing of a task that pauses, and its member, lets all others stay where they are. -/
theorem stays_place {on : Pause I.Signal} {next : Outcome I.Fault Unit → Program I I.Result}
    (hs : L.standing? t = some (.paused on next)) (s' : Standing I) (f : Member I → Member I) :
    Stays L c (L.place t s') (c.alter t f) := by
  intro u s x hu hpause hx
  have hne : t ≠ u := by
    rintro rfl
    exact hpause _ _ (Option.some.inj (hu.symm.trans hs))
  rw [standing?_place, if_neg hne, Crew.members_alter, if_neg hne]
  exact ⟨hu, x, hx, rfl, rfl, id⟩

theorem standing?_markTask (L : Loop I W) (t u : TaskId) (b : Bool) :
    (L.markTask t b).standing? u = L.standing? u := by
  unfold standing? markTask
  rw [Array.getElem?_modify]
  split
  · rw [Option.map_map]
    rfl
  · rfl

theorem wake_place (L : Loop I W) (t : TaskId) (s : Standing I) (resume : Bool → Program I I.Result) :
    (L.place t s).wake t resume = L.wake t resume := by
  rw [wake, place_place, wake]

/-- The crew can come to where the loop `M` stands. -/
def Follows (m : Machine I W) (outside : I.Call → Prop) (tellable : TaskId → Prop) (c : Crew I W) (M : Loop I W) : Prop :=
  ∃ d, Crew.Comes m outside tellable c d ∧ Enacts outside tellable M d

theorem Enacts.follows (h : Enacts outside tellable L c) : Follows m outside tellable c L := ⟨c, .refl c, h⟩

theorem Follows.after_step {e : Event I} (he : Crew.Step m outside c e c') (htell : ∀ t, e = .tell t → tellable t)
    (h : Follows m outside tellable c' L) : Follows m outside tellable c L := by
  obtain ⟨d, hcomes, hd⟩ := h
  exact ⟨d, (Crew.Comes.of_step he htell).trans hcomes, hd⟩

theorem Follows.then (h : Follows m outside tellable c L)
    (hnext : ∀ d, Enacts outside tellable L d → Follows m outside tellable d M) : Follows m outside tellable c M := by
  obtain ⟨d, hcomes, hd⟩ := h
  obtain ⟨d', hcomes', hd'⟩ := hnext d hd
  exact ⟨d', hcomes.trans hcomes', hd'⟩

/-- The crew can come to where the loop `M` stands, while tasks that do not pause stay where they are. -/
def Arrives (m : Machine I W) (outside : I.Call → Prop) (tellable : TaskId → Prop) (L : Loop I W) (c : Crew I W)
    (M : Loop I W) : Prop :=
  ∃ d, Crew.Comes m outside tellable c d ∧ Enacts outside tellable M d ∧ Stays L c M d

theorem Arrives.follows (h : Arrives m outside tellable L c M) : Follows m outside tellable c M := by
  obtain ⟨d, hcomes, hd, -⟩ := h
  exact ⟨d, hcomes, hd⟩

theorem Arrives.refl (h : Enacts outside tellable L c) : Arrives m outside tellable L c L :=
  ⟨c, .refl c, h, .refl L c⟩

/-- To tell a member to give up comes before what follows. -/
theorem Arrives.after_step {e : Event I} (he : Crew.Step m outside c e (c.tell t)) (hne : ∀ u, e = .tell u → tellable u)
    (h : Arrives m outside tellable L (c.tell t) M) : Arrives m outside tellable L c M := by
  obtain ⟨d, hcomes, hd, hstays⟩ := h
  exact ⟨d, (Crew.Comes.of_step he hne).trans hcomes, hd, (stays_tell L c t).trans hstays⟩

namespace Enacts

/-- A task that runs gives up to wait, and is due to go on. -/
theorem giveWay (h : Enacts outside tellable (L.place t .running) c) (hs : (L.place t .running).standing? t = some .running)
    (next : Outcome I.Fault Unit → Program I I.Result) :
    Enacts outside tellable (L.wake t (resumption next (.error .cancelled))) (c.goOn t (next (.error .cancelled))) := by
  rw [← wake_place L t .running]
  refine (h.goOn hs _).wake hs .running fun y hy => ?_
  obtain ⟨x, hx, hfits⟩ := h.exists_of_standing hs
  obtain rfl := Option.some.inj ((Crew.members_alter_self hx _).symm.trans hy)
  cases hfits with
  | running hr => exact .ready hr (.going fun b => by cases b <;> rfl)

/-- A pause is broken off. -/
theorem breakPause (h : Enacts outside tellable L c) {on : Pause I.Signal}
    {next : Outcome I.Fault Unit → Program I I.Result} (hs : L.standing? t = some (.paused on next))
    (htold : c.IsTold t) : Arrives m outside tellable L c (L.breakPause m t on next) := by
  obtain ⟨x, hx, hfits⟩ := h.exists_of_standing hs
  obtain ⟨hr, hrest⟩ : x.result = none ∧ x.rest = .pause on next := by
    cases hfits with
    | paused hr hrest => exact ⟨hr, hrest⟩
  have hstep : Crew.Step m outside c (.act t (.wake on (.error .cancelled)))
      ((c.forsake m on).goOn t (next (.error .cancelled))) :=
    .act hx hr (hrest ▸ .wake on next _) (.breakOff on (htold x hx))
  have hruns : Enacts outside tellable (L.place t .running) c := h.place hs (.paused on next) (.loose .running) fun y hy => by
    obtain rfl := Option.some.inj (hx.symm.trans hy)
    exact .running hr
  have hrun : (L.place t .running).standing? t = some .running := by
    rw [standing?_place, if_pos rfl, hs]
    rfl
  refine ⟨_, .of_step hstep nofun, ?_, ?_⟩
  · cases on with
    | signal s => exact giveWay (L := { L with world := m.forsake L.world s }) (hruns.forsake m s) hrun next
    | timer micros =>
      exact giveWay (L := L.dropTimer t)
        (hruns.clock L.now L.isInterrupted fun r hr => hruns.timers r (List.mem_filter.1 hr).1) hrun next
    | forever => exact hruns.giveWay hrun next
  · cases on <;> exact fun _ _ _ hu hpause hx => stays_place hs _ _ hu hpause hx

/-- A gathering is noted to give up, whose owner has been told to. -/
theorem markGathering (h : Enacts outside tellable L c)
    (htold : ∀ G, L.gatherings[g]? = some G → G.isOver = false → c.IsTold G.owner) :
    Enacts outside tellable (L.markGathering g) c := by
  have hback : ∀ {i G'}, (L.markGathering g).gatherings[i]? = some G' → ∃ G, L.gatherings[i]? = some G ∧
      (G' = G ∨ i = g ∧ G' = { G with isCancelling := true }) := by
    intro i G' hG'
    rw [Loop.markGathering, Array.getElem?_modify] at hG'
    split at hG'
    · obtain ⟨G, hG, rfl⟩ := Option.map_eq_some_iff.1 hG'
      exact ⟨G, hG, .inr ⟨Eq.symm ‹_›, rfl⟩⟩
    · exact ⟨G', hG', .inl rfl⟩
  have hsize : (L.markGathering g).gatherings.size = L.gatherings.size := Array.size_modify
  refine ⟨h.world, h.size, h.fits, h.watched, fun {t i next} hs => ?_, fun {i G'} hG' hover => ?_,
    fun hg => h.fresh (hsize ▸ hg), h.ended, h.timers⟩
  · obtain ⟨G, hG, hover, howner⟩ := h.gathering hs
    have hlt : i < (L.markGathering g).gatherings.size := hsize.symm ▸ (Array.getElem?_eq_some_iff.1 hG).1
    obtain ⟨G₁, hG₁, heq⟩ := hback (Array.getElem?_eq_getElem hlt)
    obtain rfl := Option.some.inj (hG.symm.trans hG₁)
    refine ⟨_, Array.getElem?_eq_getElem hlt, ?_⟩
    rcases heq with heq | ⟨-, heq⟩ <;> rw [heq] <;> exact ⟨hover, howner⟩
  · obtain ⟨G, hG, rfl | ⟨rfl, rfl⟩⟩ := hback hG'
    · obtain ⟨howner, ts, hts⟩ := h.gathers hG hover
      exact ⟨howner, ts, hts.length, hts.mem, hts.due, hts.heard⟩
    · obtain ⟨⟨next, x, hs, hx, hrest, -⟩, ts, hts⟩ := h.gathers hG hover
      exact ⟨⟨next, x, hs, hx, hrest, fun _ => htold G hG hover x hx⟩, ts, hts.length, hts.mem, hts.due, hts.heard⟩

/-! ## Down the chain of those who wait -/

section
variable {depth : Nat} (hcancel : ∀ {L : Loop I W} {c : Crew I W} {u : TaskId}, Enacts outside tellable L c →
  c.IsTold u → Arrives m outside tellable L c (Loop.cancelTask m depth L u).1)
include hcancel

/-- A member that has been told to give up passes it on to those it waits for. -/
theorem passOn (us : List TaskId) : ∀ (acc : Loop I W × Bool) {c : Crew I W} {s : Standing I},
    Enacts outside tellable acc.1 c → acc.1.standing? t = some s → (∀ on next, s ≠ .paused on next) →
      (∃ x, c.members[t]? = some x ∧ x.result = none ∧ x.isTold = true ∧ ∀ u ∈ us, x.rest.WaitsFor u) →
      Arrives m outside tellable acc.1 c (us.foldl (fun (acc : Loop I W × Bool) u =>
        ((Loop.cancelTask m depth acc.1 u).1, acc.2 || (Loop.cancelTask m depth acc.1 u).2)) acc).1 := by
  induction us with
  | nil => exact fun _ _ _ h _ _ _ => .refl h
  | cons u us ih =>
    rintro acc c s h hs hpause ⟨x, hx, hr, htold, hwaits⟩
    have hpass : Crew.Step m outside c (.pass t u) (c.tell u) := .pass hx hr htold (hwaits u List.mem_cons_self)
    obtain ⟨d, hcomes, hd, hstays⟩ := (hcancel (h.tell u) (c.isTold_tell u)).after_step hpass nofun
    obtain ⟨hs', y, hy, hrest, hresult, hytold⟩ := hstays hs hpause hx
    obtain ⟨d', hcomes', hd', hstays'⟩ := ih (_, acc.2 || (Loop.cancelTask m depth acc.1 u).2) hd hs' hpause
      ⟨y, hy, hresult.trans hr, hytold htold, fun v hv => hrest ▸ hwaits v (List.mem_cons_of_mem _ hv)⟩
    exact ⟨d', hcomes.trans hcomes', hd', hstays.trans hstays'⟩

end

/-- A task is told to give up, and what it waits for is broken off if it can be. -/
theorem breakWait_and_cancelTask (m : Machine I W) (depth : Nat) : ∀ {L : Loop I W} {c : Crew I W} {t : TaskId},
    Enacts outside tellable L c → c.IsTold t →
      Arrives m outside tellable L c (Loop.breakWait m depth L t).1 ∧
      Arrives m outside tellable L c (Loop.cancelTask m depth L t).1 := by
  induction depth with
  | zero => exact fun h _ => ⟨.refl h, .refl h⟩
  | succ depth ih =>
    intro L c t h htold
    have hcancel : ∀ {L : Loop I W} {c : Crew I W} {u : TaskId}, Enacts outside tellable L c → c.IsTold u →
      Arrives m outside tellable L c (Loop.cancelTask m depth L u).1 := fun h htold => (ih h htold).2
    constructor
    · rw [Loop.breakWait]
      split
      · rename_i on next hs
        exact h.breakPause hs htold
      · rename_i u next hs
        obtain ⟨x, hx, hfits⟩ := h.exists_of_standing hs
        cases hfits with
        | awaiting hr hrest =>
          have hpass : Crew.Step m outside c (.pass t u) (c.tell u) :=
            .pass hx hr (htold x hx) (hrest ▸ .await next)
          exact (hcancel (h.tell u) (c.isTold_tell u)).after_step hpass nofun
      · rename_i g next hs
        obtain ⟨G, hG, hover, rfl⟩ := h.gathering hs
        obtain ⟨⟨next', x, -, hx, hrest, -⟩, -⟩ := h.gathers hG hover
        have hr := h.goes hs (by simp) hx
        have hpass : Arrives m outside tellable L c _ := passOn hcancel G.members (L, false) h hs nofun
          ⟨x, hx, hr, htold x hx, fun u hu => hrest ▸ .gather _ _ hu⟩
        rw [hG]
        change Arrives m outside tellable L c (if _ then _ else _)
        split
        · obtain ⟨d, hcomes, hd, hstays⟩ := hpass
          obtain ⟨hs', -⟩ := hstays hs nofun hx
          refine ⟨_, hcomes, hd.markGathering fun G' hG' _ => ?_, hstays⟩
          obtain ⟨G₁, hG₁, -, howner⟩ := hd.gathering hs'
          obtain rfl := Option.some.inj (hG'.symm.trans hG₁)
          exact howner ▸ hcomes.isTold hx (htold x hx)
        · exact hpass
      · exact .refl h
    · rw [Loop.cancelTask]
      split
      · exact .refl h
      · exact .refl h
      · rename_i s _ hs
        obtain ⟨x, hx, -⟩ := h.exists_of_standing hs
        obtain ⟨d, hcomes, hd, hstays⟩ := (ih h htold).1
        change Arrives m outside tellable L c (if _ then _ else _)
        split
        · exact ⟨d, hcomes, hd, hstays⟩
        · refine ⟨d, hcomes, hd.markTask fun _ => hcomes.isTold hx (htold x hx), fun _ _ _ hs hpause hx => ?_⟩
          rw [standing?_markTask]
          exact hstays hs hpause hx

/-- A task is told to give up. -/
theorem cancel (h : Enacts outside tellable L c) (htold : c.IsTold t) :
    Arrives m outside tellable L c (L.cancel m t) :=
  (breakWait_and_cancelTask m _ h htold).2

/-- A task waits, or gives up at once. -/
theorem suspend {s : Standing I} (h : Enacts outside tellable (L.place t s) c) :
    Follows m outside tellable c (L.suspend m t s) := by
  rw [Loop.suspend]
  dsimp only
  split
  · rename_i hany
    obtain ⟨e, he, hcancelling⟩ := (Option.any_eq_true _ _).1 hany
    have htold : c.IsTold t := fun x hx => (h.fits he hx).2 hcancelling
    obtain ⟨d, hcomes, hd, -⟩ := (breakWait_and_cancelTask m (L.place t s).chainBound h htold).1
    refine ⟨d, hcomes, ?_⟩
    split
    · exact hd.markTask nofun
    · exact hd
  · exact h.follows

end Enacts
end Loop
end BrowserPlan.Task
