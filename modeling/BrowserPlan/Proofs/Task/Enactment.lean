import BrowserPlan.Proofs.Task.Crew
import BrowserPlan.Proofs.Task.Turn

/-!
# A task loop enacts a crew

`Loop.Enacts` says that a task loop stands where a crew is: the worlds are the same, each task is where
its member is in its program, and what is queued, watched and gathered belongs to what members wait for.
Each change of a loop keeps to it, together with the events of the crew that it stands for.
-/
namespace BrowserPlan.Task

variable {I : Interface} {W : Type} {outside : I.Call → Prop} {tellable : TaskId → Prop}

/-! ## Tasks and members -/

/-- How a member is whose task is ready to go on with `resume`. -/
inductive Prepared (c : Crew I W) (x : Member I) (resume : Bool → Program I I.Result) : Prop where
  /-- It has not begun. -/
  | new (hb : x.hasBegun = false) (hgo : resume false = x.rest)
    (hcancel : resume true = .done (.error .cancelled))
  /-- What it waits for is over. -/
  | heard (d : Deed I) (ho : c.Offers d) (hgo : x.rest.Does d (resume false))
    (hcancel : x.rest.Does d.cancelled (resume true))
  /-- It does not wait any more. -/
  | going (hgo : ∀ b, resume b = x.rest)

/-- How a member is whose task stands like this. -/
inductive Fits (c : Crew I W) (x : Member I) : Standing I → Prop where
  | ready {resume} (hr : x.result = none) (h : Prepared c x resume) : Fits c x (.ready resume)
  | running (hr : x.result = none) : Fits c x .running
  | paused {on next} (hr : x.result = none) (h : x.rest = .pause on next) : Fits c x (.paused on next)
  | awaiting {u next} (hr : x.result = none) (h : x.rest = .await u next) : Fits c x (.awaiting u next)
  | gathering {g next} (hr : x.result = none) : Fits c x (.gathering g next)
  | finished {r} (hr : x.result = some r) : Fits c x (.finished r)

/-- Nobody counts on a task that stands like this to stay there. -/
inductive Standing.IsLoose : Standing I → Prop where
  | ready (resume) : IsLoose (.ready resume)
  | running : IsLoose .running
  | paused (on next) : IsLoose (.paused on next)

/-- There is nothing else to be seen to when a task comes to stand like this. -/
inductive Standing.IsPlain : Standing I → Prop where
  | loose {s} (h : s.IsLoose) : IsPlain s
  | awaiting (t next) : IsPlain (.awaiting t next)

theorem Prepared.follow {c c' : Crew I W} {x y : Member I} {resume : Bool → Program I I.Result}
    (h : Prepared c x resume) (hoffers : ∀ d, c.Offers d → c'.Offers d) (hrest : y.rest = x.rest)
    (hbegun : y.hasBegun = x.hasBegun) : Prepared c' y resume := by
  cases h with
  | new hb hgo hcancel => exact .new (hbegun.trans hb) (hgo.trans hrest.symm) hcancel
  | heard d ho hgo hcancel => exact .heard d (hoffers d ho) (hrest ▸ hgo) (hrest ▸ hcancel)
  | going hgo => exact .going fun b => (hgo b).trans hrest.symm

/-- Who hears `r` in its turn, unless it has been told to give up, is prepared for that if its wait can
end so. -/
theorem Prepared.of_resumption {α : Type} {c : Crew I W} {x : Member I} {next : Outcome I.Fault α → Program I I.Result}
    {r : Outcome I.Fault α} (d : Outcome I.Fault α → Deed I) (hdoes : ∀ o, x.rest.Does (d o) (next o))
    (hcancel : (d r).cancelled = d (.error .cancelled)) (ho : c.Offers (d r)) :
    Prepared c x (Loop.resumption next r) :=
  .heard (d r) ho (hdoes r) (hcancel ▸ hdoes _)

theorem Fits.follow {c c' : Crew I W} {x y : Member I} {s : Standing I} (h : Fits c x s)
    (hoffers : ∀ d, c.Offers d → c'.Offers d) (hresult : y.result = x.result)
    (hrest : s = .running ∨ y.rest = x.rest ∧ y.hasBegun = x.hasBegun) : Fits c' y s := by
  cases h with
  | running hr => exact .running (hresult.trans hr)
  | gathering hr => exact .gathering (hresult.trans hr)
  | finished hr => exact .finished (hresult.trans hr)
  | ready hr h =>
    obtain ⟨hrest, hbegun⟩ := hrest.resolve_left nofun
    exact .ready (hresult.trans hr) (h.follow hoffers hrest hbegun)
  | paused hr h => exact .paused (hresult.trans hr) ((hrest.resolve_left nofun).1.trans h)
  | awaiting hr h => exact .awaiting (hresult.trans hr) ((hrest.resolve_left nofun).1.trans h)

namespace Loop

variable {L M : Loop I W} {c c' : Crew I W} {t u : TaskId} {g : Nat} {G : Gathering} {e : Entry I}
  {x : Member I} {s : Standing I}

/-! ## What is still to be heard of -/

/-- How often a task is still to tell the gathering `g` of its end. -/
def owes (g : Nat) (e : Entry I) : Nat := if isUnfinished e then e.watchers.count (.gathering g) else 0

/-- How often the gathering `g` is still to hear of the end of `t`. -/
def due (L : Loop I W) (g : Nat) (t : TaskId) : Nat :=
  L.queue.count (.hear g t) + ((L.tasks[t]?).map (owes g)).getD 0

/-- The gathering `g` has still to hear of the ends of `ts`; those that it has heard of let it go on. -/
structure Outstanding (L : Loop I W) (c : Crew I W) (g : Nat) (G : Gathering) (ts : List TaskId) : Prop where
  length : ts.length = G.missing
  mem : ∀ t ∈ ts, t ∈ G.members
  due : ∀ t, L.due g t ≤ ts.count t
  heard : ∀ t ∈ G.members, t ∉ ts → ∃ r, c.result? t = some r ∧ (G.patient = true ∨ ∃ a, r = .ok a)

/-- The gathering `g`, which is not over, is what its owner waits for. -/
structure Gathers (L : Loop I W) (c : Crew I W) (g : Nat) (G : Gathering) : Prop where
  owner : ∃ next x, L.standing? G.owner = some (.gathering g next) ∧ c.members[G.owner]? = some x ∧
    x.rest = .gather G.members G.patient next ∧ (G.isCancelling = true → x.isTold = true)
  outstanding : ∃ ts, Outstanding L c g G ts

/-! ## A loop and a crew -/

/-- What may happen when a timer goes off: of the calls those that are `outside`, and `tellable` tasks may be
told to give up. -/
def IsAllowed (outside : I.Call → Prop) (tellable : TaskId → Prop) : Alarm I → Prop
  | .wake _ => True
  | .call q => outside q
  | .cancel t => tellable t

/-- The loop stands where the crew is. -/
structure Enacts (outside : I.Call → Prop) (tellable : TaskId → Prop) (L : Loop I W) (c : Crew I W) :
    Prop where
  world : L.world = c.world
  size : L.tasks.size = c.members.length
  fits : ∀ {t : TaskId} {e : Entry I} {x : Member I}, L.tasks[t]? = some e → c.members[t]? = some x →
    Fits c x e.standing ∧ (e.isCancelling = true → x.isTold = true)
  watched : ∀ {t : TaskId} {e : Entry I} {u : TaskId}, L.tasks[t]? = some e → isUnfinished e = true → .task u ∈ e.watchers →
    ∃ next, L.standing? u = some (.awaiting t next)
  gathering : ∀ {t g next}, L.standing? t = some (.gathering g next) →
    ∃ G, L.gatherings[g]? = some G ∧ G.isOver = false ∧ G.owner = t
  gathers : ∀ {g G}, L.gatherings[g]? = some G → G.isOver = false → Gathers L c g G
  fresh : ∀ {g t}, L.gatherings.size ≤ g → L.due g t = 0
  ended : ∀ {g t}, .hear g t ∈ L.queue → ∃ r, L.standing? t = some (.finished r)
  timers : ∀ r ∈ L.timers, IsAllowed outside tellable r.alarm

namespace Enacts

theorem exists_member (h : Enacts outside tellable L c) (he : L.tasks[t]? = some e) :
    ∃ x, c.members[t]? = some x ∧ Fits c x e.standing ∧ (e.isCancelling = true → x.isTold = true) := by
  have hlt : t < c.members.length := h.size ▸ (Array.getElem?_eq_some_iff.1 he).1
  exact ⟨_, List.getElem?_eq_getElem hlt, h.fits he (List.getElem?_eq_getElem hlt)⟩

theorem exists_entry (h : Enacts outside tellable L c) (hx : c.members[t]? = some x) :
    ∃ e, L.tasks[t]? = some e ∧ Fits c x e.standing ∧ (e.isCancelling = true → x.isTold = true) := by
  have hlt : t < L.tasks.size := h.size.symm ▸ Crew.lt_of_member hx
  exact ⟨_, Array.getElem?_eq_getElem hlt, h.fits (Array.getElem?_eq_getElem hlt) hx⟩

theorem exists_of_standing (h : Enacts outside tellable L c) (hs : L.standing? t = some s) :
    ∃ x, c.members[t]? = some x ∧ Fits c x s := by
  obtain ⟨e, he, rfl⟩ := Option.map_eq_some_iff.1 hs
  obtain ⟨x, hx, hfits, -⟩ := h.exists_member he
  exact ⟨x, hx, hfits⟩

theorem fits_of_standing (h : Enacts outside tellable L c) (hs : L.standing? t = some s)
    (hx : c.members[t]? = some x) : Fits c x s := by
  obtain ⟨y, hy, hfits⟩ := h.exists_of_standing hs
  obtain rfl := Option.some.inj (hx.symm.trans hy)
  exact hfits

theorem goes (h : Enacts outside tellable L c) (hs : L.standing? t = some s) (hne : ∀ r, s ≠ .finished r)
    (hx : c.members[t]? = some x) : x.result = none := by
  cases h.fits_of_standing hs hx with
  | finished hr => exact absurd rfl (hne _)
  | ready hr | running hr | paused hr | awaiting hr | gathering hr => exact hr

theorem result_eq (h : Enacts outside tellable L c) (t : TaskId) : c.result? t = L.result? t := by
  rw [Crew.result?, Loop.result?, standing?]
  cases hx : c.members[t]? with
  | none =>
    have hnone : L.tasks[t]? = none :=
      Array.getElem?_eq_none (h.size.symm ▸ List.getElem?_eq_none_iff.1 hx)
    rw [hnone]
    rfl
  | some x =>
    obtain ⟨e, he, hfits, -⟩ := h.exists_entry hx
    rw [he, Option.bind_some, Option.map_some]
    cases hs : e.standing <;> rw [hs] at hfits <;> cases hfits <;> assumption

theorem finished_iff (h : Enacts outside tellable L c) {r : Outcome I.Fault I.Result} :
    L.standing? t = some (.finished r) ↔ c.result? t = some r := by
  rw [h.result_eq, Loop.result?]
  constructor
  · intro hs
    rw [hs]
  · intro hs
    split at hs
    · cases hs
      assumption
    · cases hs

/-! ## The crew goes on -/

/-- Something happens in the crew that leaves its members where they are, apart from one that is running. -/
theorem follow (h : Enacts outside tellable L c) (c' : Crew I W) (hlen : c'.members.length = c.members.length)
    (hmem : ∀ u x, c.members[u]? = some x → ∃ y, c'.members[u]? = some y ∧ y.result = x.result ∧
      (x.isTold = true → y.isTold = true) ∧
        (L.standing? u = some .running ∨ y.rest = x.rest ∧ y.hasBegun = x.hasBegun))
    (hgiven : ∀ g ∈ c.given, g ∈ c'.given) : Enacts outside tellable { L with world := c'.world } c' := by
  have hresult : ∀ t r, c.result? t = some r → c'.result? t = some r := by
    intro t r hr
    obtain ⟨x, hx, hxr⟩ := Option.bind_eq_some_iff.1 hr
    obtain ⟨y, hy, hyr, -⟩ := hmem t x hx
    exact Option.bind_eq_some_iff.2 ⟨y, hy, hyr.trans hxr⟩
  refine ⟨rfl, h.size.trans hlen.symm, ?_, h.watched, h.gathering, ?_, h.fresh, h.ended, h.timers⟩
  · intro t e y he hy
    obtain ⟨x, hx, hfits, htold⟩ := h.exists_member he
    obtain ⟨y', hy', hyr, hytold, hrest⟩ := hmem t x hx
    obtain rfl := Option.some.inj (hy.symm.trans hy')
    refine ⟨hfits.follow (fun d hd => hd.mono hgiven hresult) hyr (hrest.imp_left fun hs => ?_),
      fun hc => hytold (htold hc)⟩
    rw [standing?, he] at hs
    exact Option.some.inj hs
  · intro g G hG hover
    obtain ⟨⟨next, x, hs, hx, hrest, htold⟩, ts, hts⟩ := h.gathers hG hover
    obtain ⟨y, hy, -, hytold, hsame⟩ := hmem _ x hx
    have hsame := hsame.resolve_left fun hr => by
      rw [hs] at hr
      cases hr
    exact ⟨⟨next, y, hs, hy, hsame.1.trans hrest, fun hc => hytold (htold hc)⟩, ts, hts.length, hts.mem, hts.due,
      fun t ht hn => (hts.heard t ht hn).imp fun r hr => ⟨hresult t r hr.1, hr.2⟩⟩

theorem tell (h : Enacts outside tellable L c) (t : TaskId) : Enacts outside tellable L (c.tell t) := by
  have hworld : { L with world := (c.tell t).world } = L := by
    rw [Crew.tell, Crew.alter, ← h.world]
  rw [← hworld]
  refine h.follow _ (Crew.length_alter ..) (fun u x hx => ?_) fun _ hg => hg
  rw [Crew.tell, Crew.members_alter, hx]
  split
  · exact ⟨_, rfl, rfl, fun _ => rfl, .inr ⟨rfl, rfl⟩⟩
  · exact ⟨x, rfl, rfl, id, .inr ⟨rfl, rfl⟩⟩

theorem perform (h : Enacts outside tellable L c) (m : Machine I W) (now : Nat) (q : I.Call) :
    Enacts outside tellable { L with world := (m.perform now L.world q).1 } (c.perform m now q) := by
  rw [h.world]
  exact h.follow (c.perform m now q) rfl (fun u x hx => ⟨x, hx, rfl, id, .inr ⟨rfl, rfl⟩⟩) fun _ hg => List.mem_append_left _ hg

theorem goOn (h : Enacts outside tellable L c) (hs : L.standing? t = some .running) (p : Program I I.Result) :
    Enacts outside tellable L (c.goOn t p) := by
  have hworld : { L with world := (c.goOn t p).world } = L := by
    rw [Crew.goOn, Crew.alter, ← h.world]
  rw [← hworld]
  refine h.follow _ (Crew.length_alter ..) (fun u x hx => ?_) fun _ hg => hg
  rw [Crew.goOn, Crew.members_alter, hx]
  split
  · rename_i htu
    exact ⟨_, rfl, rfl, id, .inl (htu ▸ hs)⟩
  · exact ⟨x, rfl, rfl, id, .inr ⟨rfl, rfl⟩⟩

theorem forsake (h : Enacts outside tellable L c) (m : Machine I W) (s : I.Signal) :
    Enacts outside tellable { L with world := m.forsake L.world s } (c.forsake m (.signal s)) := by
  rw [h.world]
  exact h.follow (c.forsake m (.signal s)) rfl (fun u x hx => ⟨x, hx, rfl, id, .inr ⟨rfl, rfl⟩⟩) fun _ hg => hg

/-! ## The loop goes on -/

theorem isUnfinished_of_plain (h : e.standing.IsPlain) : isUnfinished e = true := by
  rw [isUnfinished]
  generalize e.standing = s at h
  cases h with
  | loose h => cases h <;> rfl
  | awaiting => rfl

/-- The task `u` moves to where its member fits as well, with nobody counting on it to stay, and perhaps
tasks of the loop `M` that wait for it have come to watch it. -/
structure Shifts (M : Loop I W) (c : Crew I W) (u : TaskId) (e e' : Entry I) : Prop where
  gatherings : ∀ g, e'.watchers.count (.gathering g) = e.watchers.count (.gathering g)
  tasks : ∀ v, .task v ∈ e'.watchers → .task v ∈ e.watchers ∨ ∃ next, M.standing? v = some (.awaiting u next)
  standing : e'.standing = e.standing ∨ e.standing.IsLoose ∧ e'.standing.IsPlain
  fits : ∀ x, c.members[u]? = some x → Fits c x e'.standing ∧ (e'.isCancelling = true → x.isTold = true)

theorem Shifts.unfinished {e' : Entry I} (h : Shifts M c u e e') : isUnfinished e' = isUnfinished e := by
  rcases h.standing with hs | ⟨hs, hs'⟩
  · rw [isUnfinished, isUnfinished, hs]
  · rw [isUnfinished_of_plain (.loose hs), isUnfinished_of_plain hs']

/-- Tasks that nobody counts on move, and what is queued besides concerns no gathering. -/
theorem revise (h : Enacts outside tellable L c) (hworld : M.world = L.world) (hsize : M.tasks.size = L.tasks.size)
    (hgatherings : M.gatherings = L.gatherings)
    (hqueue : ∀ g t, M.queue.count (.hear g t) = L.queue.count (.hear g t))
    (htimers : ∀ r ∈ M.timers, IsAllowed outside tellable r.alarm)
    (htasks : ∀ u e', M.tasks[u]? = some e' → ∃ e, L.tasks[u]? = some e ∧ Shifts M c u e e') :
    Enacts outside tellable M c := by
  have hback : ∀ {u s}, ¬ s.IsPlain → M.standing? u = some s → L.standing? u = some s := by
    intro u s hs hM
    obtain ⟨e', he', rfl⟩ := Option.map_eq_some_iff.1 hM
    obtain ⟨e, he, hshift⟩ := htasks u e' he'
    rw [standing?, he]
    exact congrArg some (hshift.standing.resolve_right fun hloose => hs hloose.2).symm
  have hstays : ∀ {u s}, ¬ s.IsLoose → L.standing? u = some s → M.standing? u = some s := by
    intro u s hs hL
    obtain ⟨e, he, rfl⟩ := Option.map_eq_some_iff.1 hL
    have hlt : u < M.tasks.size := hsize.symm ▸ (Array.getElem?_eq_some_iff.1 he).1
    obtain ⟨e₁, he₁, hshift⟩ := htasks u _ (Array.getElem?_eq_getElem hlt)
    obtain rfl := Option.some.inj (he.symm.trans he₁)
    rw [standing?, Array.getElem?_eq_getElem hlt]
    exact congrArg some (hshift.standing.resolve_right fun hloose => hs hloose.1)
  have hdue : ∀ g t, M.due g t = L.due g t := by
    intro g t
    rw [due, due, hqueue]
    refine congrArg (L.queue.count (.hear g t) + Option.getD · 0) ?_
    by_cases hlt : t < M.tasks.size
    · obtain ⟨e, he, hshift⟩ := htasks t _ (Array.getElem?_eq_getElem hlt)
      rw [he, Array.getElem?_eq_getElem hlt, Option.map_some, Option.map_some, owes, owes, hshift.unfinished,
        hshift.gatherings]
    · rw [Array.getElem?_eq_none (Nat.le_of_not_lt hlt), Array.getElem?_eq_none (hsize ▸ Nat.le_of_not_lt hlt)]
  refine ⟨hworld.trans h.world, hsize.trans h.size, ?_, ?_, ?_, ?_, ?_, ?_, htimers⟩
  · intro t e' x he' hx
    obtain ⟨_, -, hshift⟩ := htasks t e' he'
    exact hshift.fits x hx
  · intro t e' u he' hun hu
    obtain ⟨e, he, hshift⟩ := htasks t e' he'
    rcases hshift.tasks u hu with hu | hu
    · obtain ⟨next, hs⟩ := h.watched he (hshift.unfinished ▸ hun) hu
      exact ⟨next, hstays nofun hs⟩
    · exact hu
  · intro t g next hs
    rw [hgatherings]
    exact h.gathering (hback (by rintro ⟨⟨⟩⟩) hs)
  · intro g G hG hover
    obtain ⟨⟨next, x, hs, hx⟩, ts, hts⟩ := h.gathers (hgatherings ▸ hG) hover
    exact ⟨⟨next, x, hstays nofun hs, hx⟩, ts, hts.length, hts.mem, fun t => (hdue g t).symm ▸ hts.due t, hts.heard⟩
  · intro g t hg
    rw [hdue]
    exact h.fresh (hgatherings ▸ hg)
  · intro g t hin
    have hin : .hear g t ∈ L.queue := List.count_pos_iff.1 (hqueue g t ▸ List.count_pos_iff.2 hin)
    exact (h.ended hin).imp fun r hr => hstays nofun hr

theorem shifts_self (h : Enacts outside tellable L c) (he : L.tasks[u]? = some e) : Shifts M c u e e :=
  ⟨fun _ => rfl, fun _ => .inl, .inl rfl, fun _ hx => h.fits he hx⟩

/-- A task moves that nobody counts on. -/
theorem place (h : Enacts outside tellable L c) {s₀ : Standing I} (hs₀ : L.standing? t = some s₀) (hloose : s₀.IsLoose)
    (hplain : s.IsPlain) (hfits : ∀ x, c.members[t]? = some x → Fits c x s) :
    Enacts outside tellable (L.place t s) c := by
  refine h.revise rfl Array.size_modify rfl (fun _ _ => rfl) h.timers fun u e' he' => ?_
  rw [Loop.place, Array.getElem?_modify] at he'
  split at he'
  · rename_i htu
    subst htu
    obtain ⟨e, he, rfl⟩ := Option.map_eq_some_iff.1 he'
    rw [standing?, he] at hs₀
    obtain rfl := Option.some.inj hs₀
    exact ⟨e, he, fun _ => rfl, fun _ => .inl, .inr ⟨hloose, hplain⟩, fun x hx => ⟨hfits x hx, (h.fits he hx).2⟩⟩
  · exact ⟨e', he', h.shifts_self he'⟩

theorem enqueue (h : Enacts outside tellable L c) (t : TaskId) :
    Enacts outside tellable (L.enqueue (.resume t)) c := by
  refine h.revise rfl rfl rfl (fun g u => ?_) h.timers fun u e he => ⟨e, he, h.shifts_self he⟩
  rw [Loop.enqueue, List.count_append, List.count_singleton]
  rfl

theorem wake (h : Enacts outside tellable L c) {s₀ : Standing I} (hs₀ : L.standing? t = some s₀)
    (hloose₀ : s₀.IsLoose) {resume : Bool → Program I I.Result}
    (hfits : ∀ x, c.members[t]? = some x → Fits c x (.ready resume)) :
    Enacts outside tellable (L.wake t resume) c :=
  (h.place hs₀ hloose₀ (.loose (.ready resume)) hfits).enqueue t

/-- A task is noted to have been told to give up, or to know of it. -/
theorem markTask (h : Enacts outside tellable L c) {b : Bool}
    (htold : b = true → ∀ x, c.members[t]? = some x → x.isTold = true) :
    Enacts outside tellable (L.markTask t b) c := by
  refine h.revise rfl Array.size_modify rfl (fun _ _ => rfl) h.timers fun u e' he' => ?_
  rw [Loop.markTask, Array.getElem?_modify] at he'
  split at he'
  · rename_i htu
    subst htu
    obtain ⟨e, he, rfl⟩ := Option.map_eq_some_iff.1 he'
    exact ⟨e, he, fun _ => rfl, fun _ => .inl, .inl rfl, fun x hx => ⟨(h.fits he hx).1, fun hb => htold hb x hx⟩⟩
  · exact ⟨e', he', h.shifts_self he'⟩

/-- A task that waits for another one watches it. -/
theorem watch (h : Enacts outside tellable L c) {next : Outcome I.Fault I.Result → Program I I.Result}
    (hs : L.standing? t = some (.awaiting u next)) : Enacts outside tellable (L.watch u (.task t)) c := by
  refine h.revise rfl Array.size_modify rfl (fun _ _ => rfl) h.timers fun v e' he' => ?_
  rw [Loop.watch, Array.getElem?_modify] at he'
  split at he'
  · rename_i huv
    subst huv
    obtain ⟨e, he, rfl⟩ := Option.map_eq_some_iff.1 he'
    have hfits : ∀ x, c.members[u]? = some x → Fits c x e.standing ∧ (e.isCancelling = true → x.isTold = true) :=
      fun x hx => h.fits he hx
    refine ⟨e, he, fun g => by simp, fun v hv => ?_, .inl rfl, hfits⟩
    rcases List.mem_append.1 hv with hv | hv
    · exact .inl hv
    · cases List.mem_singleton.1 hv
      exact .inr ⟨next, (standing?_watch L u t _).trans hs⟩
  · exact ⟨e', he', h.shifts_self he'⟩

theorem clock (h : Enacts outside tellable L c) {timers : List (Timer I)} (now : Nat) (isInterrupted : Bool)
    (htimers : ∀ r ∈ timers, IsAllowed outside tellable r.alarm) :
    Enacts outside tellable { L with now := now, timers := timers, isInterrupted := isInterrupted } c :=
  h.revise rfl rfl rfl (fun _ _ => rfl) htimers fun _ e he => ⟨e, he, h.shifts_self he⟩

theorem setTimer (h : Enacts outside tellable L c) (micros : Nat) (alarm : Alarm I)
    (halarm : IsAllowed outside tellable alarm) : Enacts outside tellable (L.setTimer micros alarm) c := by
  refine h.clock L.now L.isInterrupted fun r hr => ?_
  rcases List.mem_append.1 hr with hr | hr
  · exact h.timers r hr
  · cases List.mem_singleton.1 hr
    exact halarm

/-! ## Signals -/

section
variable [DecidableEq I.Signal] {signal : I.Signal} {r : Outcome I.Fault Unit}

/-- Who waits for a signal that was given is ready to hear of it. -/
theorem deliver (h : Enacts outside tellable L c) (hin : (signal, r) ∈ c.given) :
    Enacts outside tellable (L.deliver signal r) c := by
  rw [Loop.deliver]
  generalize List.range L.tasks.size = ts
  induction ts generalizing L with
  | nil => exact h
  | cons t ts ih =>
    rw [List.foldl_cons]
    refine ih ?_
    split
    · rename_i s' next hs
      split
      · rename_i heq
        subst heq
        refine h.wake hs (.paused _ _) fun x hx => ?_
        cases h.fits_of_standing hs hx with
        | paused hr hrest =>
          exact .ready hr (.of_resumption (Deed.wake (.signal s')) (fun o => hrest ▸ .wake _ next o) rfl (.signal hin))
      · exact h
    · exact h

theorem deliverAll {signals : List (I.Signal × Outcome I.Fault Unit)} (h : Enacts outside tellable L c)
    (hin : ∀ s ∈ signals, s ∈ c.given) :
    Enacts outside tellable (signals.foldl (fun L s => L.deliver s.1 s.2) L) c := by
  induction signals generalizing L with
  | nil => exact h
  | cons s signals ih =>
    exact ih (h.deliver (hin s List.mem_cons_self)) fun s' hs' => hin s' (List.mem_cons_of_mem _ hs')

end

end Enacts

/-! ## Who has its turn keeps it -/

theorem modify_modify {α : Type} (xs : Array α) (i : Nat) (f f' : α → α) :
    (xs.modify i f).modify i f' = xs.modify i (f' ∘ f) := by
  refine Array.ext_getElem? fun j => ?_
  rw [Array.getElem?_modify, Array.getElem?_modify, Array.getElem?_modify]
  split
  · rw [Option.map_map]
  · rfl

theorem place_place (L : Loop I W) (t : TaskId) (s s' : Standing I) : (L.place t s).place t s' = L.place t s' := by
  unfold Loop.place
  dsimp only
  rw [modify_modify]
  rfl

theorem standing?_wake (hne : u ≠ t) (resume : Bool → Program I I.Result) :
    (L.wake u resume).standing? t = L.standing? t :=
  (standing?_place L u t _).trans (if_neg hne)

/-- A signal wakes only tasks that have paused. -/
theorem standing?_deliver [DecidableEq I.Signal] (signal : I.Signal) (r : Outcome I.Fault Unit)
    (hs : L.standing? t = some s) (hpause : ∀ on next, s ≠ .paused on next) :
    (L.deliver signal r).standing? t = some s := by
  rw [Loop.deliver]
  generalize List.range L.tasks.size = ts
  induction ts generalizing L with
  | nil => exact hs
  | cons u ts ih =>
    rw [List.foldl_cons]
    refine ih ?_
    split
    · rename_i hu
      split
      · refine (standing?_wake (fun hut => ?_) _).trans hs
        subst hut
        exact hpause _ _ (Option.some.inj (hs.symm.trans hu))
      · exact hs
    · exact hs

theorem standing?_deliverAll [DecidableEq I.Signal] (signals : List (I.Signal × Outcome I.Fault Unit))
    (hs : L.standing? t = some s) (hpause : ∀ on next, s ≠ .paused on next) :
    (signals.foldl (fun L s => L.deliver s.1 s.2) L).standing? t = some s := by
  induction signals generalizing L with
  | nil => exact hs
  | cons signal signals ih => exact ih (standing?_deliver signal.1 signal.2 hs hpause)

end Loop
end BrowserPlan.Task
