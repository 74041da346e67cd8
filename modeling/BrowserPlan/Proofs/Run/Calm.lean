import BrowserPlan.Proofs.Run.Kin

/-!
# Calm histories

In a calm history nobody outside tells a task to give up, and the user does not interrupt; calls may
fail in any way. Then only helpers are ever told to give up, by the task that they help, and only when
another of its helpers has failed. Nobody is left behind: whoever waits for helpers waits for all of
them, and branches end well, whatever has gone wrong in them. `Calm` is the invariant.
-/
namespace BrowserPlan.Run

open BrowserPlan.Task BrowserPlan.Browser

variable {W : Type} {m : Machine scene W} {V : Venue m} {b : Brief} {F : TaskId → Findings}
  {h : List (Event scene)} {c c' : Crew scene W} {g g' : Stages} {e : Event scene} {t u : TaskId}
  {x y : Member scene} {w₀ : W}

/-- Nobody outside tells a task to give up, and the user does not interrupt. -/
def Event.IsCalm : Event scene → Prop
  | .act _ (.ask q a) => Call.answersCalmly q a
  | .tell _ => False
  | _ => True

/-- The event is no interruption. -/
def Event.isCalm : Event scene → Bool
  | .act _ (.ask (.begin ..) course) => !course.interrupts
  | .tell _ => false
  | _ => true

theorem Event.isCalm_iff (e : Event scene) : Event.isCalm e = true ↔ Event.IsCalm e := by
  cases e with
  | act t d =>
    cases d with
    | ask q a =>
      cases q with
      | «begin» => exact iff_of_eq (Bool.not_eq_true' _)
      | _ => exact iff_of_true rfl trivial
    | _ => exact iff_of_true rfl trivial
  | tell t => exact iff_of_false Bool.false_ne_true id
  | _ => exact iff_of_true rfl trivial

instance (e : Event scene) : Decidable (Event.IsCalm e) := decidable_of_iff _ (Event.isCalm_iff e)

/-- What holds of the tasks after a calm history. -/
structure Calm (h : List (Event scene)) (c : Crew scene W) (g : Stages) : Prop where
  /-- Only helpers are told to give up. -/
  told : ∀ u y, c.members[u]? = some y → y.isTold = true →
    (∃ p, IsHelp p y.job) ∧ ∀ t w, g t = .working w → u ∈ w.helpers → w.isStopping = true
  deeds : ∀ u y, c.members[u]? = some y → y.isTold = false → ∀ d ∈ deedsOf h u, Deed.IsCalm d
  /-- Helpers that go on are waited for. -/
  helped : ∀ u y p, c.members[u]? = some y → IsHelp p y.job → y.result = none →
    ∃ t w, g t = .working w ∧ u ∈ w.helpers

/-! ## How tasks end -/

/-- Who was not told to give up ends well or fails, and a branch ends well. -/
theorem Calm.result (hc : Calm h c g) (ho : InOrder b V F h c g) (hx : c.members[t]? = some x)
    (htold : x.isTold = false) {r : Outcome Fault Yield} (hr : x.result = some r) :
    IsCalm r ∧ (x.job.IsBranch → ∃ a, r = .ok a) := by
  have hfits := ho.fits t x hx
  have hrest : x.rest = .done r := by
    rcases (hfits.ended r hr).2 with hdone | ⟨-, ht⟩
    · exact hdone
    · rw [htold] at ht
      cases ht
  have hobeys : (program x.job).Obeys Deed.IsCalm (Next (fun _ _ => True) x.job)
      (TaskEnds Deed.IsCalm x.job) (.first x.job) :=
    program_obeys (fun d _ => cover_anything d) hfits.part
  obtain ⟨s, -, hends⟩ := hobeys.path hfits.path (hc.deeds t x hx htold)
  rw [hrest] at hends
  obtain ⟨hsound, hjob⟩ : TaskEnds Deed.IsCalm x.job s r := hends
  have hcalm : IsCalm r := hsound fun _ => id
  refine ⟨hcalm, fun hbranch => ?_⟩
  cases hj : x.job with
  | branch link index list =>
    rw [hj] at hjob
    match r with
    | .ok a => exact ⟨a, rfl⟩
    | .error (.failed fault) => exact absurd rfl (hjob.2 fault)
  | _ =>
    rw [hj] at hbranch
    exact hbranch.elim

/-! ## What tasks meet -/

theorem Calm.not_waits (hc : Calm h c g) (ho : InOrder b V F h c g) (hx : c.members[t]? = some x)
    (hr : x.result = none) (htold : x.isTold = true) : ¬ x.rest.WaitsFor u := by
  intro hw
  obtain ⟨w, hs, -⟩ := (ho.fits t x hx).waits hr hw
  obtain ⟨⟨p, hhelp⟩, -⟩ := hc.told t x hx htold
  rw [(ho.fits t x hx).helping hhelp] at hs
  cases hs

theorem Calm.not_told_of_working (hc : Calm h c g) (ho : InOrder b V F h c g)
    (hx : c.members[t]? = some x) {w : Work} (hw : g t = .working w) : x.isTold = false := by
  cases htold : x.isTold with
  | false => rfl
  | true =>
    obtain ⟨⟨p, hhelp⟩, -⟩ := hc.told t x hx htold
    rw [(ho.fits t x hx).helping hhelp] at hw
    cases hw

theorem offers_of_allows {ts : List TaskId} {patient : Bool} {r : Outcome Fault Unit}
    (ha : Crew.Allows m c false (.meet ts patient r) c') : c.Offers (.meet ts patient r) := by
  cases ha with
  | wait ho => exact ho
  | late htold => cases htold

theorem Calm.ended (hc : Calm h c g) (ho : InOrder b V F h c g) (hy : c.members[u]? = some y)
    (htold : y.isTold = false) {s : Stop Fault} (hs : c.result? u = some (.error s)) :
    (∃ fault, s = .failed fault) ∧ ¬ y.job.IsBranch := by
  have hr : y.result = some (.error s) := by rwa [Crew.result?, hy, Option.bind_some] at hs
  obtain ⟨hcalm, hbranch⟩ := hc.result ho hy htold hr
  refine ⟨?_, fun hb => ?_⟩
  · cases s with
    | failed fault => exact ⟨fault, rfl⟩
    | _ => exact hcalm.elim
  · obtain ⟨a, ha⟩ := hbranch hb
    cases ha

/-- Branches never meet in a bad end, and who meets a bad end of its helpers has told none of them to
give up and waits for no branches. -/
theorem Calm.meets (hc : Calm h c g) (ho : InOrder b V F h c g) (hk : Kin h c g)
    {w : Work} {ts : List TaskId} {patient : Bool} {r : Outcome Fault Unit}
    (hw : g t = .working w) (hoffers : c.Offers (.meet ts patient r))
    (hts : ts = w.helpers ∧ w.branches = [] ∧ (w.isStopping = false ∨ patient = true ∨ ∃ a, r = .ok a) ∨
      w.leads = true ∧ ts = w.branches) :
    (∃ a, r = .ok a) ∨ w.branches = [] ∧ ∃ fault, r = .error (.failed fault) := by
  cases hoffers with
  | all | good => exact .inl ⟨(), rfl⟩
  | @bad ts v s hv hs =>
    rcases hts with ⟨rfl, hnone, hstop | hpatient | ⟨a, ha⟩⟩ | ⟨-, rfl⟩
    · obtain ⟨-, y, hy, -⟩ := hk.helpers t w hw v hv
      have htold : y.isTold = false := by
        cases htold : y.isTold with
        | false => rfl
        | true => rw [(hc.told v y hy htold).2 t w hw hv] at hstop; cases hstop
      obtain ⟨⟨fault, rfl⟩, -⟩ := hc.ended ho hy htold hs
      exact .inr ⟨hnone, fault, rfl⟩
    · cases hpatient
    · cases ha
    · obtain ⟨y, hy, hbranch⟩ := hk.branches t w hw v hv
      have htold : y.isTold = false := by
        cases htold : y.isTold with
        | false => rfl
        | true =>
          obtain ⟨⟨p, hhelp⟩, -⟩ := hc.told v y hy htold
          exact absurd hbranch hhelp.not_branch
      exact absurd hbranch (hc.ended ho hy htold hs).2

theorem Calm.offers (hc : Calm h c g) (ho : InOrder b V F h c g) {w : Work} (hw : g t = .working w)
    {ts : List TaskId} {patient : Bool} {r : Outcome Fault Unit}
    (hs : Crew.Step m IsOutside c (.act t (.meet ts patient r)) c') : c.Offers (.meet ts patient r) := by
  cases hs with
  | act hx _ _ ha =>
    rw [hc.not_told_of_working ho hx hw] at ha
    exact offers_of_allows ha

/-- Who works has met those it waited for when all of them have ended. -/
theorem Calm.met (hc : Calm h c g) (ho : InOrder b V F h c g) {w : Work} (hw : g t = .working w)
    {ts : List TaskId} {patient : Bool} {r : Outcome Fault Unit}
    (hs : Crew.Step m IsOutside c (.act t (.meet ts patient r)) c')
    (hr : patient = true ∨ ∃ a, r = .ok a) : ∀ u ∈ ts, (c.result? u).isSome = true := by
  cases hc.offers ho hw hs with
  | all hall => exact hall
  | good hall =>
    intro u hu
    obtain ⟨a, ha⟩ := hall u hu
    rw [ha]
    rfl
  | bad =>
    rcases hr with hpatient | ⟨a, ha⟩
    · cases hpatient
    · cases ha

/-- A step of somebody who was not told to give up. -/
theorem Calm.deed (hc : Calm h c g) (ho : InOrder b V F h c g) (hk : Kin h c g) {d : Deed scene}
    (hs : Crew.Step m IsOutside c (.act t d) c') (hg : Moves F c g (.act t d) g')
    (he : Event.IsCalm (.act t d)) (hx : c.members[t]? = some x) (htold : x.isTold = false) :
    Deed.IsCalm d := by
  cases hg with
  | idle hidle => exact absurd rfl (hidle t d)
  | act hx' hnext =>
    obtain rfl : x = _ := Option.some.inj (hx.symm.trans hx')
    cases hs with
    | act hx'' hr hp ha =>
      obtain rfl : x = _ := Option.some.inj (hx.symm.trans hx'')
      rw [htold] at ha
      cases d with
      | ask q a => exact he
      | start | stop => trivial
      | learn => exact absurd hnext Next.not_learns
      | meet ts patient r =>
        obtain ⟨w, hw, hts⟩ := hnext.meets
        rcases hc.meets ho hk hw (offers_of_allows ha) hts with ⟨a, rfl⟩ | ⟨-, fault, rfl⟩ <;> trivial
      | wake on r =>
        cases ha with
        | breakOff on ht => cases ht
        | late ht => cases ht
        | wait hoffers =>
          cases hoffers with
          | timer => trivial
          | signal hin =>
            obtain ⟨k, rfl, -⟩ := hnext.wakes
            rw [(ho.ledger.granted k r hin).1]
            trivial

/-! ## The invariant -/

theorem StartedBy.lt (ho : InOrder b V F h c g) (hs : StartedBy h t u) : t < c.members.length := by
  obtain ⟨job, hin⟩ := hs
  obtain ⟨y, hy⟩ := ho.member_of_deed hin
  exact Crew.lt_of_member hy

/-- Whoever is told to give up is a helper of somebody who gives up on its helpers. -/
theorem Calm.tells (hc : Calm h c g) (hf : Follows b V F w₀ h c g)
    (hs : Crew.Step m IsOutside c e c') (hg : Moves F c g e g') (he : Event.IsCalm e)
    (hx : c.members[u]? = some x) (ht : x.isTold = true ∨ Crew.Tells c u e) :
    (∃ p, IsHelp p x.job) ∧ ∀ t w, g t = .working w → u ∈ w.helpers → w.isStopping = true := by
  rcases ht with htold | htells
  · exact hc.told u x hx htold
  · cases htells with
    | outside => exact he.elim
    | passes hy htold =>
      cases hs with
      | pass hy' hr _ hu =>
        obtain rfl := Option.some.inj (hy.symm.trans hy')
        exact absurd hu (hc.not_waits hf.inOrder hy hr htold)
    | stops v =>
      rcases hg.stage hs v with ⟨-, hne⟩ | ⟨z, d, heq, hz, hnext⟩ | ⟨a, job, heq, -⟩
      · exact absurd rfl (hne _)
      · cases heq
        obtain ⟨w, hw, hu, hstop⟩ := hnext.dismisses
        obtain ⟨⟨job, hstart⟩, y, hy, hhelp⟩ := hf.kin.helpers v w hw u hu
        obtain rfl : x = y := Option.some.inj (hx.symm.trans hy)
        refine ⟨⟨_, hhelp⟩, fun t w' hw' hu' => ?_⟩
        obtain ⟨⟨job', hstart'⟩, -⟩ := hf.kin.helpers t w' hw' u hu'
        obtain ⟨rfl, -⟩ := hf.reaches.started_once hstart hstart'
        cases hw.symm.trans hw'
        exact hstop
      · cases heq

theorem Calm.step (hc : Calm h c g) (hf : Follows b V F w₀ h c g)
    (hs : Crew.Step m IsOutside c e c') (hg : Moves F c g e g') (he : Event.IsCalm e) :
    Calm (h ++ [e]) c' g' := by
  have ho := hf.inOrder
  constructor
  case told =>
    intro u y hy htold
    rcases hs.member hy with ⟨x, hx, hcont⟩ | ⟨_, _, _, _, rfl⟩
    · obtain ⟨hhelp, hstopping⟩ := hc.tells hf hs hg he hx (hcont.why htold)
      refine ⟨hcont.job ▸ hhelp, fun t w hw hu => ?_⟩
      rcases hg.stage hs t with ⟨heq, -⟩ | ⟨z, d, rfl, hz, hnext⟩ | ⟨v, job, rfl, -, hfirst⟩
      · exact hstopping t w (heq ▸ hw) hu
      · rw [hw] at hnext
        rcases hnext.helpers with hnil | ⟨w', hw', -, ⟨hsame, hstop⟩ | ⟨help, v, rfl, -, hstop, hmore⟩⟩
        · rw [hnil] at hu
          cases hu
        · exact hstop (hstopping t w' hw' (hsame ▸ hu))
        · rw [hmore, List.mem_append, List.mem_singleton] at hu
          rcases hu with hu | rfl
          · rw [hstopping t w' hw' hu] at hstop
            cases hstop
          · -- who has just been started was not there before
            cases hs with
            | act _ _ _ ha => exact absurd (Crew.lt_of_member hx) (ha.started.1 ▸ Nat.lt_irrefl _)
      · rw [(helpers_first job (hfirst.symm.trans hw)).1] at hu
        cases hu
    · cases htold
  case deeds =>
    intro u y hy htold d hd
    rcases hs.member hy with ⟨x, hx, hcont⟩ | ⟨v, job, rfl, hlen, -⟩
    · have huntold : x.isTold = false := by
        cases hxt : x.isTold with
        | false => rfl
        | true => rw [hcont.told hxt] at htold; cases htold
      by_cases hact : ∃ d', e = .act u d'
      · obtain ⟨d', rfl⟩ := hact
        rw [deedsOf_act, List.mem_append, List.mem_singleton] at hd
        rcases hd with hd | rfl
        · exact hc.deeds u x hx huntold d hd
        · exact hc.deed ho hf.kin hs hg he hx huntold
      · rw [deedsOf_idle fun d' heq => hact ⟨d', heq⟩] at hd
        exact hc.deeds u x hx huntold d hd
    · rw [deedsOf_idle fun d' heq => ?_, ho.later u (Nat.le_of_eq hlen.symm)] at hd
      · cases hd
      · cases heq
        cases hs with
        | act hx => exact absurd (hlen ▸ Crew.lt_of_member hx) (Nat.lt_irrefl _)
  case helped =>
    intro u y p hy hhelp hgoes
    rcases hs.member hy with ⟨x, hx, hcont⟩ | ⟨v, job, rfl, hlen, rfl⟩
    · obtain ⟨t, w, hw, hu⟩ := hc.helped u x p hx (hcont.job ▸ hhelp) (hcont.goes hgoes)
      rcases hg.stage hs t with ⟨heq, -⟩ | ⟨z, d, rfl, hz, hnext⟩ | ⟨v, job, -, hself, -⟩
      · exact ⟨t, w, heq.trans hw, hu⟩
      · rw [hw] at hnext
        rcases hnext.forgets hu with ⟨w', hw', hu'⟩ | ⟨patient, r, rfl, hr⟩
        · exact ⟨t, w', hw', hu'⟩
        · have hended := hc.met ho hw hs hr u hu
          rw [Crew.result?, hx, Option.bind_some, hcont.goes hgoes] at hended
          cases hended
      · exact absurd ((hf.kin.helpers t w hw u hu).1.lt ho) (hself ▸ Nat.lt_irrefl _)
    · rcases hg.stage hs v with ⟨-, hne⟩ | ⟨z, d, heq, hz, hnext⟩ | ⟨a, job', heq, hself, -⟩
      · exact absurd rfl (hne _)
      · cases heq
        obtain ⟨w, -, hw'⟩ := hnext.engages hhelp
        exact ⟨v, _, hw', List.mem_append_right _ (List.mem_singleton_self u)⟩
      · cases heq
        cases hs with
        | act hx => exact absurd (hself ▸ Crew.lt_of_member hx) (Nat.lt_irrefl _)

theorem calm_first : Calm [] (Crew.single m w₀ b.job) fun _ => .first b.job where
  told := by
    intro u y hy htold
    obtain ⟨hlen, rfl⟩ := List.getElem?_eq_some_iff.1 hy
    obtain rfl : u = 0 := Nat.lt_one_iff.1 hlen
    cases htold
  deeds := fun _ _ _ _ _ => nofun
  helped := by
    intro u y p hy hhelp
    obtain ⟨hlen, rfl⟩ := List.getElem?_eq_some_iff.1 hy
    obtain rfl : u = 0 := Nat.lt_one_iff.1 hlen
    cases hhelp

/-- Calm histories keep the tasks calm. -/
theorem Follows.calm (hf : Follows b V F w₀ h c g) (hh : ∀ e ∈ h, Event.IsCalm e) : Calm h c g := by
  induction hf with
  | nil => exact calm_first
  | snoc hc hs hg ho ih =>
    exact (ih fun e he => hh e (List.mem_append_left _ he)).step hc hs hg
      (hh _ (List.mem_append_right _ (List.mem_singleton_self _)))

end BrowserPlan.Run
