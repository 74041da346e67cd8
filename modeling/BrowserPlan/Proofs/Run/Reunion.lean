import BrowserPlan.Proofs.Run.Calm
import BrowserPlan.Proofs.Run.HoldAndWait
import BrowserPlan.Proofs.Run.Tally
import BrowserPlan.Proofs.Task.Halting

/-!
# Nobody is left behind

While the steps of a plan are carried out, nobody opens or closes anything but pages for branches, as
long as the run is calm somebody can always go on (`Follows.exists_unblocked`), and when the first task
is done with the steps, all others have ended (`Follows.reunited`).
-/
namespace BrowserPlan.Run

open BrowserPlan.Task BrowserPlan.Browser

/-! ## Steps that leave the session alone -/

/-- Steps that neither change the session nor close the pool. -/
def Deed.spares : Deed scene → Bool
  | .ask (.setSession _) _ | .ask (.pool .shut) _ => false
  | _ => true

/-- A step that neither opens nor closes anything but pages for branches. -/
structure Deed.IsOrdinary (d : Deed scene) : Prop where
  closes : Deed.closing? d = none
  opens : Deed.opened? d = none
  spares : Deed.spares d = true

/-- An event in which nothing is opened or closed but pages for branches. -/
def Event.IsOrdinary (e : Event scene) : Prop := ∀ t d, e = .act t d → Deed.IsOrdinary d

theorem Event.IsOrdinary.closing? {e : Event scene} (he : Event.IsOrdinary e) : Event.closing? e = none := by
  cases e with
  | act t d => exact (he t d rfl).closes
  | _ => rfl

theorem Event.IsOrdinary.opened? {e : Event scene} (he : Event.IsOrdinary e) : Event.opened? e = none := by
  cases e with
  | act t d => exact (he t d rfl).opens
  | _ => rfl

section
variable {F : Findings} {job job' : Job} {s s' : Stage} {d : Deed scene} {p : PageId} {u : TaskId}

theorem IsAside.ordinary (h : IsAside d) : Deed.IsOrdinary d := by
  cases h <;> exact ⟨rfl, rfl, rfl⟩

theorem IsPause.ordinary (h : IsPause d) : Deed.IsOrdinary d := by
  cases h <;> exact ⟨rfl, rfl, rfl⟩

theorem IsCall.ordinary {who : Party} {op : Operation} (hw : IsOn F p who) (hop : op.closes = false)
    (h : IsCall who op d) : Deed.IsOrdinary d := by
  have hclosing : closing? who op = none := by
    cases hw with
    | page =>
      cases op with
      | close => cases hop
      | _ => rfl
    | element => rfl
  cases h with
  | «begin» a => exact ⟨hclosing, rfl, rfl⟩
  | complete landing a =>
    refine ⟨rfl, ?_, rfl⟩
    cases hw <;> rfl
  | breakOff a => exact ⟨rfl, rfl, rfl⟩

theorem IsQuiet.ordinary (h : IsQuiet F p d) : Deed.IsOrdinary d := by
  cases h with
  | aside h => exact h.ordinary
  | pause h => exact h.ordinary
  | call hw hop h => exact h.ordinary hw hop
  | _ => exact ⟨rfl, rfl, rfl⟩

theorem Next.not_close {dd : Deferral} (h : Next F job s (.start (.close dd) u) s') : False := h.starts.1

theorem Next.ordinary (h : Next F job s d s') : Deed.IsOrdinary d := by
  cases h with
  | aside h => exact h.ordinary
  | make h | prepare h => exact h.ordinary
  | quiet h | help h => exact h.ordinary
  | deal h => cases h <;> exact ⟨rfl, rfl, rfl⟩
  | share h => cases h <;> exact ⟨rfl, rfl, rfl⟩
  | limit hop h => exact h.ordinary (F := F) .page hop.not_closes
  | _ => exact ⟨rfl, rfl, rfl⟩

end

section
variable {W : Type} {m : Machine scene W} {V : Venue m} {b : Brief} {F : TaskId → Findings}
  {h : List (Event scene)} {c c' : Crew scene W} {g g' : Stages} {e : Event scene} {t u : TaskId}
  {x y : Member scene} {w₀ : W}

/-! ## Jobs go down -/

/-- Who starts a task has a job above that of the task. -/
def Job.level : Job → Nat
  | .automation .. | .attended .. | .commanded .. => 3
  | .steps .. => 2
  | .branch .. => 1
  | _ => 0

theorem IsHelp.level {p : PageId} {job : Job} (h : IsHelp p job) : job.level = 0 := by
  cases h <;> rfl

/-- Who works carries out steps or is a branch. -/
theorem Fits.level {F : Findings} {s : Stage} {w : Work} (hf : Fits F h t x s) (hs : s = .working w) :
    0 < x.job.level ∧ (w.leads = true → 1 < x.job.level) := by
  have hsuits := hf.suits
  have hpart := hf.part
  cases hjob : x.job with
  | steps page list index => exact ⟨Nat.two_pos, fun _ => Nat.one_lt_two⟩
  | branch link index list =>
    rw [hjob] at hsuits
    refine ⟨Nat.one_pos, fun hl => ?_⟩
    rw [hsuits.1 w hs] at hl
    cases hl
  | wait | click =>
    rw [hjob] at hsuits
    rw [show s = _ from hsuits] at hs
    cases hs
  | _ =>
    rw [hjob] at hpart
    exact hpart.elim

theorem InOrder.level_lt (ho : InOrder b V F h c g) {job : Job}
    (hs : Crew.Step m IsOutside c (.act t (.start job u)) c') (hx : c.members[t]? = some x) :
    job.level < x.job.level := by
  cases hs with
  | act hx' hr hd ha =>
    obtain rfl := Option.some.inj (hx.symm.trans hx')
    have hfits := ho.fits t x hx
    obtain ⟨s', hnext, -⟩ := (hfits.obeys hr).does hd trivial
    obtain ⟨w, w', hw, -, hshares⟩ := hnext.shares trivial
    obtain ⟨hpos, hlead⟩ := hfits.level hw
    cases hshares with
    | engage u hstop hhelp => exact hhelp.level ▸ hpos
    | dispatch u hl => exact hlead hl

/-! ## Who gives up on helpers has some -/

/-- How a task comes to give up on those that it waits for. -/
theorem Next.stopping {F : Findings} {job : Job} {s : Stage} {d : Deed scene} {w' : Work}
    (h : Next F job s d (.working w')) (hw' : w'.isStopping = true) :
    ∃ w, s = .working w ∧ ((w.isStopping = true ∧ w.helpers ⊆ w'.helpers) ∨
      (∃ e, d = .meet w.helpers false (.error e) ∧ w.isStopping = false ∧ w.branches = [] ∧
        w'.helpers = w.helpers) ∨
      ∃ e, d = .meet w.branches false (.error e) ∧ w.leads = true) := by
  generalize hs : Stage.working w' = s' at h
  cases h with
  | deal h => exact absurd hs.symm (h.not_working.1 w')
  | enter =>
    cases hs
    cases hw'
  | aside | quiet | executed =>
    cases hs
    exact ⟨_, rfl, .inl ⟨hw', fun _ => id⟩⟩
  | share h =>
    cases hs
    cases h with
    | engage u hstop =>
      rw [show _ = true from hw'] at hstop
      cases hstop
    | gathered => cases hw'
    | upset e hstop hb => exact ⟨_, rfl, .inr (.inl ⟨e, rfl, hstop, hb, rfl⟩)⟩
    | abandoned e hl => exact ⟨_, rfl, .inr (.inr ⟨e, rfl, hl⟩)⟩
    | dismiss | dispatch | reunited => exact ⟨_, rfl, .inl ⟨hw', fun _ => id⟩⟩
  | _ => cases hs

theorem exists_mem_of_offers {ts : List TaskId} {e : Stop Fault}
    (ho : c.Offers (.meet ts false (.error e))) : ts ≠ [] := by
  cases ho with
  | bad ht => exact List.ne_nil_of_mem ht

/-- In a calm history, who gives up on its helpers has some. -/
theorem Follows.stopping (hf : Follows b V F w₀ h c g) (hh : ∀ e ∈ h, Event.IsCalm e) :
    ∀ t w, g t = .working w → w.isStopping = true → w.helpers ≠ [] := by
  induction hf with
  | nil =>
    rintro t w ⟨⟩ hw
    cases hw
  | @snoc h c c' g g' e hc hs hg ho ih =>
    have hcalm := hc.calm fun e he => hh e (List.mem_append_left _ he)
    have hold := ih fun e he => hh e (List.mem_append_left _ he)
    intro t w' hw' hstop
    rcases hg.stage hs t with ⟨heq, -⟩ | ⟨x, d, rfl, hx, hnext⟩ | ⟨v, job, -, -, hfirst⟩
    · exact hold t w' (heq ▸ hw') hstop
    · rw [hw'] at hnext
      obtain ⟨w, hw, ⟨hwas, hsub⟩ | ⟨e, rfl, hnot, hb, hsame⟩ | ⟨e, rfl, hl⟩⟩ := hnext.stopping hstop
      · exact fun hnil => hold t w hw hwas (List.subset_nil.1 (hnil ▸ hsub))
      · exact hsame ▸ exists_mem_of_offers (hcalm.offers hc.inOrder hw hs)
      · have hoffers := hcalm.offers hc.inOrder hw hs
        rcases hcalm.meets hc.inOrder hc.kin hw hoffers (.inr ⟨hl, rfl⟩) with ⟨a, ha⟩ | ⟨hnone, -⟩
        · cases ha
        · exact absurd hnone (exists_mem_of_offers hoffers)
    · cases job with
      | steps page list index =>
        cases hfirst.symm.trans hw'
        cases hstop
      | _ => cases hfirst.symm.trans hw'

/-! ## In the end -/

/-- Who works and does not lead is a branch that goes on. -/
theorem InOrder.branch_of_working (ho : InOrder b V F h c g) (hx : c.members[t]? = some x) {w : Work}
    (hw : g t = .working w) (hl : w.leads = false) : x.job.IsBranch ∧ x.result = none := by
  have hfits := ho.fits t x hx
  have hsuits := hfits.suits
  have hpart := hfits.part
  constructor
  · cases hjob : x.job with
    | branch => trivial
    | steps page list index =>
      rw [hjob] at hsuits
      obtain ⟨w', hw', hl', -⟩ := hsuits
      cases hw.symm.trans hw'
      rw [hl] at hl'
      cases hl'
    | wait | click =>
      rw [hjob] at hsuits
      cases hw.symm.trans hsuits
    | _ =>
      rw [hjob] at hpart
      exact hpart.elim
  · refine Option.eq_none_iff_forall_ne_some.2 fun r hr => ?_
    have hrest := (hfits.ended r hr).1
    rw [hw] at hrest
    rw [show w.leads = true from hrest] at hl
    cases hl

/-- When the first task has nobody to wait for any more, all others have ended. -/
theorem Follows.reunited (hf : Follows b V F w₀ h c g) (hh : ∀ e ∈ h, Event.IsCalm e) {w : Work}
    (hw : g 0 = .working w) (hleft : w.IsLeft) (hu : u ≠ 0) (hy : c.members[u]? = some y) :
    y.result.isSome = true := by
  have ho := hf.inOrder
  have hcalm := hf.calm hh
  obtain ⟨hhelpers, -, hbranches⟩ : w.IsClear := by
    rcases hleft with hclear | ⟨-, hnil, hstop⟩
    · exact hclear
    · exact absurd hnil (hf.stopping hh 0 w hw hstop)
  -- no branch goes on, since the first task would wait for it
  have hbranch : ∀ {v : TaskId} {z : Member scene}, c.members[v]? = some z → z.job.IsBranch → z.result ≠ none := by
    intro v z hz hjob hgoes
    obtain ⟨w', hw', hin⟩ := hf.kin.listed v z hz hjob hgoes
    cases hw.symm.trans hw'
    rw [hbranches] at hin
    cases hin
  -- and no helper, since who waits for it would be a branch
  have hhelper : ∀ {p}, IsHelp p y.job → y.result ≠ none := by
    intro p hhelp hgoes
    obtain ⟨v, w', hw', hin⟩ := hcalm.helped u y p hy hhelp hgoes
    obtain ⟨job, hstart⟩ := (hf.kin.helpers v w' hw' u hin).1
    obtain ⟨z, hz⟩ := ho.member_of_deed hstart
    cases hl : w'.leads with
    | true =>
      obtain rfl := ho.leader hz hw' hl
      cases hw.symm.trans hw'
      rw [hhelpers] at hin
      cases hin
    | false =>
      obtain ⟨hjob, hgoes'⟩ := ho.branch_of_working hz hw' hl
      exact hbranch hz hjob hgoes'
  refine Option.isSome_iff_ne_none.2 fun hgoes => ?_
  have hpart := (ho.fits u y hy).part
  have hother := ho.others u y hy hu
  cases hjob : y.job with
  | steps page list index => exact hother page list index hjob
  | branch => exact hbranch hy (hjob ▸ trivial) hgoes
  | wait page condition => exact hhelper (hjob ▸ IsHelp.wait condition) hgoes
  | click page target => exact hhelper (hjob ▸ IsHelp.click target) hgoes
  | _ =>
    rw [hjob] at hpart
    exact hpart

/-- When the first task is done with the steps, it ends well or fails, and all others have ended. -/
theorem Follows.finished (hf : Follows b V F w₀ h c g) (hh : ∀ e ∈ h, Event.IsCalm e)
    (hx : c.members[0]? = some x) (hgoes : x.result = none) {r : Outcome Fault Yield} (hrest : x.rest = .done r) :
    IsCalm r ∧ ∀ (v : TaskId) (y : Member scene), v ≠ 0 → c.members[v]? = some y →
      y.result.isSome = true := by
  have hcalm := hf.calm hh
  have hfits := hf.inOrder.fits 0 x hx
  obtain ⟨x', hx', hjob⟩ := hf.inOrder.chief
  obtain rfl : x = x' := Option.some.inj (hx.symm.trans hx')
  have hends : TaskEnds (F 0).Cover x.job (g 0) r := by
    have hobeys := hfits.obeys hgoes
    rwa [hrest] at hobeys
  obtain ⟨w, hw, -, hleft⟩ : ∃ w, g 0 = .working w ∧ w.leads = true ∧ w.IsLeft := by
    rw [hjob] at hends
    exact hends.2
  refine ⟨?_, fun v y hv hy => hf.reunited hh hw hleft hv hy⟩
  have htold := hcalm.not_told_of_working hf.inOrder hx hw
  have hobeys : (program x.job).Obeys Deed.IsCalm (Next (fun _ _ => True) x.job)
      (TaskEnds Deed.IsCalm x.job) (.first x.job) :=
    program_obeys (fun d _ => cover_anything d) hfits.part
  obtain ⟨s, -, hends⟩ := hobeys.path hfits.path (hcalm.deeds 0 x hx htold)
  rw [hrest] at hends
  exact hends.1 fun _ => id

/-! ## In the meantime -/

/-- What a step has granted was granted before, or it is given in the step. -/
theorem handed_allows {isTold : Bool} {s s' : Stage} {d : Deed scene} {c₁ : Crew scene W}
    (ha : Crew.Allows m c isTold d c₁) (hd : Deals s d s' ∨ Spares d) {k : Nat}
    (hk : ((V.pool c₁.world).handout? k).isSome = true) :
    ((V.pool c.world).handout? k).isSome = true ∨ (Signal.granted k, .ok ()) ∈ c₁.given := by
  cases ha with
  | @ask q x now hx =>
    cases q with
    | pool q =>
      change ((V.pool (m.perform now c.world (.pool q)).1).handout? k).isSome = true at hk
      rw [V.pool_asked] at hk
      refine (Pool.told_of_granted q hk).imp_right fun htold => List.mem_append_right _ ?_
      rw [congrArg Prod.snd (V.pool_answers now c.world q)]
      exact List.mem_map_of_mem (List.mem_map_of_mem htold)
    | openPool limit =>
      rcases hd with hd | hd <;> cases hd
    | _ =>
      refine .inl ?_
      change ((V.pool (m.perform now c.world _).1).handout? k).isSome = true at hk
      rw [V.pool_spared now c.world _ rfl] at hk
      exact hk
  | breakOff on htold =>
    refine .inl ?_
    cases on with
    | signal σ =>
      rcases hd with hd | hd
      · cases hd
        change ((V.pool (m.forsake c.world (.granted _))).handout? k).isSome = true at hk
        rw [V.pool_forsaken] at hk
        exact hk
      · exact hd.elim
    | timer | forever => exact hk
  | _ => exact .inl hk

theorem given_allows {isTold : Bool} {d : Deed scene} {c₁ : Crew scene W}
    (ha : Crew.Allows m c isTold d c₁) : c.given ⊆ c₁.given := by
  cases ha with
  | ask => exact List.subset_append_left ..
  | breakOff on => cases on <;> exact fun _ => id
  | _ => exact fun _ => id

/-- What was granted was given. -/
theorem Follows.handed (hopens : b.Opens V w₀) (hf : Follows b V F w₀ h c g) {k : Nat}
    (hk : ((V.pool c.world).handout? k).isSome = true) : ∃ r, (Signal.granted k, r) ∈ c.given := by
  induction hf with
  | nil =>
    change ((V.pool w₀).handout? k).isSome = true at hk
    rw [hopens.pool] at hk
    cases hk
  | @snoc h c c' g g' e hc hs hg ho ih =>
    cases hs with
    | @act t x d p c₁ hx hr hd ha =>
      have hnext : ∃ s', Next (F t) x.job (g t) d s' := by
        cases hg with
        | idle he => exact absurd rfl (he t d)
        | act hx' hnext =>
          obtain rfl := Option.some.inj (hx.symm.trans hx')
          exact ⟨_, hnext⟩
      obtain ⟨s', hnext⟩ := hnext
      rcases handed_allows (V := V) ha (hnext.spares.imp_right And.left) hk with hold | hnew
      · obtain ⟨r, hin⟩ := ih hold
        exact ⟨r, given_allows ha hin⟩
      · exact ⟨_, hnew⟩
    | happen now q hq =>
      obtain rfl := hq
      change ((V.pool (m.perform now c.world .goAway).1).handout? k).isSome = true at hk
      rw [V.pool_spared now c.world .goAway rfl] at hk
      obtain ⟨r, hin⟩ := ih hk
      exact ⟨r, List.mem_append_left _ hin⟩
    | _ => exact ih hk

theorem InOrder.helper_not_blocked (ho : InOrder b V F h c g) (hx : c.members[t]? = some x)
    (hgoes : x.result = none) {p : PageId} (hjob : IsHelp p x.job) : ¬ c.IsBlocked x.rest := by
  have hstage := (ho.fits t x hx).helping hjob
  rintro (⟨s, next, hrest, -⟩ | ⟨u, hw, -⟩)
  · obtain ⟨k, -, hdrawn⟩ := (ho.fits t x hx).paused hgoes hrest
    rw [hstage] at hdrawn
    cases hdrawn
  · obtain ⟨w, hwork, -⟩ := (ho.fits t x hx).waits hgoes hw
    rw [hstage] at hwork
    cases hwork

/-- Everybody who goes on is blocked. -/
def Jammed (c : Crew scene W) : Prop :=
  ∀ (u : TaskId) (y : Member scene), c.members[u]? = some y → y.result = none → c.IsBlocked y.rest

/-- In a jam no helper goes on. -/
theorem Follows.helper_ended (hf : Follows b V F w₀ h c g) (hj : Jammed c) {w : Work} (hw : g t = .working w)
    (hu : u ∈ w.helpers) : c.result? u ≠ none := by
  intro hnone
  obtain ⟨-, y, hy, hhelp⟩ := hf.kin.helpers t w hw u hu
  rw [Crew.result?, hy, Option.bind_some] at hnone
  exact hf.inOrder.helper_not_blocked hy hnone hhelp (hj u y hy hnone)

/-- In a jam nobody whom a branch waits for goes on: a branch has no branches, and waits for helpers alone. -/
theorem Follows.awaited_ended (hf : Follows b V F w₀ h c g) (hj : Jammed c) (hx : c.members[t]? = some x)
    (hgoes : x.result = none) (hbranch : x.job.IsBranch) (hw : x.rest.WaitsFor u) : c.result? u ≠ none := by
  have ho := hf.inOrder
  obtain ⟨w, hwork, hu | ⟨hl, -⟩⟩ := (ho.fits t x hx).waits hgoes hw
  · exact hf.helper_ended hj hwork hu
  · obtain rfl := ho.leader hx hwork hl
    obtain ⟨x', hx', hjob⟩ := ho.chief
    obtain rfl := Option.some.inj (hx.symm.trans hx')
    rw [hjob] at hbranch
    exact hbranch.elim

/-- In a jam every signal that is waited for was given. It is for a page: if the page was not granted, some branch
supplies it, and that branch is not blocked. -/
theorem Follows.given_of_jammed (hopens : b.Opens V w₀) (hf : Follows b V F w₀ h c g) (hj : Jammed c)
    (hx : c.members[t]? = some x) (hgoes : x.result = none) {s : Signal} {next : _ → _}
    (hrest : x.rest = .pause (.signal s) next) : ∃ r, (s, r) ∈ c.given := by
  have ho := hf.inOrder
  obtain ⟨k, rfl, hdrawn⟩ := (ho.fits t x hx).paused hgoes hrest
  by_contra hnone
  have hk : (V.pool c.world).handout? k = none := by
    cases hk : (V.pool c.world).handout? k with
    | none => rfl
    | some p => exact absurd (hf.handed hopens (by rw [hk]; rfl)) hnone
  have hqueued : Queued V c t := by
    refine ⟨k, ?_, hk⟩
    obtain ⟨job, rest, hasBegun, isTold, result⟩ := x
    obtain rfl : rest = _ := hrest
    obtain rfl : result = none := hgoes
    rw [ticket?, hx]
  obtain ⟨u, -, ⟨⟨y, hy, hbranch, hygoes⟩, hhand⟩, -⟩ := hf.supplier hopens hqueued
  rcases hj u y hy hygoes with ⟨s', next', hrest', hnone'⟩ | ⟨v, hw, hv⟩
  · obtain ⟨j, rfl, hdrawn'⟩ := (ho.fits u y hy).paused hygoes hrest'
    rw [ho.hand (Crew.lt_of_member hy), hdrawn'] at hhand
    rcases hhand with ⟨p, hp⟩ | hroom | ⟨i, hi, hsome⟩
    · cases hp
    · cases hroom
    · cases hi
      obtain ⟨r, hin⟩ := hf.handed hopens hsome
      exact hnone' r hin
  · exact hf.awaited_ended hj hy hygoes hbranch hw hv

/-- In a jam no branch goes on. -/
theorem Follows.branch_ended (hopens : b.Opens V w₀) (hf : Follows b V F w₀ h c g) (hj : Jammed c)
    (hx : c.members[t]? = some x) (hbranch : x.job.IsBranch) : x.result ≠ none := by
  intro hgoes
  rcases hj t x hx hgoes with ⟨s, next, hrest, hnone⟩ | ⟨u, hw, hnone⟩
  · obtain ⟨r, hin⟩ := hf.given_of_jammed hopens hj hx hgoes hrest
    exact hnone r hin
  · exact hf.awaited_ended hj hx hgoes hbranch hw hnone

/-- As long as somebody goes on, somebody is not blocked. -/
theorem Follows.exists_unblocked (hopens : b.Opens V w₀) (hf : Follows b V F w₀ h c g)
    (hx : c.members[t]? = some x) (hgoes : x.result = none) :
    ∃ (u : TaskId) (y : Member scene), c.members[u]? = some y ∧ y.result = none ∧
      ¬ c.IsBlocked y.rest := by
  by_contra hnobody
  push Not at hnobody
  have hj : Jammed c := hnobody
  rcases hj t x hx hgoes with ⟨s, next, hrest, hnone⟩ | ⟨u, hw, hnone⟩
  · obtain ⟨r, hin⟩ := hf.given_of_jammed hopens hj hx hgoes hrest
    exact hnone r hin
  · obtain ⟨w, hwork, hu | ⟨-, hu⟩⟩ := (hf.inOrder.fits t x hx).waits hgoes hw
    · exact hf.helper_ended hj hwork hu hnone
    · obtain ⟨y, hy, hbranch⟩ := hf.kin.branches t w hwork u hu
      rw [Crew.result?, hy, Option.bind_some] at hnone
      exact hf.branch_ended hopens hj hy hbranch hnone

end

end BrowserPlan.Run
