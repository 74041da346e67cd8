import BrowserPlan.Proofs.Run.Chronicle
import BrowserPlan.Proofs.Task.Mirror

/-!
# The phases of a run

A run starts up alone (`Alone`), its steps are carried out by as many tasks as they need (`Working`),
and then it is alone again. If its session is to be closed later, the task that does so waits first
(`IsPutOff`), and then has the session to itself. As long as nobody interrupts, every event leads from a
phase to a phase, and only tasks with lower jobs are started (`Phase.step`).
-/
namespace BrowserPlan.Task

variable {I : Interface} {W : Type} {m : Machine I W} {outside : I.Call → Prop} {c c' : Crew I W}
  {e : Event I} {v : TaskId} {y : Member I}

theorem Crew.Step.isSome (he : Crew.Step m outside c e c') (hnew : ∀ u job, e ≠ .act u (.start job v))
    (hy : c'.members[v]? = some y)
    (hended : ∀ x, c.members[v]? = some x → x.result.isSome = true) : y.result.isSome = true := by
  rcases he.member hy with ⟨x, hx, hcont⟩ | ⟨u, job, heq, -⟩
  · refine Option.isSome_iff_ne_none.2 fun hgoes => ?_
    exact Option.isSome_iff_ne_none.1 (hended x hx) (hcont.goes hgoes)
  · exact absurd heq (hnew u job)

end BrowserPlan.Task

namespace BrowserPlan.Run

open BrowserPlan.Task BrowserPlan.Browser

variable {W : Type} {m : Machine scene W} {P : Premises m} {plan : Plan} {engine : String} {w : W}
  {h : List (Event scene)} {c c' : Crew scene W} {t t' : Tally} {e : Event scene}
  {d : Deferral} {u : TaskId} {p : Program scene Yield} {q : Program scene Unit} {pages : List PageId}

/-! ## Phases -/

/-- The first task is at `p` and alone, and nobody is to close the session later. -/
structure Alone (P : Premises m) (plan : Plan) (engine : String) (w : W) (h : List (Event scene))
    (c : Crew scene W) (t : Tally) (p : Program scene Yield) : Prop where
  chronicle : Chronicle m plan engine w h c t
  sole : Sole P 0 c t p
  others : ∀ (v : TaskId) (y : Member scene), v ≠ 0 → c.members[v]? = some y → y.result.isSome = true
  shelved : Shelved P (Crew.single m w (.automation plan engine)) h c t
  closers : closers h = []

/-- What the steps of a plan on a page amount to as a run of their own. -/
def Plan.brief (plan : Plan) (page : PageId) : Brief := ⟨page, plan.steps, .root, plan.maxPages.toNat⟩

/-- The crew `c` carries out steps like `c'`, which has done nothing else from the beginning. -/
structure Reflects (P : Premises m) (plan : Plan) (page : PageId) (c : Crew scene W) (q : Program scene Unit)
    (w : W) (before : List (Signal × Outcome Fault Unit)) (h : List (Event scene)) (c' : Crew scene W)
    (g : Stages) : Prop where
  mirrors : Crew.Mirrors (I := scene) (windUp plan) (fun _ => .done (.ok .nothing)) before c c' q
  spares : ∀ k r, (Signal.granted k, r) ∉ before
  opens : (Plan.brief plan page).Opens P.toVenue w
  follows : Follows (Plan.brief plan page) P.toVenue (fun _ _ _ => True) w h c' g
  calm : ∀ e ∈ h, Event.IsCalm e

/-- The steps of the plan are carried out, and the first task is at `q` in them. -/
structure Working (P : Premises m) (plan : Plan) (engine : String) (w : W) (h : List (Event scene))
    (c : Crew scene W) (t : Tally) (q : Program scene Unit) : Prop where
  chronicle : Chronicle m plan engine w h c t
  closers : closers h = []
  ready : t.IsReady
  browser : t.session.browser.isSome = true
  hasPool : t.hasPool = true
  session : P.session c.world = t.session
  reflects : ∃ page w₁ before h₁ c₁ g, Reflects P plan page c q w₁ before h₁ c₁ g

/-- However it goes on, the program ends with `r`. -/
def Program.ComesTo (r : Outcome Fault Yield) (p : Program scene Yield) : Prop :=
  p.Obeys (fun _ => True) (fun (_ : Unit) _ _ => True) (fun _ r' => r' = r) ()

theorem Program.ComesTo.does {r : Outcome Fault Yield} {p p' : Program scene Yield} {deed : Deed scene}
    (h : Program.ComesTo r p) (hd : p.Does deed p') : Program.ComesTo r p' := by
  obtain ⟨_, -, h⟩ := Program.Obeys.does h hd trivial
  exact h

/-- All has gone well, and the task `u` was started to close the session later. -/
structure IsPutOff (P : Premises m) (plan : Plan) (engine : String) (w : W) (h : List (Event scene))
    (c : Crew scene W) (t : Tally) (d : Deferral) (u : TaskId) (pages : List PageId)
    (launch : List Resource) : Prop where
  chronicle : Chronicle m plan engine w h c t
  deferral : Deferral.of? plan.keepOpenAfter = some d
  ne_zero : u ≠ 0
  comes : ∀ x : Member scene, c.members[0]? = some x → Program.ComesTo (.ok (.closing (some u))) x.rest
  started : ∃ h₁ h₂, h = h₁ ++ .act 0 (.start (.close d) u) :: h₂ ∧ closings h₁ = pages.map .page ∧
    openings h₁ = launch ∧ ∀ d ∈ deedsOf h₂ 0, Deed.IsMute d
  closers : closers h = [(d, u)]
  shut : WasShut P (Crew.single m w (.automation plan engine)) h c pages
  distinct : pages.Nodup
  launched : IsLaunch launch
  others : ∀ (v : TaskId) (y : Member scene), v ≠ 0 → v ≠ u → c.members[v]? = some y →
    y.result.isSome = true

/-- What is left of a task that closes the session later when the time has come, or not. -/
def closeUp (r : Outcome Fault Unit) : Program scene Yield :=
  Program.bind (I := scene) Session.close fun _ => (Program.done r).bind fun _ => .done (.ok .nothing)

theorem closeUp_ne_done (o : Outcome Fault Unit) (r : Outcome Fault Yield) : closeUp o ≠ .done r := by
  change Program.call (I := scene) .session _ ≠ _
  nofun

theorem program_close (d : Deferral) :
    program (.close d) = Program.bind (I := scene) d.elapse.attempt closeUp := by
  refine (Program.bind_assoc ..).trans (congrArg _ (funext fun r => ?_))
  exact Program.bind_assoc ..

/-- What comes of a task that closes the session when waiting for the time has ended with `r`. -/
def closedWith (r : Outcome Fault Unit) : Outcome Fault Yield := r.map fun _ => .nothing

/-- The program is done, with what comes of waiting with `r`. What was opened is `launch`, and the pages
and all of that are closed. -/
structure AllClosed (r : Outcome Fault Unit) (pages : List PageId) (launch : List Resource) (t : Tally)
    (p : Program scene Yield) : Prop where
  done : p = .done (closedWith r)
  closed : t.closed = pages.map .page ++ launch.reverse
  opened : t.opened = launch

/-- At some time in the history only `pages` had been closed and the time of the deferral had come. From
then on only the task `u` has closed anything. -/
def IsDueSince (h : List (Event scene)) (d : Deferral) (u : TaskId) (pages : List PageId) : Prop :=
  ∃ h₁ h₂, h = h₁ ++ h₂ ∧ closings h₁ = pages.map .page ∧ d.IsDue h₁ u ∧
    ∀ v deed, .act v deed ∈ h₂ → v ≠ u → Deed.closing? deed = none

theorem IsDueSince.snoc (hd : IsDueSince h d u pages)
    (he : ∀ v deed, e = .act v deed → v ≠ u → Deed.closing? deed = none) : IsDueSince (h ++ [e]) d u pages := by
  obtain ⟨h₁, h₂, rfl, hclosed, hdue, hothers⟩ := hd
  refine ⟨h₁, h₂ ++ [e], List.append_assoc .., hclosed, hdue, fun v deed hin hv => ?_⟩
  rcases List.mem_append.1 hin with hin | hin
  · exact hothers v deed hin hv
  · exact he v deed (List.mem_singleton.1 hin).symm hv

/-- Where a run is after a history in which nobody interrupts. -/
inductive Phase (P : Premises m) (plan : Plan) (engine : String) (w : W) (h : List (Event scene))
    (c : Crew scene W) : Prop
  | alone (t : Tally) (p : Program scene Yield) (ha : Alone P plan engine w h c t p)
    (hp : Pending plan t p ∨ Program.KeepsTally (Handover plan c.members.length) p t)
  | working (t : Tally) (q : Program scene Unit) (hw : Working P plan engine w h c t q) (hq : ∀ r, q ≠ .done r)
  | waiting (t : Tally) (d : Deferral) (u : TaskId) (pages : List PageId) (q : Program scene Unit)
    (hd : IsPutOff P plan engine w h c t d u pages t.opened)
    (hs : Sole P u c t (Program.bind (I := scene) q.attempt closeUp)) (hr : Retained t pages)
    (ho : q.Obeys (AgreesWith t.session) KeepsVigil (fun ds r => d.HasCome ds ∧ r = d.outcome) (deedsOf h u))
    (hq : ∀ r, q ≠ .done r)
  | closing (t : Tally) (d : Deferral) (u : TaskId) (pages : List PageId) (launch : List Resource)
    (p : Program scene Yield) (hd : IsPutOff P plan engine w h c t d u pages launch) (hs : Sole P u c t p)
    (hdue : IsDueSince h d u pages)
    (hp : Program.TalliesUntil (AllClosed d.outcome pages launch) p t)

/-! ## Alone -/

namespace Alone

theorem untold (ha : Alone P plan engine w h c t p) (x : Member scene) (hx : c.members[0]? = some x)
    (hgoes : x.result = none) : x.isTold = false := ha.sole.untold 0 x hx hgoes

theorem idle (ha : Alone P plan engine w h c t p) (he : Crew.Step m IsOutside c e c')
    (hcalm : Event.IsCalm e) (hact : ∀ d, e ≠ .act 0 d) :
    Event.IsIdle 0 e ∧ Alone P plan engine w (h ++ [e]) c' t p := by
  obtain ⟨hidle, hs⟩ := ha.sole.idle he hcalm hact
  refine ⟨hidle, ha.chronicle.idle he ha.untold ?_ hidle.ordinary, hs, ?_, ha.shelved.idle he hidle, ?_⟩
  · exact fun d hd => absurd hd (hact d)
  · exact fun v y hv hy => he.isSome (hidle.not_starts v) hy fun x hx => ha.others v x hv hx
  · rw [closers_idle fun v job u => hidle.not_starts u v job]
    exact ha.closers

theorem act (ha : Alone P plan engine w h c t p) {d : Deed scene}
    (he : Crew.Step m IsOutside c (.act 0 d) c') (hcalm : Event.IsCalm (.act 0 d)) (hd : Deed.IsSolitary d) :
    ∃ p', p.Does d p' ∧ t.Agrees d ∧ Alone P plan engine w (h ++ [.act 0 d]) c' (t.after d) p' := by
  have hgone : ∀ l r, (Signal.gone l, r) ∈ c.given → r = .ok () :=
    fun l r hin => (gone_of_given P ha.chronicle.reaches hin).1
  obtain ⟨p', hp, hagrees, hs⟩ := ha.sole.act he hcalm hgone hd
  refine ⟨p', hp, hagrees, ha.chronicle.act he ha.untold fun _ => hd.calm hcalm hagrees, hs, ?_, ?_, ?_⟩
  · exact fun v y hv hy => he.isSome (hd.not_starts v) hy fun x hx => ha.others v x hv hx
  · exact ha.shelved.act ha.chronicle.reaches he hagrees ha.sole.pool ha.others
  · rw [closers_idle fun v job u => hd.not_starts u v job]
    exact ha.closers

/-- The task that closes the session later is started. -/
theorem putOff {next : TaskId → Program scene Yield} (ha : Alone P plan engine w h c t (.fork (.close d) next))
    (hd : Deferral.of? plan.keepOpenAfter = some d) (hr : Retained t pages)
    (he : Crew.Step m IsOutside c (.act 0 (.start (.close d) u)) c')
    (hcomes : Program.ComesTo (.ok (.closing (some u))) (next u)) :
    IsPutOff P plan engine w (h ++ [.act 0 (.start (.close d) u)]) c' t d u pages t.opened where
  chronicle := ha.chronicle.act he ha.untold fun _ => trivial
  deferral := hd
  ne_zero := by
    obtain ⟨x, hx, -⟩ := ha.sole.member
    have hlt := Crew.lt_of_member hx
    cases he with
    | act _ _ _ ha => exact Nat.ne_of_gt (ha.started.1 ▸ hlt)
  comes y hy := by
    obtain ⟨x, hx, hrest, -⟩ := ha.sole.member
    rcases he.member hy with ⟨z, hz, hcont⟩ | ⟨_, _, -, hlen, -⟩
    · obtain rfl : x = z := Option.some.inj (hx.symm.trans hz)
      cases hcont.becomes with
      | same hne => exact absurd rfl (hne _)
      | acts deed heq _ hdoes =>
        cases heq
        rw [hrest] at hdoes
        exact (Program.Does.start (Job.close d) next u).unique hdoes ▸ hcomes
      | ends _ heq | balks heq => cases heq
    · exact absurd (Crew.lt_of_member hx) (hlen ▸ Nat.lt_irrefl _)
  started := ⟨h, [], rfl, ha.chronicle.closed.trans hr.closed, ha.chronicle.opened,
    fun _ hd => absurd hd List.not_mem_nil⟩
  closers := by
    rw [closers_snoc, ha.closers]
    rfl
  shut := (ha.shelved.shut pages hr.shut).snoc he
  distinct := hr.distinct
  launched := hr.launched
  others v y hv hvu hy := he.isSome (by rintro u' job ⟨⟩; exact hvu rfl) hy fun x hx => ha.others v x hv hx

/-- Before anybody else is there, the steps begin. -/
theorem working {page : PageId} (hsteps : Step.allKeepApart false plan.steps = true)
    (ha : Alone P plan engine w h c t
      (Program.bind (I := scene) (runSteps page .root plan.steps).attempt (windUp plan)))
    (hn : c.members.length = 1) (ht : Equipped plan page t) :
    Working P plan engine w h c t (runSteps page .root plan.steps) := by
  obtain ⟨x, hx, hrest, hdone⟩ := ha.sole.member
  have hgoes : x.result = none := by
    refine Option.eq_none_iff_forall_ne_some.2 fun r hr => ?_
    exact Program.attempt_bind_ne_done windUp_ne_done _ r (hdone r hr)
  have hopens : (Plan.brief plan page).Opens P.toVenue c.world :=
    ⟨Int.pos_iff_toNat_pos.1 (Int.lt_of_lt_of_le Int.zero_lt_one ht.limit), ha.sole.pool.trans ht.pool,
      ha.sole.made page ht.made⟩
  refine ⟨ha.chronicle, ha.closers, ht.ready, ht.browser, ht.hasPool, ha.sole.session, page, c.world, c.given, [],
    Crew.single m c.world (Plan.brief plan page).job, _, ?_, ?_, hopens, .nil (hopens.inOrder hsteps),
    fun _ he => absurd he List.not_mem_nil⟩
  · refine ⟨rfl, (List.append_nil _).symm, hn, fun v hv => ?_, x, _, hx, rfl, hgoes, rfl,
      ha.untold x hx hgoes, hrest, ?_⟩
    · have hlt : 1 ≤ v := Nat.pos_of_ne_zero hv
      rw [List.getElem?_eq_none (hn ▸ hlt)]
      exact (List.getElem?_eq_none hlt).symm
    · rw [P.program]
      rfl
  · intro k r hin
    have htold := ha.sole.granted k r hin
    rw [ht.ready.told] at htold
    cases htold

end Alone

/-! ## At work -/

/-- Whom somebody starts has a job below its own. -/
def Event.Descends (c : Crew scene W) (e : Event scene) : Prop :=
  ∀ (v : TaskId) (job : Job) (u : TaskId) (x : Member scene), e = .act v (.start job u) →
    c.members[v]? = some x → job.level < x.job.level

theorem Event.Descends.of_not_starts (he : ∀ v job u, e ≠ .act v (.start job u)) : Event.Descends c e :=
  fun v job u _ heq _ => absurd heq (he v job u)

theorem Working.untold (hw : Working P plan engine w h c t q) {x : Member scene}
    (hx : c.members[0]? = some x) : x.isTold = false := by
  obtain ⟨page, w₁, before, h₁, c₁, g, hm, -, -, hf, hh⟩ := hw.reflects
  obtain ⟨x₀, x', hx₀, hx', -, -, htold, -⟩ := hm.first
  obtain ⟨z, hz, hjob⟩ := hf.inOrder.chief
  obtain rfl : x = x₀ := Option.some.inj (hx.symm.trans hx₀)
  obtain rfl : x' = z := Option.some.inj (hx'.symm.trans hz)
  rw [htold]
  cases ht : x'.isTold with
  | false => rfl
  | true =>
    obtain ⟨⟨p, hhelp⟩, -⟩ := (hf.calm hh).told 0 x' hx' ht
    rw [hjob] at hhelp
    cases hhelp

section
variable {F : TaskId → Findings} {g g' : Stages}

theorem Moves.ordinary (hg : Moves F c g e g') : Event.IsOrdinary e := by
  rintro v deed rfl
  cases hg with
  | act _ hnext => exact hnext.ordinary
  | idle hidle => exact absurd rfl (hidle v deed)

theorem Moves.closer?_eq_none (hg : Moves F c g e g') : Event.closer? e = none := by
  cases hg with
  | @act v _ deed _ _ hnext =>
    cases deed with
    | start job u =>
      cases job with
      | close d => exact hnext.not_close.elim
      | _ => rfl
    | _ => rfl
  | idle hidle =>
    cases e with
    | act v deed => exact absurd rfl (hidle v deed)
    | _ => rfl

theorem exists_granted {b : Brief} {V : Venue m} {before : List (Signal × Outcome Fault Unit)}
    {c₁ : Crew scene W} {v : TaskId} {s : Signal} {r : Outcome Fault Unit}
    (hm : Crew.Mirrors (I := scene) (windUp plan) (fun _ => .done (.ok .nothing)) before c c₁ q)
    (ho : InOrder b V F h c₁ g) (hq : ∀ r, q ≠ .done r)
    (he : Crew.Step m IsOutside c (.act v (.wake (.signal s) r)) c') : ∃ k, s = .granted k := by
  cases he with
  | @act _ y _ _ _ hy hgoes hd =>
    by_cases hv : v = 0
    · subst hv
      obtain ⟨x, x', hx, hx', -, hr', -, hrest, hrest'⟩ := hm.first
      obtain rfl : x = y := Option.some.inj (hx.symm.trans hy)
      rw [hrest] at hd
      obtain ⟨q', hq', -⟩ := hd.attempt_bind hq
      obtain ⟨next, rfl⟩ := hq'.of_wake
      obtain ⟨k, hk, -⟩ := (ho.fits 0 x' hx').paused hr' hrest'
      exact ⟨k, hk⟩
    · obtain ⟨next, hpause⟩ := hd.of_wake
      obtain ⟨k, hk, -⟩ := (ho.fits v y ((hm.others v hv).symm.trans hy)).paused hgoes hpause
      exact ⟨k, hk⟩

end

/-- While the steps are carried out, every event is one of a run that has nothing else to do. -/
theorem Working.step (hw : Working P plan engine w h c t q) (hq : ∀ r, q ≠ .done r)
    (he : Crew.Step m IsOutside c e c') (hcalm : Event.IsCalm e) :
    (∃ q', Working P plan engine w (h ++ [e]) c' t q') ∧ Event.Descends c e := by
  obtain ⟨page, w₁, before, h₁, c₁, g, hm, hspares, hopens, hf, hh⟩ := hw.reflects
  obtain ⟨x, x', hx, hx', hr, hr', htold, hrest, hrest'⟩ := hm.first
  have ho := hf.inOrder
  obtain ⟨z, hz, hjob⟩ := ho.chief
  obtain rfl : x' = z := Option.some.inj (hx'.symm.trans hz)
  have hfirst : ∀ y : Member scene, c.members[0]? = some y → y.result = none → y.isTold = false :=
    fun y hy _ => hw.untold hy
  have hbefore : ∀ v deed, e = .act v deed → Crew.Mirrors.Spares before deed := by
    rintro v deed rfl s r rfl r' hin
    obtain ⟨k, rfl⟩ := exists_granted hm ho hq he
    exact hspares k r' hin
  have hbalk : e ≠ .balk 0 := by
    rintro rfl
    cases he with
    | balk hy hgoes _ ht => cases (hfirst _ hy hgoes).symm.trans ht
  obtain ⟨c₂, q', hs, hm', -⟩ := hm.step hq he hbefore hbalk
  obtain ⟨g', hg, ho'⟩ := ho.step hs fun _ d _ => cover_anything d
  refine ⟨⟨q', ?_, ?_, hw.ready, hw.browser, hw.hasPool, ?_, page, w₁, before, h₁ ++ [e], c₂, g', hm', hspares,
    hopens, hf.snoc hs hg ho', ?_⟩, ?_⟩
  · refine hw.chronicle.idle he hfirst ?_ hg.ordinary
    rintro deed rfl
    exact (hf.calm hh).deed ho hf.kin hs hg hcalm hx' (htold.symm.trans (hw.untold hx))
  · rw [closers_snoc, hw.closers, hg.closer?_eq_none]
    rfl
  · exact (session_step P he hg.ordinary).trans hw.session
  · intro e' he'
    rcases List.mem_append.1 he' with he' | he'
    · exact hh e' he'
    · exact List.mem_singleton.1 he' ▸ hcalm
  · rintro v job u y rfl hy
    by_cases hv : v = 0
    · subst hv
      obtain ⟨y', hy', hchief⟩ := hw.chronicle.exists_chief
      obtain rfl : y = y' := Option.some.inj (hy.symm.trans hy')
      have hlevel := ho.level_lt hs hx'
      rw [hjob] at hlevel
      rw [hchief]
      exact Nat.lt_trans hlevel (Nat.lt_succ_self 2)
    · exact ho.level_lt hs ((hm.others v hv).symm.trans hy)

/-- The ticket that a signal grants something, if it is such a signal. -/
def Signal.ticket? : Signal → Option Nat
  | .granted k => some k
  | .gone _ => none

/-- When the first task is done with the steps, it is alone again. -/
theorem Working.alone {r : Outcome Fault Unit} (hw : Working P plan engine w h c t (.done r)) :
    ∃ t', Alone P plan engine w h c t' (windUp plan r) ∧
      Program.TalliesUntil (Pending plan) (windUp plan r) t' := by
  obtain ⟨page, w₁, before, h₁, c₁, g, hm, hspares, hopens, hf, hh⟩ := hw.reflects
  obtain ⟨x, x', hx, hx', hr, hr', htold, hrest, hrest'⟩ := hm.first
  have hcalm : IsCalm r ∧ ∀ (v : TaskId) (y : Member scene), v ≠ 0 → c₁.members[v]? = some y →
      y.result.isSome = true := by
    cases r with
    | ok a => exact ⟨trivial, (hf.finished hh hx' hr' hrest').2⟩
    | error s =>
      obtain ⟨hs, hothers⟩ := hf.finished hh hx' hr' hrest'
      exact ⟨by cases s <;> exact hs, hothers⟩
  obtain ⟨hcalm, hothers⟩ := hcalm
  have hthere : ∀ (v : TaskId) (y : Member scene), v ≠ 0 → c.members[v]? = some y → y.result.isSome = true :=
    fun v y hv hy => hothers v y hv ((hm.others v hv).symm.trans hy)
  -- the pool as the branches have left it
  generalize ht' : ({ t with
    pool := P.pool c.world
    told := c.given.filterMap fun x => x.1.ticket?
    made := [] } : Tally) = t'
  have hsession : t'.session = t.session := by rw [← ht']
  have hopened : t'.opened = t.opened := by rw [← ht']
  have hclosed : t'.closed = t.closed := by rw [← ht']
  have hpool : t'.pool = P.pool c.world := by rw [← ht']
  have hdistinct : (pagesOf t'.pool).Nodup := by
    rw [hpool, hm.world]
    exact hf.inOrder.ledger.books.1.1.distinct
  refine ⟨t', ⟨?_, ?_, hthere, ?_, hw.closers⟩,
    tallies_windUp hw.ready hw.browser hsession hopened hclosed hdistinct hcalm⟩
  · obtain ⟨hreaches, hended, hdeeds, hcl, hop⟩ := hw.chronicle
    exact ⟨hreaches, hended, hdeeds, hcl.trans hclosed.symm, hop.trans hopened.symm⟩
  · constructor
    case member => exact ⟨x, hx, hrest, fun r hr₁ => by rw [hr] at hr₁; cases hr₁⟩
    case untold =>
      intro v y hy hgoes
      by_cases hv : v = 0
      · subst hv
        obtain rfl : x = y := Option.some.inj (hx.symm.trans hy)
        exact hw.untold hx
      · exact absurd hgoes (Option.isSome_iff_ne_none.1 (hthere v y hv hy))
    case others => exact fun v y hv hy hgoes => absurd hgoes (Option.isSome_iff_ne_none.1 (hthere v y hv hy))
    case session => exact hw.session.trans hsession.symm
    case pool => exact hpool.symm
    case granted =>
      intro k r hin
      rw [← ht']
      exact List.mem_filterMap.2 ⟨_, hin, rfl⟩
    case made =>
      rw [← ht']
      exact fun _ hq => absurd hq List.not_mem_nil
  · constructor
    · rw [← ht', hw.hasPool]
      rintro ⟨⟩
    · rw [← ht', hw.ready.shut]
      rintro _ ⟨⟩

/-! ## Closing later -/

theorem tallies_closeUp (hr : Retained t pages) (r : Outcome Fault Unit) :
    Program.TalliesUntil (AllClosed r pages t.opened) (closeUp r) t := by
  refine TalliesUntil.bind (Tallies.weaken ?_ (tallies_close hr.isOpen))
  rintro t' _ ⟨⟨hclosed, hopened, -, -⟩, rfl⟩
  rw [hr.closed, hr.resources] at hclosed
  cases r <;> exact ⟨rfl, hclosed, hopened⟩

/-- A task that only waits makes calls and pauses. -/
theorem solitary_of_vigil {s : Session} {Q : List (Deed scene) → Outcome Fault Unit → Prop} {ds : List (Deed scene)}
    {deed : Deed scene} {q' : Program scene Unit} (ho : q.Obeys (AgreesWith s) KeepsVigil Q ds)
    (hd : q.Does deed q') : Deed.IsSolitary deed := by
  have htally : ∀ deed, (∀ t : Tally, t.Agrees deed) → AgreesWith s deed :=
    fun _ h => ⟨{ session := s, pool := { maxPages := 0 } }, rfl, h _⟩
  cases hd with
  | ask => exact .ask _ _
  | wake on next r =>
    obtain ⟨_, ⟨hvigil, -⟩, -⟩ := ho (.ok ()) (htally (.wake on (.ok ())) fun _ => rfl)
    cases hvigil with
    | timer | gone => exact .wake _ _ nofun
  | start job next v =>
    obtain ⟨_, ⟨hvigil, -⟩, -⟩ := ho v (htally (.start job v) fun _ => trivial)
    cases hvigil
  | stop v =>
    obtain ⟨_, ⟨hvigil, -⟩, -⟩ := ho (htally (.stop v) fun _ => trivial)
    cases hvigil
  | learn v next r =>
    obtain ⟨_, ⟨hvigil, -⟩, -⟩ := ho r (htally (.learn v r) fun _ => trivial)
    cases hvigil
  | meet vs patient next r =>
    obtain ⟨_, ⟨hvigil, -⟩, -⟩ := ho r (htally (.meet vs patient r) fun _ => trivial)
    cases hvigil

/-- As long as nobody is started, a close stays put off. -/
theorem IsPutOff.step {launch : List Resource} (hd : IsPutOff P plan engine w h c t d u pages launch)
    (he : Crew.Step m IsOutside c e c') (hc : Chronicle m plan engine w (h ++ [e]) c' t')
    (hstart : ∀ v job v', e ≠ .act v (.start job v')) (hmute : ∀ deed, e = .act 0 deed → Deed.IsMute deed) :
    IsPutOff P plan engine w (h ++ [e]) c' t' d u pages launch where
  chronicle := hc
  deferral := hd.deferral
  ne_zero := hd.ne_zero
  comes y hy := by
    obtain ⟨x, hx, -⟩ := hd.chronicle.exists_chief
    rcases he.member hy with ⟨z, hz, hcont⟩ | ⟨_, _, -, hlen, -⟩
    · have hcomes := hd.comes z hz
      cases hcont.becomes with
      | acts deed _ _ hdoes => exact hcomes.does hdoes
      | same _ hrest | ends _ _ _ hrest | balks _ _ _ _ hrest => exact hrest ▸ hcomes
    · exact absurd (Crew.lt_of_member hx) (hlen ▸ Nat.lt_irrefl _)
  started := by
    obtain ⟨h₁, h₂, rfl, hclosed, hopened, hdeeds⟩ := hd.started
    refine ⟨h₁, h₂ ++ [e], List.append_assoc .., hclosed, hopened, fun deed hin => ?_⟩
    by_cases hact : ∃ deed, e = .act 0 deed
    · obtain ⟨deed', rfl⟩ := hact
      rw [deedsOf_act] at hin
      rcases List.mem_append.1 hin with hin | hin
      · exact hdeeds deed hin
      · exact List.mem_singleton.1 hin ▸ hmute deed' rfl
    · rw [deedsOf_idle fun deed' heq => hact ⟨deed', heq⟩] at hin
      exact hdeeds deed hin
  closers := (closers_idle hstart).trans hd.closers
  shut := hd.shut.snoc he
  distinct := hd.distinct
  launched := hd.launched
  others v y hv hvu hy := he.isSome (fun u' job => hstart u' job v) hy fun x hx => hd.others v x hv hvu hx

/-- While the close is put off, others have something to say, or nobody does anything. -/
theorem IsPutOff.idle {launch : List Resource} (hd : IsPutOff P plan engine w h c t d u pages launch)
    (hs : Sole P u c t p) (he : Crew.Step m IsOutside c e c') (hcalm : Event.IsCalm e)
    (hact : ∀ deed, e ≠ .act u deed) : Event.IsIdle u e ∧
      IsPutOff P plan engine w (h ++ [e]) c' t d u pages launch ∧ Sole P u c' t p := by
  obtain ⟨hidle, hs'⟩ := hs.idle he hcalm hact
  refine ⟨hidle, hd.step he ?_ (fun v job v' => hidle.not_starts v' v job) fun deed heq => (hidle 0 deed heq).2, hs'⟩
  exact hd.chronicle.idle he (hs.untold 0) (fun deed heq => (hidle 0 deed heq).2.calm) hidle.ordinary

/-- The task that is to close the session takes a step. -/
theorem IsPutOff.act {launch : List Resource} {deed : Deed scene}
    (hd : IsPutOff P plan engine w h c t d u pages launch) (hs : Sole P u c t p)
    (he : Crew.Step m IsOutside c (.act u deed) c') (hcalm : Event.IsCalm (.act u deed))
    (hdeed : Deed.IsSolitary deed) : ∃ p', p.Does deed p' ∧ t.Agrees deed ∧
      IsPutOff P plan engine w (h ++ [.act u deed]) c' (t.after deed) d u pages launch ∧
      Sole P u c' (t.after deed) p' := by
  have hgone : ∀ l r, (Signal.gone l, r) ∈ c.given → r = .ok () :=
    fun l r hin => (gone_of_given P hd.chronicle.reaches hin).1
  obtain ⟨p', hp, hagrees, hs'⟩ := hs.act he hcalm hgone hdeed
  refine ⟨p', hp, hagrees, hd.step he ?_ (fun v job v' => hdeed.not_starts v' v job) ?_, hs'⟩
  · exact hd.chronicle.act he (hs.untold 0) fun hu => absurd hu hd.ne_zero
  · rintro _ ⟨⟩
    exact absurd rfl hd.ne_zero

/-! ## From phase to phase -/

namespace Phase

theorem of_pending (ha : Alone P plan engine w h c t p) (hp : Program.TalliesUntil (Pending plan) p t) :
    Phase P plan engine w h c := by
  rcases TalliesUntil.next hp with hp | ⟨hasks, hnext⟩
  · exact .alone t p ha (.inl hp)
  · exact .alone t p ha (.inr ⟨hasks, fun d p' hd ht => TalliesUntil.mono (fun _ _ => .pending) (hnext d p' hd ht)⟩)

theorem of_working (hw : Working P plan engine w h c t q) : Phase P plan engine w h c := by
  by_cases hq : ∃ r, q = .done r
  · obtain ⟨r, rfl⟩ := hq
    obtain ⟨t', ha, hp⟩ := hw.alone
    exact .of_pending ha hp
  · exact .working t q hw fun r hr => hq ⟨r, hr⟩

theorem of_alone (hsteps : Step.allKeepApart false plan.steps = true) (ha : Alone P plan engine w h c t p)
    (hp : Program.TalliesUntil (Handover plan c.members.length) p t) : Phase P plan engine w h c := by
  rcases TalliesUntil.next hp with hp | hp
  · cases hp with
    | pending hp => exact .alone t p ha (.inl hp)
    | steps hn ht => exact .of_working (ha.working hsteps hn ht)
  · exact .alone t p ha (.inr hp)

theorem of_waiting (hd : IsPutOff P plan engine w h c t d u pages t.opened)
    (hs : Sole P u c t (Program.bind (I := scene) q.attempt closeUp)) (hr : Retained t pages)
    (ho : q.Obeys (AgreesWith t.session) KeepsVigil (fun ds r => d.HasCome ds ∧ r = d.outcome) (deedsOf h u)) :
    Phase P plan engine w h c := by
  by_cases hq : ∃ r, q = .done r
  · obtain ⟨r, rfl⟩ := hq
    obtain ⟨hcome, rfl⟩ := ho
    refine .closing t d u pages t.opened (closeUp _) hd hs ⟨h, [], (List.append_nil h).symm, ?_,
      hcome.isDue P hd.chronicle.reaches, ?_⟩ (tallies_closeUp hr _)
    · exact hd.chronicle.closed.trans hr.closed
    · exact fun v deed hin => absurd hin List.not_mem_nil
  · exact .waiting t d u pages q hd hs hr ho fun r hr => hq ⟨r, hr⟩

/-- The first step of the task that closes the session later. -/
theorem of_defer {next : TaskId → Program scene Yield} (ha : Alone P plan engine w h c t (.fork (.close d) next))
    (hd : Deferral.of? plan.keepOpenAfter = some d) (hr : Retained t pages)
    (he : Crew.Step m IsOutside c (.act 0 (.start (.close d) u)) c') (hmute : Program.IsMute (next u))
    (hcomes : Program.ComesTo (.ok (.closing (some u))) (next u)) :
    Phase P plan engine w (h ++ [.act 0 (.start (.close d) u)]) c' ∧
      Event.Descends c (.act 0 (.start (.close d) u)) := by
  have hs := ha.sole.fork he hmute
  rw [program_close] at hs
  have hput := ha.putOff hd hr he hcomes
  have hnone : deedsOf (h ++ [.act 0 (.start (.close d) u)]) u = [] := by
    rw [deedsOf_idle (by rintro _ ⟨⟩; exact hput.ne_zero rfl)]
    refine List.eq_nil_iff_forall_not_mem.2 fun deed hin => ?_
    have hlt := ha.chronicle.reaches.act_lt (mem_deedsOf.1 hin)
    cases he with
    | act _ _ _ ha => exact absurd (ha.started.1 ▸ hlt) (Nat.lt_irrefl _)
  refine ⟨.of_waiting hput hs hr ?_, ?_⟩
  · rw [hnone]
    exact obeys_elapse hd hr.browser
  · rintro v job u' x ⟨⟩ hx
    obtain ⟨x', hx', hjob⟩ := ha.chronicle.exists_chief
    obtain rfl : x = x' := Option.some.inj (hx.symm.trans hx')
    rw [hjob]
    exact Nat.succ_pos 2

/-- Every event leads from a phase to a phase, as long as nobody interrupts. -/
theorem step (hsteps : Step.allKeepApart false plan.steps = true) (hp : Phase P plan engine w h c)
    (he : Crew.Step m IsOutside c e c') (hcalm : Event.IsCalm e) :
    Phase P plan engine w (h ++ [e]) c' ∧ Event.Descends c e := by
  have hlength : (∀ v job u, e ≠ .act v (.start job u)) → c'.members.length = c.members.length := by
    intro hstart
    rcases he.length with hlen | ⟨⟨v, job, heq⟩, -⟩
    · exact hlen
    · exact absurd heq (hstart v job _)
  cases hp with
  | alone t p ha hp =>
    by_cases hact : ∃ deed, e = .act 0 deed
    · obtain ⟨deed, rfl⟩ := hact
      obtain ⟨p', hdoes⟩ := ha.sole.does he
      rcases hp with hp | hp
      · cases hp with
        | done h => cases hdoes
        | defer hd hr =>
          cases hdoes with
          | start job next u =>
            refine of_defer ha hd hr he ⟨rfl, fun _ => ⟨rfl, fun _ => trivial⟩⟩ ?_
            exact fun _ _ => ⟨(), trivial, fun _ _ => ⟨(), trivial, rfl⟩⟩
      · have hsolitary := hp.solitary hdoes
        obtain ⟨p'', hdoes', hagrees, ha'⟩ := ha.act he hcalm hsolitary
        have hstart := fun v job u => hsolitary.not_starts (a := 0) u v job
        refine ⟨.of_alone hsteps ha' ?_, .of_not_starts hstart⟩
        rw [hlength hstart]
        exact hp.next deed p'' hdoes' hagrees
    · obtain ⟨hidle, ha'⟩ := ha.idle he hcalm fun deed heq => hact ⟨deed, heq⟩
      have hstart := fun v job u => hidle.not_starts u v job
      exact ⟨.alone t p ha' (hlength hstart ▸ hp), .of_not_starts hstart⟩
  | working t q hw hq =>
    obtain ⟨⟨q', hw'⟩, hlevel⟩ := hw.step hq he hcalm
    exact ⟨.of_working hw', hlevel⟩
  | waiting t d u pages q hd hs hr ho hq =>
    by_cases hact : ∃ deed, e = .act u deed
    · obtain ⟨deed, rfl⟩ := hact
      obtain ⟨p', hdoes⟩ := hs.does he
      obtain ⟨q', hq', -⟩ := hdoes.attempt_bind hq
      have hsolitary := solitary_of_vigil ho hq'
      obtain ⟨p'', hdoes', hagrees, hd', hs'⟩ := hd.act hs he hcalm hsolitary
      obtain ⟨q'', hq'', rfl⟩ := hdoes'.attempt_bind hq
      obtain ⟨_, ⟨hvigil, rfl⟩, ho'⟩ := ho.does hq'' ⟨t, rfl, hagrees⟩
      rw [hvigil.after] at hd' hs'
      refine ⟨.of_waiting hd' hs' hr ?_, .of_not_starts fun v job u' => hsolitary.not_starts u' v job⟩
      rw [deedsOf_act]
      exact ho'
    · have hact : ∀ deed, e ≠ .act u deed := fun deed heq => hact ⟨deed, heq⟩
      obtain ⟨hidle, hd', hs'⟩ := hd.idle hs he hcalm hact
      refine ⟨.of_waiting hd' hs' hr ?_, .of_not_starts fun v job u' => hidle.not_starts u' v job⟩
      rw [deedsOf_idle hact]
      exact ho
  | closing t d u pages launch p hd hs hdue hp =>
    by_cases hact : ∃ deed, e = .act u deed
    · obtain ⟨deed, rfl⟩ := hact
      obtain ⟨p', hdoes⟩ := hs.does he
      rcases TalliesUntil.next hp with ⟨rfl, -⟩ | hp
      · cases hdoes
      · have hsolitary := hp.solitary hdoes
        obtain ⟨p'', hdoes', hagrees, hd', hs'⟩ := hd.act hs he hcalm hsolitary
        refine ⟨.closing _ d u pages launch p'' hd' hs' (hdue.snoc ?_) (hp.next deed p'' hdoes' hagrees),
          .of_not_starts fun v job u' => hsolitary.not_starts u' v job⟩
        rintro _ _ ⟨⟩ hv
        exact absurd rfl hv
    · obtain ⟨hidle, hd', hs'⟩ := hd.idle hs he hcalm fun deed heq => hact ⟨deed, heq⟩
      refine ⟨.closing t d u pages launch p hd' hs' (hdue.snoc fun v deed heq _ => ?_) hp,
        .of_not_starts fun v job u' => hidle.not_starts u' v job⟩
      exact (hidle.ordinary v deed heq).closes

/-- The run begins alone. -/
theorem first (hsteps : Step.allKeepApart false plan.steps = true) :
    Phase P plan engine w [] (Crew.single m w (.automation plan engine)) := by
  have hone : ∀ {v : TaskId} {y : Member scene},
      (Crew.single m w (.automation plan engine)).members[v]? = some y →
      v = 0 ∧ y = { job := .automation plan engine, rest := program (.automation plan engine) } := by
    intro v y hy
    obtain rfl : v = 0 := Nat.lt_one_iff.1 (Crew.lt_of_member hy)
    refine ⟨rfl, ?_⟩
    rw [← P.program]
    exact (Option.some.inj hy).symm
  have hothers : ∀ (v : TaskId) (y : Member scene), v ≠ 0 →
      (Crew.single m w (.automation plan engine)).members[v]? = some y → y.result.isSome = true :=
    fun v y hv hy => absurd (hone hy).1 hv
  have hp : Program.TalliesUntil (Handover plan 1) (program (.automation plan engine))
      { session := P.session w, pool := P.pool w } := tallies_automation rfl rfl rfl rfl rfl
  refine .of_alone hsteps ⟨?_, ?_, hothers, ?_, rfl⟩ hp
  · refine ⟨.refl, fun x hx r hr => ?_, fun _ hd => absurd hd List.not_mem_nil, rfl, rfl⟩
    obtain ⟨-, rfl⟩ := hone hx
    cases hr
  · constructor
    case member =>
      refine ⟨_, rfl, ?_, nofun⟩
      rw [P.program]
    case untold =>
      intro v y hy _
      obtain ⟨-, rfl⟩ := hone hy
      rfl
    case others => exact fun v y hv hy _ => absurd (hone hy).1 hv
    case session => rfl
    case pool => rfl
    case granted => exact fun k r hin => absurd hin List.not_mem_nil
    case made => exact fun q hq => absurd hq List.not_mem_nil
  · exact ⟨fun _ v limit hin => absurd hin List.not_mem_nil, nofun⟩

/-- After every history in which nobody interrupts, the run is in a phase. -/
theorem of_reaches (hsteps : Step.allKeepApart false plan.steps = true)
    (hr : Crew.Reaches m IsOutside (Crew.single m w (.automation plan engine)) h c)
    (hh : ∀ e ∈ h, Event.IsCalm e) : Phase P plan engine w h c := by
  induction hr with
  | refl => exact first hsteps
  | step hd he ih =>
    exact ((ih fun e he => hh e (List.mem_append_left _ he)).step hsteps he
      (hh _ (List.mem_append_right _ (List.mem_singleton_self _)))).1

theorem exists_chronicle (hp : Phase P plan engine w h c) : ∃ t, Chronicle m plan engine w h c t := by
  cases hp with
  | alone t p ha hp => exact ⟨t, ha.chronicle⟩
  | working t q hw hq => exact ⟨t, hw.chronicle⟩
  | waiting t d u pages q hd hs hr ho hq => exact ⟨t, hd.chronicle⟩
  | closing t d u pages launch p hd hs hdue hp => exact ⟨t, hd.chronicle⟩

theorem untold (hp : Phase P plan engine w h c) {x : Member scene} (hx : c.members[0]? = some x)
    (hgoes : x.result = none) : x.isTold = false := by
  cases hp with
  | alone t p ha hp => exact ha.untold x hx hgoes
  | working t q hw hq => exact hw.untold hx
  | waiting t d u pages q hd hs hr ho hq => exact hs.untold 0 x hx hgoes
  | closing t d u pages launch p hd hs hdue hp => exact hs.untold 0 x hx hgoes

/-- Whoever the first task of a run learns to have ended badly is no branch. -/
theorem meets (hp : Phase P plan engine w h c) {ts : List TaskId} {patient : Bool} {s : Stop Fault}
    (he : Crew.Step m IsOutside c (.act 0 (.meet ts patient (.error s))) c') :
    ∀ v ∈ ts, ∃ y, c.members[v]? = some y ∧ ¬ y.job.IsBranch := by
  have hmute : ∀ {u : TaskId} {t : Tally} {p : Program scene Yield}, Sole P u c t p → u ≠ 0 → False := by
    intro u t p hs hu
    cases he with
    | act hx hr hd =>
      obtain ⟨⟨q, x, heq, -⟩, -⟩ := (hs.others 0 _ hu.symm hx hr).does hd
      cases heq
  cases hp with
  | alone t p ha hp =>
    obtain ⟨p', hdoes⟩ := ha.sole.does he
    rcases hp with hp | hp
    · cases hp <;> cases hdoes
    · cases hp.solitary hdoes
  | waiting t d u pages q hd hs hr ho hq => exact (hmute hs hd.ne_zero).elim
  | closing t d u pages launch p hd hs hdue hp => exact (hmute hs hd.ne_zero).elim
  | working t q hw hq =>
    obtain ⟨page, w₁, before, h₁, c₁, g, hm, -, -, hf, hh⟩ := hw.reflects
    obtain ⟨c₂, q', hs, -⟩ := hm.step hq he (by rintro _ _ ⟨⟩ _ _ ⟨⟩) nofun
    have ho := hf.inOrder
    obtain ⟨g', hg, -⟩ := ho.step hs fun _ d _ => cover_anything d
    have hcalm := hf.calm hh
    cases hg with
    | idle hidle => exact absurd rfl (hidle _ _)
    | act hy hnext =>
      obtain ⟨w, hw, hts⟩ := hnext.meets
      rcases hcalm.meets ho hf.kin hw (hcalm.offers ho hw hs) hts with ⟨a, heq⟩ | ⟨hnone, -⟩
      · cases heq
      · intro v hv
        rcases hts with ⟨rfl, -⟩ | ⟨-, rfl⟩
        · obtain ⟨-, y, hy, hhelp⟩ := hf.kin.helpers 0 w hw v hv
          refine ⟨y, ?_, hhelp.not_branch⟩
          refine (hm.others v ?_).trans hy
          rintro rfl
          obtain ⟨z, hz, hjob⟩ := ho.chief
          obtain rfl : y = z := Option.some.inj (hy.symm.trans hz)
          rw [hjob] at hhelp
          cases hhelp
        · rw [hnone] at hv
          cases hv

end Phase
end BrowserPlan.Run
