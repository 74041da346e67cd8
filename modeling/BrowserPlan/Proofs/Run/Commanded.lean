import BrowserPlan.Proofs.Run.Lifecycle

/-!
# Commands

A command carries out a plan, mentions the branches that failed, and waits for the task that closes the
session, if there is one. As long as the plan is carried out, it does what a run does (`CommandPhase.running`).
Then it has something to say and waits (`CommandPhase.attending`), or only has something to say
(`CommandPhase.settled`). Every event leads from a phase to a phase (`CommandPhase.step`), and what a command comes to
follows from what its startup and its steps come to (`CommandPhase.result`).
-/
namespace BrowserPlan.Run

open BrowserPlan.Task BrowserPlan.Browser

variable {W : Type} {m : Machine scene W} {P : Premises m} {plan : Plan} {engine : String} {w : W}
  {h : List (Event scene)} {c c' : Crew scene W} {t : Tally} {e : Event scene} {d : Deferral}
  {a u : TaskId} {p p' : Program scene Yield} {deed : Deed scene} {pages : List PageId}
  {launch : List Resource}

/-! ## What is left after the run -/

/-- What is left of a command when its run has ended with `r`. -/
def reportOn (r : Outcome Fault (Option TaskId)) : Program scene Yield :=
  match r with
  | .ok closing => mentionFailures.bind fun _ => (awaitClose closing).bind fun _ => .done (.ok .nothing)
  | .error s => .done (.error s)

/-- A run that is nothing but that is done. -/
def yieldClosing (closing : Option TaskId) : Program scene Yield := .done (.ok (.closing closing))

theorem program_commanded : program (.commanded plan engine) =
    Program.bind (I := scene) (automation plan engine).attempt reportOn := by
  refine (Program.bind_eq_attempt ..).trans (congrArg _ (funext fun r => ?_))
  cases r <;> rfl

/-- The program only reads the report and writes to the log, waits for `u`, and ends as `u` has. -/
def Program.Attends (u : TaskId) : Program scene Yield → Prop
  | .call q next => Call.isMute q = true ∧ ∀ a, Attends u (next a)
  | .await v next => v = u ∧ ∀ r, next r = .done (r.map fun _ => .nothing)
  | _ => False

theorem mention_first {X : Program scene Yield → Prop} (hp : X p)
    (hcall : ∀ q next, Call.isMute q = true → (∀ a, X (next a)) → X (.call q next)) :
    X (mentionFailures.bind fun _ => p) := by
  refine hcall .report _ rfl fun report => ?_
  have heach : ∀ fs : List BranchFailure, X ((Program.each (I := scene) (fun f =>
      say .warning .commandLine ("Crawl failure at " ++ f.index.toString ++ " (" ++ f.link ++ "): " ++
        f.error)) fs).bind fun _ => p) := by
    intro fs
    induction fs with
    | nil => exact hp
    | cons f fs ih => exact hcall (.log _) _ rfl fun _ => ih
  exact heach report.failures.toList

theorem attends_reportOn (u : TaskId) : Program.Attends u (reportOn (.ok (some u))) :=
  mention_first ⟨rfl, fun r => by cases r <;> rfl⟩ fun _ _ hq hnext => ⟨hq, hnext⟩

theorem mute_reportOn : Program.IsMute (reportOn (.ok none)) ∧
    Program.ComesTo (.ok .nothing) (reportOn (.ok none)) :=
  mention_first (X := fun p => Program.IsMute p ∧ Program.ComesTo (.ok .nothing) p) ⟨trivial, rfl⟩
    fun _ _ hq hnext => ⟨⟨hq, fun a => (hnext a).1⟩, fun a _ => ⟨(), trivial, (hnext a).2⟩⟩

/-! ## What a command comes to -/

/-- How it ends to wait until the session of a plan is to be closed. -/
def Plan.postponed (plan : Plan) : Outcome Fault Unit :=
  match Deferral.of? plan.keepOpenAfter with
  | some d => d.outcome
  | none => .ok ()

/-- What a command comes to whose startup and steps have come to `o`. -/
def Plan.commandOutcome (plan : Plan) : Outcome Fault Unit → Outcome Fault Yield
  | .ok _ => closedWith (Plan.postponed plan)
  | .error s => .error s

/-- In the history `h` startup and steps of the plan have come to `o`. -/
def Undertaken (plan : Plan) (engine : String) (h : List (Event scene)) (o : Outcome Fault Unit) : Prop :=
  ∃ ds es, deedsOf h 0 = ds ++ es ∧ Program.Path (undertake plan engine) ds (.done o)

theorem Undertaken.append {o : Outcome Fault Unit} (hu : Undertaken plan engine h o)
    (h' : List (Event scene)) : Undertaken plan engine (h ++ h') o := by
  obtain ⟨ds, es, heq, hpath⟩ := hu
  exact ⟨ds, es ++ deedsOf h' 0, by rw [deedsOf_append, heq, List.append_assoc], hpath⟩

/-! ## The task that closes the session -/

/-- What the task that is to close the session is at, by its tally `t`. -/
inductive Lingers (d : Deferral) (pages : List PageId) (launch : List Resource) (t : Tally) :
    Program scene Yield → Prop
  | waiting {q : Program scene Unit} {ds} (hr : Retained t pages) (hlaunch : t.opened = launch) (hq : ∀ r, q ≠ .done r)
    (ho : q.Obeys (AgreesWith t.session) KeepsVigil (fun ds r => d.HasCome ds ∧ r = d.outcome) ds) :
    Lingers d pages launch t (Program.bind (I := scene) q.attempt closeUp)
  | closing {p : Program scene Yield} (hp : Program.TalliesUntil (AllClosed d.outcome pages launch) p t) :
    Lingers d pages launch t p

namespace Lingers

theorem of_obeys {q : Program scene Unit} {ds : List (Deed scene)} (hr : Retained t pages)
    (ho : q.Obeys (AgreesWith t.session) KeepsVigil (fun ds r => d.HasCome ds ∧ r = d.outcome) ds) :
    Lingers d pages t.opened t (Program.bind (I := scene) q.attempt closeUp) := by
  by_cases hq : ∃ r, q = .done r
  · obtain ⟨r, rfl⟩ := hq
    obtain ⟨-, rfl⟩ := ho
    exact .closing (tallies_closeUp hr _)
  · exact .waiting hr rfl (fun r hr => hq ⟨r, hr⟩) ho

theorem solitary (hl : Lingers d pages launch t p) (hd : p.Does deed p') : Deed.IsSolitary deed := by
  cases hl with
  | waiting hr hlaunch hq ho =>
    obtain ⟨q', hq', -⟩ := hd.attempt_bind hq
    exact solitary_of_vigil ho hq'
  | closing hp =>
    rcases TalliesUntil.next hp with hall | hkeeps
    · cases hall.done
      cases hd
    · exact hkeeps.solitary hd

theorem next (hl : Lingers d pages launch t p) (hd : p.Does deed p') (ht : t.Agrees deed) :
    Lingers d pages launch (t.after deed) p' := by
  cases hl with
  | waiting hr hlaunch hq ho =>
    obtain ⟨q', hq', rfl⟩ := hd.attempt_bind hq
    obtain ⟨_, ⟨hvigil, -⟩, ho'⟩ := ho.does hq' ⟨t, rfl, ht⟩
    rw [hvigil.after, ← hlaunch]
    exact .of_obeys hr ho'
  | closing hp =>
    rcases TalliesUntil.next hp with hall | hkeeps
    · cases hall.done
      cases hd
    · exact .closing (hkeeps.next deed p' hd ht)

theorem ended {r : Outcome Fault Yield} (hl : Lingers d pages launch t (.done r)) :
    AllClosed d.outcome pages launch t (.done r) := by
  generalize hp : Program.done (I := scene) r = p at hl
  cases hl with
  | waiting hr hlaunch hq ho => exact absurd hp.symm (Program.attempt_bind_ne_done (I := scene) closeUp_ne_done _ r)
  | closing hall =>
    subst hp
    exact hall

theorem gone_of_blocked (hl : Lingers d pages launch t p) (hb : c.IsBlocked p) :
    ∃ l next, p = .pause (.signal (.gone l)) next ∧ ∀ r, (Signal.gone l, r) ∉ c.given := by
  cases hl with
  | waiting hr hlaunch hq ho => exact Run.gone_of_blocked ho hq hb
  | closing hp =>
    rcases TalliesUntil.next hp with hall | hkeeps
    · exact absurd (hall.done ▸ hb) not_blocked_done
    · exact absurd hb hkeeps.not_blocked

end Lingers

/-! ## Phases -/

/-- The run has put off the close, and the first task has something to say, or waits for `u`, which is to
close the session. -/
structure Attending (P : Premises m) (plan : Plan) (engine : String) (h : List (Event scene))
    (c : Crew scene W) (t : Tally) (d : Deferral) (u : TaskId) (pages : List PageId)
    (launch : List Resource) (p : Program scene Yield) : Prop where
  undertaken : Undertaken plan engine h (.ok ())
  deferral : Deferral.of? plan.keepOpenAfter = some d
  ne_zero : u ≠ 0
  first : ∃ x, c.members[0]? = some x ∧ x.result = none ∧ x.isTold = false ∧ Program.Attends u x.rest
  /-- Apart from the first task, `u` has the session to itself. -/
  sole : Sole P u (c.finish 0 (.ok .nothing)) t p
  others : ∀ (v : TaskId) (y : Member scene), v ≠ 0 → v ≠ u → c.members[v]? = some y →
    y.result.isSome = true
  lingers : Lingers d pages launch t p
  closed : closings h = t.closed
  opened : openings h = t.opened
  launched : IsLaunch launch
  distinct : pages.Nodup

/-- Startup and steps have come to `o`, all that was opened is closed, and the first task is at `p`, where
it only has something to say. -/
structure Settled (P : Premises m) (plan : Plan) (engine : String) (h : List (Event scene))
    (c : Crew scene W) (t : Tally) (o : Outcome Fault Unit) (p : Program scene Yield) : Prop where
  undertaken : Undertaken plan engine h o
  calm : IsCalm o
  sole : Sole P 0 c t p
  mute : Program.IsMute p
  comes : Program.ComesTo (Plan.commandOutcome plan o) p
  others : ∀ (v : TaskId) (y : Member scene), v ≠ 0 → c.members[v]? = some y → y.result.isSome = true
  closed : closings h = t.closed
  opened : openings h = t.opened
  launched : IsLaunch t.opened
  all : ∃ pages : List PageId, pages.Nodup ∧ t.closed = pages.map .page ++ t.opened.reverse

/-- Where a command is after a history in which nobody interrupts. -/
inductive CommandPhase (P : Premises m) (plan : Plan) (engine : String) (w : W) (h : List (Event scene))
    (c : Crew scene W) : Prop
  | running (c' : Crew scene W) (q : Program scene (Option TaskId))
    (hm : Crew.Mirrors reportOn yieldClosing [] c c' q) (hp : Phase P plan engine w h c')
    (hq : ∀ r, q ≠ .done r)
  | attending (t : Tally) (d : Deferral) (u : TaskId) (pages : List PageId) (launch : List Resource)
    (p : Program scene Yield) (ha : Attending P plan engine h c t d u pages launch p)
  | settled (t : Tally) (o : Outcome Fault Unit) (p : Program scene Yield)
    (hs : Settled P plan engine h c t o p)

/-- The task `u` waits to be told by the listener `l` that the browser has gone. -/
def Watches (c : Crew scene W) (u : TaskId) (l : Nat) : Prop :=
  ∃ x next, c.members[u]? = some x ∧ x.result = none ∧ x.rest = .pause (.signal (.gone l)) next

/-! ## The first task attends to another one -/

namespace Attending

theorem untold (ha : Attending P plan engine h c t d u pages launch p) (v : TaskId) (x : Member scene)
    (hx : c.members[v]? = some x) (hgoes : x.result = none) : x.isTold = false := by
  by_cases hv : v = 0
  · subst hv
    obtain ⟨x₀, hx₀, -, htold, -⟩ := ha.first
    obtain rfl : x₀ = x := Option.some.inj (hx₀.symm.trans hx)
    exact htold
  · refine ha.sole.untold v x ?_ hgoes
    rwa [Crew.finish, Crew.members_alter, if_neg (Ne.symm hv)]

/-- The first task can only say something, or learn how another one has ended. -/
theorem first_acts (ha : Attending P plan engine h c t d u pages launch p)
    (he : Crew.Step m IsOutside c e c') (hactor : e.actor? = some 0) :
    (∃ q x, e = .act 0 (.ask q x)) ∨ ∃ v r, e = .act 0 (.learn v r) := by
  obtain ⟨x, hx, hgoes, htold, hattends⟩ := ha.first
  have hsame : ∀ {v : TaskId} {y : Member scene}, some v = some 0 → c.members[v]? = some y → v = 0 ∧ x = y := by
    intro v y hv hy
    cases hv
    exact ⟨rfl, Option.some.inj (hx.symm.trans hy)⟩
  cases he with
  | act hy hr hd =>
    obtain ⟨rfl, rfl⟩ := hsame hactor hy
    generalize x.rest = rest at hd hattends
    cases hd with
    | ask q next a => exact .inl ⟨q, a, rfl⟩
    | learn v next r => exact .inr ⟨v, r, rfl⟩
    | _ => exact hattends.elim
  | finish hy hr hd | giveUp hy hr hd =>
    obtain ⟨rfl, rfl⟩ := hsame hactor hy
    rw [hd] at hattends
    exact hattends.elim
  | balk hy hr hb ht =>
    obtain ⟨rfl, rfl⟩ := hsame hactor hy
    rw [htold] at ht
    cases ht
  | pass hy hr ht =>
    obtain ⟨rfl, rfl⟩ := hsame hactor hy
    rw [htold] at ht
    cases ht
  | tell | happen => cases hactor

/-- The first task has something to say. -/
theorem say (ha : Attending P plan engine h c t d u pages launch p) {q : Call} {x : q.Answer}
    (he : Crew.Step m IsOutside c (.act 0 (.ask q x)) c') :
    Attending P plan engine (h ++ [.act 0 (.ask q x)]) c' t d u pages launch p := by
  obtain ⟨x₀, hx₀, hgoes, htold, hattends⟩ := ha.first
  cases he with
  | @act _ y _ p' c₁ hy hr hd hallows =>
    obtain rfl : x₀ = y := Option.some.inj (hx₀.symm.trans hy)
    generalize hrest : x₀.rest = rest at hd hattends
    cases hd with
    | ask q next x =>
      obtain ⟨hmute, hnext⟩ := hattends
      have hord : Deed.IsOrdinary (.ask q x) := Deed.IsMute.ordinary ⟨q, x, rfl, hmute⟩
      cases hallows with
      | wait ho => cases ho
      | late _ ho hd => cases ho <;> cases hd
      | ask now hx =>
        have hothers : ∀ v : TaskId, v ≠ 0 →
            ((c.perform m now q).goOn 0 (next x)).members[v]? = c.members[v]? := fun v hv =>
          (Crew.members_alter ..).trans (if_neg hv.symm)
        refine ⟨ha.undertaken.append _, ha.deferral, ha.ne_zero,
          ⟨_, Crew.members_alter_self hx₀ _, hgoes, htold, hnext x⟩, ?_, ?_, ha.lingers, ?_, ?_, ha.launched,
          ha.distinct⟩
        · refine (ha.sole.perform now hmute).but_first ha.ne_zero ?_ ?_ (fun v hv => ?_) _
          · rfl
          · rfl
          · exact (hothers v hv).trans ((Crew.members_alter ..).trans (if_neg hv.symm)).symm
        · exact fun v y hv hvu hy => ha.others v y hv hvu (hothers v hv ▸ hy)
        · rw [closings_snoc, ha.closed]
          exact (congrArg (t.closed ++ Option.toList ·) hord.closes).trans (List.append_nil _)
        · rw [openings_snoc, ha.opened]
          exact (congrArg (t.opened ++ Option.toList ·) hord.opens).trans (List.append_nil _)

/-- The first task learns how the other one has ended. -/
theorem learn (ha : Attending P plan engine h c t d u pages launch p) {v : TaskId} {r : Outcome Fault Yield}
    (he : Crew.Step m IsOutside c (.act 0 (.learn v r)) c') :
    ∃ p', Settled P plan engine (h ++ [.act 0 (.learn v r)]) c' t (.ok ()) p' := by
  obtain ⟨x₀, hx₀, hgoes, htold, hattends⟩ := ha.first
  cases he with
  | @act _ y _ p' c₁ hy hr hd hallows =>
    obtain rfl : x₀ = y := Option.some.inj (hx₀.symm.trans hy)
    generalize hrest : x₀.rest = rest at hd hattends
    cases hd with
    | learn v next r =>
      obtain ⟨rfl, hnext⟩ := hattends
      cases hallows with
      | late hlate => rw [htold] at hlate; cases hlate
      | wait ho =>
        cases ho with
        | learn hres =>
          obtain ⟨z, hz, hzr⟩ := Option.bind_eq_some_iff.1 hres
          obtain ⟨z', hz', -, hdone⟩ := ha.sole.member
          rw [Crew.finish, Crew.members_alter, if_neg ha.ne_zero.symm, hz] at hz'
          cases hz'
          obtain rfl := hdone r hzr
          have hall := ha.lingers.ended
          obtain rfl : r = closedWith d.outcome := Program.done.inj hall.done
          have hpostponed : Plan.postponed plan = d.outcome := by rw [Plan.postponed, ha.deferral]
          have hend : next (closedWith d.outcome) = .done (Plan.commandOutcome plan (.ok ())) := by
            rw [hnext, Plan.commandOutcome, hpostponed]
            cases d.outcome <;> rfl
          have hothers : ∀ (v' : TaskId) (y : Member scene), v' ≠ 0 →
              (c.goOn 0 (next (closedWith d.outcome))).members[v']? = some y → y.result.isSome = true := by
            intro v' y hv hy
            rw [Crew.goOn, Crew.members_alter, if_neg hv.symm] at hy
            by_cases hvu : v' = v
            · subst hvu
              obtain rfl : z = y := Option.some.inj (hz.symm.trans hy)
              rw [hzr]
              rfl
            · exact ha.others v' y hv hvu hy
          refine ⟨_, ha.undertaken.append _, trivial, ha.sole.passOn ?_ ?_ (Crew.members_alter_self hx₀ _) hgoes
            htold hothers, ?_, ?_, hothers, ?_, ?_, ?_, pages, ha.distinct, ?_⟩
          · rfl
          · rfl
          · exact hend ▸ trivial
          · exact hend ▸ rfl
          · rw [closings_snoc, ha.closed]
            exact List.append_nil _
          · rw [openings_snoc, ha.opened]
            exact List.append_nil _
          · rw [hall.opened]
            exact ha.launched
          · rw [hall.closed, hall.opened]

/-- Others do something. -/
theorem others_step (ha : Attending P plan engine h c t d u pages launch p)
    (he : Crew.Step m IsOutside c e c') (hcalm : Event.IsCalm e) (hactor : e.actor? ≠ some 0)
    (hgone : ∀ l r, (Signal.gone l, r) ∈ c.given → r = .ok ()) :
    (∃ t' p', Attending P plan engine (h ++ [e]) c' t' d u pages launch p') ∧
      ∀ v job v', e ≠ .act v (.start job v') := by
  obtain ⟨x₀, hx₀, hgoes, htold, hattends⟩ := ha.first
  have he' := he.without hx₀ hgoes (.ok .nothing) hactor
  obtain ⟨t', p', hsole, hlingers, hclosed, hopened, hstart, hstop⟩ : ∃ t' p',
      Sole P u (c'.finish 0 (.ok .nothing)) t' p' ∧ Lingers d pages launch t' p' ∧
        closings (h ++ [e]) = t'.closed ∧ openings (h ++ [e]) = t'.opened ∧
        (∀ v job v', e ≠ .act v (.start job v')) ∧ ∀ v v', e ≠ .act v (.stop v') := by
    by_cases hact : ∃ deed, e = .act u deed
    · obtain ⟨deed, rfl⟩ := hact
      obtain ⟨p', hdoes⟩ := ha.sole.does he'
      have hsolitary := ha.lingers.solitary hdoes
      obtain ⟨p'', hdoes', hagrees, hsole⟩ := ha.sole.act he' hcalm hgone hsolitary
      refine ⟨_, p'', hsole, ha.lingers.next hdoes' hagrees, ?_, ?_,
        fun v job v' => hsolitary.not_starts v' v job, ?_⟩
      · rw [closings_snoc, ha.closed, t.closed_after]
        rfl
      · rw [openings_snoc, ha.opened, t.opened_after]
        rfl
      · rintro v v' ⟨⟩
        cases hsolitary
    · obtain ⟨hidle, hsole⟩ := ha.sole.idle he' hcalm fun deed heq => hact ⟨deed, heq⟩
      refine ⟨t, p, hsole, ha.lingers, ?_, ?_, fun v job v' => hidle.not_starts v' v job, ?_⟩
      · rw [closings_snoc, ha.closed, hidle.ordinary.closing?]
        exact List.append_nil _
      · rw [openings_snoc, ha.opened, hidle.ordinary.opened?]
        exact List.append_nil _
      · rintro v v' rfl
        obtain ⟨-, q, x, heq, -⟩ := hidle v _ rfl
        cases heq
  refine ⟨⟨t', p', ha.undertaken.append _, ha.deferral, ha.ne_zero, ?_, hsole, ?_, hlingers, hclosed, hopened,
    ha.launched, ha.distinct⟩, hstart⟩
  · obtain ⟨y, hy⟩ := he.exists_member hx₀
    rcases he.member hy with ⟨x, hx, hcont⟩ | ⟨v, job, heq, -⟩
    · obtain rfl : x₀ = x := Option.some.inj (hx₀.symm.trans hx)
      refine ⟨y, hy, ?_⟩
      cases hcont.becomes with
      | acts _ heq | ends _ heq | balks heq => exact absurd (congrArg Event.actor? heq) hactor
      | same _ hrest _ hresult =>
        refine ⟨hresult.trans hgoes, ?_, hrest ▸ hattends⟩
        refine Bool.eq_false_iff.2 fun ht => ?_
        rcases hcont.why ht with ht | htells
        · rw [htold] at ht
          cases ht
        · cases htells with
          | outside => exact hcalm
          | stops v => exact hstop v 0 rfl
          | passes hz ht =>
            cases he with
            | pass hz' hr =>
              obtain rfl := Option.some.inj (hz.symm.trans hz')
              rw [ha.untold _ _ hz hr] at ht
              cases ht
    · exact absurd heq (hstart v job 0)
  · exact fun v y hv hvu hy => he.isSome (fun u' job => hstart u' job v) hy fun x hx => ha.others v x hv hvu hx

end Attending

/-- The first task goes on saying what it has to say, or nobody does anything. -/
theorem Settled.step {o : Outcome Fault Unit} (hs : Settled P plan engine h c t o p)
    (he : Crew.Step m IsOutside c e c') (hcalm : Event.IsCalm e)
    (hgone : ∀ l r, (Signal.gone l, r) ∈ c.given → r = .ok ()) :
    (∃ p', Settled P plan engine (h ++ [e]) c' t o p') ∧ ∀ v job v', e ≠ .act v (.start job v') := by
  obtain ⟨p', hsole, hmute, hcomes, hord, hstart⟩ : ∃ p', Sole P 0 c' t p' ∧ Program.IsMute p' ∧
      Program.ComesTo (Plan.commandOutcome plan o) p' ∧ Event.IsOrdinary e ∧
        ∀ v job v', e ≠ .act v (.start job v') := by
    by_cases hact : ∃ deed, e = .act 0 deed
    · obtain ⟨deed, rfl⟩ := hact
      obtain ⟨p', hdoes⟩ := hs.sole.does he
      obtain ⟨hmute, hmute'⟩ := hs.mute.does hdoes
      have hsolitary : Deed.IsSolitary deed := by
        obtain ⟨q, x, rfl, -⟩ := hmute
        exact .ask q x
      obtain ⟨p'', hdoes', -, hsole⟩ := hs.sole.act he hcalm hgone hsolitary
      obtain rfl := hdoes.unique hdoes'
      rw [hmute.after] at hsole
      refine ⟨p', hsole, hmute', hs.comes.does hdoes, ?_, fun v job v' => hsolitary.not_starts v' v job⟩
      rintro _ _ ⟨⟩
      exact hmute.ordinary
    · obtain ⟨hidle, hsole⟩ := hs.sole.idle he hcalm fun deed heq => hact ⟨deed, heq⟩
      exact ⟨p, hsole, hs.mute, hs.comes, hidle.ordinary, fun v job v' => hidle.not_starts v' v job⟩
  refine ⟨⟨p', hs.undertaken.append _, hs.calm, hsole, hmute, hcomes, ?_, ?_, ?_, hs.launched, hs.all⟩, hstart⟩
  · exact fun v y hv hy => he.isSome (fun u' job => hstart u' job v) hy fun x hx => hs.others v x hv hx
  · rw [closings_snoc, hs.closed, hord.closing?]
    exact List.append_nil _
  · rw [openings_snoc, hs.opened, hord.opened?]
    exact List.append_nil _

/-! ## From phase to phase -/

theorem Phase.undertaken {r : Outcome Fault (Option TaskId)} {x : Member scene}
    (hp : Phase P plan engine w h c) (hx : c.members[0]? = some x) (hrest : x.rest = .done (r.map .closing)) :
    Undertaken plan engine h (r.map fun _ => ()) := by
  obtain ⟨t, hc⟩ := hp.exists_chronicle
  have hpath := hc.reaches.path hx
  rw [P.program, hrest] at hpath
  obtain ⟨ds, es, o, heq, hdone, hends⟩ := exists_undertake hpath hc.calm
  have ho : r.map (fun _ => ()) = o := by
    cases o with
    | error s =>
      cases r <;> cases hends
      rfl
    | ok u =>
      obtain ⟨closing, hends, -⟩ := hends
      cases r <;> cases hends
      rfl
  exact ⟨ds, es, heq, ho ▸ hdone⟩

/-- When the run has ended with everything closed, the first task only has something left to say. -/
theorem Alone.settled {r : Outcome Fault (Option TaskId)}
    (ha : Alone P plan engine w h c' t (.done (r.map .closing)))
    (hm : Crew.Mirrors (I := scene) reportOn yieldClosing [] c c' (.done r))
    (hc : Concluded plan t (r.map .closing)) : Settled P plan engine h c t (r.map fun _ => ()) (reportOn r) := by
  obtain ⟨x, x', hx, hx', hr, hr', htold, hrest, hrest'⟩ := hm.first
  replace hrest : x.rest = reportOn r := hrest
  replace hrest' : x'.rest = .done (r.map .closing) := hrest'.trans (by cases r <;> rfl)
  have hothers : ∀ (v : TaskId) (y : Member scene), v ≠ 0 → c.members[v]? = some y →
      y.result.isSome = true := fun v y hv hy => ha.others v y hv ((hm.others v hv).symm.trans hy)
  have hsole : Sole P 0 c t (reportOn r) := hrest ▸ ha.sole.passOn hm.world hm.given hx hr
    (htold.trans (ha.untold x' hx' hr')) hothers
  have hundertaken := Phase.undertaken (.alone t _ ha (.inl (.done hc))) hx' hrest'
  obtain ⟨hends, hlaunch, pages, hclosed, hdistinct, -⟩ := hc
  have hall : ∃ pages : List PageId, pages.Nodup ∧
    t.closed = pages.map .page ++ t.opened.reverse := ⟨pages, hdistinct, hclosed⟩
  rcases hends with ⟨fault, heq⟩ | ⟨hnow, heq⟩
  · cases r <;> cases heq
    exact ⟨hundertaken, trivial, hsole, trivial, rfl, hothers, ha.chronicle.closed, ha.chronicle.opened, hlaunch, hall⟩
  · cases r <;> cases heq
    have hcommand : Plan.commandOutcome plan (.ok ()) = .ok .nothing := by
      rw [Plan.commandOutcome, Plan.postponed, hnow]
      rfl
    exact ⟨hundertaken, trivial, hsole, mute_reportOn.1, hcommand ▸ mute_reportOn.2, hothers, ha.chronicle.closed,
      ha.chronicle.opened, hlaunch, hall⟩

namespace CommandPhase

/-- When the run has ended, the command attends to the task that closes the session, or it is done with
everything. -/
theorem of_done {r : Outcome Fault (Option TaskId)}
    (hm : Crew.Mirrors (I := scene) reportOn yieldClosing [] c c' (.done r))
    (hp : Phase P plan engine w h c') : CommandPhase P plan engine w h c := by
  obtain ⟨x, x', hx, hx', hr, hr', htold, hrest, hrest'⟩ := hm.first
  have huntold : x.isTold = false := htold.trans (hp.untold hx' hr')
  replace hrest : x.rest = reportOn r := hrest
  replace hrest' : x'.rest = .done (r.map .closing) := hrest'.trans (by cases r <;> rfl)
  have hput : ∀ {t d u pages launch}, IsPutOff P plan engine w h c' t d u pages launch → r = .ok (some u) := by
    intro t d u pages launch hd
    have hend := hd.comes x' hx'
    rw [hrest'] at hend
    cases r <;> cases hend
    rfl
  have hundertaken := hp.undertaken hx' hrest'
  have hattending : ∀ {t d u pages launch p}, IsPutOff P plan engine w h c' t d u pages launch →
      Sole P u c' t p → Lingers d pages launch t p → CommandPhase P plan engine w h c := by
    intro t d u pages launch p hd hs hl
    obtain rfl := hput hd
    exact .attending t d u pages launch p ⟨hundertaken, hd.deferral, hd.ne_zero,
      ⟨x, hx, hr, huntold, hrest ▸ attends_reportOn u⟩,
      hs.but_first hd.ne_zero hm.world hm.given hm.others _,
      fun v y hv hvu hy => hd.others v y hv hvu ((hm.others v hv).symm.trans hy), hl,
      hd.chronicle.closed, hd.chronicle.opened, hd.launched, hd.distinct⟩
  cases hp with
  | working t q hw hq =>
    obtain ⟨_, _, _, _, _, _, hm', -⟩ := hw.reflects
    obtain ⟨y, _, hy, -, -, -, -, hrest'', -⟩ := hm'.first
    obtain rfl : x' = y := Option.some.inj (hx'.symm.trans hy)
    exact absurd (hrest''.symm.trans hrest') (Program.attempt_bind_ne_done windUp_ne_done _ _)
  | waiting t d u pages q hd hs hret ho hq => exact hattending hd hs (.waiting hret rfl hq ho)
  | closing t d u pages launch p hd hs hdue hp => exact hattending hd hs (.closing hp)
  | alone t p ha hp =>
    obtain ⟨y, hy, rfl, -⟩ := ha.sole.member
    obtain rfl : x' = y := Option.some.inj (hx'.symm.trans hy)
    rw [hrest'] at ha hp
    rcases hp with hp | hp
    · cases hp with
      | done hc => exact .settled t _ _ (ha.settled hm hc)
    · rcases hp.asks with ⟨_, _, heq⟩ | ⟨_, _, heq, -⟩ <;> cases heq

theorem of_mirrors {q : Program scene (Option TaskId)}
    (hm : Crew.Mirrors (I := scene) reportOn yieldClosing [] c c' q) (hp : Phase P plan engine w h c') :
    CommandPhase P plan engine w h c := by
  by_cases hq : ∃ r, q = .done r
  · obtain ⟨r, rfl⟩ := hq
    exact .of_done hm hp
  · exact .running c' q hm hp fun r hr => hq ⟨r, hr⟩

theorem first (hsteps : Step.allKeepApart false plan.steps = true) :
    CommandPhase P plan engine w [] (Crew.single m w (.commanded plan engine)) := by
  have hm : Crew.Mirrors (I := scene) reportOn yieldClosing [] (Crew.single m w (.commanded plan engine))
      (Crew.single m w (.automation plan engine)) (automation plan engine) := by
    refine ⟨rfl, rfl, rfl, fun v hv => ?_, _, _, rfl, rfl, rfl, rfl, rfl, ?_, ?_⟩
    · have hlt : 1 ≤ v := Nat.pos_of_ne_zero hv
      exact (List.getElem?_eq_none hlt).trans (List.getElem?_eq_none hlt).symm
    · rw [P.program]
      exact program_commanded
    · rw [P.program]
      rfl
  exact .of_mirrors hm (.first hsteps)

theorem mirrored {q : Program scene (Option TaskId)}
    (hm : Crew.Mirrors (I := scene) reportOn yieldClosing [] c c' q) (hp : Phase P plan engine w h c')
    (hq : ∀ r, q ≠ .done r) {d : Crew scene W} (he : Crew.Step m IsOutside c e d) :
    ∃ d' q', Crew.Step m IsOutside c' e d' ∧
      Crew.Mirrors (I := scene) reportOn yieldClosing [] d d' q' := by
  obtain ⟨d', q', hs, hm', -⟩ := hm.step hq he (fun _ _ _ _ _ _ _ => List.not_mem_nil) (by
    rintro rfl
    obtain ⟨x, x', hx, hx', hr, hr', htold, -⟩ := hm.first
    cases he with
    | balk hy _ _ ht =>
      obtain rfl := Option.some.inj (hx.symm.trans hy)
      rw [htold, hp.untold hx' hr'] at ht
      cases ht)
  exact ⟨d', q', hs, hm'⟩

/-- Every event leads from a phase to a phase, as long as nobody interrupts. -/
theorem step (hsteps : Step.allKeepApart false plan.steps = true)
    (hr : Crew.Reaches m IsOutside (Crew.single m w (.commanded plan engine)) h c)
    (hs : CommandPhase P plan engine w h c) (he : Crew.Step m IsOutside c e c') (hcalm : Event.IsCalm e) :
    CommandPhase P plan engine w (h ++ [e]) c' ∧ Event.Descends c e := by
  have hgone : ∀ l r, (Signal.gone l, r) ∈ c.given → r = .ok () := fun l r hin => (gone_of_given P hr hin).1
  cases hs with
  | running c₁ q hm hp hq =>
    obtain ⟨d', q', he', hm'⟩ := mirrored hm hp hq he
    obtain ⟨hp', hlevel⟩ := hp.step hsteps he' hcalm
    refine ⟨.of_mirrors hm' hp', ?_⟩
    rintro v job u x rfl hx
    by_cases hv : v = 0
    · -- the command and its run have jobs of the same level
      subst hv
      obtain ⟨y, hy, hjob⟩ := hr.job (t := 0) rfl
      obtain rfl : x = y := Option.some.inj (hx.symm.trans hy)
      obtain ⟨t, hc⟩ := hp.exists_chronicle
      obtain ⟨z, hz, hchief⟩ := hc.exists_chief
      have hlt := hlevel 0 job u z rfl hz
      rw [hchief] at hlt
      rw [hjob]
      exact hlt
    · exact hlevel v job u x rfl ((hm.others v hv).symm.trans hx)
  | attending t d u pages launch p ha =>
    by_cases hactor : e.actor? = some 0
    · rcases ha.first_acts he hactor with ⟨q, x, rfl⟩ | ⟨v, r, rfl⟩
      · refine ⟨.attending t d u pages launch p (ha.say he), .of_not_starts fun v job v' => ?_⟩
        exact (Deed.IsSolitary.ask q x).not_starts v' v job
      · obtain ⟨p', hs⟩ := ha.learn he
        refine ⟨.settled t _ p' hs, .of_not_starts ?_⟩
        rintro _ _ _ ⟨⟩
    · obtain ⟨⟨t', p', ha'⟩, hstart⟩ := ha.others_step he hcalm hactor hgone
      exact ⟨.attending t' d u pages launch p' ha', .of_not_starts hstart⟩
  | settled t o p hs =>
    obtain ⟨⟨p', hs'⟩, hstart⟩ := hs.step he hcalm hgone
    exact ⟨.settled t o p' hs', .of_not_starts hstart⟩

/-- After every history in which nobody interrupts, the command is in a phase. -/
theorem of_reaches (hsteps : Step.allKeepApart false plan.steps = true)
    (hr : Crew.Reaches m IsOutside (Crew.single m w (.commanded plan engine)) h c)
    (hh : ∀ e ∈ h, Event.IsCalm e) : CommandPhase P plan engine w h c := by
  induction hr with
  | refl => exact .first hsteps
  | step hd he ih =>
    exact ((ih fun e he => hh e (List.mem_append_left _ he)).step hsteps hd he
      (hh _ (List.mem_append_right _ (List.mem_singleton_self _)))).1

/-- What a command comes to, and that all it had opened is closed by then. -/
theorem result (hs : CommandPhase P plan engine w h c) {r : Outcome Fault Yield} (hr : c.result? 0 = some r) :
    ∃ o, Undertaken plan engine h o ∧ IsCalm o ∧ r = Plan.commandOutcome plan o ∧ IsLaunch (openings h) ∧
      ∃ pages : List PageId, pages.Nodup ∧ closings h = pages.map .page ++ (openings h).reverse := by
  obtain ⟨x, hx, hxr⟩ := Option.bind_eq_some_iff.1 hr
  cases hs with
  | running c₁ q hm hp hq =>
    obtain ⟨y, _, hy, -, hgoes, -⟩ := hm.first
    obtain rfl := Option.some.inj (hx.symm.trans hy)
    cases hgoes.symm.trans hxr
  | attending t d u pages launch p ha =>
    obtain ⟨y, hy, hgoes, -⟩ := ha.first
    obtain rfl := Option.some.inj (hx.symm.trans hy)
    cases hgoes.symm.trans hxr
  | settled t o p hs =>
    obtain ⟨y, hy, -, hdone⟩ := hs.sole.member
    obtain rfl := Option.some.inj (hx.symm.trans hy)
    obtain rfl := hdone r hxr
    refine ⟨o, hs.undertaken, hs.calm, hs.comes, ?_, ?_⟩
    · exact hs.opened ▸ hs.launched
    · rw [hs.closed, hs.opened]
      exact hs.all

/-- Whoever the first task learns to have ended badly is no branch. -/
theorem meets (hr : Crew.Reaches m IsOutside (Crew.single m w (.commanded plan engine)) h c)
    (hs : CommandPhase P plan engine w h c) {ts : List TaskId} {patient : Bool} {s : Stop Fault}
    (he : Crew.Step m IsOutside c (.act 0 (.meet ts patient (.error s))) c') :
    ∀ v ∈ ts, ∃ y, c.members[v]? = some y ∧ ¬ y.job.IsBranch := by
  cases hs with
  | running c₁ q hm hp hq =>
    obtain ⟨d', q', he', -⟩ := mirrored hm hp hq he
    intro v hv
    by_cases hv₀ : v = 0
    · subst hv₀
      obtain ⟨y, hy, hjob⟩ := hr.job (t := 0) rfl
      exact ⟨y, hy, hjob ▸ id⟩
    · obtain ⟨y, hy, hbranch⟩ := hp.meets he' v hv
      exact ⟨y, (hm.others v hv₀).trans hy, hbranch⟩
  | attending t d u pages launch p ha =>
    rcases ha.first_acts he rfl with ⟨q, x, heq⟩ | ⟨v, r, heq⟩ <;> cases heq
  | settled t o p hs =>
    obtain ⟨p', hdoes⟩ := hs.sole.does he
    obtain ⟨⟨q, x, heq, -⟩, -⟩ := hs.mute.does hdoes
    cases heq

/-! ## Commands go on -/

/-- The command has ended, or somebody can move, or a call never comes back, or the browser was left open
and has not gone yet. -/
theorem exists_move (hs : CommandPhase P plan engine w h c) :
    (c.result? 0).isSome = true ∨ c.CanMove m IsOutside ∨ c.Hangs ∨
      ∃ u l, Watches c u l ∧ ∀ r, (Signal.gone l, r) ∉ c.given := by
  cases hs with
  | running c₁ q hm hp hq =>
    obtain ⟨x, x', hx, hx', hgoes, hgoes', htold, hrest, hrest'⟩ := hm.first
    rcases hp.exists_move with ⟨v, y, hy, hr, next, hforever⟩ | hmove | ⟨hover, -⟩
    · refine .inr (.inr (.inl ?_))
      by_cases hv : v = 0
      · subst hv
        obtain rfl := Option.some.inj (hx'.symm.trans hy)
        rw [hrest'] at hforever
        cases q with
        | done r => exact absurd rfl (hq r)
        | pause on next' =>
          cases hforever
          exact ⟨0, x, hx, hgoes, _, hrest⟩
        | _ => cases hforever
      · exact ⟨v, y, (hm.others v hv).trans hy, hr, next, hforever⟩
    · refine .inr (.inl (hm.canMove hq (fun y hy => ?_) hmove))
      obtain rfl := Option.some.inj (hx'.symm.trans hy)
      exact hp.untold hx' hgoes'
    · rw [Crew.result?, hx', Option.bind_some, hgoes'] at hover
      cases hover
  | attending t d u pages launch p ha =>
    obtain ⟨x, hx, hgoes, htold, hattends⟩ := ha.first
    rcases Crew.exists_move hx hgoes with hmove | ⟨next, hforever⟩ | ⟨s, next, hpause, -⟩ | ⟨v, hwaits, hnone⟩
    · exact .inr (.inl hmove)
    · rw [hforever] at hattends
      exact hattends.elim
    · rw [hpause] at hattends
      exact hattends.elim
    · -- it waits for the task that is to close the session
      obtain rfl : v = u := by
        generalize x.rest = rest at hattends hwaits
        cases hwaits with
        | await => exact hattends.1
        | gather => exact hattends.elim
      obtain ⟨y, hy, rfl, -⟩ := ha.sole.member
      rw [Crew.finish, Crew.members_alter, if_neg ha.ne_zero.symm] at hy
      have hr : y.result = none := by rwa [Crew.result?, hy, Option.bind_some] at hnone
      rcases Crew.exists_move hy hr with hmove | hforever | hblocked
      · exact .inr (.inl hmove)
      · exact .inr (.inr (.inl ⟨v, y, hy, hr, hforever⟩))
      · obtain ⟨l, next, hrest, hnever⟩ := ha.lingers.gone_of_blocked hblocked
        exact .inr (.inr (.inr ⟨v, l, ⟨y, next, hy, hr, hrest⟩, hnever⟩))
  | settled t o p hs =>
    obtain ⟨x, hx, rfl, -⟩ := hs.sole.member
    have hmute := hs.mute
    cases hr : x.result with
    | some r =>
      left
      rw [Crew.result?, hx, Option.bind_some, hr]
      rfl
    | none =>
      rcases Crew.exists_move hx hr with hmove | ⟨next, hforever⟩ | ⟨s, next, hpause, -⟩ | ⟨v, hwaits, -⟩
      · exact .inr (.inl hmove)
      · rw [hforever] at hmute
        exact hmute.elim
      · rw [hpause] at hmute
        exact hmute.elim
      · generalize x.rest = rest at hmute hwaits
        cases hwaits <;> exact hmute.elim

end CommandPhase

theorem Watches.still {l : Nat} (hw : Watches c u l) (he : Crew.Step m IsOutside c e c')
    (hmove : ¬ e.IsMove) : Watches c' u l := by
  obtain ⟨x, next, hx, hr, hrest⟩ := hw
  obtain ⟨y, hy⟩ := he.exists_member hx
  rcases he.member hy with ⟨z, hz, hcont⟩ | ⟨v, job, rfl, -⟩
  · obtain rfl := Option.some.inj (hx.symm.trans hz)
    cases hcont.becomes with
    | same _ hrest' _ hresult => exact ⟨y, next, hy, hresult.trans hr, hrest'.trans hrest⟩
    | acts _ heq | ends _ heq | balks heq => exact absurd (heq ▸ trivial) hmove
  · exact absurd trivial hmove

theorem Watches.canMove {l : Nat} (hw : Watches c u l) {r : Outcome Fault Unit}
    (hin : (Signal.gone l, r) ∈ c.given) : c.CanMove m IsOutside := by
  obtain ⟨x, next, hx, hr, hrest⟩ := hw
  have hdoes : x.rest.Does (.wake (.signal (.gone l)) r) (next r) := hrest ▸ Program.Does.wake _ next r
  exact ⟨_, _, .act hx hr hdoes (.wait (.signal hin)), trivial⟩

section
variable {run : Nat → Crew scene W} {events : Nat → Event scene}

end

end BrowserPlan.Run
