import BrowserPlan.Proofs.Plan.Nesting
import BrowserPlan.Proofs.Run.Phases
import BrowserPlan.Proofs.Task.Rehearsal
import BrowserPlan.Run.Scenario

/-!
# The life of a run

A run of an accepted plan comes to an end, unless some call never comes back, and in the end all that it
has opened is closed, or a task is there that closes it when the time has come
(`accepted_plan_closes_up`). How far a run is follows from the phase it is in.
-/
namespace BrowserPlan.Task

variable {I : Interface} {W : Type}

/-- Some member waits for what never comes: it has made a call that does not come back. -/
def Crew.Hangs (c : Crew I W) : Prop :=
  ∃ (t : TaskId) (x : Member I), c.members[t]? = some x ∧ x.result = none ∧ ∃ next, x.rest = .pause .forever next

end BrowserPlan.Task

namespace BrowserPlan.Run

open BrowserPlan.Task BrowserPlan.Browser

variable {W : Type} {m : Machine scene W} {P : Premises m} {plan : Plan} {engine : String} {w : W}
  {h : List (Event scene)} {c c' : Crew scene W} {t : Tally} {e : Event scene} {d : Deferral} {u : TaskId}
  {p : Program scene Yield} {q : Program scene Unit} {pages : List PageId}

/-! ## Runs go on -/

/-- The first task has ended, and so has everybody else, unless it waits for the browser to go away. -/
def IsOver (c : Crew scene W) : Prop :=
  (c.result? 0).isSome = true ∧ ∀ (v : TaskId) (y : Member scene), c.members[v]? = some y → y.result = none →
    ∃ l next, y.rest = .pause (.signal (.gone l)) next ∧ ∀ r, (Signal.gone l, r) ∉ c.given

theorem IsOver.of_ended {x : Member scene} (hx : c.members[0]? = some x)
    (hall : ∀ (v : TaskId) (y : Member scene), c.members[v]? = some y → y.result.isSome = true) : IsOver c := by
  refine ⟨?_, fun v y hy hgoes => absurd hgoes (Option.isSome_iff_ne_none.1 (hall v y hy))⟩
  rw [Crew.result?, hx]
  exact hall 0 x hx

theorem Program.KeepsTally.not_blocked {H : Tally → Program scene Yield → Prop}
    (hp : Program.KeepsTally H p t) : ¬ c.IsBlocked p := by
  rcases hp.asks with ⟨call, next, rfl⟩ | ⟨on, next, rfl, hon⟩
  · rintro (⟨s, _, heq, -⟩ | ⟨v, hw, -⟩)
    · cases heq
    · cases hw
  · rintro (⟨s, _, heq, -⟩ | ⟨v, hw, -⟩)
    · cases heq
      exact hon s rfl
    · cases hw

theorem not_blocked_done {r : Outcome Fault Yield} : ¬ c.IsBlocked (.done r) := by
  rintro (⟨s, _, heq, -⟩ | ⟨v, hw, -⟩)
  · cases heq
  · cases hw

theorem not_blocked_fork {job : Job} {next : TaskId → Program scene Yield} :
    ¬ c.IsBlocked (.fork job next) := by
  rintro (⟨s, _, heq, -⟩ | ⟨v, hw, -⟩)
  · cases heq
  · cases hw

/-- Who waits with a close is blocked only as long as the browser has not gone away. -/
theorem gone_of_blocked {s : Session} {Q : List (Deed scene) → Outcome Fault Unit → Prop}
    {ds : List (Deed scene)} {f : Outcome Fault Unit → Program scene Yield}
    (ho : q.Obeys (AgreesWith s) KeepsVigil Q ds) (hq : ∀ r, q ≠ .done r)
    (hb : c.IsBlocked (Program.bind (I := scene) q.attempt f)) :
    ∃ l next, Program.bind (I := scene) q.attempt f = .pause (.signal (.gone l)) next ∧
      ∀ r, (Signal.gone l, r) ∉ c.given := by
  cases q with
  | done r => exact absurd rfl (hq r)
  | pause on next =>
    rcases hb with ⟨s, next', heq, hnone⟩ | ⟨v, hw, -⟩
    · cases heq
      obtain ⟨_, ⟨hvigil, -⟩, -⟩ := ho (.ok ()) ⟨{ session := _, pool := { maxPages := 0 } }, rfl, rfl⟩
      cases hvigil with
      | gone l => exact ⟨l, _, rfl, hnone⟩
    · cases hw
  | await v next => cases solitary_of_vigil ho (.learn v next (.ok .nothing))
  | gather vs patient next => cases solitary_of_vigil ho (.meet vs patient next (.ok ()))
  | _ =>
    rcases hb with ⟨s, next', heq, -⟩ | ⟨v, hw, -⟩
    · cases heq
    · cases hw

/-- While the steps are carried out, somebody can move, or somebody waits for what never comes. -/
theorem Working.exists_move (hw : Working P plan engine w h c t q) (hq : ∀ r, q ≠ .done r) :
    c.Hangs ∨ c.CanMove m IsOutside := by
  obtain ⟨page, w₁, before, h₁, c₁, g, hm, -, hopens, hf, -⟩ := hw.reflects
  obtain ⟨x, x', hx, hx', hr, hr', -, hrest, hrest'⟩ := hm.first
  obtain ⟨v, y, hy, hgoes, hfree⟩ := hf.exists_unblocked hopens hx' hr'
  -- the same task of the run itself is not blocked either
  obtain ⟨z, hz, hzgoes, hzfree⟩ : ∃ z : Member scene, c.members[v]? = some z ∧ z.result = none ∧
      ¬ c.IsBlocked z.rest := by
    by_cases hv : v = 0
    · subst hv
      obtain rfl : x' = y := Option.some.inj (hx'.symm.trans hy)
      refine ⟨x, hx, hr, fun hb => hfree ?_⟩
      rw [hrest] at hb
      rw [hrest']
      rcases hb with ⟨s, next, heq, hnone⟩ | ⟨u, hwait, hnone⟩
      · cases q with
        | done r => exact absurd rfl (hq r)
        | pause on next =>
          cases heq
          refine .inl ⟨s, _, rfl, fun r hin => hnone r ?_⟩
          rw [hm.given]
          exact List.mem_append_right _ hin
        | _ => cases heq
      · exact .inr ⟨u, hwait.first hq _, hm.result? u ▸ hnone⟩
    · refine ⟨y, (hm.others v hv).trans hy, hgoes, fun hb => hfree ?_⟩
      rcases hb with ⟨s, next, heq, hnone⟩ | ⟨u, hwait, hnone⟩
      · refine .inl ⟨s, next, heq, fun r hin => hnone r ?_⟩
        rw [hm.given]
        exact List.mem_append_right _ hin
      · exact .inr ⟨u, hwait, hm.result? u ▸ hnone⟩
  rcases Crew.exists_move hz hzgoes with hmove | hhangs | hblocked
  · exact .inr hmove
  · exact .inl ⟨v, z, hz, hzgoes, hhangs⟩
  · exact absurd hblocked hzfree

/-- A run is over, or somebody can move, or somebody waits for what never comes. -/
theorem Phase.exists_move (hp : Phase P plan engine w h c) :
    c.Hangs ∨ c.CanMove m IsOutside ∨ IsOver c := by
  -- when a task has the session to itself
  have hsole : ∀ {a : TaskId} {t : Tally} {p : Program scene Yield}, Sole P a c t p →
      (∀ x : Member scene, c.members[a]? = some x → x.rest = p → x.result = none → c.IsBlocked p →
        (∀ (v : TaskId) (y : Member scene), v ≠ a → c.members[v]? = some y → y.result.isSome = true) →
        IsOver c) → c.Hangs ∨ c.CanMove m IsOutside ∨ IsOver c := by
    intro a t p hs hblocked
    rcases hs.exists_move with hmove | ⟨hothers, x, hx, hrest, hended | ⟨hgoes, ⟨next, hforever⟩ | hb⟩⟩
    · exact .inr (.inl hmove)
    · have hall : ∀ (v : TaskId) (y : Member scene), c.members[v]? = some y → y.result.isSome = true := by
        intro v y hy
        by_cases hv : v = a
        · subst hv
          obtain rfl : x = y := Option.some.inj (hx.symm.trans hy)
          exact hended
        · exact hothers v y hv hy
      have hpos : 0 < c.members.length := Nat.lt_of_le_of_lt (Nat.zero_le a) (Crew.lt_of_member hx)
      exact .inr (.inr (.of_ended (List.getElem?_eq_getElem hpos) hall))
    · exact .inl ⟨a, x, hx, hgoes, next, hrest.trans hforever⟩
    · exact .inr (.inr (hblocked x hx hrest hgoes hb hothers))
  cases hp with
  | alone t p ha hp =>
    refine hsole ha.sole fun x hx hrest hgoes hb _ => ?_
    rcases hp with hp | hp
    · cases hp with
      | done => exact absurd hb not_blocked_done
      | defer => exact absurd hb not_blocked_fork
    · exact absurd hb hp.not_blocked
  | working t q hw hq => exact (hw.exists_move hq).imp_right .inl
  | waiting t d u pages q hd hs hr ho hq =>
    refine hsole hs fun x hx hrest hgoes hb hothers => ?_
    obtain ⟨l, next, heq, hnone⟩ := gone_of_blocked ho hq hb
    obtain ⟨y, hy, -⟩ := hd.chronicle.exists_chief
    refine ⟨?_, fun v z hz hzgoes => ?_⟩
    · rw [Crew.result?, hy]
      exact hothers 0 y hd.ne_zero.symm hy
    · by_cases hv : v = u
      · subst hv
        obtain rfl : x = z := Option.some.inj (hx.symm.trans hz)
        exact ⟨l, next, hrest.trans heq, hnone⟩
      · exact absurd hzgoes (Option.isSome_iff_ne_none.1 (hothers v z hv hz))
  | closing t d u pages launch p hd hs hdue hp =>
    refine hsole hs fun x hx hrest hgoes hb _ => ?_
    rcases TalliesUntil.next hp with ⟨rfl, -⟩ | hp
    · exact absurd hb not_blocked_done
    · exact absurd hb hp.not_blocked

section
variable {run : Nat → Crew scene W} {events : Nat → Event scene}

/-- At all times a run is in a phase. -/
theorem Phase.of_run (hsteps : Step.allKeepApart false plan.steps = true)
    (hfirst : run 0 = Crew.single m w (.automation plan engine))
    (hstep : ∀ n, Crew.Step m IsOutside (run n) (events n) (run (n + 1)))
    (hcalm : ∀ n, Event.IsCalm (events n)) (n : Nat) : ∃ h, Phase P plan engine w h (run n) := by
  induction n with
  | zero => exact ⟨[], hfirst ▸ .first hsteps⟩
  | succ n ih =>
    obtain ⟨h, hp⟩ := ih
    exact ⟨_, (hp.step hsteps (hstep n) (hcalm n)).1⟩

/-- In no way of going on are there moves without end. -/
theorem moves_end (P : Premises m) (hsteps : Step.allKeepApart false plan.steps = true)
    (hfirst : run 0 = Crew.single m w (.automation plan engine))
    (hstep : ∀ n, Crew.Step m IsOutside (run n) (events n) (run (n + 1)))
    (hcalm : ∀ n, Event.IsCalm (events n)) : ∃ n, ∀ k, n ≤ k → ¬ (events k).IsMove := by
  refine Crew.moves_end Job.level hstep fun n v job u x heq hx => ?_
  obtain ⟨h, hp⟩ := Phase.of_run (P := P) hsteps hfirst hstep hcalm n
  exact (hp.step hsteps (hstep n) (hcalm n)).2 v job u x heq hx

/-- A run in which somebody moves as long as somebody can, and nobody waits for what never comes, is
over some time. -/
theorem exists_over (P : Premises m) (hsteps : Step.allKeepApart false plan.steps = true)
    (hfirst : run 0 = Crew.single m w (.automation plan engine))
    (hstep : ∀ n, Crew.Step m IsOutside (run n) (events n) (run (n + 1)))
    (hcalm : ∀ n, Event.IsCalm (events n)) (hhangs : ∀ n, ¬ (run n).Hangs)
    (hmoves : ∀ n, (run n).CanMove m IsOutside → ∃ k, n ≤ k ∧ (events k).IsMove) :
    ∃ n, ∀ k, n ≤ k → IsOver (run k) := by
  obtain ⟨n, hn⟩ := moves_end P hsteps hfirst hstep hcalm
  refine ⟨n, fun k hk => ?_⟩
  obtain ⟨h, hp⟩ := Phase.of_run (P := P) hsteps hfirst hstep hcalm k
  rcases hp.exists_move with hhang | hmove | hover
  · exact absurd hhang (hhangs k)
  · obtain ⟨l, hl, hmove⟩ := hmoves k hmove
    exact absurd hmove (hn l (Nat.le_trans hk hl))
  · exact hover

end

/-! ## How runs end -/

/-- How a run that has launched `launch` and had `pages` in its pool has ended after the history `h`. -/
inductive IsEnding (plan : Plan) (h : List (Event scene)) (c : Crew scene W) (launch : List Resource)
    (pages : List PageId) : Outcome Fault Yield → Prop
  /-- It has failed, and all is closed. -/
  | failed (fault : Fault) (hlaunch : openings h = launch)
    (hclosed : closings h = pages.map .page ++ launch.reverse) (hnone : closers h = []) :
    IsEnding plan h c launch pages (.error (.failed fault))
  /-- All has gone well, and all is closed. -/
  | closed (hnow : Deferral.of? plan.keepOpenAfter = none) (hlaunch : openings h = launch)
    (hclosed : closings h = pages.map .page ++ launch.reverse) (hnone : closers h = []) :
    IsEnding plan h c launch pages (.ok (.closing none))
  /-- All has gone well, and the pages are closed. There is one task `u` that closes the rest when the
  time has come; since it was started, the first task has only had something to say, and nothing of the
  rest was closed as long as `u` had done nothing. -/
  | putOff (d : Deferral) (u : TaskId) (hlater : Deferral.of? plan.keepOpenAfter = some d)
    (hone : closers h = [(d, u)])
    (hstart : ∃ h₁ h₂, h = h₁ ++ .act 0 (.start (.close d) u) :: h₂ ∧ closings h₁ = pages.map .page ∧
      openings h₁ = launch ∧ ∀ d ∈ deedsOf h₂ 0, Deed.IsMute d)
    (hdue : closings h = pages.map .page ∨ IsDueSince h d u pages)
    (hidle : deedsOf h u = [] → closings h = pages.map .page)
    (hend : ∀ r, c.result? u = some r → closings h = pages.map .page ++ launch.reverse) :
    IsEnding plan h c launch pages (.ok (.closing (some u)))

theorem IsDueSince.closings (hd : IsDueSince h d u pages) (hu : deedsOf h u = []) :
    closings h = pages.map .page := by
  obtain ⟨h₁, h₂, rfl, hclosed, -, hothers⟩ := hd
  have hnone : Run.closings h₂ = [] := by
    refine List.filterMap_eq_nil_iff.2 fun e he => ?_
    cases e with
    | act v deed =>
      refine hothers v deed he ?_
      rintro rfl
      exact List.ne_nil_of_mem (mem_deedsOf.2 (List.mem_append_right h₁ he)) hu
    | _ => rfl
  rw [Run.closings, List.filterMap_append, ← Run.closings, ← Run.closings, hnone, List.append_nil, hclosed]

/-- How a run has ended by the phase it is in. -/
theorem Phase.ending (hp : Phase P plan engine w h c) {r : Outcome Fault Yield} (hr : c.result? 0 = some r) :
    (∃ t, Chronicle m plan engine w h c t) ∧ ∃ launch pages, IsLaunch launch ∧ pages.Nodup ∧
      (NeverPooled h ∧ pages = [] ∨ WasShut P (Crew.single m w (.automation plan engine)) h c pages) ∧
      IsEnding plan h c launch pages r := by
  obtain ⟨x, hx, hxr⟩ := Option.bind_eq_some_iff.1 hr
  -- a close that is put off
  have hput : ∀ {t d u pages launch}, IsPutOff P plan engine w h c t d u pages launch →
      (closings h = pages.map .page ∨ IsDueSince h d u pages) →
      (∀ r, c.result? u = some r → closings h = pages.map .page ++ launch.reverse) →
      (∃ t, Chronicle m plan engine w h c t) ∧ ∃ launch pages, IsLaunch launch ∧ pages.Nodup ∧
        (NeverPooled h ∧ pages = [] ∨ WasShut P (Crew.single m w (.automation plan engine)) h c pages) ∧
        IsEnding plan h c launch pages r := by
    intro t d u pages launch hd hdue hend
    have hcomes := hd.comes x hx
    rw [hd.chronicle.ended x hx r hxr] at hcomes
    obtain rfl : r = .ok (.closing (some u)) := hcomes
    exact ⟨⟨t, hd.chronicle⟩, launch, pages, hd.launched, hd.distinct, .inr hd.shut,
      .putOff d u hd.deferral hd.closers hd.started hdue (hdue.elim (fun hc _ => hc) IsDueSince.closings) hend⟩
  cases hp with
  | alone t p ha hp =>
    obtain ⟨x', hx', hrest, hdone⟩ := ha.sole.member
    obtain rfl : x = x' := Option.some.inj (hx.symm.trans hx')
    obtain rfl := hdone r hxr
    rcases hp with hp | hp
    · cases hp with
      | done hc =>
        obtain ⟨hends, hlaunch, pages, hclosed, hdistinct, hpool⟩ := hc
        have hall : closings h = pages.map .page ++ t.opened.reverse := ha.chronicle.closed.trans hclosed
        refine ⟨⟨t, ha.chronicle⟩, t.opened, pages, hlaunch, hdistinct, ?_, ?_⟩
        · exact hpool.imp (And.imp_left ha.shelved.never) (ha.shelved.shut pages)
        · rcases hends with ⟨fault, rfl⟩ | ⟨hnow, rfl⟩
          · exact .failed fault ha.chronicle.opened hall ha.closers
          · exact .closed hnow ha.chronicle.opened hall ha.closers
    · rcases hp.asks with ⟨_, _, heq⟩ | ⟨_, _, heq, -⟩ <;> cases heq
  | working t q hw hq =>
    obtain ⟨_, _, _, _, _, _, hm, -⟩ := hw.reflects
    obtain ⟨x', _, hx', -, hgoes, -⟩ := hm.first
    obtain rfl : x = x' := Option.some.inj (hx.symm.trans hx')
    cases hgoes.symm.trans hxr
  | waiting t d u pages q hd hs hret ho hq =>
    refine hput hd (.inl (hd.chronicle.closed.trans hret.closed)) fun r' hr' => ?_
    obtain ⟨y, hy, -, hdone⟩ := hs.member
    rw [Crew.result?, hy] at hr'
    exact absurd (hdone r' hr') (Program.attempt_bind_ne_done closeUp_ne_done q r')
  | closing t d u pages launch p hd hs hdue hp =>
    refine hput hd (.inr hdue) fun r' hr' => ?_
    obtain ⟨y, hy, -, hdone⟩ := hs.member
    rw [Crew.result?, hy] at hr'
    obtain rfl := hdone r' hr'
    exact hd.chronicle.closed.trans hp.closed

/-- A run of an accepted plan, with any browser, in any order of its tasks, and as long as nobody
interrupts it, is over some time, if somebody moves as long as somebody can and no call never comes back.
It comes to what its startup and its steps come to: it fails as they have failed, with every page of the
pool closed once, when no other task was going on, and then whatever it had launched closed once; and if
all has gone well, the pages are closed in the same way, and what it had launched is closed now, or by one
task when the time has come. -/
theorem accepted_plan_closes_up {settings : Settings} {source : Option String} {v : Json}
    (hplan : Plan.ofJson settings source v = .ok plan) (P : Premises m) (w : W) (engine : String) :
    (∀ (run : Nat → Crew scene W) (events : Nat → Event scene),
      run 0 = Crew.single m w (.automation plan engine) →
      (∀ n, Crew.Step m IsOutside (run n) (events n) (run (n + 1))) → (∀ n, Event.IsCalm (events n)) →
      (∀ n, ¬ (run n).Hangs) →
      (∀ n, (run n).CanMove m IsOutside → ∃ k, n ≤ k ∧ (events k).IsMove) →
      ∃ n, ∀ k, n ≤ k → IsOver (run k)) ∧
    ∀ h c, Crew.Reaches m IsOutside (Crew.single m w (.automation plan engine)) h c →
      (∀ e ∈ h, Event.IsCalm e) →
      (c.Hangs ∨ c.CanMove m IsOutside ∨ IsOver c) ∧
      ∀ r, c.result? 0 = some r →
        (∃ ds es o, deedsOf h 0 = ds ++ es ∧ Program.Path (undertake plan engine) ds (.done o) ∧ match o with
          | .error e => r = .error e
          | .ok _ => ∃ closing, r = .ok (.closing closing)) ∧
        ∃ launch pages, IsLaunch launch ∧ pages.Nodup ∧
          (NeverPooled h ∧ pages = [] ∨ WasShut P (Crew.single m w (.automation plan engine)) h c pages) ∧
          IsEnding plan h c launch pages r := by
  have hsteps := (Plan.kept_of_ofJson hplan).1
  refine ⟨fun run events hfirst hstep hcalm hhangs hmoves =>
    exists_over P hsteps hfirst hstep hcalm hhangs hmoves, fun h c hreaches hcalm => ?_⟩
  have hp : Phase P plan engine w h c := .of_reaches hsteps hreaches hcalm
  refine ⟨hp.exists_move, fun r hr => ?_⟩
  obtain ⟨⟨t, ht⟩, hending⟩ := hp.ending hr
  refine ⟨?_, hending⟩
  obtain ⟨x, hx, hxr⟩ := Option.bind_eq_some_iff.1 hr
  have hpath := hreaches.path hx
  rw [P.program, ht.ended x hx r hxr] at hpath
  obtain ⟨ds, es, o, heq, hdone, hends⟩ := exists_undertake hpath ht.calm
  refine ⟨ds, es, o, heq, hdone, ?_⟩
  cases o with
  | error e => exact hends
  | ok a =>
    obtain ⟨s, hs, -⟩ := hends
    exact ⟨s, hs⟩

/-- A plan that looks for a number and leaves the browser open for a while, as a document. -/
def lingeringDocument : Json :=
  .obj [("url", .str "http://a/"), ("keepOpenAfter", .int 5), ("steps", .arr [
    .obj [("action", .str "scrape"), ("path", .str "prices.json"), ("data", .obj [
      ("price", .obj [("regex", .str "[0-9]+"), ("source", .str "text")])])]])]

/-- A run that has ended well and left the closing to the second task. -/
def leavesClosing : Option (Outcome Fault Yield) → Bool
  | some (.ok (.closing (some 1))) => true
  | _ => false

/-- The plan is carried out, and when the while is over what was launched is closed. -/
theorem accepted_plan_closes_up_lingering : ∃ plan h c launch, ∃ pages : List PageId,
    Plan.ofJson {} none lingeringDocument = .ok plan ∧
    Crew.Reaches machine IsOutside (Crew.single machine (World.ofSite {} ⟨[]⟩)
      (.automation plan "chromium")) h c ∧ (∀ e ∈ h, Event.IsCalm e) ∧
    c.result? 0 = some (.ok (.closing (some 1))) ∧ IsLaunch launch ∧
    closings h = pages.map .page ++ launch.reverse := by
  have hplay : (Plan.ofJson {} none lingeringDocument).toOption.any (fun plan =>
      (Crew.rehearse machine (List.replicate 41 0 ++ List.replicate 14 1)
        (Crew.single machine (World.ofSite {} ⟨[]⟩) (.automation plan "chromium"))).any fun x =>
          (x.1.all fun e => decide (Event.IsCalm e)) && (x.2.result? 1).isSome &&
            leavesClosing (x.2.result? 0)) = true := by
    decide +kernel
  cases hok : Plan.ofJson {} none lingeringDocument with
  | error =>
    rw [hok] at hplay
    cases hplay
  | ok plan =>
  rw [hok] at hplay
  obtain ⟨_, ⟨⟩, hplay⟩ := (Option.any_eq_true _ _).1 hplay
  obtain ⟨⟨h, c⟩, hrun, hended⟩ := (Option.any_eq_true _ _).1 hplay
  simp only [Bool.and_eq_true, List.all_eq_true, decide_eq_true_eq] at hended
  obtain ⟨⟨hcalm, hclosed⟩, hended⟩ := hended
  have hr : Crew.Reaches machine IsOutside (Crew.single machine (World.ofSite {} ⟨[]⟩)
      (.automation plan "chromium")) h c := Crew.reaches_of_rehearse .refl hrun
  have hend : c.result? 0 = some (.ok (.closing (some 1))) := by
    revert hended
    unfold leavesClosing
    split
    · exact fun _ => ‹_›
    · rintro ⟨⟩
  obtain ⟨r, hr₁⟩ := Option.isSome_iff_exists.1 hclosed
  obtain ⟨-, launch, pages, hlaunch, -, -, hending⟩ :=
    ((accepted_plan_closes_up hok World.premises (World.ofSite {} ⟨[]⟩) "chromium").2 h c hr hcalm).2 _ hend
  refine ⟨plan, h, c, launch, pages, rfl, hr, hcalm, hend, hlaunch, ?_⟩
  cases hending with
  | putOff d u hlater hone hstart hdue hidle hend => exact hend r hr₁

end BrowserPlan.Run
