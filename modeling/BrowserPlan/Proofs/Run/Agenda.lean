import BrowserPlan.Proofs.Run.Tally

/-!
# The course of a whole run

A run starts up, carries out the steps of its plan, closes the pool, and then closes the session or starts
a task that does so later. What it does alone, before the steps and after them, it does by its tally
(`tallies_automation`, `tallies_windUp`).
-/
namespace BrowserPlan.Run

open BrowserPlan.Task BrowserPlan.Browser

variable {plan : Plan} {engine : String} {t : Tally}

/-! ## Parts -/

/-- The session that a run sets up. -/
def Plan.session (plan : Plan) (engine : String) : Except Fault Session :=
  Session.ofOptions plan.headless engine (plan.defaultTimeout.map .float)
    (plan.defaultNavigationTimeout.map .float)

theorem Plan.session_fresh {s : Session} (h : Plan.session plan engine = .ok s) :
    s.isClosed = false ∧ s.browser = none ∧ s.isLauncherStarted = false := by
  rw [Plan.session, Session.ofOptions] at h
  split at h <;> cases h
  exact ⟨rfl, rfl, rfl⟩

/-- Startup and the steps of the plan: the part of a run that can fail. -/
def undertake (plan : Plan) (engine : String) : Program scene Unit := do
  ask (.setSession (← settleFor id (Plan.session plan engine)))
  perform plan (← openUp plan)

/-- What is left of a run when the pool is closed and all has gone well. -/
def wrapUp (plan : Plan) : Program scene Yield := do
  match ← scheduleClose (Deferral.of? plan.keepOpenAfter) with
  | none =>
    Session.close
    sayDone
    return .closing none
  | some u =>
    sayDone
    return .closing (some u)

/-- What is left of a run whose steps have ended with `r`. -/
def windUp (plan : Plan) (r : Outcome Fault Unit) : Program scene Yield :=
  Program.bind (I := scene) closePages fun _ =>
    match r with
    | .error s => giveUp s
    | .ok _ => wrapUp plan

theorem windUp_ne_done (o : Outcome Fault Unit) (r : Outcome Fault Yield) : windUp plan o ≠ .done r := by
  change Program.call (I := scene) (.pool .shut) _ ≠ _
  nofun

/-- What is left of a run when it has started up, or has failed to. -/
def proceedWith (plan : Plan) : Outcome Fault PageId → Program scene Yield
  | .error s => giveUp s
  | .ok page => Program.bind (I := scene) (perform plan page).attempt (windUp plan)

theorem giveUp_bind {α β : Type} (s : Stop Fault) (f : α → Program scene β) :
    (giveUp s).bind f = giveUp s := Program.bind_assoc ..

theorem wrapUp_eq : wrapUp plan = Program.bind (I := scene) (do
    let closing ← scheduleClose (Deferral.of? plan.keepOpenAfter)
    if closing.isNone then Session.close
    sayDone
    return closing) fun closing => .done (.ok (.closing closing)) := by
  have hsay : ∀ closing : Option TaskId, Program.bind (I := scene)
      (sayDone.bind fun _ => .done (.ok closing)) (fun x => .done (.ok (Yield.closing x))) =
        sayDone.bind fun _ => .done (.ok (Yield.closing closing)) :=
    fun closing => Program.bind_assoc sayDone _ _
  refine Eq.trans ?_ (Program.bind_assoc ..).symm
  refine congrArg (Program.bind (I := scene) _) (funext fun closing => ?_)
  cases closing with
  | none =>
    refine Eq.trans ?_ (Program.bind_assoc Session.close _ _).symm
    exact congrArg (Program.bind (I := scene) Session.close) (funext fun _ => (hsay none).symm)
  | some u => exact (hsay (some u)).symm

theorem program_automation : program (.automation plan engine) =
    Program.bind (I := scene) (settleFor id (Plan.session plan engine)) fun s =>
      (ask (.setSession s)).bind fun _ =>
        Program.bind (I := scene) (openUp plan).attempt (proceedWith plan) := by
  change Program.bind (I := scene) (automation plan engine) _ = _
  refine (Program.bind_assoc ..).trans (congrArg _ (funext fun s => ?_))
  refine (Program.bind_assoc ..).trans (congrArg _ (funext fun _ => ?_))
  refine (Program.bind_assoc ..).trans ?_
  refine (congrArg (Program.bind _) (funext fun _ => wrapUp_eq.symm)).trans ?_
  refine (Program.bind_assoc ..).trans (congrArg _ (funext fun r => ?_))
  cases r with
  | error s => exact giveUp_bind s _
  | ok page =>
    refine (Program.bind_assoc ..).trans (congrArg _ (funext fun r => ?_))
    refine (Program.bind_assoc ..).trans (congrArg _ (funext fun _ => ?_))
    cases r with
    | error s => exact giveUp_bind s _
    | ok u => rfl

/-! ## Where others come in -/

/-- What a launcher can have brought about. -/
def IsLaunch (l : List Resource) : Prop :=
  l = [] ∨ l = [.launcher] ∨ ∃ b, l = [.launcher, .browser b]

/-- A run has ended with `r`, and all that it had opened is closed. -/
structure Concluded (plan : Plan) (t : Tally) (r : Outcome Fault Yield) : Prop where
  ends : (∃ fault, r = .error (.failed fault)) ∨
    Deferral.of? plan.keepOpenAfter = none ∧ r = .ok (.closing none)
  launched : IsLaunch t.opened
  closed : ∃ pages : List PageId, t.closed = pages.map .page ++ t.opened.reverse ∧ pages.Nodup ∧
    (t.hasPool = false ∧ pages = [] ∨ t.shut = some pages)

/-- A run is done but for its session; `pages` were in its pool. -/
structure Retained (t : Tally) (pages : List PageId) : Prop where
  isOpen : t.session.isClosed = false
  browser : t.session.browser.isSome = true
  resources : t.session.resources = t.opened.reverse
  launched : IsLaunch t.opened
  closed : t.closed = pages.map .page
  shut : t.shut = some pages
  distinct : pages.Nodup

/-- What a run does alone leads to its end or to the start of the task that closes its session later. -/
inductive Pending (plan : Plan) (t : Tally) : Program scene Yield → Prop
  | done {r} (h : Concluded plan t r) : Pending plan t (.done r)
  | defer {d pages} (hd : Deferral.of? plan.keepOpenAfter = some d) (h : Retained t pages) :
    Pending plan t (.fork (.close d) fun u => sayDone.bind fun _ => .done (.ok (.closing (some u))))

/-- A run is ready for its steps. -/
structure Equipped (plan : Plan) (page : PageId) (t : Tally) : Prop where
  ready : t.IsReady
  browser : t.session.browser.isSome = true
  hasPool : t.hasPool = true
  made : page ∈ t.made
  limit : 1 ≤ plan.maxPages
  pool : t.pool = { maxPages := plan.maxPages.toNat }

/-- What a run of `n` tasks does alone leads to its steps if there is but one task, or past them. -/
inductive Handover (plan : Plan) (n : Nat) (t : Tally) : Program scene Yield → Prop
  | pending {p} (h : Pending plan t p) : Handover plan n t p
  | steps {page} (hn : n = 1) (h : Equipped plan page t) : Handover plan n t
    (Program.bind (I := scene) (runSteps page .root plan.steps).attempt (windUp plan))

theorem Tally.IsReady.isLaunch (ht : t.IsReady) : IsLaunch t.opened := by
  obtain ⟨-, hres, hlaunched, -⟩ := ht
  rw [← List.reverse_reverse t.opened, ← hres, Session.resources]
  cases hb : t.session.browser with
  | none => cases t.session.isLauncherStarted <;> simp [IsLaunch]
  | some b => simp [IsLaunch, hlaunched (by rw [hb]; rfl)]

/-! ## After the steps -/

theorem tallies_sayDone {Q : Tally → Outcome Fault Unit → Prop} (h : Q t (.ok ())) :
    Program.Tallies Q sayDone t := by
  refine Tallies.bind (tallies_ask fun r _ => ?_)
  have hsame : t.asked .report r = t := by
    simp [Tally.asked, Deed.opened?, Deed.closing?, Deed.page?]
  rw [hsame]
  exact tallies_say h

/-- When all that was opened is closed, the run has ended. -/
theorem tallies_giveUp_pending (ht : t.session.isClosed = false)
    (hres : t.session.resources = t.opened.reverse) (hlaunch : IsLaunch t.opened) {pages : List PageId}
    (hclosed : t.closed = pages.map .page) (hdistinct : pages.Nodup)
    (hpages : t.hasPool = false ∧ pages = [] ∨ t.shut = some pages) (fault : Fault) :
    Program.TalliesUntil (Pending plan) (giveUp (.failed fault)) t := by
  refine TalliesUntil.ends (Tallies.weaken ?_ (tallies_giveUp ht (.failed fault)))
  rintro t' r ⟨⟨hclosed', hopened, hshut, hpool⟩, rfl⟩
  refine .done ⟨.inl ⟨fault, rfl⟩, hopened ▸ hlaunch, pages, ?_, hdistinct, ?_⟩
  · rw [hclosed', hclosed, hres, hopened]
  · rw [hpool, hshut]
    exact hpages

/-- When the steps have ended, the pool is closed, and then the session now or later. The session is as
it was when the run was ready for its steps, at the tally `t₀`. -/
theorem tallies_windUp {t₀ : Tally} (ht : t₀.IsReady) (hb : t₀.session.browser.isSome = true)
    (hs : t.session = t₀.session) (ho : t.opened = t₀.opened) (hc : t.closed = t₀.closed)
    (hdistinct : (pagesOf t.pool).Nodup) {r : Outcome Fault Unit} (hr : IsCalm r) :
    Program.TalliesUntil (Pending plan) (windUp plan r) t := by
  refine TalliesUntil.bind (Tallies.weaken ?_ tallies_closePages)
  rintro t' _ ⟨hclosed, hopened, hshut, hsession, hpool, rfl⟩
  rw [hc, ht.closed, List.nil_append] at hclosed
  rw [hs] at hsession
  rw [ho] at hopened
  have hopen : t'.session.isClosed = false := hsession ▸ ht.isOpen
  have hres : t'.session.resources = t'.opened.reverse := by rw [hsession, hopened, ht.resources]
  have hlaunch : IsLaunch t'.opened := hopened ▸ ht.isLaunch
  match r with
  | .error (.failed fault) =>
    exact tallies_giveUp_pending hopen hres hlaunch hclosed hdistinct (.inr hshut) fault
  | .ok () =>
    change Program.TalliesUntil (Pending plan) (wrapUp plan) t'
    rw [wrapUp]
    cases hd : Deferral.of? plan.keepOpenAfter with
    | none =>
      change Program.TalliesUntil (Pending plan) (Session.close.bind fun _ => sayDone.bind fun _ =>
        .done (.ok (Yield.closing none))) t'
      refine TalliesUntil.bind (Tallies.weaken ?_ (tallies_close hopen))
      rintro t'' _ ⟨⟨hclosed', hopened', hshut', hpool'⟩, rfl⟩
      refine TalliesUntil.bind (q := sayDone) (tallies_sayDone (Pending.done ⟨.inr ⟨hd, rfl⟩, hopened' ▸ hlaunch, _, ?_,
        hdistinct, .inr (hshut'.trans hshut)⟩))
      rw [hclosed', hclosed, hres, hopened']
    | some d =>
      refine TalliesUntil.bind (t := t') (q := say .info .runner d.message) (tallies_say ?_)
      exact TalliesUntil.now (.defer hd
        ⟨hopen, hsession ▸ hb, hres, hlaunch, hclosed, hshut, hdistinct⟩)

/-! ## Before the steps -/

/-- Goes to the start address. -/
def visit (plan : Plan) (page : PageId) : Program scene Unit := do
  say .info .runner ("Opening " ++ plan.url)
  invoke (.page page) (.goto plan.url none none)

theorem perform_eq (page : PageId) :
    perform plan page = (visit plan page).bind fun _ => runSteps page .root plan.steps :=
  (Program.bind_assoc ..).symm

/-- A run that has started up goes to its start address and comes to its steps. -/
theorem tallies_proceedWith {r : Outcome Fault PageId} (ht : OpenedUp plan.maxPages t r) :
    Program.TalliesUntil (Handover plan 1) (proceedWith plan r) t := by
  obtain ⟨hready, hcalm, hpool, hwell⟩ := ht
  match r with
  | .error (.failed fault) =>
    have hnone : t.hasPool = false := by
      cases hp : t.hasPool with
      | false => rfl
      | true =>
        obtain ⟨page, hpage⟩ := hpool.1 hp
        cases hpage
    have hclosed : t.closed = ([] : List PageId).map .page := hready.closed
    exact TalliesUntil.mono (fun _ _ => .pending) (tallies_giveUp_pending hready.isOpen
      hready.resources hready.isLaunch hclosed .nil (.inl ⟨hnone, rfl⟩) fault)
  | .ok page =>
    obtain ⟨hbrowser, hmade, hlimit, hp⟩ := hwell page rfl
    have hequipped : Equipped plan page t :=
      ⟨hready, hbrowser, hpool.2 ⟨page, rfl⟩, hmade, hlimit, hp⟩
    rw [proceedWith, perform_eq, Program.attempt_bind, Program.bind_assoc]
    refine TalliesUntil.bind (Tallies.attempt (Tallies.bind (tallies_say (tallies_call rfl
      (fun _ _ => rfl) (fun _ _ => rfl) fun r hr => ?_))))
    match r with
    | .ok () => exact TalliesUntil.now (.steps rfl hequipped)
    | .error (.failed fault) =>
      refine TalliesUntil.mono (fun _ _ => .pending)
        (tallies_windUp (r := .error (.failed fault)) hready hbrowser rfl rfl rfl ?_ trivial)
      rw [hp]
      exact .nil

/-- A run keeps tally until it comes to its steps, or to its end. -/
theorem tallies_automation (hopened : t.opened = []) (hclosed : t.closed = []) (htold : t.told = [])
    (hshut : t.shut = none) (hpool : t.hasPool = false) :
    Program.TalliesUntil (Handover plan 1) (program (.automation plan engine)) t := by
  rw [program_automation]
  refine TalliesUntil.bind (tallies_settleFor (fun s hs => ?_) fun fault => ?_)
  · change Program.TalliesUntil (Handover plan 1) ((ask (.setSession s)).bind fun _ =>
      Program.bind (I := scene) (openUp plan).attempt (proceedWith plan)) t
    refine TalliesUntil.bind (tallies_ask fun _ _ => ?_)
    obtain ⟨hopen, hbrowser, hlauncher⟩ := Plan.session_fresh hs
    refine TalliesUntil.bind (q := (openUp plan).attempt) (Tallies.attempt (Tallies.weaken
      (fun t r hr => tallies_proceedWith hr) (tallies_openUp (t := { t with session := s }) ?_ hbrowser hlauncher hpool)))
    refine ⟨hopen, ?_, ?_, hclosed, htold, hshut⟩
    · simp [Session.resources, hbrowser, hlauncher, hopened]
    · simp [hbrowser]
  · refine .pending (.done ⟨.inl ⟨fault, rfl⟩, .inl hopened, [], ?_, .nil, .inl ⟨hpool, rfl⟩⟩)
    rw [hclosed, hopened]
    rfl

end BrowserPlan.Run
