import BrowserPlan.Run.Automation

/-!
# Where runs take place

What a run relies on in its world: that the pool of pages answers as a pool does and that nothing else
touches it, that the report keeps what it is told, and that every page that is opened is a new one.
About anything else a `Venue` is free: what the browser answers and how long it takes, which calls
fail, and what becomes of the files. The world of a run is one (`World.venue`).
-/
namespace BrowserPlan.Run

open BrowserPlan.Task BrowserPlan.Browser

/-- The report after a call. -/
def Report.noting (r : Report) : Call → Report
  | .executed action => { r with executed := r.executed.push action }
  | .produced path => { r with outputs := r.outputs.push path }
  | .branchFailed failure => { r with failures := r.failures.push failure }
  | _ => r

/-- Calls that have nothing to do with the pool. -/
def Call.sparesPool : Call → Bool
  | .pool _ | .openPool _ => false
  | _ => true

/-- A world in which runs can take place. -/
structure Venue {W : Type} (m : Machine scene W) where
  pool : W → Pool PageId
  report : W → Report
  /-- The pages that were ever opened. -/
  knows : W → PageId → Prop
  program : m.program = Run.program
  pool_asked : ∀ now w q, pool (m.perform now w (.pool q)).1 = ((pool w).perform q).1
  pool_answers : ∀ now w q, (m.perform now w (.pool q)).2 =
    (((pool w).perform q).2.1, World.raised (((pool w).perform q).2.2.map .granted))
  pool_spared : ∀ now w q, Call.sparesPool q = true → pool (m.perform now w q).1 = pool w
  nothing_granted : ∀ now w q, Call.sparesPool q = true → ∀ k r,
    (Signal.granted k, r) ∉ (m.perform now w q).2.2
  pool_forsaken : ∀ w k, pool (m.forsake w (.granted k)) = (pool w).forsake k
  reported : ∀ now w q, report (m.perform now w q).1 = (report w).noting q
  report_forsaken : ∀ w s, report (m.forsake w s) = report w
  knows_more : ∀ now w q p, knows w p → knows (m.perform now w q).1 p
  knows_forsaken : ∀ w s p, knows w p → knows (m.forsake w s) p
  opened : ∀ now w who landing p, (m.perform now w (.complete who landing .newPage)).2.1 = .ok p →
    ¬ knows w p ∧ knows (m.perform now w (.complete who landing .newPage)).1 p

end BrowserPlan.Run

namespace BrowserPlan.Browser.State

/-- No call takes a page away. -/
theorem size_pages_complete (s : State) (who : Party) (landing : Option String) (op : Operation) :
    s.pages.size ≤ (s.complete who landing op).1.pages.size := by
  have hadjust : ∀ f : Page → Page, (s.adjust who f).pages.size = s.pages.size := by
    intro f
    cases who <;> simp [adjust]
  have hlead : (s.lead who landing).pages.size = s.pages.size := by
    cases landing with
    | none => rfl
    | some url => exact hadjust _
  cases op with
  | newPage => simp [complete, addPage]
  | close => cases who <;> exact Nat.le_refl _
  | on event => cases who <;> exact Nat.le_refl _
  | goto url waitUntil timeout => exact Nat.le_of_eq (hadjust _).symm
  | back | forward => exact Nat.le_of_eq (hadjust _).symm
  | click | type | waitForEvent => exact Nat.le_of_eq hlead.symm
  | screenshot path fullPage =>
    rw [complete]
    split <;> exact Nat.le_refl _
  | evaluate script => cases script <;> exact Nat.le_refl _
  | awaitHalf half => cases half <;> exact Nat.le_refl _
  | _ => exact Nat.le_refl _

theorem pages_begin (s : State) (now : Nat) (who : Party) (op : Operation) :
    (s.begin now who op).1.pages = s.pages := by
  cases who with
  | element | document => rfl
  | _ =>
    unfold State.begin
    dsimp only
    split <;> rfl

theorem pages_goAway (s : State) (now : Nat) : (s.goAway now).1.pages = s.pages := by
  rw [goAway]
  split <;> rfl

end BrowserPlan.Browser.State

namespace BrowserPlan.Run.World

open BrowserPlan.Task BrowserPlan.Browser

/-- How many pages were ever opened. -/
def pageCount (w : World) : Nat := w.browser.pages.size

theorem pageCount_perform (now : Nat) (w : World) (q : Call) :
    w.pageCount ≤ (w.perform now q).1.pageCount := by
  cases q with
  | «begin» who op => exact Nat.le_of_eq (congrArg Array.size (State.pages_begin w.browser now who op)).symm
  | complete who landing op => exact State.size_pages_complete w.browser who landing op
  | goAway => exact Nat.le_of_eq (congrArg Array.size (State.pages_goAway w.browser now)).symm
  | openPool limit =>
    rw [perform]
    split <;> exact Nat.le_refl _
  | ensureParent path =>
    rw [perform]
    split <;> exact Nat.le_refl _
  | writeRecords path data =>
    rw [perform]
    split <;> exact Nat.le_refl _
  | _ => exact Nat.le_refl _

/-- The world of a run is a venue. -/
def venue : Venue machine where
  pool := World.pool
  report := World.report
  knows w p := p < w.pageCount
  program := rfl
  pool_asked _ _ _ := rfl
  pool_answers _ _ _ := rfl
  pool_spared now w q hq := by
    cases q with
    | pool => cases hq
    | openPool => cases hq
    | ensureParent path =>
      change (w.perform now (.ensureParent path)).1.pool = w.pool
      rw [perform]
      split <;> rfl
    | writeRecords path data =>
      change (w.perform now (.writeRecords path data)).1.pool = w.pool
      rw [perform]
      split <;> rfl
    | _ => rfl
  nothing_granted now w q hq k r := by
    cases q with
    | pool => cases hq
    | openPool => cases hq
    | goAway =>
      change (Signal.granted k, r) ∉ raised ((w.browser.goAway now).2.map .gone)
      simp [raised]
    | ensureParent path =>
      change (Signal.granted k, r) ∉ (w.perform now (.ensureParent path)).2.2
      rw [perform]
      split <;> simp
    | writeRecords path data =>
      change (Signal.granted k, r) ∉ (w.perform now (.writeRecords path data)).2.2
      rw [perform]
      split <;> simp
    | _ => exact List.not_mem_nil
  pool_forsaken _ _ := rfl
  reported now w q := by
    cases q with
    | openPool limit =>
      change (w.perform now (.openPool limit)).1.report = w.report
      rw [perform]
      split <;> rfl
    | ensureParent path =>
      change (w.perform now (.ensureParent path)).1.report = w.report
      rw [perform]
      split <;> rfl
    | writeRecords path data =>
      change (w.perform now (.writeRecords path data)).1.report = w.report
      rw [perform]
      split <;> rfl
    | _ => rfl
  report_forsaken w s := by cases s <;> rfl
  knows_more now w q p hp := Nat.lt_of_lt_of_le hp (pageCount_perform now w q)
  knows_forsaken w s p hp := by cases s <;> exact hp
  opened now w who landing p hp := by
    have hpage : (w.browser.complete who landing .newPage).2 = .ok w.pageCount := rfl
    obtain rfl : w.pageCount = p := Except.ok.inj (hpage.symm.trans hp)
    refine ⟨Nat.lt_irrefl _, ?_⟩
    change w.pageCount < (w.browser.complete who landing .newPage).1.pages.size
    simp [State.complete, State.addPage, pageCount]

end BrowserPlan.Run.World
