import BrowserPlan.Proofs.Run.Venue

/-!
# Where whole runs take place

A run that launches its own browser relies on more than one that is given a page: that the session it
reads is the one that was set, that a new pool is opened when it asks for one, and that who wants to be
told of the browser's end is told of it and of nothing else. `Premises` says so; the world of a run has
them (`World.premises`).
-/
namespace BrowserPlan.Run

open BrowserPlan.Task BrowserPlan.Browser

/-- A course that a call takes when it only notes something: it neither waits nor fails. -/
def Course.IsImmediate (course : Course) : Prop :=
  holdUp course = none ∧ course.interrupts = false ∧ course.fault = none

/-- A venue in which whole runs can take place. -/
structure Premises {W : Type} (m : Machine scene W) extends Venue m where
  session : W → Session
  session_answered : ∀ now w, (m.perform now w .session).2.1 = session w
  session_set : ∀ now w s, session (m.perform now w (.setSession s)).1 = s
  session_kept : ∀ now w q, (∀ s, q ≠ .setSession s) → session (m.perform now w q).1 = session w
  session_forsaken : ∀ w s, session (m.forsake w s) = session w
  pool_opened : ∀ now w limit p, Pool.ofLimit limit = .ok p →
    pool (m.perform now w (.openPool limit)).1 = p ∧ (m.perform now w (.openPool limit)).2 = (none, [])
  pool_refused : ∀ now w limit fault, Pool.ofLimit (π := PageId) limit = .error fault →
    pool (m.perform now w (.openPool limit)).1 = pool w ∧
      (m.perform now w (.openPool limit)).2 = (some fault, [])
  /-- Only when the browser goes away is anybody told that it has gone. -/
  gone : ∀ now w q l r, (Signal.gone l, r) ∈ (m.perform now w q).2.2 → q = .goAway ∧ r = .ok ()
  /-- Asking to be told of an event only notes the wish. -/
  listens : ∀ now w b event,
    Course.IsImmediate (m.perform now w (.begin (.browser b) (.on event))).2.1
  listened : ∀ now w b landing event,
    ∃ l, (m.perform now w (.complete (.browser b) landing (.on event))).2.1 = .ok l

namespace World

theorem session_perform (now : Nat) (w : World) (q : Call) (hq : ∀ s, q ≠ .setSession s) :
    (w.perform now q).1.session = w.session := by
  cases q with
  | setSession s => exact absurd rfl (hq s)
  | openPool | ensureParent | writeRecords =>
    rw [perform]
    split <;> rfl
  | _ => rfl

/-- Who is told that the browser has gone is told when it goes away. -/
theorem gone_perform (now : Nat) (w : World) (q : Call) (l : Nat) (r : Outcome Fault Unit)
    (h : (Signal.gone l, r) ∈ (w.perform now q).2.2) : q = .goAway ∧ r = .ok () := by
  have hraised : ∀ {signals : List Signal}, (Signal.gone l, r) ∈ raised signals →
      Signal.gone l ∈ signals ∧ r = .ok () := by
    intro signals hin
    obtain ⟨s, hs, heq⟩ := List.mem_map.1 hin
    simp only [Prod.mk.injEq] at heq
    obtain ⟨rfl, rfl⟩ := heq
    exact ⟨hs, rfl⟩
  cases q with
  | goAway => exact ⟨rfl, (hraised h).2⟩
  | pool q =>
    have hin := (hraised h).1
    simp at hin
  | openPool limit =>
    rw [perform] at h
    split at h <;> cases h
  | ensureParent path =>
    rw [perform] at h
    split at h <;> cases h
  | writeRecords path data =>
    rw [perform] at h
    split at h <;> cases h
  | _ => cases h

/-- The world of a run is one in which whole runs can take place. -/
def premises : Premises machine where
  toVenue := World.venue
  session := World.session
  session_answered _ _ := rfl
  session_set _ _ _ := rfl
  session_kept := session_perform
  session_forsaken w s := by cases s <;> rfl
  pool_opened now w limit p hp := by
    change (w.perform now (.openPool limit)).1.pool = p ∧ (w.perform now (.openPool limit)).2 = (none, [])
    rw [perform, hp]
    exact ⟨rfl, rfl⟩
  pool_refused now w limit fault hp := by
    change (w.perform now (.openPool limit)).1.pool = w.pool ∧
      (w.perform now (.openPool limit)).2 = (some fault, [])
    rw [perform, hp]
    exact ⟨rfl, rfl⟩
  gone := gone_perform
  listens _ _ _ _ := ⟨rfl, rfl, rfl⟩
  listened now w b landing event := ⟨w.browser.listenerCount, rfl⟩

end World
end BrowserPlan.Run
