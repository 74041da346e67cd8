import BrowserPlan.Proofs.Pool.Capacity

/-!
# Who waits, and for what

`Busy` is the invariant of an open pool: as long as somebody who has not given up is in the queue,
the shelf is empty and no room is free. Whatever frees a page or room passes it on to the queue
first, so nobody waits for what could be had (`no_lost_wakeup`).
-/
namespace BrowserPlan.Pool

variable {π : Type} [DecidableEq π]

/-- Somebody waits who has not given up. -/
def HasWaiter (ws : List PoolWaiter) : Prop := ∃ w ∈ ws, w.isCancelled = false

/-- While somebody waits, no page is idle and no room is free. -/
def Busy (p : Pool π) : Prop := HasWaiter p.waiters → p.available = [] ∧ p.total = p.maxPages

theorem HasWaiter.mono {ws vs : List PoolWaiter} (hsub : ∀ w ∈ vs, w ∈ ws) (h : HasWaiter vs) :
    HasWaiter ws := by
  obtain ⟨w, hw, hc⟩ := h
  exact ⟨w, hsub w hw, hc⟩

theorem hasWaiter_of_nextWaiter? {ws rest : List PoolWaiter} {k : Nat}
    (h : nextWaiter? ws = some (k, rest)) : HasWaiter ws := by
  obtain ⟨gone, rfl, -⟩ := nextWaiter?_eq_some h
  exact ⟨⟨k, false⟩, by simp, rfl⟩

namespace Busy

variable {p : Pool π} {page : π} {k : Nat}

/-! ## One lemma for each operation -/

omit [DecidableEq π] in
theorem of_waiters_nil (h : p.waiters = []) : Busy p := by
  rintro ⟨w, hw, -⟩
  simp [h] at hw

theorem acquire (hwithin : p.total ≤ p.maxPages) (h : Busy p) : Busy p.acquire.1 := by
  rcases acquire_cases p with ⟨-, heq⟩ | ⟨-, q, rest, ha, heq⟩ | ⟨-, ha, hroom, heq⟩ |
    ⟨-, ha, hroom, heq⟩
  · rw [heq]
    exact h
  · rw [heq]
    intro hw
    have hnil := (h hw).1
    rw [ha] at hnil
    cases hnil
  · rw [heq]
    intro hw
    exact absurd (h hw).2 (Int.ne_of_lt hroom)
  · rw [heq]
    exact fun _ => ⟨ha, Int.le_antisymm hwithin (Int.not_lt.1 hroom)⟩

/-- A page that comes back is passed on while somebody waits. -/
theorem release (h : Busy p) : Busy (p.release page).1 := by
  rcases release_cases p page with ⟨heq, -⟩ | ⟨-, -, ⟨k, rest, hw, heq⟩ | ⟨-, heq⟩⟩
  · exact heq.symm ▸ h
  · rw [heq]
    intro _
    have hbusy := h (hasWaiter_of_nextWaiter? hw)
    exact ⟨hbusy.1, by simpa [handOn, adjust, total] using hbusy.2⟩
  · rw [heq]
    exact of_waiters_nil rfl

omit [DecidableEq π] in
/-- Room that is given up is passed on while somebody waits. -/
theorem yieldRoom (h : Busy p) : Busy p.yieldRoom.1 := by
  rw [Pool.yieldRoom]
  rcases grantRoom_cases { p with creating := p.creating - 1 } with ⟨k, rest, hw, heq⟩ | ⟨-, heq⟩
  · rw [heq]
    intro _
    have hbusy := h (hasWaiter_of_nextWaiter? hw)
    exact ⟨hbusy.1, by simpa [total] using hbusy.2⟩
  · rw [heq]
    exact of_waiters_nil rfl

omit [DecidableEq π] in
theorem redeem (hopen : p.isClosed = false) (h : Busy p) : Busy (p.redeem k).1 := by
  unfold Pool.redeem
  split
  · exact h
  · rw [if_neg (by simp [hopen])]
    exact h
  · exact h
  · exact h

omit [DecidableEq π] in
theorem forsake (h : Busy p) : Busy (p.forsake k) := by
  rintro ⟨w', hw', hc⟩
  obtain ⟨w, hw, rfl⟩ := List.mem_map.1 hw'
  refine h ⟨w, hw, ?_⟩
  by_cases hk : w.ticket = k
  · simp [hk] at hc
  · simpa [hk] using hc

omit [DecidableEq π] in
theorem withdraw (h : Busy p) : Busy (p.withdraw k) := fun hw =>
  h (hw.mono fun _ hmem => List.mem_of_mem_filter hmem)

theorem renounce (h : Busy p) : Busy (p.renounce k).1 := by
  cases hx : p.handout? k with
  | none =>
    rw [renounce_none hx]
    exact h.withdraw
  | some x =>
    cases x with
    | page q =>
      rw [renounce_page hx]
      exact h.withdraw.release
    | room =>
      rw [renounce_room hx]
      exact h.withdraw.yieldRoom
    | refused =>
      rw [renounce_refused hx]
      exact h.withdraw

/-- A page takes the room that was kept for it. -/
theorem created (hp : page ∉ p.entries.map (·.page)) (h : Busy p) : Busy (p.created page) := by
  rw [created_eq hp]
  intro hw
  refine ⟨(h hw).1, ?_⟩
  rw [← (h hw).2]
  simp only [total, List.length_append, List.length_singleton]
  omega

end Busy

/-- A pool stays busy while somebody waits, unless it is closed. -/
theorem stable_busy : Stable (π := π) (· ≠ .closing)
    (fun p ss => Accounts p ss ∧ p.isClosed = false ∧ Busy p) where
  perm hp h := ⟨h.1.perm hp, h.2⟩
  join h := ⟨h.1.nothing, h.2⟩
  move := by
    intro m p s q t ss hA hm ⟨hacc, hopen, h⟩
    refine ⟨stable_accounts.move trivial hm hacc, (hm.frame.2 hA).trans hopen, ?_⟩
    cases hm with
    | acquire => exact h.acquire hacc.within
    | redeem => exact h.redeem hopen
    | tell => exact h.forsake
    | renounce => exact h.renounce
    | created p page fresh => exact h.created fresh
    | notCreated => exact h.yieldRoom
    | bringBack => exact h.release
    | release => exact h.release
    | shut | clear => exact absurd rfl hA

namespace Crowd

/-- The `i`-th caller waits for its ticket to be granted something, and was not told to give up. -/
def Pending (c : State π) (i : Nat) : Prop :=
  ∃ x k, c.callers[i]? = some x ∧ x.stake = .ticket k false ∧ c.pool.handout? k = none

section
omit [DecidableEq π]
variable {c : State π}

/-- Those who wait in the queue and have not given up are the callers whose tickets are pending. -/
theorem hasWaiter_iff_pending (h : Accounts c.pool (stakes c)) :
    HasWaiter c.pool.waiters ↔ ∃ i, Pending c i := by
  constructor
  · rintro ⟨w, hw, hc⟩
    obtain ⟨i, x, hx, hs⟩ := mem_tickets.1 (h.ticketed.queued w hw)
    refine ⟨i, x, w.ticket, hx, hc ▸ hs, handout?_eq_none_iff.2 fun g hg heq => ?_⟩
    exact h.ticketed.apart g hg w hw heq.symm
  · rintro ⟨i, x, k, hx, hs, hk⟩
    have hmem : (k, false) ∈ tickets (stakes c) := mem_tickets.2 ⟨i, x, hx, hs⟩
    rcases h.ticketed.served k hmem with ⟨w, hw, rfl⟩ | ⟨g, hg, rfl⟩
    · exact ⟨w, hw, h.ticketed.unique (h.ticketed.queued w hw) hmem⟩
    · exact absurd rfl (handout?_eq_none_iff.1 hk g hg)

theorem waiting_pos_iff {p : Pool π} : 0 < p.stats.waiting ↔ HasWaiter p.waiters := by
  simp [stats, HasWaiter, List.length_pos_iff_exists_mem]

end

/-- As long as nobody closes the pool, a caller waits only while no page is idle and no room is
free; so nobody waits when all pages have been brought back and no room is kept for one. -/
theorem no_lost_wakeup {limit : Int} {es : List (Event π)} {c : State π}
    (hes : ∀ e ∈ es, e.manner ≠ .closing) (hc : after limit es = some c) :
    (0 < c.pool.stats.waiting ↔ ∃ i, Pending c i) ∧
    ((∃ i, Pending c i) →
      c.pool.available = [] ∧ c.pool.entries.length + c.pool.creating = limit) ∧
    ((∀ e ∈ c.pool.entries, e.inUse = false) → c.pool.creating = 0 → ∀ i, ¬ Pending c i) := by
  obtain ⟨⟨hacc, -, hbusy⟩, hmax⟩ := after_keeps
    (stable_busy.and ((stable_limit limit.toNat).mono fun _ _ => trivial)) (by decide) hes
    ⟨⟨accounts_empty _, rfl, Busy.of_waiters_nil rfl⟩, rfl⟩ hc
  have hpos := (after_eq_some hc).1
  have hfull : (∃ i, Pending c i) →
      c.pool.available = [] ∧ c.pool.entries.length + c.pool.creating = limit := by
    intro hi
    obtain ⟨hnil, htotal⟩ := hbusy ((hasWaiter_iff_pending hacc).2 hi)
    rw [total, hmax] at htotal
    exact ⟨hnil, by omega⟩
  refine ⟨waiting_pos_iff.trans (hasWaiter_iff_pending hacc), hfull, fun hidle hnone i hi => ?_⟩
  obtain ⟨hnil, htotal⟩ := hfull ⟨i, hi⟩
  -- every page is idle, so every page is on the shelf, which is empty
  have hlent : lentPages c.pool.entries = [] := by
    rw [lentPages, List.filter_eq_nil_iff.2 fun e he => by simp [hidle e he], List.map_nil]
  have hlen := length_idle_add_lent c.pool.entries
  rw [← hacc.shelved.length_eq, hnil, hlent] at hlen
  simp only [List.length_nil] at hlen
  omega

/-- The only page is lent, and a second caller waits for it. -/
def oneWaits : List (Event Nat) := [.enter .acquire, .make 0 (.ok 7), .enter .lease]

theorem no_lost_wakeup_oneWaits : ∃ c, after 1 oneWaits = some c ∧ Pending c 1 ∧
    (0 < c.pool.stats.waiting ↔ ∃ i, Pending c i) ∧
    ((∃ i, Pending c i) →
      c.pool.available = [] ∧ c.pool.entries.length + c.pool.creating = (1 : Int)) ∧
    ((∀ e ∈ c.pool.entries, e.inUse = false) → c.pool.creating = 0 → ∀ i, ¬ Pending c i) :=
  ⟨_, rfl, ⟨_, 0, rfl, rfl, rfl⟩,
    no_lost_wakeup (by decide : ∀ e ∈ oneWaits, e.manner ≠ .closing)
      (rfl : after 1 oneWaits = some _)⟩

end Crowd
end BrowserPlan.Pool
