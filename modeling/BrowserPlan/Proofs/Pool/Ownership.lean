import BrowserPlan.Proofs.Pool.Accounts
import BrowserPlan.Proofs.Pool.Histories

/-!
# Who owns a page

`Exclusive` is the invariant: the lent pages are the pages that callers hold and the pages that
tickets were granted, each of them once. A page that comes back moves from the first list to the
second, or off the list onto the shelf, so no order of moves loses a page or lends it twice.
-/
namespace BrowserPlan.Pool

variable {π : Type} [DecidableEq π]

/-- The pages in the hands of callers, `held`, and the pages that tickets were granted are the lent
ones. -/
def Exclusive (p : Pool π) (held : List π) : Prop :=
  (held ++ grantedPages p.granted).Perm (lentPages p.entries)

namespace Exclusive

variable {p : Pool π} {held : List π} {page : π} {k : Nat}

/-! ## One lemma for each operation -/

theorem acquire {ss : List (Stake π)} (hacc : Accounts p ss) (h : Exclusive p held) :
    Exclusive p.acquire.1 ((stakeOf p.acquire.2).page?.toList ++ held) := by
  rcases acquire_cases p with ⟨-, heq⟩ | ⟨-, q, rest, ha, heq⟩ | ⟨-, -, -, heq⟩ | ⟨-, -, -, heq⟩
  · rw [heq]
    exact h
  · rw [heq]
    have hmem : q ∈ idlePages p.entries := hacc.shelved.mem_iff.1 (by simp [ha])
    obtain ⟨hlent, -⟩ := lentPages_checkOut hacc.distinct hmem
    exact (h.cons q).trans hlent.symm
  · rw [heq]
    exact h
  · rw [heq]
    exact h

omit [DecidableEq π] in
theorem grantRoom (h : Exclusive p held) : Exclusive p.grantRoom.1 held := by
  rcases grantRoom_cases p with ⟨k, rest, -, heq⟩ | ⟨-, heq⟩
  · rw [heq, Exclusive, grantedPages_append]
    have hroom : grantedPages [(k, (.room : Handout π))] = [] := rfl
    rw [hroom, List.append_nil]
    exact h
  · rw [heq]
    exact h

omit [DecidableEq π] in
theorem yieldRoom (h : Exclusive p held) : Exclusive p.yieldRoom.1 held := grantRoom h

/-- A page that is brought back by its holder is handed on or put back. -/
theorem release (hn : (p.entries.map (·.page)).Nodup) (h : Exclusive p (page :: held)) :
    Exclusive (p.release page).1 held := by
  have hmem : page ∈ lentPages p.entries := h.mem_iff.1 (by simp)
  rcases release_cases p page with ⟨-, hfault⟩ | ⟨-, -, ⟨k, rest, -, heq⟩ | ⟨-, heq⟩⟩
  · -- a lent page is not refused
    obtain ⟨e, he, hu⟩ := entryFor?_of_mem_lentPages hn hmem
    have hnone : (p.release page).2.1 = none := by
      simp only [Pool.release, he, hu, Bool.not_true, Bool.false_eq_true, if_false]
      split <;> rfl
    rw [hnone] at hfault
    cases hfault
  · rw [heq, Exclusive, (pages_handOn p page k rest).2.2]
    refine List.Perm.trans ?_ h
    simp only [handOn, adjust, grantedPages_append]
    rw [← List.append_assoc]
    exact List.perm_append_singleton page _
  · rw [heq]
    obtain ⟨hlent, -⟩ := lentPages_putBack hn hmem
    exact (List.perm_cons page).1 (h.trans hlent)

omit [DecidableEq π] in
/-- What a ticket was granted leaves the granted pages when it is settled. -/
theorem settle (hn : (p.granted.map (·.1)).Nodup) {x : Handout π} (hx : p.handout? k = some x)
    (h : Exclusive p held) : Exclusive (p.settle k) (grantedPages [(k, x)] ++ held) := by
  have hperm : (grantedPages p.granted).Perm
      (grantedPages [(k, x)] ++ grantedPages (p.settle k).granted) := by
    rw [← grantedPages_append]
    exact (granted_perm hn hx).filterMap _
  refine List.Perm.trans ?_ h
  rw [List.append_assoc]
  exact (List.perm_append_comm_assoc _ _ _).trans (hperm.symm.append_left held)

omit [DecidableEq π] in
theorem redeem (hn : (p.granted.map (·.1)).Nodup) (hk : (p.handout? k).isSome = true)
    (h : Exclusive p held) :
    Exclusive (p.redeem k).1 ((stakeOf (p.redeem k).2).page?.toList ++ held) := by
  obtain ⟨x, hx⟩ := Option.isSome_iff_exists.1 hk
  have hsettle := settle hn hx h
  cases x with
  | page q =>
    rw [redeem_page hx]
    exact hsettle
  | room =>
    by_cases hc : p.isClosed = true
    · rw [redeem_room_closed hx hc]
      exact hsettle
    · rw [redeem_room hx (by simpa using hc)]
      exact hsettle
  | refused =>
    rw [redeem_refused hx]
    exact hsettle

theorem renounce {b : Bool} {ss : List (Stake π)} (hacc : Accounts p (.ticket k b :: ss))
    (h : Exclusive p held) : Exclusive (p.renounce k).1 held := by
  cases hx : p.handout? k with
  | none =>
    rw [renounce_none hx, withdraw, settle_of_handout?_eq_none hx]
    exact h
  | some x =>
    have hsettle := settle hacc.ticketed.granted_distinct hx h
    cases x with
    | page q =>
      rw [renounce_page hx]
      exact release hacc.distinct hsettle
    | room =>
      rw [renounce_room hx]
      exact yieldRoom hsettle
    | refused =>
      rw [renounce_refused hx]
      exact hsettle

theorem created (hp : page ∉ p.entries.map (·.page)) (h : Exclusive p held) :
    Exclusive (p.created page) (page :: held) := by
  rw [created_eq hp, Exclusive, lentPages_append]
  exact (h.cons page).trans (List.perm_append_singleton page _).symm

end Exclusive

/-- As long as everybody brings back only what they hold, nobody holds what is not theirs alone. -/
theorem stable_exclusive : Stable (π := π) (· = .orderly)
    (fun p ss => Accounts p ss ∧ Exclusive p (heldPages ss)) where
  perm hp h := ⟨h.1.perm hp, ((hp.filterMap _).symm.append_right _).trans h.2⟩
  join h := ⟨h.1.nothing, h.2⟩
  move := by
    intro m p s q t ss hA hm h
    obtain ⟨hacc, hex⟩ := h
    have hheld : ∀ u : Stake π, heldPages (u :: ss) = u.page?.toList ++ heldPages ss := by
      intro u
      cases u <;> rfl
    refine ⟨stable_accounts.move trivial hm hacc, ?_⟩
    rw [hheld] at hex ⊢
    cases hm with
    | acquire => exact hex.acquire hacc
    | redeem p k hk => exact Exclusive.redeem hacc.ticketed.granted_distinct hk hex
    | tell => exact hex
    | renounce => exact Exclusive.renounce hacc hex
    | created p page fresh => exact hex.created fresh
    | notCreated => exact hex.yieldRoom
    | bringBack p page => exact Exclusive.release hacc.distinct hex
    | release | shut | clear => cases hA

namespace Crowd

/-! ## Owners in a crowd -/

/-- The `i`-th caller owns a page: it got the page and has not brought it back, or its ticket was
granted the page and it has not had its turn since. -/
def Owns (c : State π) (i : Nat) (page : π) : Prop :=
  ∃ x, c.callers[i]? = some x ∧ (x.stake = .page page ∨
    ∃ k b, x.stake = .ticket k b ∧ c.pool.handout? k = some (.page page))

section
omit [DecidableEq π]
variable {c : State π} {i j : Nat} {page : π}

theorem holder_unique (hn : (heldPages (stakes c)).Nodup) {x y : Caller π}
    (hi : c.callers[i]? = some x) (hj : c.callers[j]? = some y) (hx : x.stake = .page page)
    (hy : y.stake = .page page) : i = j :=
  index_unique hn (getElem?_stakes hi) (getElem?_stakes hj) (Stake.page?_eq_some.2 hx)
    (Stake.page?_eq_some.2 hy)

/-- The owned pages are those in the hands of callers and those that tickets were granted. -/
theorem exists_owns_iff (h : Accounts c.pool (stakes c)) :
    (∃ i, Owns c i page) ↔ page ∈ heldPages (stakes c) ++ grantedPages c.pool.granted := by
  rw [List.mem_append, mem_heldPages, mem_grantedPages]
  constructor
  · rintro ⟨i, x, hx, hs | ⟨k, b, -, hk⟩⟩
    · exact .inl ⟨i, x, hx, hs⟩
    · exact .inr ⟨k, (handout?_eq_some_iff h.ticketed.granted_distinct).1 hk⟩
  · rintro (⟨i, x, hx, hs⟩ | ⟨k, hk⟩)
    · exact ⟨i, x, hx, .inl hs⟩
    · obtain ⟨b, hb⟩ := h.ticketed.granted _ hk
      obtain ⟨i, x, hx, hs⟩ := mem_tickets.1 hb
      exact ⟨i, x, hx, .inr ⟨k, b, hs, (handout?_eq_some_iff h.ticketed.granted_distinct).2 hk⟩⟩

/-- No page has two owners. -/
theorem owner_unique (h : Accounts c.pool (stakes c))
    (hn : (heldPages (stakes c) ++ grantedPages c.pool.granted).Nodup) (hi : Owns c i page)
    (hj : Owns c j page) : i = j := by
  obtain ⟨hheld, hgranted, hapart⟩ := List.nodup_append.1 hn
  have hmem : ∀ {k}, c.pool.handout? k = some (.page page) → (k, .page page) ∈ c.pool.granted :=
    (handout?_eq_some_iff h.ticketed.granted_distinct).1
  obtain ⟨x, hx, hs | ⟨k, a, hs, hk⟩⟩ := hi <;> obtain ⟨y, hy, ht | ⟨l, b, ht, hl⟩⟩ := hj
  · exact holder_unique hheld hx hy hs ht
  · have hpage := mem_heldPages.2 ⟨i, x, hx, hs⟩
    exact absurd rfl (hapart _ hpage _ (mem_grantedPages.2 ⟨l, hmem hl⟩))
  · have hpage := mem_heldPages.2 ⟨j, y, hy, ht⟩
    exact absurd rfl (hapart _ hpage _ (mem_grantedPages.2 ⟨k, hmem hk⟩))
  · obtain rfl := granted_unique hgranted (hmem hk) (hmem hl)
    exact ticket_unique h.ticketed.distinct hx hy hs ht

end

/-- As long as nobody closes the pool and everybody brings back only what they hold, a page is idle
and on the shelf once, or it is lent and has one owner. -/
theorem one_owner {limit : Int} {es : List (Event π)} {c : State π}
    (hes : ∀ e ∈ es, e.manner = .orderly) (hc : after limit es = some c) :
    (∀ e ∈ c.pool.entries,
      (e.inUse = false ∧ c.pool.available.count e.page = 1 ∧ ∀ i, ¬ Owns c i e.page) ∨
      (e.inUse = true ∧ e.page ∉ c.pool.available ∧ ∃! i, Owns c i e.page)) ∧
    (∀ i page, Owns c i page → ∃ e ∈ c.pool.entries, e.page = page ∧ e.inUse = true) ∧
    (c.pool.entries.map (·.page)).Nodup ∧
    c.pool.stats.total = c.pool.stats.available + c.pool.stats.inUse := by
  have hempty : Exclusive ({ maxPages := limit.toNat } : Pool π) [] := List.Perm.nil
  obtain ⟨hacc, hex⟩ := after_keeps stable_exclusive rfl hes ⟨accounts_empty _, hempty⟩ hc
  have hidle : (idlePages c.pool.entries).Nodup :=
    hacc.distinct.sublist (List.filter_sublist.map _)
  have hlent : (lentPages c.pool.entries).Nodup :=
    hacc.distinct.sublist (List.filter_sublist.map _)
  have howned : ∀ page, (∃ i, Owns c i page) ↔ page ∈ lentPages c.pool.entries := fun page =>
    (exists_owns_iff hacc).trans hex.mem_iff
  -- the entry of a page says which of the two classes the page is in
  have hclass : ∀ e ∈ c.pool.entries, ∀ e' ∈ c.pool.entries, e'.page = e.page → e' = e :=
    fun e he e' he' hp => List.inj_on_of_nodup_map hacc.distinct he' he hp
  refine ⟨fun e he => ?_, fun i page hi => ?_, hacc.distinct, ?_⟩
  · cases hu : e.inUse with
    | false =>
      have hmem : e.page ∈ c.pool.available :=
        hacc.shelved.mem_iff.2 (mem_idlePages.2 ⟨e, he, hu, rfl⟩)
      have hcount := List.count_eq_one_of_mem (hacc.shelved.nodup_iff.2 hidle) hmem
      refine .inl ⟨rfl, hcount, fun i hi => ?_⟩
      obtain ⟨e', he', hu', hp⟩ := mem_lentPages.1 ((howned _).1 ⟨i, hi⟩)
      rw [hclass e he e' he' hp, hu] at hu'
      cases hu'
    | true =>
      refine .inr ⟨rfl, fun hmem => ?_, ?_⟩
      · obtain ⟨e', he', hu', hp⟩ := mem_idlePages.1 (hacc.shelved.mem_iff.1 hmem)
        rw [hclass e he e' he' hp, hu] at hu'
        cases hu'
      · obtain ⟨i, hi⟩ := (howned _).2 (mem_lentPages.2 ⟨e, he, hu, rfl⟩)
        exact ⟨i, hi, fun j hj => owner_unique hacc (hex.nodup_iff.2 hlent) hj hi⟩
  · obtain ⟨e, he, hu, hp⟩ := mem_lentPages.1 ((howned page).1 ⟨i, hi⟩)
    exact ⟨e, he, hp, hu⟩
  · have hlen := length_idle_add_lent c.pool.entries
    rw [← hacc.shelved.length_eq] at hlen
    simpa [stats, lentPages] using hlen

/-- The only page comes back and goes to the first of two waiters, who has been told to give up
before its turn and passes the page on to the second. -/
def passedOn : List (Event Nat) :=
  [.enter .acquire, .make 0 (.ok 7), .enter .acquire, .enter .lease, .bringBack 0, .tell 1, .hear 1]

theorem one_owner_passedOn : ∃ c, after 1 passedOn = some c ∧ Owns c 2 7 ∧
    (∀ e ∈ c.pool.entries,
      (e.inUse = false ∧ c.pool.available.count e.page = 1 ∧ ∀ i, ¬ Owns c i e.page) ∨
      (e.inUse = true ∧ e.page ∉ c.pool.available ∧ ∃! i, Owns c i e.page)) ∧
    (∀ i page, Owns c i page → ∃ e ∈ c.pool.entries, e.page = page ∧ e.inUse = true) ∧
    (c.pool.entries.map (·.page)).Nodup ∧
    c.pool.stats.total = c.pool.stats.available + c.pool.stats.inUse :=
  ⟨_, rfl, ⟨_, rfl, .inr ⟨1, false, rfl, rfl⟩⟩,
    one_owner (by decide : ∀ e ∈ passedOn, e.manner = .orderly) (rfl : after 1 passedOn = some _)⟩

end Crowd
end BrowserPlan.Pool
