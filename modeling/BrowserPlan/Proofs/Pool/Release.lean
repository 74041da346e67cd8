import BrowserPlan.Proofs.Pool.Granting
import BrowserPlan.Proofs.Pool.Ownership

/-!
# Bringing a page back twice

A pool knows which pages are out, not who has them. `Covered` is what holds of an open pool however
its callers behave: a page that is out has an owner, and a page that has an owner is one of the
pool's. So a page that nobody owns is refused when it is brought back once more, and the pool stays
as it is (`second_release_refused`). A page that went to somebody else in the meantime is out, and
the pool takes it back from its new owner (`second_release_missed`).
-/
namespace BrowserPlan.Pool

variable {π : Type} [DecidableEq π]

/-! ## Pages and their owners -/

/-- Among the pages in the hands of callers, `held`, and those that tickets were granted is every
page that is out, and all of them are pages of the pool. -/
structure Covered (p : Pool π) (held : List π) : Prop where
  owned : ∀ page ∈ lentPages p.entries, page ∈ held ++ grantedPages p.granted
  known : ∀ page ∈ held ++ grantedPages p.granted, page ∈ p.entries.map (·.page)

theorem release_of_mem_lentPages {p : Pool π} (hn : (p.entries.map (·.page)).Nodup) {page : π}
    (h : page ∈ lentPages p.entries) : (p.release page).2.1 = none := by
  obtain ⟨e, he, hu⟩ := entryFor?_of_mem_lentPages hn h
  simp only [release, he, hu, Bool.not_true, Bool.false_eq_true, if_false]
  split <;> rfl

theorem release_of_notMem_lentPages {p : Pool π} {page : π} (hp : page ∈ p.entries.map (·.page))
    (h : page ∉ lentPages p.entries) : p.release page = (p, some .notOut, []) := by
  cases he : p.entryFor? page with
  | none => exact absurd hp (entryFor?_eq_none_iff.1 he)
  | some e =>
    have hu : e.inUse = false := by
      simpa using fun hu => h (mem_lentPages_of_entryFor? he hu)
    simp [release, he, hu]

namespace Covered

variable {p : Pool π} {held : List π} {page : π} {k : Nat}

/-! ## One lemma for each operation -/

theorem acquire {ss : List (Stake π)} (hacc : Accounts p ss) (h : Covered p held) :
    Covered p.acquire.1 ((stakeOf p.acquire.2).page?.toList ++ held) := by
  rcases acquire_cases p with ⟨-, heq⟩ | ⟨-, q, rest, ha, heq⟩ | ⟨-, -, -, heq⟩ | ⟨-, -, -, heq⟩
  · rw [heq]
    exact h
  · rw [heq]
    have hmem : q ∈ idlePages p.entries := hacc.shelved.mem_iff.1 (by simp [ha])
    obtain ⟨hlent, -⟩ := lentPages_checkOut hacc.distinct hmem
    obtain ⟨e, he, -, hq⟩ := mem_idlePages.1 hmem
    refine ⟨fun r hr => ?_, fun r hr => ?_⟩
    · rcases List.mem_cons.1 (hlent.mem_iff.1 hr) with rfl | hr
      · exact List.mem_cons_self
      · exact List.mem_cons_of_mem _ (h.owned r hr)
    · have hpages : (p.checkOut q).entries.map (·.page) = p.entries.map (·.page) :=
        pages_checkOut p q
      refine hpages ▸ ?_
      rcases List.mem_cons.1 hr with rfl | hr
      · exact List.mem_map.2 ⟨e, he, hq⟩
      · exact h.known r hr
  · rw [heq]
    exact ⟨h.owned, h.known⟩
  · rw [heq]
    exact ⟨h.owned, h.known⟩

omit [DecidableEq π] in
theorem yieldRoom (h : Covered p held) : Covered p.yieldRoom.1 held := by
  rw [Pool.yieldRoom]
  rcases grantRoom_cases { p with creating := p.creating - 1 } with ⟨k, rest, -, heq⟩ | ⟨-, heq⟩
  · have hroom : grantedPages (p.granted ++ [(k, (.room : Handout π))]) = grantedPages p.granted := by
      rw [grantedPages_append]
      exact List.append_nil _
    rw [heq]
    exact ⟨fun r hr => hroom.symm ▸ h.owned r hr, fun r hr => h.known r (hroom ▸ hr)⟩
  · rw [heq]
    exact ⟨h.owned, h.known⟩

/-- A page is brought back, by its owner or by somebody else. -/
theorem release (hn : (p.entries.map (·.page)).Nodup)
    (howned : ∀ r ∈ lentPages p.entries, r ∈ page :: (held ++ grantedPages p.granted))
    (hknown : ∀ r ∈ held ++ grantedPages p.granted, r ∈ p.entries.map (·.page)) :
    Covered (p.release page).1 held := by
  rcases release_cases p page with ⟨heq, hfault⟩ | ⟨hlent, -, ⟨k, rest, -, heq⟩ | ⟨-, heq⟩⟩
  · -- a page that is refused is not out
    rw [heq]
    refine ⟨fun r hr => ?_, hknown⟩
    rcases List.mem_cons.1 (howned r hr) with rfl | hr'
    · rw [release_of_mem_lentPages hn hr] at hfault
      cases hfault
    · exact hr'
  · obtain ⟨hpages, -, hlentEq⟩ := pages_handOn p page k rest
    have hgranted : ∀ r, r ∈ held ++ grantedPages (p.handOn page k rest).granted ↔
        r ∈ page :: (held ++ grantedPages p.granted) := by
      intro r
      simp only [handOn, adjust, grantedPages_append, ← List.append_assoc]
      exact (List.perm_append_singleton page _).mem_iff
    rw [heq]
    refine ⟨fun r hr => (hgranted r).2 (howned r (hlentEq ▸ hr)), fun r hr => hpages ▸ ?_⟩
    rcases List.mem_cons.1 ((hgranted r).1 hr) with rfl | hr
    · obtain ⟨e, he, -, hp⟩ := mem_lentPages.1 hlent
      exact List.mem_map.2 ⟨e, he, hp⟩
    · exact hknown r hr
  · obtain ⟨hsplit, -⟩ := lentPages_putBack hn hlent
    have hnodup : (page :: lentPages (p.putBack page).entries).Nodup :=
      hsplit.nodup_iff.1 (hn.sublist (List.filter_sublist.map _))
    rw [heq]
    refine ⟨fun r hr => ?_, fun r hr => (pages_putBack p page) ▸ hknown r hr⟩
    rcases List.mem_cons.1 (howned r (hsplit.mem_iff.2 (List.mem_cons_of_mem _ hr))) with rfl | hr'
    · exact absurd hr (List.nodup_cons.1 hnodup).1
    · exact hr'

omit [DecidableEq π] in
/-- What a ticket was granted leaves the granted pages when it is settled. -/
theorem settle (hn : (p.granted.map (·.1)).Nodup) {x : Handout π} (hx : p.handout? k = some x)
    (h : Covered p held) : Covered (p.settle k) (grantedPages [(k, x)] ++ held) := by
  have hperm : (grantedPages p.granted).Perm
      (grantedPages [(k, x)] ++ grantedPages (p.settle k).granted) := by
    rw [← grantedPages_append]
    exact (granted_perm hn hx).filterMap _
  have hmem : ∀ r, r ∈ grantedPages [(k, x)] ++ held ++ grantedPages (p.settle k).granted ↔
      r ∈ held ++ grantedPages p.granted := by
    intro r
    rw [List.append_assoc, (List.perm_append_comm_assoc _ _ _).mem_iff]
    exact (hperm.symm.append_left held).mem_iff
  exact ⟨fun r hr => (hmem r).2 (h.owned r hr), fun r hr => h.known r ((hmem r).1 hr)⟩

omit [DecidableEq π] in
theorem redeem (hn : (p.granted.map (·.1)).Nodup) (hk : (p.handout? k).isSome = true)
    (h : Covered p held) :
    Covered (p.redeem k).1 ((stakeOf (p.redeem k).2).page?.toList ++ held) := by
  obtain ⟨x, hx⟩ := Option.isSome_iff_exists.1 hk
  have hsettle := settle hn hx h
  cases x with
  | page q =>
    rw [redeem_page hx]
    exact hsettle
  | room =>
    by_cases hc : p.isClosed = true
    · rw [redeem_room_closed hx hc]
      exact ⟨hsettle.owned, hsettle.known⟩
    · rw [redeem_room hx (by simpa using hc)]
      exact hsettle
  | refused =>
    rw [redeem_refused hx]
    exact hsettle

theorem renounce {b : Bool} {ss : List (Stake π)} (hacc : Accounts p (.ticket k b :: ss))
    (h : Covered p held) : Covered (p.renounce k).1 held := by
  cases hx : p.handout? k with
  | none =>
    rw [renounce_none hx, withdraw, settle_of_handout?_eq_none hx]
    exact ⟨h.owned, h.known⟩
  | some x =>
    have hsettle := settle hacc.ticketed.granted_distinct hx h
    cases x with
    | page q =>
      rw [renounce_page hx]
      exact release hacc.distinct hsettle.owned fun r hr =>
        hsettle.known r (List.mem_cons_of_mem _ hr)
    | room =>
      rw [renounce_room hx]
      exact yieldRoom ⟨hsettle.owned, hsettle.known⟩
    | refused =>
      rw [renounce_refused hx]
      exact ⟨hsettle.owned, hsettle.known⟩

theorem created (hp : page ∉ p.entries.map (·.page)) (h : Covered p held) :
    Covered (p.created page) (page :: held) := by
  rw [created_eq hp]
  refine ⟨fun r hr => ?_, fun r hr => ?_⟩
  · rw [lentPages_append] at hr
    rcases List.mem_append.1 hr with hr | hr
    · exact List.mem_cons_of_mem _ (h.owned r hr)
    · obtain rfl : r = page := by simpa [lentPages] using hr
      exact List.mem_cons_self
  · rw [List.map_append]
    rcases List.mem_cons.1 hr with rfl | hr
    · exact List.mem_append_right _ List.mem_cons_self
    · exact List.mem_append_left _ (h.known r hr)

end Covered

/-- However callers behave, as long as nobody closes the pool, what is out belongs to somebody. -/
theorem stable_covered : Stable (π := π) (· ≠ .closing)
    (fun p ss => Accounts p ss ∧ Covered p (heldPages ss)) where
  perm hp h := ⟨h.1.perm hp, by
    have hheld := hp.filterMap Stake.page?
    exact ⟨fun r hr => (hheld.append_right _).mem_iff.1 (h.2.owned r hr),
      fun r hr => h.2.known r ((hheld.append_right _).mem_iff.2 hr)⟩⟩
  join h := ⟨h.1.nothing, h.2⟩
  move := by
    intro m p s q t ss hA hm ⟨hacc, h⟩
    have hheld : ∀ u : Stake π, heldPages (u :: ss) = u.page?.toList ++ heldPages ss := by
      intro u
      cases u <;> rfl
    refine ⟨stable_accounts.move trivial hm hacc, ?_⟩
    rw [hheld] at h ⊢
    cases hm with
    | acquire => exact h.acquire hacc
    | redeem p k hk => exact Covered.redeem hacc.ticketed.granted_distinct hk h
    | tell => exact ⟨h.owned, h.known⟩
    | renounce => exact Covered.renounce hacc h
    | created p page fresh => exact h.created fresh
    | notCreated => exact h.yieldRoom
    | bringBack p page =>
      exact Covered.release hacc.distinct h.owned fun r hr => h.known r (List.mem_cons_of_mem _ hr)
    | release p page =>
      exact Covered.release hacc.distinct (fun r hr => List.mem_cons_of_mem _ (h.owned r hr))
        h.known
    | shut | clear => exact absurd rfl hA

/-! ## Pages stay -/

/-- Until the pool is closed it keeps every page that it has. -/
theorem stable_page (page : π) : Stable (π := π) (· ≠ .closing)
    (fun p _ => page ∈ p.entries.map (·.page)) where
  perm _ h := h
  join h := h
  move := by
    intro m p s q t ss hA hm h
    have hstays : ∀ c : PoolCall π, c ≠ .clear → (∀ r, c ≠ .created r) →
        page ∈ (p.perform c).1.entries.map (·.page) :=
      fun c hclear hcreated => (pages_perform hclear hcreated).symm ▸ h
    cases hm with
    | acquire => exact hstays .acquire nofun nofun
    | redeem p k => exact hstays (.redeem k) nofun nofun
    | tell => exact h
    | renounce p k => exact hstays (.renounce k) nofun nofun
    | created p r fresh =>
      rw [created_eq fresh, List.map_append]
      exact List.mem_append_left _ h
    | notCreated => exact hstays .notCreated nofun nofun
    | bringBack p r => exact hstays (.release r) nofun nofun
    | release p r => exact hstays (.release r) nofun nofun
    | shut | clear => exact absurd rfl hA

namespace Crowd

/-! ## The second time -/

/-- A caller has a page, and later, while the pool is still open, brings it back though it has
brought it back before. If nobody has the page then, the pool finds fault and stays as it is,
whatever others did before and in between. If somebody has it, and so far everybody brought back only what
they held, the pool finds no fault. -/
theorem second_release_refused {limit : Int} {es es' : List (Event π)} {c d : State π} {i : Nat}
    {x : Caller π} {page : π} (hes : ∀ e ∈ es ++ es', e.manner ≠ .closing)
    (hc : after limit es = some c) (hx : c.callers[i]? = some x) (hpage : x.stake = .page page)
    (hd : run c es' = some d) :
    ((∀ j, ¬ Owns d j page) →
      d.pool.perform (.release page) = (d.pool, some .notOut, []) ∧
      step d (.enter (.release page)) = some { d with
        callers := d.callers ++ [⟨.over (.error (.failed (.pool .notOut))), false⟩] }) ∧
    ((∀ e ∈ es ++ es', e.manner = .orderly) → (∃ j, Owns d j page) →
      (d.pool.release page).2.1 = none) := by
  have hbefore : Keeps (· ≠ .closing) (fun p ss => Accounts p ss ∧ Covered p (heldPages ss)) c :=
    run_keeps stable_covered (by decide) (fun e' h' => hes e' (List.mem_append_left _ h'))
      ⟨⟨accounts_empty _, by simp [lentPages], by simp [heldPages, grantedPages, stakes]⟩, by simp⟩
      (after_eq_some hc).2
  have hafter := run_keeps stable_covered (by decide)
    (fun e' h' => hes e' (List.mem_append_right _ h')) hbefore hd
  -- the page was the pool's when the caller had it, and the pool keeps its pages
  have hhad : page ∈ c.pool.entries.map (·.page) :=
    hbefore.holds.2.known page (List.mem_append_left _ (mem_heldPages.2 ⟨i, x, hx, hpage⟩))
  have hhas : page ∈ d.pool.entries.map (·.page) :=
    (run_keeps (stable_page page) (by decide) (fun e' h' => hes e' (List.mem_append_right _ h'))
      ⟨hhad, hbefore.conduct⟩ hd).holds
  obtain ⟨hacc, hcovered⟩ := hafter.holds
  refine ⟨fun hfree => ?_, fun hord howned => ?_⟩
  · have hout : page ∉ lentPages d.pool.entries := fun hmem => by
      obtain ⟨j, hj⟩ := (exists_owns_iff hacc).2 (hcovered.owned page hmem)
      exact hfree j hj
    have hrelease := release_of_notMem_lentPages hhas hout
    refine ⟨hrelease, ?_⟩
    have hadvance : advance (Visit.release page).script d.pool =
        (d.pool, .over (.error (.failed (.pool .notOut)))) := by
      have hcall : advance (.call (.release page) (unlessFault (.ok none))) d.pool =
          advance (unlessFault (.ok none) (d.pool.release page).2.1) (d.pool.release page).1 := rfl
      rw [show (Visit.release page).script = giveBack page from rfl, giveBack_eq, hcall, hrelease]
      rfl
    rw [step, hadvance]
  · have hempty : Exclusive ({ maxPages := limit.toNat } : Pool π) [] := List.Perm.nil
    have hearlier := run_keeps stable_exclusive rfl
      (fun e' h' => hord e' (List.mem_append_left _ h')) ⟨⟨accounts_empty _, hempty⟩, by simp⟩
      (after_eq_some hc).2
    have hexclusive := run_keeps stable_exclusive rfl
      (fun e' h' => hord e' (List.mem_append_right _ h')) hearlier hd
    have hlent := hexclusive.holds.2.mem_iff.1 ((exists_owns_iff hacc).1 howned)
    exact release_of_mem_lentPages hacc.distinct hlent

/-- The only page is lent, and a second caller waits for it. -/
def twoInTurn : List (Event Nat) := [.enter .acquire, .make 0 (.ok 7), .enter .lease]

/-- The first caller brings the page back, and so does the second when it has done with it. -/
def bothDone : List (Event Nat) := [.bringBack 0, .hear 1, .goOn 1 (.ok ())]

theorem second_release_refused_bothDone : ∃ c d, after 1 twoInTurn = some c ∧
    c.callers[0]? = some ⟨.over (.ok (some 7)), false⟩ ∧ run c bothDone = some d ∧
    (∀ j, ¬ Owns d j 7) ∧
    d.pool.perform (.release 7) = (d.pool, some .notOut, []) ∧
    step d (.enter (.release 7)) = some { d with
      callers := d.callers ++ [⟨.over (.error (.failed (.pool .notOut))), false⟩] } := by
  refine ⟨_, _, rfl, rfl, rfl, ?_⟩
  have hacc := after_keeps stable_accounts trivial (fun _ _ => trivial) (accounts_empty _)
    (rfl : after 1 (twoInTurn ++ bothDone) = some _)
  have hfree : ∀ j, ¬ Owns _ j 7 := fun j hj =>
    absurd ((exists_owns_iff hacc).1 ⟨j, hj⟩) (by decide)
  have hopen : ∀ e ∈ twoInTurn ++ bothDone, e.manner ≠ .closing := by decide
  exact ⟨hfree, (second_release_refused (i := 0) (x := ⟨.over (.ok (some 7)), false⟩) hopen
    (rfl : after 1 twoInTurn = some _) rfl rfl rfl).1 hfree⟩

/-- The first caller brings the page back, and the pool hands it to the second. When the first
caller brings it back once more, the pool takes it from the second. -/
theorem second_release_missed : ∃ c d, after 1 twoInTurn = some c ∧
    run c [.bringBack 0, .hear 1] = some d ∧ Owns d 1 7 ∧
    (d.pool.perform (.release 7)).2.1 = none ∧ (d.pool.perform (.release 7)).1.available = [7] :=
  ⟨_, _, rfl, rfl, ⟨_, rfl, .inl rfl⟩, rfl, rfl⟩

end Crowd
end BrowserPlan.Pool
