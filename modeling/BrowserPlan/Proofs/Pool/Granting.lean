import BrowserPlan.Proofs.Pool.Capacity

/-!
# What a call leaves alone

A ticket keeps what it was granted until its own holder settles it (`granted_stays`); who is told has
been granted something (`granted_of_told`), and who is granted something is told (`told_of_granted`); and
the pages of a pool are those that were created in it
(`pages_perform`).
-/
namespace BrowserPlan.Pool

variable {π : Type} [DecidableEq π] {p : Pool π} {k : Nat}

/-- The ticket that a call settles. -/
def settled? : PoolCall π → Option Nat
  | .redeem k | .renounce k => some k
  | _ => none

omit [DecidableEq π] in
theorem isSome_handout?_iff : (p.handout? k).isSome = true ↔ ∃ g ∈ p.granted, g.1 = k := by
  rw [← not_iff_not, Bool.not_eq_true, Option.isSome_eq_false_iff, Option.isNone_iff_eq_none,
    handout?_eq_none_iff]
  exact ⟨fun h ⟨g, hg, hk⟩ => h g hg hk, fun h g hg hk => h ⟨g, hg, hk⟩⟩

/-! ## Grants stay -/

theorem granted_release (page : π) {g : Nat × Handout π} (hg : g ∈ p.granted) :
    g ∈ (p.release page).1.granted := by
  rcases release_cases p page with ⟨heq, -⟩ | ⟨-, -, ⟨k, rest, -, heq⟩ | ⟨-, heq⟩⟩ <;> rw [heq]
  · exact hg
  · exact List.mem_append_left _ hg
  · exact hg

omit [DecidableEq π] in
theorem granted_yieldRoom {g : Nat × Handout π} (hg : g ∈ p.granted) :
    g ∈ p.yieldRoom.1.granted := by
  rw [yieldRoom]
  rcases grantRoom_cases { p with creating := p.creating - 1 } with ⟨k, rest, -, heq⟩ | ⟨-, heq⟩ <;>
    rw [heq]
  · exact List.mem_append_left _ hg
  · exact hg

omit [DecidableEq π] in
theorem granted_settle {g : Nat × Handout π} (hg : g ∈ p.granted) (hk : g.1 ≠ k) :
    g ∈ (p.settle k).granted := List.mem_filter.2 ⟨hg, by simpa using hk⟩

/-- What was granted to one ticket stays when another one is settled, and at any other call. -/
theorem granted_perform (q : PoolCall π) {g : Nat × Handout π} (hg : g ∈ p.granted)
    (hq : settled? q ≠ some g.1) : g ∈ (p.perform q).1.granted := by
  cases q with
  | acquire =>
    change g ∈ p.acquire.1.granted
    rcases acquire_cases p with ⟨-, heq⟩ | ⟨-, page, rest, -, heq⟩ | ⟨-, -, -, heq⟩ | ⟨-, -, -, heq⟩ <;>
      rw [heq] <;> exact hg
  | redeem k =>
    change g ∈ (p.redeem k).1.granted
    have hsettle := granted_settle hg fun h => hq (congrArg some h.symm)
    rw [redeem]
    split
    · exact hsettle
    · split <;> exact hsettle
    · exact hsettle
    · exact hsettle
  | renounce k =>
    change g ∈ (p.renounce k).1.granted
    have hsettle : g ∈ (p.withdraw k).granted := granted_settle hg fun h => hq (congrArg some h.symm)
    cases hx : p.handout? k with
    | none => exact renounce_none hx ▸ hsettle
    | some x =>
      cases x with
      | page page => exact renounce_page hx ▸ granted_release page hsettle
      | room => exact renounce_room hx ▸ granted_yieldRoom hsettle
      | refused => exact renounce_refused hx ▸ hsettle
  | created page =>
    change g ∈ (p.created page).granted
    rw [created, addEntry]
    split <;> exact hg
  | notCreated => exact granted_yieldRoom hg
  | release page => exact granted_release page hg
  | shut => exact List.mem_append_left _ hg
  | clear => exact hg

/-- A ticket keeps what it was granted until it is settled. -/
theorem granted_stays (q : PoolCall π) (hk : (p.handout? k).isSome = true)
    (hq : settled? q ≠ some k) : ((p.perform q).1.handout? k).isSome = true := by
  obtain ⟨g, hg, rfl⟩ := isSome_handout?_iff.1 hk
  exact isSome_handout?_iff.2 ⟨g, granted_perform q hg hq, rfl⟩

/-! ## Who is told -/

theorem granted_of_told_release {page : π} (hk : k ∈ (p.release page).2.2) :
    ∃ g ∈ (p.release page).1.granted, g.1 = k := by
  unfold release at hk ⊢
  cases he : p.entryFor? page with
  | none => simp [he] at hk
  | some e =>
    cases hu : e.inUse with
    | false => simp [he, hu] at hk
    | true =>
      cases hw : nextWaiter? p.waiters with
      | none => simp [he, hu, hw] at hk
      | some w => simp_all

omit [DecidableEq π] in
theorem granted_of_told_yieldRoom (hk : k ∈ p.yieldRoom.2) :
    ∃ g ∈ p.yieldRoom.1.granted, g.1 = k := by
  unfold yieldRoom grantRoom at hk ⊢
  cases hw : nextWaiter? p.waiters with
  | none => simp [hw] at hk
  | some w => simp_all

/-- Who is told has been granted something. -/
theorem granted_of_told (q : PoolCall π) (hk : k ∈ (p.perform q).2.2) :
    ((p.perform q).1.handout? k).isSome = true := by
  rw [isSome_handout?_iff]
  cases q with
  | acquire | redeem | created | clear => cases hk
  | notCreated => exact granted_of_told_yieldRoom hk
  | release page => exact granted_of_told_release hk
  | renounce j =>
    change k ∈ (p.renounce j).2.2 at hk
    change ∃ g ∈ (p.renounce j).1.granted, g.1 = k
    cases hx : p.handout? j with
    | none => rw [renounce_none hx] at hk; cases hk
    | some x =>
      cases x with
      | page page =>
        rw [renounce_page hx] at hk ⊢
        exact granted_of_told_release hk
      | room =>
        rw [renounce_room hx] at hk ⊢
        exact granted_of_told_yieldRoom hk
      | refused => rw [renounce_refused hx] at hk; cases hk
  | shut =>
    change k ∈ (p.waiters.filter fun w => !w.isCancelled).map (·.ticket) at hk
    refine ⟨(k, .refused), List.mem_append_right _ (List.mem_map.2 ⟨k, hk, rfl⟩), rfl⟩

theorem told_of_granted_release {page : π} {g : Nat × Handout π}
    (hg : g ∈ (p.release page).1.granted) : g ∈ p.granted ∨ g.1 ∈ (p.release page).2.2 := by
  unfold release at hg ⊢
  cases he : p.entryFor? page with
  | none => exact .inl (by simpa [he] using hg)
  | some e =>
    cases hu : e.inUse with
    | false => exact .inl (by simpa [he, hu] using hg)
    | true =>
      cases hw : nextWaiter? p.waiters with
      | none => exact .inl (by simpa [he, hu, hw, adjust] using hg)
      | some w =>
        have hin : g ∈ p.granted ++ [(w.1, .page page)] := by simpa [he, hu, hw, adjust] using hg
        refine (List.mem_append.1 hin).imp_right fun hlast => ?_
        rw [List.mem_singleton.1 hlast]
        simp [hu]

omit [DecidableEq π] in
theorem told_of_granted_yieldRoom {g : Nat × Handout π} (hg : g ∈ p.yieldRoom.1.granted) :
    g ∈ p.granted ∨ g.1 ∈ p.yieldRoom.2 := by
  unfold yieldRoom grantRoom at hg ⊢
  cases hw : nextWaiter? p.waiters with
  | none => exact .inl (by simpa [hw] using hg)
  | some w =>
    have hin : g ∈ p.granted ++ [(w.1, .room)] := by simpa [hw] using hg
    refine (List.mem_append.1 hin).imp_right fun hlast => ?_
    rw [List.mem_singleton.1 hlast]
    simp

/-- Who is granted something is told. -/
theorem told_of_granted (q : PoolCall π) (hk : ((p.perform q).1.handout? k).isSome = true) :
    (p.handout? k).isSome = true ∨ k ∈ (p.perform q).2.2 := by
  have hsettled : ∀ {j : Nat} {g : Nat × Handout π}, g ∈ (p.settle j).granted → g ∈ p.granted :=
    fun hg => List.mem_of_mem_filter hg
  obtain ⟨g, hg, rfl⟩ := isSome_handout?_iff.1 hk
  suffices h : g ∈ p.granted ∨ g.1 ∈ (p.perform q).2.2 from
    h.imp_left fun hin => isSome_handout?_iff.2 ⟨g, hin, rfl⟩
  cases q with
  | acquire =>
    change g ∈ p.acquire.1.granted at hg
    rcases acquire_cases p with ⟨-, heq⟩ | ⟨-, page, rest, -, heq⟩ | ⟨-, -, -, heq⟩ | ⟨-, -, -, heq⟩ <;>
      rw [heq] at hg <;> exact .inl hg
  | redeem j =>
    change g ∈ (p.redeem j).1.granted at hg
    rw [redeem] at hg
    split at hg
    · exact .inl (hsettled hg)
    · split at hg <;> exact .inl (hsettled hg)
    · exact .inl (hsettled hg)
    · exact .inl (hsettled hg)
  | renounce j =>
    change g ∈ (p.renounce j).1.granted at hg
    change g ∈ p.granted ∨ g.1 ∈ (p.renounce j).2.2
    cases hx : p.handout? j with
    | none =>
      rw [renounce_none hx] at hg
      exact .inl (hsettled hg)
    | some x =>
      cases x with
      | page page =>
        rw [renounce_page hx] at hg ⊢
        exact (told_of_granted_release hg).imp_left hsettled
      | room =>
        rw [renounce_room hx] at hg ⊢
        exact (told_of_granted_yieldRoom hg).imp_left hsettled
      | refused =>
        rw [renounce_refused hx] at hg
        exact .inl (hsettled hg)
  | created page =>
    change g ∈ (p.created page).granted at hg
    rw [created, addEntry] at hg
    split at hg <;> exact .inl hg
  | notCreated => exact told_of_granted_yieldRoom hg
  | release page => exact told_of_granted_release hg
  | shut =>
    refine (List.mem_append.1 hg).imp_right fun hin => ?_
    obtain ⟨j, hj, rfl⟩ := List.mem_map.1 hin
    exact hj
  | clear => exact .inl hg

/-! ## Tickets -/

/-- Tickets are drawn in their order. -/
theorem nextTicket_perform (q : PoolCall π) : p.nextTicket ≤ (p.perform q).1.nextTicket := by
  have hrelease : ∀ (p : Pool π) page, p.nextTicket ≤ (p.release page).1.nextTicket := by
    intro p page
    rcases release_cases p page with ⟨heq, -⟩ | ⟨-, -, ⟨k, rest, -, heq⟩ | ⟨-, heq⟩⟩ <;>
      exact Nat.le_of_eq (congrArg Pool.nextTicket heq).symm
  have hyield : ∀ p : Pool π, p.nextTicket ≤ p.yieldRoom.1.nextTicket := by
    intro p
    rw [yieldRoom]
    rcases grantRoom_cases { p with creating := p.creating - 1 } with ⟨k, rest, -, heq⟩ | ⟨-, heq⟩ <;>
      exact Nat.le_of_eq (congrArg Pool.nextTicket heq).symm
  cases q with
  | acquire =>
    change p.nextTicket ≤ p.acquire.1.nextTicket
    rcases acquire_cases p with ⟨-, heq⟩ | ⟨-, page, rest, -, heq⟩ | ⟨-, -, -, heq⟩ | ⟨-, -, -, heq⟩
    · exact Nat.le_of_eq (congrArg (·.1.nextTicket) heq).symm
    · exact Nat.le_of_eq (congrArg (·.1.nextTicket) heq).symm
    · exact Nat.le_of_eq (congrArg (·.1.nextTicket) heq).symm
    · have hmore : p.acquire.1.nextTicket = p.nextTicket + 1 := by rw [heq]
      exact hmore ▸ Nat.le_succ _
  | redeem k =>
    change p.nextTicket ≤ (p.redeem k).1.nextTicket
    rw [redeem]
    split
    · exact Nat.le_refl _
    · split <;> exact Nat.le_refl _
    · exact Nat.le_refl _
    · exact Nat.le_refl _
  | renounce k =>
    change p.nextTicket ≤ (p.renounce k).1.nextTicket
    cases hx : p.handout? k with
    | none => rw [renounce_none hx]; exact Nat.le_refl _
    | some x =>
      cases x with
      | page page => rw [renounce_page hx]; exact hrelease (p.withdraw k) page
      | room => rw [renounce_room hx]; exact hyield (p.withdraw k)
      | refused => rw [renounce_refused hx]; exact Nat.le_refl _
  | created page =>
    change p.nextTicket ≤ (p.created page).nextTicket
    rw [created, addEntry]
    split <;> exact Nat.le_refl _
  | notCreated => exact hyield p
  | release page => exact hrelease p page
  | shut | clear => exact Nat.le_refl _

/-! ## Pages -/

theorem pages_release (page : π) :
    (p.release page).1.entries.map (·.page) = p.entries.map (·.page) := by
  rcases release_cases p page with ⟨heq, -⟩ | ⟨-, -, ⟨k, rest, -, heq⟩ | ⟨-, heq⟩⟩ <;> rw [heq]
  · exact (pages_handOn p page k rest).1
  · exact pages_putBack p page

omit [DecidableEq π] in
theorem entries_yieldRoom : p.yieldRoom.1.entries = p.entries := by
  rw [yieldRoom]
  rcases grantRoom_cases { p with creating := p.creating - 1 } with ⟨k, rest, -, heq⟩ | ⟨-, heq⟩ <;>
    rw [heq]

/-- Calls that create no page leave the pages of the pool as they are, closing apart. -/
theorem pages_perform {q : PoolCall π} (hclear : q ≠ .clear) (hcreated : ∀ page, q ≠ .created page) :
    (p.perform q).1.entries.map (·.page) = p.entries.map (·.page) := by
  cases q with
  | acquire =>
    change p.acquire.1.entries.map (·.page) = _
    rcases acquire_cases p with ⟨-, heq⟩ | ⟨-, page, rest, -, heq⟩ | ⟨-, -, -, heq⟩ | ⟨-, -, -, heq⟩ <;>
      rw [heq]
    exact pages_checkOut p page
  | redeem k =>
    change (p.redeem k).1.entries.map (·.page) = _
    rw [redeem]
    split
    · rfl
    · split <;> rfl
    · rfl
    · rfl
  | renounce k =>
    change (p.renounce k).1.entries.map (·.page) = _
    cases hx : p.handout? k with
    | none => rw [renounce_none hx]; rfl
    | some x =>
      cases x with
      | page page => exact renounce_page hx ▸ pages_release page
      | room => rw [renounce_room hx, entries_yieldRoom]; rfl
      | refused => rw [renounce_refused hx]; rfl
  | created page => exact absurd rfl (hcreated page)
  | notCreated => exact congrArg _ entries_yieldRoom
  | release page => exact pages_release page
  | shut => rfl
  | clear => exact absurd rfl hclear

end BrowserPlan.Pool
