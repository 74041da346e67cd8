import BrowserPlan.Proofs.Pool.Closing

/-!
# First come, first served

The tickets of an open pool stand in one line: in front those that were granted something, behind them
the queue (`line`). A move lets tickets leave the line, draws the next one at its end, or grants
something to the oldest waiter (`Turnover`); so the line stays sorted, and no move grants something to
two tickets. Callers draw tickets in the order in which they come, and as long as somebody waits nobody
gets anything without a ticket (`Busy`). `InOrder` puts this together; `first_come_first_served` is what
follows for whole histories.
-/
namespace BrowserPlan.Pool

variable {π : Type}

/-- The tickets in the queue. -/
def queue (p : Pool π) : List Nat := p.waiters.map (·.ticket)

/-- The tickets that were granted something, and the queue behind them. -/
def line (p : Pool π) : List Nat := p.granted.map (·.1) ++ p.queue

/-- What a move makes of the line. -/
inductive Turnover (p q : Pool π) : Prop where
  /-- Nothing is granted. -/
  | leaves (hgranted : q.granted.Sublist p.granted) (hqueue : q.queue.Sublist p.queue)
  /-- A ticket is drawn. -/
  | draws (hgranted : q.granted = p.granted) (hqueue : q.queue = p.queue ++ [p.nextTicket])
  /-- The oldest waiter is granted a page or room for one. -/
  | grants (gs : List (Nat × Handout π)) (k : Nat) (x : Handout π) (hx : x ≠ .refused)
    (hgs : gs.Sublist p.granted) (hgranted : q.granted = gs ++ [(k, x)])
    (hqueue : (k :: q.queue).Sublist p.queue)

theorem sublist_of_nextWaiter? {ws rest : List PoolWaiter} {k : Nat}
    (h : nextWaiter? ws = some (k, rest)) :
    (k :: rest.map (·.ticket)).Sublist (ws.map (·.ticket)) := by
  obtain ⟨gone, rfl, -⟩ := nextWaiter?_eq_some h
  rw [List.map_append]
  exact List.sublist_append_right _ _

namespace Turnover

variable {p q : Pool π} {k : Nat}

theorem yieldRoom (hgranted : q.granted.Sublist p.granted) (hqueue : q.queue.Sublist p.queue) :
    Turnover p q.yieldRoom.1 := by
  rw [Pool.yieldRoom]
  rcases grantRoom_cases { q with creating := q.creating - 1 } with ⟨k, rest, hw, heq⟩ | ⟨-, heq⟩
  · rw [heq]
    exact .grants q.granted k .room (by simp) hgranted rfl ((sublist_of_nextWaiter? hw).trans hqueue)
  · rw [heq]
    exact .leaves hgranted (List.nil_sublist _)

variable [DecidableEq π]

theorem release (hgranted : q.granted.Sublist p.granted) (hqueue : q.queue.Sublist p.queue)
    (page : π) : Turnover p (q.release page).1 := by
  rcases release_cases q page with ⟨heq, -⟩ | ⟨-, -, ⟨k, rest, hw, heq⟩ | ⟨-, heq⟩⟩
  · rw [heq]
    exact .leaves hgranted hqueue
  · rw [heq]
    exact .grants q.granted k (.page page) nofun hgranted rfl
      ((sublist_of_nextWaiter? hw).trans hqueue)
  · rw [heq]
    exact .leaves hgranted (List.nil_sublist _)

theorem acquire (p : Pool π) : Turnover p p.acquire.1 := by
  rcases acquire_cases p with ⟨-, heq⟩ | ⟨-, page, rest, -, heq⟩ | ⟨-, -, -, heq⟩ | ⟨-, -, -, heq⟩ <;>
    rw [heq]
  · exact .leaves (.refl _) (.refl _)
  · exact .leaves (.refl _) (.refl _)
  · exact .leaves (.refl _) (.refl _)
  · exact .draws rfl (by simp [queue])

omit [DecidableEq π] in
theorem redeem (p : Pool π) (k : Nat) : Turnover p (p.redeem k).1 := by
  have hsettle : (p.settle k).granted.Sublist p.granted := List.filter_sublist
  unfold Pool.redeem
  split
  · exact .leaves hsettle (.refl _)
  · split <;> exact .leaves hsettle (.refl _)
  · exact .leaves hsettle (.refl _)
  · exact .leaves hsettle (.refl _)

theorem renounce (p : Pool π) (k : Nat) : Turnover p (p.renounce k).1 := by
  have hgranted : (p.withdraw k).granted.Sublist p.granted := List.filter_sublist
  have hqueue : (p.withdraw k).queue.Sublist p.queue := List.filter_sublist.map _
  cases hx : p.handout? k with
  | none =>
    rw [renounce_none hx]
    exact .leaves hgranted hqueue
  | some x =>
    cases x with
    | page page =>
      rw [renounce_page hx]
      exact .release hgranted hqueue page
    | room =>
      rw [renounce_room hx]
      exact .yieldRoom hgranted hqueue
    | refused =>
      rw [renounce_refused hx]
      exact .leaves hgranted hqueue

end Turnover

theorem queue_forsake (p : Pool π) (k : Nat) : (p.forsake k).queue = p.queue := by
  simp only [queue, forsake, List.map_map]
  refine List.map_congr_left fun w _ => ?_
  simp only [Function.comp]
  split <;> rfl

section
variable [DecidableEq π] {p q : Pool π} {s t : Stake π} {m : Manner} {k l : Nat}

theorem Move.turnover (hm : Move m p s q t) (hopen : m ≠ .closing) : Turnover p q := by
  cases hm with
  | acquire => exact .acquire p
  | redeem p k => exact .redeem p k
  | tell p k => exact .leaves (.refl _) (queue_forsake p k ▸ .refl _)
  | renounce p k => exact .renounce p k
  | created p page fresh =>
    rw [created_eq fresh]
    exact .leaves (.refl _) (.refl _)
  | notCreated => exact .yieldRoom (.refl _) (.refl _)
  | bringBack p page | release p page => exact .release (.refl _) (.refl _) page
  | shut | clear => exact absurd rfl hopen

/-- Who has a ticket after a move has just drawn it, or had it before and has been told to give up. -/
theorem Move.ticket_cases {b : Bool} (hm : Move m p s q (.ticket k b)) :
    (s = .nothing ∧ k = p.nextTicket ∧ b = false ∧ q.granted = p.granted) ∨
      ∃ a, s = .ticket k a ∧ b = true ∧ q = p.forsake k := by
  generalize ht : Stake.ticket k b = t at hm
  cases hm with
  | acquire =>
    refine .inl ?_
    rcases acquire_cases p with ⟨-, heq⟩ | ⟨-, page, rest, -, heq⟩ | ⟨-, -, -, heq⟩ |
      ⟨-, -, -, heq⟩ <;> rw [heq] at ht ⊢ <;> cases ht
    exact ⟨rfl, rfl, rfl, rfl⟩
  | redeem p j =>
    cases ha : (p.redeem j).2 with
    | queue l => exact absurd ha (redeem_ne_queue p j l)
    | page | create | refused =>
      rw [ha] at ht
      cases ht
  | tell p j a =>
    cases ht
    exact .inr ⟨a, rfl, rfl, rfl⟩
  | renounce | created | notCreated | bringBack | release | shut | clear => cases ht

theorem Move.of_waiting (hm : Move m p (.ticket k false) q t) (hk : p.handout? k = none) :
    t = .ticket k true ∧ q = p.forsake k := by
  cases hm with
  | redeem _ _ h => simp [hk] at h
  | tell => exact ⟨rfl, rfl⟩

/-- As long as somebody waits, only who was granted something gets a page or is to create one. -/
theorem Move.needs_ticket (hm : Move m p s q t) (hbusy : Busy p)
    (hwaiter : HasWaiter p.waiters) (ht : t = .creation ∨ ∃ page, t = .page page) :
    s = .creation ∨ ∃ k, s = .ticket k false ∧ (p.handout? k).isSome = true := by
  obtain ⟨hnil, hfull⟩ := hbusy hwaiter
  cases hm with
  | acquire =>
    rcases acquire_cases p with ⟨-, heq⟩ | ⟨-, page, rest, ha, -⟩ | ⟨-, -, hroom, -⟩ |
      ⟨-, -, -, heq⟩
    · rw [heq] at ht
      simp [stakeOf] at ht
    · rw [hnil] at ha
      cases ha
    · exact absurd hfull (Int.ne_of_lt hroom)
    · rw [heq] at ht
      simp [stakeOf] at ht
  | redeem p k hk => exact .inr ⟨k, rfl, hk⟩
  | created => exact .inl rfl
  | tell | renounce | notCreated | bringBack | release | shut | clear => simp at ht

end

namespace Turnover

variable {p q : Pool π} {k l : Nat}

/-- The line stays sorted. -/
theorem sorted (h : Turnover p q) (hdrawn : ∀ k ∈ p.line, k < p.nextTicket)
    (hp : p.line.Pairwise (· < ·)) : q.line.Pairwise (· < ·) := by
  cases h with
  | leaves hgranted hqueue => exact hp.sublist ((hgranted.map _).append hqueue)
  | draws hgranted hqueue =>
    rw [line, hgranted, hqueue, ← List.append_assoc]
    refine List.pairwise_append.2 ⟨hp, List.pairwise_singleton _ _, fun j hj k hk => ?_⟩
    obtain rfl := List.mem_singleton.1 hk
    exact hdrawn j hj
  | grants gs k x _ hgs hgranted hqueue =>
    rw [line, hgranted, List.map_append, List.append_assoc]
    exact hp.sublist ((hgs.map _).append hqueue)

theorem unrefused (h : Turnover p q) (hp : ∀ g ∈ p.granted, g.2 ≠ .refused) :
    ∀ g ∈ q.granted, g.2 ≠ .refused := by
  intro g hg
  cases h with
  | leaves hgranted _ => exact hp g (hgranted.subset hg)
  | draws hgranted _ => exact hp g (hgranted ▸ hg)
  | grants gs k x hx hgs hgranted _ =>
    rw [hgranted] at hg
    rcases List.mem_append.1 hg with hg | hg
    · exact hp g (hgs.subset hg)
    · obtain rfl := List.mem_singleton.1 hg
      exact hx

theorem queued_before (h : Turnover p q) (hk : k ∈ q.queue) : k ∈ p.queue ∨ k = p.nextTicket := by
  cases h with
  | leaves _ hqueue => exact .inl (hqueue.subset hk)
  | draws _ hqueue =>
    rw [hqueue] at hk
    simpa using hk
  | grants gs j x _ _ _ hqueue => exact .inl (hqueue.subset (List.mem_cons_of_mem _ hk))

/-- No move grants something to two tickets. -/
theorem grants_one (h : Turnover p q) (hk : p.handout? k = none) (hl : p.handout? l = none)
    (hk' : (q.handout? k).isSome = true) (hl' : (q.handout? l).isSome = true) : k = l := by
  have hnew : ∀ {gs : List (Nat × Handout π)} {j : Nat}, gs.Sublist p.granted →
      p.handout? j = none → ∀ g ∈ gs, g.1 ≠ j := fun hgs hj g hg =>
    handout?_eq_none_iff.1 hj g (hgs.subset hg)
  obtain ⟨g, hg, rfl⟩ := isSome_handout?_iff.1 hk'
  obtain ⟨g', hg', rfl⟩ := isSome_handout?_iff.1 hl'
  cases h with
  | leaves hgranted _ => exact absurd rfl (hnew hgranted hk g hg)
  | draws hgranted _ => exact absurd rfl (hnew (hgranted ▸ .refl _) hk g hg)
  | grants gs j x _ hgs hgranted _ =>
    rw [hgranted] at hg hg'
    have hlast : ∀ {f : Nat × Handout π}, f ∈ gs ++ [(j, x)] → p.handout? f.1 = none → f.1 = j := by
      intro f hf hnone
      rcases List.mem_append.1 hf with hf | hf
      · exact absurd rfl (hnew hgs hnone f hf)
      · exact congrArg Prod.fst (List.mem_singleton.1 hf)
    exact (hlast hg hk).trans (hlast hg' hl).symm

end Turnover

namespace Crowd

/-! ## Callers in line -/

/-- The ticket of the `i`-th caller was granted a page or room for one. -/
def Granted (c : State π) (i : Nat) : Prop :=
  ∃ k told x, (stakes c)[i]? = some (.ticket k told) ∧ c.pool.handout? k = some x ∧ x ≠ .refused

/-- The `i`-th caller has a page or creates one. -/
def HasPage (c : State π) (i : Nat) : Prop :=
  (stakes c)[i]? = some .creation ∨ ∃ page, (stakes c)[i]? = some (.page page)

/-- The `i`-th caller has got what it came for, or is about to be told so. -/
def Served (c : State π) (i : Nat) : Prop := Granted c i ∨ HasPage c i

/-- The `i`-th caller was told to give up before its ticket was granted anything. -/
def GivenUp (c : State π) (i : Nat) : Prop :=
  ∃ k, (stakes c)[i]? = some (.ticket k true) ∧ c.pool.handout? k = none

section
variable {c : State π} {i k : Nat} {told : Bool}

theorem mem_tickets_iff : (k, told) ∈ tickets (stakes c) ↔
    ∃ i : Nat, (stakes c)[i]? = some (.ticket k told) := by
  simp only [tickets, List.mem_filterMap, Stake.ticket?_eq_some, exists_eq_right]
  exact List.mem_iff_getElem?

theorem drawn (h : Accounts c.pool (stakes c)) (hi : (stakes c)[i]? = some (.ticket k told)) :
    k < c.pool.nextTicket :=
  h.ticketed.drawn _ (mem_tickets_iff.2 ⟨i, hi⟩)

theorem pending_iff_handout : Pending c i ↔
    ∃ k, (stakes c)[i]? = some (.ticket k false) ∧ c.pool.handout? k = none := by
  simp only [Pending, stakes, List.getElem?_map, Option.map_eq_some_iff]
  constructor
  · rintro ⟨x, k, hx, hs, hk⟩
    exact ⟨k, ⟨x, hx, hs⟩, hk⟩
  · rintro ⟨k, ⟨x, hx, hs⟩, hk⟩
    exact ⟨x, k, hx, hs, hk⟩

theorem pending_iff_queued (h : Accounts c.pool (stakes c)) : Pending c i ↔
    ∃ k, (stakes c)[i]? = some (.ticket k false) ∧ k ∈ c.pool.queue := by
  refine pending_iff_handout.trans (exists_congr fun k => and_congr_right fun hi => ?_)
  rw [handout?_eq_none_iff]
  constructor
  · intro hk
    rcases h.ticketed.served k (mem_tickets_iff.2 ⟨i, hi⟩) with ⟨w, hw, rfl⟩ | ⟨g, hg, rfl⟩
    · exact List.mem_map_of_mem hw
    · exact absurd rfl (hk g hg)
  · intro hk g hg heq
    obtain ⟨w, hw, rfl⟩ := List.mem_map.1 hk
    exact h.ticketed.apart g hg w hw heq.symm

end

/-- What holds of an open pool and its callers: the line is sorted, callers drew their tickets in the
order in which they came, and who came after somebody who waits has got nothing. -/
structure Lined (c : State π) : Prop where
  keeps : Keeps (· ≠ .closing) (fun p ss => Accounts p ss ∧ p.isClosed = false ∧ Busy p) c
  sorted : c.pool.line.Pairwise (· < ·)
  unrefused : ∀ g ∈ c.pool.granted, g.2 ≠ .refused
  seniority : ∀ {i j k l : Nat} {a b : Bool}, i < j → (stakes c)[i]? = some (.ticket k a) →
    (stakes c)[j]? = some (.ticket l b) → k < l
  latecomers : ∀ {i j : Nat}, i < j → Pending c i → ¬ HasPage c j

namespace Lined

variable {c : State π} {i j k : Nat}

theorem accounts (hc : Lined c) : Accounts c.pool (stakes c) := hc.keeps.holds.1

theorem busy (hc : Lined c) : Busy c.pool := hc.keeps.holds.2.2

theorem line_drawn (hc : Lined c) : ∀ k ∈ c.pool.line, k < c.pool.nextTicket := by
  intro k hk
  have h := hc.accounts.ticketed
  rcases List.mem_append.1 hk with hk | hk
  · obtain ⟨g, hg, rfl⟩ := List.mem_map.1 hk
    obtain ⟨b, hb⟩ := h.granted g hg
    exact h.drawn _ hb
  · obtain ⟨w, hw, rfl⟩ := List.mem_map.1 hk
    exact h.drawn _ (h.queued w hw)

theorem granted_of_isSome {told : Bool} (hc : Lined c)
    (hi : (stakes c)[i]? = some (.ticket k told)) (hk : (c.pool.handout? k).isSome = true) :
    Granted c i := by
  obtain ⟨x, hx⟩ := Option.isSome_iff_exists.1 hk
  have hmem := (handout?_eq_some_iff hc.accounts.ticketed.granted_distinct).1 hx
  exact ⟨k, told, x, hi, hx, hc.unrefused _ hmem⟩

theorem not_served (hc : Lined c) (hij : i < j) (hi : Pending c i) : ¬ Served c j := by
  rintro (⟨l, told, x, hj, hx, -⟩ | hpage)
  · obtain ⟨k, hik, hk⟩ := (pending_iff_queued hc.accounts).1 hi
    obtain ⟨g, hg, rfl⟩ := granted_of_handout? hx
    have hsorted := (List.pairwise_append.1 hc.sorted).2.2 g.1 (List.mem_map_of_mem hg) k hk
    have := hc.seniority hij hik hj
    omega
  · exact hc.latecomers hij hi hpage

end Lined

variable [DecidableEq π]

/-- The `i`-th caller, who may have just come, makes one move without closing the pool; the others stand
where they stood. -/
structure Plays (c d : State π) (i : Nat) (s t : Stake π) : Prop where
  before : s ≠ .nothing → (stakes c)[i]? = some s
  newcomer : s = .nothing → i = (stakes c).length
  after : (stakes d)[i]? = some t
  others : ∀ j, j ≠ i → (stakes d)[j]? = (stakes c)[j]?
  one : OneMove (· ≠ .closing) c.pool s d.pool t

section
variable {c d : State π} {e : Event π} {i j k m : Nat} {s t : Stake π}

/-- An event that does not close the pool is one move of one caller. -/
theorem exists_plays (hc : ∀ x ∈ c.callers, Conduct (· ≠ .closing) x.standing)
    (he : e.manner ≠ .closing) (hd : step c e = some d) : ∃ i s t, Plays c d i s t := by
  have hone : ∀ {p s q t}, OneMove (π := π) e.allows p s q t → OneMove (· ≠ .closing) p s q t :=
    fun ⟨m, hm, hmove⟩ => ⟨m, hm.1, hmove⟩
  cases step_stirs hc hd with
  | moves i x y hx hstake hcallers h _ =>
    obtain ⟨hi, -⟩ := List.getElem?_eq_some_iff.1 hx
    refine ⟨i, x.stake, y.stake, fun _ => getElem?_stakes hx, fun h => absurd h hstake, ?_,
      fun j hj => ?_, hone h⟩
    · simp [stakes, hcallers, hi]
    · simp [stakes, hcallers, List.getElem?_set_ne hj.symm]
  | comes y hcallers h _ =>
    refine ⟨(stakes c).length, .nothing, y.stake, fun h => absurd rfl h, fun _ => rfl, ?_,
      fun j hj => ?_, hone h⟩
    · simp [stakes, hcallers]
    · have hstakes : stakes d = stakes c ++ [y.stake] := by simp [stakes, hcallers]
      rw [hstakes, List.getElem?_append]
      split
      · rfl
      · rename_i hge
        rw [List.getElem?_eq_none (Nat.le_of_not_lt hge), List.getElem?_eq_none]
        simp only [List.length_singleton]
        omega
  | shuts => exact absurd rfl he
  | shutsNext i r page rest told hx =>
    exact absurd rfl (hc _ (List.mem_of_getElem? hx)).allowed

namespace Plays

theorem lt_or_eq (h : Plays c d m s t) : m < (stakes c).length ∨ m = (stakes c).length := by
  by_cases hs : s = .nothing
  · exact .inr (h.newcomer hs)
  · exact .inl (List.getElem?_eq_some_iff.1 (h.before hs)).1

theorem none_behind (h : Plays c d m s t) (hj : (stakes c).length < j) : (stakes d)[j]? = none := by
  have hm := h.lt_or_eq
  rw [h.others j (by omega)]
  exact List.getElem?_eq_none (Nat.le_of_lt hj)

theorem stake_eq {u : Stake π} (h : Plays c d m s t) (hm : (stakes c)[m]? = some u) : s = u := by
  by_cases hs : s = .nothing
  · have hlt := (List.getElem?_eq_some_iff.1 hm).1
    have := h.newcomer hs
    omega
  · exact Option.some.inj ((h.before hs).symm.trans hm)

theorem turnover (h : Plays c d m s t) : Turnover c.pool d.pool := by
  obtain ⟨_, hopen, hmove⟩ := h.one
  exact hmove.turnover hopen

/-- Who waits waited before, or has just come. -/
theorem pending_before (h : Plays c d m s t) (hc : Lined c) (hd : Accounts d.pool (stakes d))
    (hi : Pending d i) : Pending c i ∨ i = (stakes c).length := by
  obtain ⟨k, hik, hk⟩ := (pending_iff_queued hd).1 hi
  by_cases him : i = m
  · subst him
    obtain rfl : t = .ticket k false := Option.some.inj (h.after.symm.trans hik)
    obtain ⟨_, -, hmove⟩ := h.one
    rcases hmove.ticket_cases with ⟨hs, -⟩ | ⟨a, -, hfalse, -⟩
    · exact .inr (h.newcomer hs)
    · cases hfalse
  · rw [h.others i him] at hik
    have hlt := drawn hc.accounts hik
    refine .inl ((pending_iff_queued hc.accounts).2 ⟨k, hik, ?_⟩)
    rcases h.turnover.queued_before hk with hk | rfl
    · exact hk
    · exact absurd hlt (Nat.lt_irrefl _)

/-- While somebody waits, one who came later does not get a page in one move. -/
theorem not_hasPage (h : Plays c d m s t) (hc : Lined c) (hij : i < j) (hi : Pending c i) :
    ¬ HasPage d j := by
  intro hpage
  by_cases hjm : j = m
  · subst hjm
    obtain ⟨_, -, hmove⟩ := h.one
    have ht : t = .creation ∨ ∃ page, t = .page page := by
      simpa [HasPage, h.after] using hpage
    refine hc.not_served hij hi ?_
    rcases hmove.needs_ticket hc.busy ((hasWaiter_iff_pending hc.accounts).2 ⟨i, hi⟩) ht with
      rfl | ⟨k, rfl, hk⟩
    · exact .inr (.inl (h.before nofun))
    · exact .inl (hc.granted_of_isSome (h.before nofun) hk)
  · rw [HasPage, h.others j hjm] at hpage
    exact hc.latecomers hij hi hpage

/-- Callers draw tickets in the order in which they come. -/
theorem seniority (h : Plays c d m s t) (hc : Lined c) {l : Nat} {a b : Bool} (hij : i < j)
    (hi : (stakes d)[i]? = some (.ticket k a)) (hj : (stakes d)[j]? = some (.ticket l b)) : k < l := by
  obtain ⟨_, -, hmove⟩ := h.one
  by_cases him : i = m
  · subst him
    obtain rfl : t = .ticket k a := Option.some.inj (h.after.symm.trans hi)
    rcases hmove.ticket_cases with ⟨hs, -⟩ | ⟨a', rfl, -⟩
    · rw [h.none_behind (h.newcomer hs ▸ hij)] at hj
      cases hj
    · rw [h.others j (by omega)] at hj
      exact hc.seniority hij (h.before nofun) hj
  · rw [h.others i him] at hi
    by_cases hjm : j = m
    · subst hjm
      obtain rfl : t = .ticket l b := Option.some.inj (h.after.symm.trans hj)
      rcases hmove.ticket_cases with ⟨-, rfl, -⟩ | ⟨b', rfl, -⟩
      · exact drawn hc.accounts hi
      · exact hc.seniority hij hi (h.before nofun)
    · rw [h.others j hjm] at hj
      exact hc.seniority hij hi hj

/-- Somebody who waited has been told to give up, or its ticket was granted something; nobody who came
later has got anything by that. -/
theorem served_first (h : Plays c d m s t) (hc : Lined c) (hd : Lined d) (hij : i < j)
    (hi : Pending c i) (hi' : ¬ Pending d i) :
    (Granted d i ∨ GivenUp d i) ∧ ¬ Served d j := by
  obtain ⟨k, hik, hk⟩ := pending_iff_handout.1 hi
  obtain ⟨_, -, hmove⟩ := h.one
  have hsame : d.pool.granted = c.pool.granted → d.pool.handout? k = none := fun heq => by
    rw [handout?, heq]
    exact hk
  by_cases him : i = m
  · subst him
    obtain rfl := h.stake_eq hik
    obtain ⟨rfl, hpool⟩ := hmove.of_waiting hk
    refine ⟨.inr ⟨k, h.after, hsame (by rw [hpool]; rfl)⟩, fun hj => hc.not_served hij hi ?_⟩
    have hothers := h.others j (by omega)
    rwa [Served, Granted, HasPage, hothers, hpool] at hj
  · have hik' : (stakes d)[i]? = some (.ticket k false) := (h.others i him).trans hik
    have hgranted : (d.pool.handout? k).isSome = true := by
      rw [← Option.ne_none_iff_isSome]
      exact fun hnone => hi' (pending_iff_handout.2 ⟨k, hik', hnone⟩)
    refine ⟨.inl (hd.granted_of_isSome hik' hgranted), ?_⟩
    rintro (⟨l, a, x, hj, hx, hrefused⟩ | hpage)
    · have hlt := hd.seniority hij hik' hj
      by_cases hjm : j = m
      · -- who has a ticket after its move has not had anything granted by that
        subst hjm
        obtain rfl : t = .ticket l a := Option.some.inj (h.after.symm.trans hj)
        have heq : d.pool.granted = c.pool.granted := by
          rcases hmove.ticket_cases with ⟨-, -, -, heq⟩ | ⟨_, -, -, heq⟩ <;> rw [heq]
          rfl
        simp [hsame heq] at hgranted
      · rw [h.others j hjm] at hj
        cases hl : c.pool.handout? l with
        | none =>
          have := h.turnover.grants_one hk hl hgranted (by simp [hx])
          omega
        | some x =>
          exact hc.not_served hij hi (.inl (hc.granted_of_isSome hj (by simp [hl])))
    · exact h.not_hasPage hc hij hi hpage

end Plays

/-- What holds of an open pool and its callers is kept by every event that does not close the pool. -/
theorem Lined.step (hc : Lined c) (he : e.manner ≠ .closing) (hd : step c e = some d) : Lined d := by
  obtain ⟨m, s, t, h⟩ := exists_plays hc.keeps.conduct he hd
  have hkeeps := step_keeps stable_busy nofun he hc.keeps hd
  refine ⟨hkeeps, h.turnover.sorted hc.line_drawn hc.sorted, h.turnover.unrefused hc.unrefused,
    fun hij => h.seniority hc hij, fun {i j} hij hi => ?_⟩
  rcases h.pending_before hc hkeeps.holds.1 hi with hi | rfl
  · exact h.not_hasPage hc hij hi
  · simp [HasPage, h.none_behind hij]

theorem Lined.run : ∀ {es : List (Event π)} {c : State π}, (∀ e ∈ es, e.manner ≠ .closing) →
    Lined c → run c es = some d → Lined d
  | [], c, _, hc, hd => by
    obtain rfl := Option.some.inj hd
    exact hc
  | e :: es, c, hes, hc, hd => by
    obtain ⟨b, hb, hd⟩ := Option.bind_eq_some_iff.1 hd
    exact Lined.run (fun e he => hes e (by simp [he])) (hc.step (hes e (by simp)) hb) hd

omit [DecidableEq π] in
theorem lined_empty (n : Nat) : Lined ({ pool := { maxPages := n } } : State π) where
  keeps := ⟨⟨accounts_empty n, rfl, Busy.of_waiters_nil rfl⟩, by simp⟩
  sorted := .nil
  unrefused := nofun
  seniority _ hi := by simp [stakes] at hi
  latecomers _ _ := by simp [HasPage, stakes]

/-- Somebody who waited waits no longer: there is an event before which it waited and by which it was
granted something or told to give up, and that event has served nobody who came later. -/
theorem exists_served_first : ∀ {es : List (Event π)} {c : State π}, (∀ e ∈ es, e.manner ≠ .closing) →
    Lined c → Crowd.run c es = some d → Pending c i → ¬ Pending d i → i < j →
    ∃ es₀ e es₁ b b', es = es₀ ++ e :: es₁ ∧ Crowd.run c es₀ = some b ∧ Crowd.step b e = some b' ∧
      Pending b i ∧ (Granted b' i ∨ GivenUp b' i) ∧ ¬ Served b' j
  | [], c, _, _, hd, hi, hi', _ => by
    obtain rfl := Option.some.inj hd
    exact absurd hi hi'
  | e :: es, c, hes, hc, hd, hi, hi', hij => by
    obtain ⟨b, hb, hd⟩ := Option.bind_eq_some_iff.1 hd
    have he : e.manner ≠ .closing := hes e (by simp)
    have hline := hc.step he hb
    by_cases hbi : Pending b i
    · obtain ⟨es₀, e', es₁, b₀, b₁, rfl, hrun, hrest⟩ :=
        exists_served_first (fun e he => hes e (by simp [he])) hline hd hbi hi' hij
      refine ⟨e :: es₀, e', es₁, b₀, b₁, rfl, ?_, hrest⟩
      rw [Crowd.run, hb]
      exact hrun
    · obtain ⟨m, s, t, h⟩ := exists_plays hc.keeps.conduct he hb
      exact ⟨[], e, es, c, b, rfl, rfl, hb, hi, h.served_first hc hline hij hi hbi⟩

end

/-- Callers are numbered in the order in which they come, which is the order in which those queue up who
have to. As long as nobody closes the pool, a caller who came after one who waits has neither a page nor
room for one, nor was its ticket granted any; and if it has got one of these in the end, then before that
the one who came first was granted a page or room for one, unless it was told to give up. -/
theorem first_come_first_served {limit : Int} {es es' : List (Event π)} {c d : State π} {i j : Nat}
    (hes : ∀ e ∈ es ++ es', e.manner ≠ .closing) (hc : after limit es = some c)
    (hd : run c es' = some d) (hi : Pending c i) (hij : i < j) :
    (Pending d i → ¬ Served d j) ∧
    (Served d j → ∃ es₀ e es₁ b b', es' = es₀ ++ e :: es₁ ∧ run c es₀ = some b ∧
      step b e = some b' ∧ Pending b i ∧ (Granted b' i ∨ GivenUp b' i) ∧ ¬ Served b' j) := by
  have hline : Lined c := (lined_empty limit.toNat).run (fun e he => hes e (by simp [he]))
    (after_eq_some hc).2
  have hes' : ∀ e ∈ es', e.manner ≠ .closing := fun e he => hes e (by simp [he])
  have hnone : Pending d i → ¬ Served d j := (hline.run hes' hd).not_served hij
  exact ⟨hnone, fun hj => exists_served_first hes' hline hd hi (fun h => hnone h hj) hij⟩

/-- The only page is lent, and two callers wait for it. -/
def twoWait : List (Event Nat) := oneWaits ++ [.enter .lease]

/-- The page comes back, another caller comes, and the first of those who wait uses the page. -/
def firstServed : List (Event Nat) := [.bringBack 0, .enter .acquire, .hear 1, .goOn 1 (.ok ())]

theorem first_come_first_served_twoWait : ∃ c d, after 1 twoWait = some c ∧
    run c firstServed = some d ∧ Pending c 1 ∧ Served d 2 ∧ (Pending d 1 → ¬ Served d 2) ∧
    (Served d 2 → ∃ es₀ e es₁ b b', firstServed = es₀ ++ e :: es₁ ∧ run c es₀ = some b ∧
      step b e = some b' ∧ Pending b 1 ∧ (Granted b' 1 ∨ GivenUp b' 1) ∧ ¬ Served b' 2) :=
  ⟨_, _, rfl, rfl, ⟨_, 0, rfl, rfl, rfl⟩, .inl ⟨1, false, .page 7, rfl, rfl, nofun⟩,
    first_come_first_served (by decide : ∀ e ∈ twoWait ++ firstServed, e.manner ≠ .closing)
      (rfl : after 1 twoWait = some _) rfl ⟨_, 0, rfl, rfl, rfl⟩ (by decide)⟩

end Crowd
end BrowserPlan.Pool
