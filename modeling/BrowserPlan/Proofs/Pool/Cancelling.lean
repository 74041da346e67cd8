import BrowserPlan.Proofs.Pool.Order

/-!
# Giving up

A caller who is told to give up while it waits leaves its ticket as it is: whoever still stands in
the queue for it has given up, so the pool grants it nothing any more, and what it was granted before
stays until the caller has its turn (`Move.handout?_of_told`, `stable_told`). In its turn the caller
passes that on and comes to its end (`told_ends`), never with a page: with the cancellation, unless it
had been refused, or the pool has forgotten or taken back the page that it passes on. Then a fault of
the pool takes the place of the cancellation (`told_ends_otherwise`).
-/
namespace BrowserPlan.Pool

open BrowserPlan.Task

variable {π : Type}

/-! ## Tickets whose owners were told -/

section
variable {p : Pool π} {k l : Nat} {tk : List (Nat × Bool)}

theorem Ticketed.ne_of_nextWaiter? {ws rest : List PoolWaiter} {gs : List (Nat × Handout π)} {n : Nat}
    (h : Ticketed ws gs n tk) (hk : (k, true) ∈ tk) (hw : nextWaiter? ws = some (l, rest)) :
    l ≠ k := by
  rintro rfl
  obtain ⟨gone, rfl, -⟩ := nextWaiter?_eq_some hw
  have hl : (l, false) ∈ tk := h.queued ⟨l, false⟩ (by simp)
  cases h.unique hk hl

theorem handout?_yieldRoom (h : Ticketed p.waiters p.granted p.nextTicket tk) (hk : (k, true) ∈ tk) :
    p.yieldRoom.1.handout? k = p.handout? k := by
  rw [yieldRoom]
  rcases grantRoom_cases { p with creating := p.creating - 1 } with ⟨l, rest, hw, heq⟩ | ⟨-, heq⟩
  · rw [heq]
    exact handout?_append rfl (by simpa using h.ne_of_nextWaiter? hk hw)
  · rw [heq]
    exact handout?_of_granted rfl k

theorem handout?_shut (h : Ticketed p.waiters p.granted p.nextTicket tk) (hk : (k, true) ∈ tk) :
    p.shut.1.handout? k = p.handout? k := by
  refine handout?_append rfl fun g hg => ?_
  obtain ⟨t, ht, rfl⟩ := List.mem_map.1 hg
  obtain ⟨w, hw, rfl⟩ := List.mem_map.1 ht
  obtain ⟨hmem, hwaits⟩ := List.mem_filter.1 hw
  rintro rfl
  -- only those who have not given up are refused
  rw [h.unique (h.queued w hmem) hk] at hwaits
  cases hwaits

variable [DecidableEq π]

theorem handout?_release (h : Ticketed p.waiters p.granted p.nextTicket tk) (hk : (k, true) ∈ tk)
    (page : π) : (p.release page).1.handout? k = p.handout? k := by
  rcases release_cases p page with ⟨heq, -⟩ | ⟨-, -, ⟨l, rest, hw, heq⟩ | ⟨-, heq⟩⟩
  · rw [heq]
  · rw [heq]
    exact handout?_append rfl (by simpa using h.ne_of_nextWaiter? hk hw)
  · rw [heq]
    exact handout?_of_granted rfl k

end

section
variable [DecidableEq π] {p q : Pool π} {s t : Stake π} {ss : List (Stake π)} {m : Manner}
  {k l : Nat}

omit [DecidableEq π] in
theorem Accounts.ne_of_mem {a b : Bool} (h : Accounts p (.ticket l a :: ss))
    (hk : (k, b) ∈ tickets ss) : l ≠ k := by
  rintro rfl
  exact (List.nodup_cons.1 h.ticketed.distinct).1 (List.mem_map.2 ⟨(l, b), hk, rfl⟩)

omit [DecidableEq π] in
theorem handout?_redeem (hlk : l ≠ k) : (p.redeem l).1.handout? k = p.handout? k := by
  rw [← handout?_settle (p := p) hlk]
  unfold redeem
  split
  · rfl
  · split <;> rfl
  · rfl
  · rfl

/-- Another caller gives up. -/
theorem handout?_renounce {b : Bool} (h : Accounts p (.ticket l b :: ss))
    (hk : (k, true) ∈ tickets ss) : (p.renounce l).1.handout? k = p.handout? k := by
  have hwithdraw : (p.withdraw l).handout? k = p.handout? k := handout?_settle (h.ne_of_mem hk)
  obtain ⟨hticketed, -, -⟩ := h.settled
  cases hx : p.handout? l with
  | none => rw [renounce_none hx, hwithdraw]
  | some x =>
    cases x with
    | page page => rw [renounce_page hx, handout?_release hticketed hk, hwithdraw]
    | room => rw [renounce_room hx, handout?_yieldRoom hticketed hk, hwithdraw]
    | refused => rw [renounce_refused hx, hwithdraw]

omit [DecidableEq π] in
theorem mem_tickets_cons {b : Bool} (hk : (k, b) ∈ tickets ss) : (k, b) ∈ tickets (s :: ss) :=
  ((List.sublist_cons_self s ss).filterMap Stake.ticket?).subset hk

/-- Whatever another caller does, a ticket whose owner was told to give up keeps what it was granted,
and is granted nothing else. -/
theorem Move.handout?_of_told (hm : Move m p s q t) (h : Accounts p (s :: ss))
    (hk : (k, true) ∈ tickets ss) : q.handout? k = p.handout? k := by
  have hticketed := h.ticketed
  have hmem : (k, true) ∈ tickets (s :: ss) := mem_tickets_cons hk
  cases hm with
  | acquire =>
    refine handout?_of_granted ?_ k
    rcases acquire_cases p with ⟨-, heq⟩ | ⟨-, page, rest, -, heq⟩ | ⟨-, -, -, heq⟩ |
      ⟨-, -, -, heq⟩ <;> exact heq ▸ rfl
  | redeem p l => exact handout?_redeem (h.ne_of_mem hk)
  | tell => exact handout?_of_granted rfl k
  | renounce p l => exact handout?_renounce h hk
  | created p page fresh =>
    rw [created_eq fresh]
    exact handout?_of_granted rfl k
  | notCreated => exact handout?_yieldRoom hticketed hmem
  | bringBack p page | release p page => exact handout?_release hticketed hmem page
  | shut => exact handout?_shut hticketed hmem
  | clear => exact handout?_of_granted rfl k

/-- Ticket `k` was drawn, its owner has been told to give up or has settled it, and as long as it is
at stake it has been granted `x`. -/
structure Told (k : Nat) (x : Option (Handout π)) (p : Pool π) (ss : List (Stake π)) : Prop where
  drawn : k < p.nextTicket
  told : (k, false) ∉ tickets ss
  granted : (k, true) ∈ tickets ss → p.handout? k = x

theorem Move.ticket_of_drawn {b : Bool} (hm : Move m p s q (.ticket k b)) (hk : k < p.nextTicket) :
    ∃ a, s = .ticket k a ∧ b = true ∧ q = p.forsake k := by
  rcases hm.ticket_cases with ⟨-, rfl, -, -⟩ | h
  · exact absurd hk (Nat.lt_irrefl _)
  · exact h

theorem Move.nextTicket_le (hm : Move m p s q t) : p.nextTicket ≤ q.nextTicket := by
  cases hm with
  | acquire => exact nextTicket_perform .acquire
  | redeem p l => exact nextTicket_perform (.redeem l)
  | tell => exact Nat.le_refl _
  | renounce p l => exact nextTicket_perform (.renounce l)
  | created p page => exact nextTicket_perform (.created page)
  | notCreated => exact nextTicket_perform .notCreated
  | bringBack p page | release p page => exact nextTicket_perform (.release page)
  | shut => exact nextTicket_perform .shut
  | clear => exact nextTicket_perform .clear

omit [DecidableEq π] in
theorem tickets_cons_cases {u : Nat × Bool} (h : u ∈ tickets (s :: ss)) :
    s = .ticket u.1 u.2 ∨ u ∈ tickets ss := by
  obtain ⟨r, hr, hu⟩ := List.mem_filterMap.1 h
  rcases List.mem_cons.1 hr with rfl | hr
  · exact .inl (Stake.ticket?_eq_some.1 hu)
  · exact .inr (List.mem_filterMap.2 ⟨r, hr, hu⟩)

/-- A ticket whose owner was told to give up keeps what it was granted until its owner has its turn. -/
theorem stable_told (k : Nat) (x : Option (Handout π)) : Stable (π := π) (fun _ => True)
    fun p ss => Accounts p ss ∧ Told k x p ss where
  perm hp h := by
    have hmem : ∀ u, u ∈ tickets _ ↔ u ∈ tickets _ := fun u => (hp.filterMap Stake.ticket?).mem_iff
    exact ⟨h.1.perm hp, h.2.drawn, fun hk => h.2.told ((hmem _).2 hk),
      fun hk => h.2.granted ((hmem _).2 hk)⟩
  join h := ⟨h.1.nothing, h.2.drawn, h.2.told, h.2.granted⟩
  move := by
    intro m p s q t ss hA hm ⟨hacc, htold⟩
    refine ⟨stable_accounts.move hA hm hacc, Nat.lt_of_lt_of_le htold.drawn hm.nextTicket_le,
      fun hk => ?_, fun hk => ?_⟩
    · rcases tickets_cons_cases hk with rfl | hk
      · obtain ⟨a, -, hfalse, -⟩ := hm.ticket_of_drawn htold.drawn
        cases hfalse
      · exact htold.told (mem_tickets_cons hk)
    · rcases tickets_cons_cases hk with rfl | hk
      · -- the owner is told again, which it has been before
        obtain ⟨a, rfl, -, rfl⟩ := hm.ticket_of_drawn htold.drawn
        have ha : (k, a) ∈ tickets (.ticket k a :: ss) := List.mem_cons_self
        cases a with
        | false => exact absurd ha htold.told
        | true => exact htold.granted ha
      · exact (hm.handout?_of_told hacc hk).trans (htold.granted (mem_tickets_cons hk))

end

/-! ## The end of one who gives up -/

section
variable [DecidableEq π] {p q : Pool π} {k : Nat} {page : π}

/-- What the pool says to one who brings a page back. -/
theorem release_fault (hn : (p.entries.map (·.page)).Nodup) : (p.release page).2.1 =
    if page ∈ lentPages p.entries then none
    else if page ∈ p.entries.map (·.page) then some .notOut else some .foreign := by
  split
  · exact release_of_mem_lentPages hn ‹_›
  · split
    · rw [release_of_notMem_lentPages ‹_› ‹_›]
    · rw [release, entryFor?_eq_none_iff.2 ‹_›]

/-- How a caller ends that gives up when its ticket was granted `x`. -/
def endOfTold (p : Pool π) : Option (Handout π) → Stop Crowd.Fault
  | none | some .room => .cancelled
  | some .refused => .failed (.pool .closed)
  | some (.page page) =>
    if page ∈ lentPages p.entries then .cancelled
    else if page ∈ p.entries.map (·.page) then .failed (.pool .notOut)
    else .failed (.pool .foreign)

theorem endOfTold_eq_cancelled_iff {x : Option (Handout π)} : endOfTold p x = .cancelled ↔
    x ≠ some .refused ∧ ∀ page, x = some (.page page) → page ∈ lentPages p.entries := by
  match x with
  | none => simp [endOfTold]
  | some .room => simp [endOfTold]
  | some .refused => simp [endOfTold]
  | some (.page page) =>
    by_cases hlent : page ∈ lentPages p.entries
    · simp [endOfTold, hlent]
    · by_cases hknown : page ∈ p.entries.map (·.page) <;> simp [endOfTold, hlent] <;> split <;> simp

end

namespace Crowd

variable [DecidableEq π] {c d : State π} {e : Event π} {i k : Nat}

/-- A caller who gives up passes on what it was granted and comes to its end. -/
theorem advance_heard_cancelled {p : Pool π} (hn : (p.entries.map (·.page)).Nodup) (u : Purpose) :
    advance ((heard k (.error .cancelled)).bind u.follow) p =
      ((p.renounce k).1, .over (.error (endOfTold p (p.handout? k)))) := by
  have hcall : advance ((heard k (.error .cancelled)).bind u.follow) p =
      advance ((unlessFault (.error .cancelled) (p.renounce k).2.1).bind u.follow) (p.renounce k).1 :=
    rfl
  rw [hcall]
  cases hx : p.handout? k with
  | none =>
    rw [renounce_none hx]
    rfl
  | some x =>
    cases x with
    | page page =>
      have hfault : (p.renounce k).2.1 = (p.release page).2.1 := by
        rw [renounce_page hx, release_fault hn]
        exact release_fault (p := p.withdraw k) hn
      rw [hfault, release_fault hn]
      simp only [endOfTold]
      split
      · rfl
      · split <;> rfl
    | room =>
      rw [renounce_room hx]
      rfl
    | refused =>
      rw [renounce_refused hx]
      rfl

omit [DecidableEq π] in
theorem getElem?_set_of_ne {x y : Caller π} {l : List (Caller π)} {j : Nat} (hx : l[i]? = some x)
    (hij : j ≠ i) : (l.set j y)[i]? = some x := by
  rw [List.getElem?_set_ne hij, hx]

/-- Who waits for a ticket stays where it is until it has its turn. -/
theorem waits_of_step {next : Outcome Fault Unit → Script π} {told : Bool}
    (hx : c.callers[i]? = some ⟨.paused (.signal (.granted k)) next, told⟩)
    (hd : step c e = some d) (he : e ≠ .hear i) :
    ∃ told', d.callers[i]? = some ⟨.paused (.signal (.granted k)) next, told'⟩ ∧
      (told = true → told' = true) := by
  have hstays : ∀ {j : Nat} {y : Caller π}, j ≠ i → d.callers = c.callers.set j y →
      ∃ told', d.callers[i]? = some ⟨.paused (.signal (.granted k)) next, told'⟩ ∧
        (told = true → told' = true) := fun hij hd => ⟨told, hd ▸ getElem?_set_of_ne hx hij, id⟩
  have hne : ∀ {j : Nat} {y : Caller π}, c.callers[j]? = some y →
      y.standing ≠ .paused (.signal (.granted k)) next → j ≠ i := by
    rintro j y hj hy rfl
    obtain rfl := Option.some.inj (hx.symm.trans hj)
    exact hy rfl
  -- what others do leaves the caller alone, and it can itself only be told to give up
  cases happens_of_step hd with
  | enter v =>
    obtain ⟨hlt, -⟩ := List.getElem?_eq_some_iff.1 hx
    exact ⟨told, (List.getElem?_append_left hlt).trans hx, id⟩
  | @tell j l next' b hj =>
    by_cases hij : j = i
    · subst hij
      cases Option.some.inj (hx.symm.trans hj)
      obtain ⟨hlt, -⟩ := List.getElem?_eq_some_iff.1 hx
      exact ⟨true, List.getElem?_set_self hlt, fun _ => rfl⟩
    · exact hstays hij rfl
  | hearTold | hear => exact hstays (fun h => he (congrArg _ h)) rfl
  | make hj | makeFails hj => exact hstays (hne hj (by rintro ⟨⟩)) rfl
  | used r hj | shut r hj => exact hstays (hne hj (by rintro ⟨⟩)) rfl
  | bringBack hj => exact hstays (hne hj (by rintro ⟨⟩)) rfl

/-- Who was told to give up is so until it has its turn. -/
theorem waits_of_run {next : Outcome Fault Unit → Script π} {es : List (Event π)} {told : Bool}
    (hx : c.callers[i]? = some ⟨.paused (.signal (.granted k)) next, told⟩)
    (hd : run c es = some d) (hes : .hear i ∉ es) :
    ∃ told', d.callers[i]? = some ⟨.paused (.signal (.granted k)) next, told'⟩ ∧
      (told = true → told' = true) := by
  induction es generalizing c told with
  | nil =>
    obtain rfl := Option.some.inj hd
    exact ⟨told, hx, id⟩
  | cons e es ih =>
    obtain ⟨b, hb, hd⟩ := Option.bind_eq_some_iff.1 hd
    have he : e ≠ .hear i := fun h => hes (h ▸ List.mem_cons_self)
    obtain ⟨told₁, hx₁, htold₁⟩ := waits_of_step hx hb he
    obtain ⟨told₂, hx₂, htold₂⟩ := ih hx₁ hd fun h => hes (List.mem_cons_of_mem _ h)
    exact ⟨told₂, hx₂, htold₂ ∘ htold₁⟩

omit [DecidableEq π] in
theorem eq_of_stake {x : Caller π} {told : Bool} (hs : x.stake = .ticket k told) :
    ∃ next, x = ⟨.paused (.signal (.granted k)) next, told⟩ := by
  rcases x with ⟨⟨(_ | _ | _) | _ | _, next⟩ | _ | _ | (_ | _ | _), b⟩ <;> cases hs
  exact ⟨next, rfl⟩

omit [DecidableEq π] in
/-- Where a caller stands who was told to give up, its ticket keeps what it has been granted. -/
theorem told_of_mem (hacc : Accounts c.pool (stakes c)) (hk : (k, true) ∈ tickets (stakes c)) :
    Told k (c.pool.handout? k) c.pool (stakes c) := by
  refine ⟨hacc.ticketed.drawn _ hk, fun hfalse => ?_, fun _ => rfl⟩
  cases hacc.ticketed.unique hk hfalse

/-- A caller is told to give up while it waits: until it has its turn it waits on, and its ticket keeps
what it had been granted. -/
theorem told_stays {next : Outcome Fault Unit → Script π} {told : Bool} {es : List (Event π)}
    (hc : Keeps (fun _ => True) Accounts c)
    (hx : c.callers[i]? = some ⟨.paused (.signal (.granted k)) next, told⟩)
    (hd : run c (.tell i :: es) = some d) (hes : .hear i ∉ es) :
    Keeps (fun _ => True) Accounts d ∧
      d.callers[i]? = some ⟨.paused (.signal (.granted k)) next, true⟩ ∧
      d.pool.handout? k = c.pool.handout? k := by
  obtain ⟨b, hb, hrun⟩ := Option.bind_eq_some_iff.1 hd
  have htold : Keeps (fun _ => True) Accounts b :=
    step_keeps stable_accounts trivial trivial hc hb
  obtain ⟨hlt, -⟩ := List.getElem?_eq_some_iff.1 hx
  simp only [step, hx] at hb
  obtain rfl := Option.some.inj hb
  have hxb := List.getElem?_set_self (l := c.callers)
    (a := ⟨.paused (.signal (.granted k)) next, true⟩) hlt
  have hgranted := handout?_of_granted (p := c.pool) (q := c.pool.forsake k) rfl k
  have hkept := told_of_mem htold.holds (mem_tickets.2 ⟨i, _, hxb, rfl⟩)
  have hafter := run_keeps (stable_told k ((c.pool.forsake k).handout? k)) trivial
    (fun _ _ => trivial) ⟨⟨htold.holds, hkept⟩, htold.conduct⟩ hrun
  obtain ⟨told', hxd, hstill⟩ := waits_of_run hxb hrun hes
  obtain rfl := hstill rfl
  exact ⟨⟨hafter.holds.1, hafter.conduct⟩, hxd,
    (hafter.holds.2.granted (mem_tickets.2 ⟨i, _, hxd, rfl⟩)).trans hgranted⟩

theorem stable_unrefused : Stable (π := π) (· ≠ .closing)
    fun p _ => ∀ g ∈ p.granted, g.2 ≠ .refused where
  perm _ h := h
  join h := h
  move hA hm h := (hm.turnover hA).unrefused h

/-- As long as nobody closes the pool and everybody brings back only what they hold, no ticket is
refused, and pages that tickets were granted are out. -/
theorem orderly_handout {limit : Int} {es : List (Event π)} (hes : ∀ e ∈ es, e.manner = .orderly)
    (hc : after limit es = some c) : c.pool.handout? k ≠ some .refused ∧
      ∀ page, c.pool.handout? k = some (.page page) → page ∈ lentPages c.pool.entries := by
  have hempty : Exclusive ({ maxPages := limit.toNat } : Pool π) [] := List.Perm.nil
  have hopen : ∀ m, m = Manner.orderly → m ≠ .closing := by
    rintro _ rfl
    nofun
  obtain ⟨⟨hacc, hexclusive⟩, hunrefused⟩ := after_keeps
    (stable_exclusive.and (stable_unrefused.mono hopen)) rfl hes
    ⟨⟨accounts_empty _, hempty⟩, by simp⟩ hc
  have hmem : ∀ x, c.pool.handout? k = some x → (k, x) ∈ c.pool.granted := fun x =>
    (handout?_eq_some_iff hacc.ticketed.granted_distinct).1
  refine ⟨fun hk => hunrefused _ (hmem _ hk) rfl, fun page hk => hexclusive.mem_iff.1 ?_⟩
  exact List.mem_append_right _ (mem_grantedPages.2 ⟨k, hmem _ hk⟩)

/-- A caller is told to give up while it waits, and later has its turn. It then comes to its end, and
gets no page: with the cancellation, unless it had been refused when it was told, or had been granted a
page that is not out any more (`endOfTold_eq_cancelled_iff`); then with a fault of the pool. As long as
nobody closes the pool and everybody brings back only what they hold, it ends with the cancellation. -/
theorem told_ends {limit : Int} {es es' : List (Event π)} {x : Caller π} {told : Bool}
    (hc : after limit es = some c) (hx : c.callers[i]? = some x) (hs : x.stake = .ticket k told)
    (hd : run c (.tell i :: es') = some d) (hes : .hear i ∉ es') :
    (∃ b, step d (.hear i) = some b ∧ b.callers = d.callers.set i
      ⟨.over (.error (endOfTold d.pool (c.pool.handout? k))), false⟩) ∧
    ((∀ e ∈ es ++ es', e.manner = .orderly) →
      endOfTold d.pool (c.pool.handout? k) = .cancelled) := by
  obtain ⟨next, rfl⟩ := eq_of_stake hs
  obtain ⟨hpos, hrun⟩ := after_eq_some hc
  have hbefore : Keeps (fun _ => True) Accounts c :=
    run_keeps stable_accounts trivial (fun _ _ => trivial) ⟨accounts_empty _, by simp⟩ hrun
  obtain ⟨hkeeps, hxd, hsame⟩ := told_stays hbefore hx hd hes
  refine ⟨?_, fun hord => ?_⟩
  · have hstep : step d (.hear i) = some (turn d i (next (.error .cancelled))) := by
      simp only [step, hxd]
    refine ⟨_, hstep, ?_⟩
    cases hkeeps.conduct _ (List.mem_of_getElem? hxd) with
    | waits _ u => rw [turn, advance_heard_cancelled hkeeps.holds.distinct u, hsame]
  · have hafter : after limit (es ++ .tell i :: es') = some d := by
      rw [after_append, hc]
      exact hd
    have hall : ∀ e ∈ es ++ .tell i :: es', e.manner = .orderly := by
      intro e he
      rcases List.mem_append.1 he with he | he
      · exact hord e (List.mem_append_left _ he)
      · rcases List.mem_cons.1 he with rfl | he
        · rfl
        · exact hord e (List.mem_append_right _ he)
    obtain ⟨hrefused, hlent⟩ := orderly_handout (k := k) hall hafter
    rw [hsame] at hrefused hlent
    exact endOfTold_eq_cancelled_iff.2 ⟨hrefused, hlent⟩

/-- The only page is handed to a second caller. -/
def handedOver : List (Event Nat) := oneWaits ++ [.bringBack 0]

theorem told_ends_handedOver : ∃ c d b, after 1 handedOver = some c ∧
    c.pool.handout? 0 = some (.page 7) ∧ run c [.tell 1, .enter .acquire] = some d ∧
    step d (.hear 1) = some b ∧
    b.callers = d.callers.set 1 ⟨.over (.error .cancelled), false⟩ ∧
    b.pool.handout? 1 = some (.page 7) := by
  refine ⟨_, _, _, rfl, rfl, rfl, rfl, ?_, rfl⟩
  obtain ⟨⟨b, hb, hcallers⟩, hcancelled⟩ := told_ends (i := 1) (k := 0)
    (rfl : after 1 handedOver = some _) rfl (rfl : _ = Stake.ticket 0 false)
    (rfl : run _ [.tell 1, .enter .acquire] = some _) (by simp)
  rw [hcancelled (by decide)] at hcallers
  cases hb
  exact hcallers

/-- A caller who was refused before it was told to give up ends with the refusal. A page that a caller
passes on is refused if the pool has been closed in the meantime, and so it is if somebody has brought
it back who did not hold it. -/
theorem told_ends_otherwise :
    (∃ d, after 1 (oneWaits ++ [.enter .close, .tell 1, .hear 1]) = some d ∧
      d.callers[1]? = some ⟨.over (.error (.failed (.pool .closed))), false⟩) ∧
    (∃ d, after 1 (handedOver ++ [.tell 1, .enter .close, .goOn 2 (.ok ()), .hear 1]) = some d ∧
      d.callers[1]? = some ⟨.over (.error (.failed (.pool .foreign))), false⟩) ∧
    ∃ d, after 1 (handedOver ++ [.tell 1, .enter (.release 7), .hear 1]) = some d ∧
      d.callers[1]? = some ⟨.over (.error (.failed (.pool .notOut))), false⟩ :=
  ⟨⟨_, rfl, rfl⟩, ⟨_, rfl, rfl⟩, _, rfl, rfl⟩

end Crowd

end BrowserPlan.Pool
