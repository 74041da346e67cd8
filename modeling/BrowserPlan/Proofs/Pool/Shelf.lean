import BrowserPlan.Pool.Basic
import Mathlib.Data.List.Nodup

/-!
# Pages of a pool, idle and lent

The entries of a pool fall into the idle ones and the lent ones. Taking a page from the shelf,
putting it back and creating one move a single page between the two lists (`lentPages_checkOut`,
`lentPages_putBack`, `created_eq`), and handing a page on moves none (`pages_handOn`). The lemmas at
the end say all that an operation of a pool can do, one case for each way through it.
-/
namespace BrowserPlan.Pool

variable {π : Type}

/-- The pages that are not in use. -/
def idlePages (es : List (PoolEntry π)) : List π := (es.filter fun e => !e.inUse).map (·.page)

/-- The pages that are in use. -/
def lentPages (es : List (PoolEntry π)) : List π := (es.filter (·.inUse)).map (·.page)

theorem mem_idlePages {es : List (PoolEntry π)} {page : π} :
    page ∈ idlePages es ↔ ∃ e ∈ es, e.inUse = false ∧ e.page = page := by
  simp [idlePages, and_assoc]

theorem mem_lentPages {es : List (PoolEntry π)} {page : π} :
    page ∈ lentPages es ↔ ∃ e ∈ es, e.inUse = true ∧ e.page = page := by
  simp [lentPages, and_assoc]

theorem idlePages_append (es fs : List (PoolEntry π)) :
    idlePages (es ++ fs) = idlePages es ++ idlePages fs := by
  simp [idlePages]

theorem lentPages_append (es fs : List (PoolEntry π)) :
    lentPages (es ++ fs) = lentPages es ++ lentPages fs := by
  simp [lentPages]

theorem idlePages_cons (e : PoolEntry π) (es : List (PoolEntry π)) :
    idlePages (e :: es) = if e.inUse then idlePages es else e.page :: idlePages es := by
  cases h : e.inUse <;> simp [idlePages, h]

theorem lentPages_cons (e : PoolEntry π) (es : List (PoolEntry π)) :
    lentPages (e :: es) = if e.inUse then e.page :: lentPages es else lentPages es := by
  cases h : e.inUse <;> simp [lentPages, h]

theorem length_idle_add_lent (es : List (PoolEntry π)) :
    es.length = (idlePages es).length + (lentPages es).length := by
  induction es with
  | nil => rfl
  | cons e es ih => rw [idlePages_cons, lentPages_cons]; split <;> simp <;> omega

/-! ## The queue -/

theorem nextWaiter?_eq_none_iff {ws : List PoolWaiter} :
    nextWaiter? ws = none ↔ ∀ w ∈ ws, w.isCancelled = true := by
  induction ws with
  | nil => simp [nextWaiter?]
  | cons w ws ih => by_cases h : w.isCancelled = true <;> simp [nextWaiter?, h, ih]

/-- The oldest waiter stands behind others only if they have given up. -/
theorem nextWaiter?_eq_some {ticket : Nat} {rest : List PoolWaiter} : ∀ {ws : List PoolWaiter},
    nextWaiter? ws = some (ticket, rest) →
      ∃ gone, ws = gone ++ ⟨ticket, false⟩ :: rest ∧ ∀ w ∈ gone, w.isCancelled = true
  | [], h => by simp [nextWaiter?] at h
  | ⟨k, true⟩ :: ws, h => by
    have h' : nextWaiter? ws = some (ticket, rest) := by simpa [nextWaiter?] using h
    obtain ⟨gone, rfl, hgone⟩ := nextWaiter?_eq_some h'
    exact ⟨⟨k, true⟩ :: gone, rfl, by simpa using hgone⟩
  | ⟨k, false⟩ :: ws, h => by
    obtain ⟨rfl, rfl⟩ : k = ticket ∧ ws = rest := by simpa [nextWaiter?] using h
    exact ⟨[], rfl, by simp⟩

variable [DecidableEq π]

/-! ## Changing one entry -/

theorem map_adjust_of_notMem {es : List (PoolEntry π)} {page : π} (h : page ∉ es.map (·.page))
    (f : PoolEntry π → PoolEntry π) : es.map (fun x => if x.page = page then f x else x) = es := by
  induction es with
  | nil => rfl
  | cons e es ih =>
    simp only [List.map_cons, List.mem_cons, not_or] at h ⊢
    rw [if_neg fun hp => h.1 hp.symm, ih h.2]

/-- A change to the entry of a page changes that entry and no other. -/
theorem map_adjust {es : List (PoolEntry π)} (hn : (es.map (·.page)).Nodup) {e : PoolEntry π}
    (he : e ∈ es) (f : PoolEntry π → PoolEntry π) :
    ∃ before after, es = before ++ e :: after ∧
      es.map (fun x => if x.page = e.page then f x else x) = before ++ f e :: after := by
  obtain ⟨before, after, rfl⟩ := List.append_of_mem he
  refine ⟨before, after, rfl, ?_⟩
  rw [List.map_append, List.map_cons, List.nodup_append, List.nodup_cons] at hn
  have hb : e.page ∉ before.map (·.page) := fun h => hn.2.2 _ h e.page (by simp) rfl
  rw [List.map_append, List.map_cons, if_pos rfl, map_adjust_of_notMem hb,
    map_adjust_of_notMem hn.2.1.1]

theorem pages_adjust (p : Pool π) (page : π) {f : PoolEntry π → PoolEntry π}
    (hf : ∀ e, (f e).page = e.page) :
    (p.adjust page f).entries.map (·.page) = p.entries.map (·.page) := by
  simp only [adjust, List.map_map]
  refine List.map_congr_left fun e _ => ?_
  simp only [Function.comp]
  split <;> simp [hf]

theorem pages_checkOut (p : Pool π) (page : π) :
    (p.checkOut page).entries.map (·.page) = p.entries.map (·.page) :=
  pages_adjust p page fun _ => rfl

/-- Taking an idle page makes it a lent one. -/
theorem lentPages_checkOut {p : Pool π} (hn : (p.entries.map (·.page)).Nodup) {page : π}
    (h : page ∈ idlePages p.entries) :
    (lentPages (p.checkOut page).entries).Perm (page :: lentPages p.entries) ∧
      (idlePages p.entries).Perm (page :: idlePages (p.checkOut page).entries) := by
  obtain ⟨e, he, hu, rfl⟩ := mem_idlePages.1 h
  obtain ⟨before, after, hes, hadj⟩ :=
    map_adjust hn he fun e => { e with inUse := true, leaseCount := e.leaseCount + 1 }
  rw [checkOut, adjust, hadj, hes]
  simp only [lentPages_append, lentPages_cons, idlePages_append, idlePages_cons, hu, if_true,
    Bool.false_eq_true, if_false]
  exact ⟨List.perm_middle, List.perm_middle⟩

/-- A page that comes back goes to the owner of a ticket. -/
def handOn (p : Pool π) (page : π) (ticket : Nat) (rest : List PoolWaiter) : Pool π :=
  { p.adjust page fun e => { e with leaseCount := e.leaseCount + 1 } with
      waiters := rest, granted := p.granted ++ [(ticket, .page page)] }

/-- Handing a page on leaves both classes as they are. -/
theorem pages_handOn (p : Pool π) (page : π) (ticket : Nat) (rest : List PoolWaiter) :
    (p.handOn page ticket rest).entries.map (·.page) = p.entries.map (·.page) ∧
      idlePages (p.handOn page ticket rest).entries = idlePages p.entries ∧
      lentPages (p.handOn page ticket rest).entries = lentPages p.entries := by
  refine ⟨pages_adjust p page fun _ => rfl, ?_⟩
  simp only [handOn, adjust]
  induction p.entries with
  | nil => exact ⟨rfl, rfl⟩
  | cons e es ih =>
    rw [List.map_cons, idlePages_cons, idlePages_cons, lentPages_cons, lentPages_cons, ih.1, ih.2]
    split <;> exact ⟨rfl, rfl⟩

/-- A page that comes back goes to the shelf. -/
def putBack (p : Pool π) (page : π) : Pool π :=
  { p.adjust page fun e => { e with inUse := false } with
      waiters := [], available := p.available ++ [page] }

theorem pages_putBack (p : Pool π) (page : π) :
    (p.putBack page).entries.map (·.page) = p.entries.map (·.page) :=
  pages_adjust p page fun _ => rfl

/-- Putting a lent page back makes it an idle one. -/
theorem lentPages_putBack {p : Pool π} (hn : (p.entries.map (·.page)).Nodup) {page : π}
    (h : page ∈ lentPages p.entries) :
    (lentPages p.entries).Perm (page :: lentPages (p.putBack page).entries) ∧
      (idlePages (p.putBack page).entries).Perm (page :: idlePages p.entries) := by
  obtain ⟨e, he, hu, rfl⟩ := mem_lentPages.1 h
  obtain ⟨before, after, hes, hadj⟩ := map_adjust hn he fun e => { e with inUse := false }
  rw [putBack, adjust, hadj, hes]
  simp only [lentPages_append, lentPages_cons, idlePages_append, idlePages_cons, hu, if_true,
    Bool.false_eq_true, if_false]
  exact ⟨List.perm_middle, List.perm_middle⟩

theorem entryFor?_eq_none_iff {p : Pool π} {page : π} :
    p.entryFor? page = none ↔ page ∉ p.entries.map (·.page) := by
  simp [entryFor?]

/-- The entry that is found for a page in use says that the page is lent. -/
theorem mem_lentPages_of_entryFor? {p : Pool π} {page : π} {e : PoolEntry π}
    (he : p.entryFor? page = some e) (hu : e.inUse = true) : page ∈ lentPages p.entries := by
  have hp : e.page = page := by simpa using List.find?_some he
  exact mem_lentPages.2 ⟨e, List.mem_of_find?_eq_some he, hu, hp⟩

/-- In a pool without duplicates a lent page has an entry that says so. -/
theorem entryFor?_of_mem_lentPages {p : Pool π} (hn : (p.entries.map (·.page)).Nodup) {page : π}
    (h : page ∈ lentPages p.entries) : ∃ e, p.entryFor? page = some e ∧ e.inUse = true := by
  obtain ⟨e, he, hu, rfl⟩ := mem_lentPages.1 h
  cases hf : p.entryFor? e.page with
  | none => exact absurd (List.mem_map_of_mem he) (entryFor?_eq_none_iff.1 hf)
  | some e' =>
    have hp : e'.page = e.page := by simpa using List.find?_some hf
    have : e' = e := List.inj_on_of_nodup_map hn (List.mem_of_find?_eq_some hf) he hp
    exact ⟨e', rfl, this ▸ hu⟩

/-- A page that is new to the pool is entered as a lent one. -/
theorem created_eq {p : Pool π} {page : π} (h : page ∉ p.entries.map (·.page)) :
    p.created page = { p with entries := p.entries ++ [⟨page, true, 1⟩],
                              creating := p.creating - 1 } := by
  have hnone : ({ p with creating := p.creating - 1 } : Pool π).entryFor? page = none :=
    entryFor?_eq_none_iff.2 h
  simp only [created, addEntry, hnone, Option.isSome_none, Bool.false_eq_true, if_false, checkOut,
    adjust, List.map_append, map_adjust_of_notMem h, List.map_cons, List.map_nil, if_true]

/-! ## What an operation can do -/

/-- Who asks for a page is refused, gets the first page of the shelf, is to create one in room that
is free, or draws a ticket. -/
theorem acquire_cases (p : Pool π) :
    (p.isClosed = true ∧ p.acquire = (p, .refused .closed)) ∨
      (p.isClosed = false ∧ ∃ page rest, p.available = page :: rest ∧
        p.acquire = ({ p.checkOut page with available := rest }, .page page)) ∨
      (p.isClosed = false ∧ p.available = [] ∧ p.total < p.maxPages ∧
        p.acquire = ({ p with creating := p.creating + 1 }, .create)) ∨
      (p.isClosed = false ∧ p.available = [] ∧ ¬ p.total < p.maxPages ∧
        p.acquire = ({ p with nextTicket := p.nextTicket + 1,
                              waiters := p.waiters ++ [⟨p.nextTicket, false⟩] },
          .queue p.nextTicket)) := by
  unfold acquire
  split
  · rename_i hc
    exact .inl ⟨hc, rfl⟩
  · rename_i hc
    have hc : p.isClosed = false := by simpa using hc
    split
    · rename_i page rest ha
      exact .inr (.inl ⟨hc, page, rest, ha, rfl⟩)
    · rename_i ha
      split
      · rename_i hroom
        exact .inr (.inr (.inl ⟨hc, ha, hroom, rfl⟩))
      · rename_i hroom
        exact .inr (.inr (.inr ⟨hc, ha, hroom, rfl⟩))

/-- A ticket that is drawn is the next one. -/
theorem ticket_of_acquire {p : Pool π} {k : Nat} (h : p.acquire.2 = .queue k) : k = p.nextTicket := by
  rcases acquire_cases p with
    ⟨-, heq⟩ | ⟨-, page, rest, -, heq⟩ | ⟨-, -, -, heq⟩ | ⟨-, -, -, heq⟩ <;> rw [heq] at h <;> cases h
  rfl

/-- A release is refused and changes nothing, or it concerns a lent page, which goes to the oldest
waiter or, if there is none, to the shelf. -/
theorem release_cases (p : Pool π) (page : π) :
    ((p.release page).1 = p ∧ (p.release page).2.1.isSome = true) ∨
      (page ∈ lentPages p.entries ∧ (p.release page).2.1 = none ∧
        ((∃ k rest, nextWaiter? p.waiters = some (k, rest) ∧
            (p.release page).1 = p.handOn page k rest) ∨
          (nextWaiter? p.waiters = none ∧ (p.release page).1 = p.putBack page))) := by
  unfold release
  cases he : p.entryFor? page with
  | none => exact .inl ⟨rfl, rfl⟩
  | some e =>
    cases hu : e.inUse with
    | false => exact .inl ⟨by simp [hu], by simp [hu]⟩
    | true =>
      refine .inr ⟨mem_lentPages_of_entryFor? he hu, ?_⟩
      cases hw : nextWaiter? p.waiters with
      | none => exact ⟨by simp [hu], .inr ⟨rfl, by simp [hu, putBack, adjust]⟩⟩
      | some w => exact ⟨by simp [hu], .inl ⟨w.1, w.2, rfl, by simp [hu, handOn, adjust]⟩⟩

section
omit [DecidableEq π]
variable {p : Pool π} {k : Nat}

theorem redeem_page {page : π} (h : p.handout? k = some (.page page)) :
    p.redeem k = (p.settle k, .page page) := by
  rw [redeem, h]

theorem redeem_room (h : p.handout? k = some .room) (hc : p.isClosed = false) :
    p.redeem k = (p.settle k, .create) := by
  rw [redeem, h]
  simp [hc]

theorem redeem_room_closed (h : p.handout? k = some .room) (hc : p.isClosed = true) :
    p.redeem k = ({ p.settle k with creating := p.creating - 1 }, .refused .closed) := by
  rw [redeem, h]
  simp [hc, settle]

theorem redeem_refused (h : p.handout? k = some .refused) :
    p.redeem k = (p.settle k, .refused .closed) := by
  rw [redeem, h]

/-- Who takes what a ticket was granted draws no other ticket. -/
theorem redeem_ne_queue (p : Pool π) (k j : Nat) : (p.redeem k).2 ≠ .queue j := by
  unfold redeem
  split
  · simp
  · split <;> simp
  · simp
  · simp

/-- The pool without a ticket: what it was granted is gone, and so is its place in the queue. -/
def withdraw (p : Pool π) (ticket : Nat) : Pool π :=
  { p.settle ticket with waiters := p.waiters.filter fun w => w.ticket != ticket }

end

section
variable {p : Pool π} {k : Nat}

theorem renounce_none (h : p.handout? k = none) : p.renounce k = (p.withdraw k, none, []) := by
  rw [renounce, h]
  rfl

theorem renounce_page {page : π} (h : p.handout? k = some (.page page)) :
    p.renounce k = (p.withdraw k).release page := by
  rw [renounce, h]
  rfl

theorem renounce_room (h : p.handout? k = some .room) :
    p.renounce k = ((p.withdraw k).yieldRoom.1, none, (p.withdraw k).yieldRoom.2) := by
  rw [renounce, h]
  rfl

theorem renounce_refused (h : p.handout? k = some .refused) :
    p.renounce k = (p.withdraw k, some .closed, []) := by
  rw [renounce, h]
  rfl

end

omit [DecidableEq π] in
/-- Room goes to the oldest waiter, if there is one. -/
theorem grantRoom_cases (p : Pool π) :
    (∃ k rest, nextWaiter? p.waiters = some (k, rest) ∧ p.grantRoom.1 =
        { p with waiters := rest, creating := p.creating + 1,
                 granted := p.granted ++ [(k, .room)] }) ∨
      (nextWaiter? p.waiters = none ∧ p.grantRoom.1 = { p with waiters := [] }) := by
  unfold grantRoom
  cases hw : nextWaiter? p.waiters with
  | none => exact .inr ⟨rfl, rfl⟩
  | some w => exact .inl ⟨w.1, w.2, rfl, rfl⟩

end BrowserPlan.Pool
