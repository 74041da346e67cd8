import BrowserPlan.Proofs.Pool.Accounts
import BrowserPlan.Proofs.Pool.Histories

/-!
# The room of a pool

No call changes how many pages a pool may have, and only `shut` closes it (`Move.frame`).
`within_limit`: the pages that there are and those for which `creating` keeps room are never more
than the limit, and `creating` counts who has that room, caller by caller.
-/
namespace BrowserPlan.Pool

variable {π : Type} [DecidableEq π]

/-! ## What no call changes -/

/-- `q` has the limit of `p` and is open or closed like it. -/
def SameGate (p q : Pool π) : Prop := q.maxPages = p.maxPages ∧ q.isClosed = p.isClosed

namespace SameGate

variable {p : Pool π}

theorem acquire (p : Pool π) : SameGate p p.acquire.1 := by
  rcases acquire_cases p with ⟨-, heq⟩ | ⟨-, q, rest, -, heq⟩ | ⟨-, -, -, heq⟩ | ⟨-, -, -, heq⟩ <;>
    rw [heq] <;> exact ⟨rfl, rfl⟩

theorem release (p : Pool π) (page : π) : SameGate p (p.release page).1 := by
  rcases release_cases p page with ⟨heq, -⟩ | ⟨-, -, ⟨k, rest, -, heq⟩ | ⟨-, heq⟩⟩ <;>
    rw [heq] <;> exact ⟨rfl, rfl⟩

omit [DecidableEq π] in
theorem yieldRoom (p : Pool π) : SameGate p p.yieldRoom.1 := by
  rw [Pool.yieldRoom]
  rcases grantRoom_cases { p with creating := p.creating - 1 } with ⟨k, rest, -, heq⟩ | ⟨-, heq⟩ <;>
    rw [heq] <;> exact ⟨rfl, rfl⟩

omit [DecidableEq π] in
theorem redeem (p : Pool π) (k : Nat) : SameGate p (p.redeem k).1 := by
  unfold Pool.redeem
  split
  · exact ⟨rfl, rfl⟩
  · split <;> exact ⟨rfl, rfl⟩
  · exact ⟨rfl, rfl⟩
  · exact ⟨rfl, rfl⟩

theorem renounce (p : Pool π) (k : Nat) : SameGate p (p.renounce k).1 := by
  cases hx : p.handout? k with
  | none =>
    rw [renounce_none hx]
    exact ⟨rfl, rfl⟩
  | some x =>
    cases x with
    | page q =>
      rw [renounce_page hx]
      exact release (p.withdraw k) q
    | room =>
      rw [renounce_room hx]
      exact yieldRoom (p.withdraw k)
    | refused =>
      rw [renounce_refused hx]
      exact ⟨rfl, rfl⟩

theorem created {page : π} (hp : page ∉ p.entries.map (·.page)) : SameGate p (p.created page) := by
  rw [created_eq hp]
  exact ⟨rfl, rfl⟩

end SameGate

/-- No move changes the limit, and only closing the pool closes it. -/
theorem Move.frame {m : Manner} {p q : Pool π} {s t : Stake π} (hm : Move m p s q t) :
    q.maxPages = p.maxPages ∧ (m ≠ .closing → q.isClosed = p.isClosed) := by
  have hgate : SameGate p q → q.maxPages = p.maxPages ∧ (m ≠ .closing → q.isClosed = p.isClosed) :=
    fun h => ⟨h.1, fun _ => h.2⟩
  cases hm with
  | acquire => exact hgate (.acquire p)
  | redeem p k => exact hgate (.redeem p k)
  | tell => exact hgate ⟨rfl, rfl⟩
  | renounce p k => exact hgate (.renounce p k)
  | created p page fresh => exact hgate (.created fresh)
  | notCreated => exact hgate (.yieldRoom p)
  | bringBack p page => exact hgate (.release p page)
  | release p page => exact hgate (.release p page)
  | shut => exact ⟨rfl, fun h => absurd rfl h⟩
  | clear => exact ⟨rfl, fun h => absurd rfl h⟩

theorem stable_limit (n : Nat) : Stable (π := π) (fun _ => True) fun p _ => p.maxPages = n where
  perm _ h := h
  join h := h
  move _ hm h := hm.frame.1.trans h

/-! ## Who has room for a page -/

/-- A ticket was granted room for a page, and its owner has not taken it yet. -/
def hasRoom (p : Pool π) (ticket : Nat) : Bool :=
  match p.handout? ticket with
  | some .room => true
  | _ => false

section
omit [DecidableEq π]
variable {p : Pool π}

theorem hasRoom_iff {k : Nat} : p.hasRoom k = true ↔ p.handout? k = some .room := by
  unfold hasRoom
  split
  · rename_i h
    simp [h]
  · rename_i h
    simpa using h

/-- What was granted as room is room for the owners of tickets. -/
theorem rooms_eq {tk : List (Nat × Bool)} (h : Ticketed p.waiters p.granted p.nextTicket tk) :
    rooms p.granted = tk.countP fun t => p.hasRoom t.1 := by
  have hroom : ∀ k, p.hasRoom k = true ↔ (k, .room) ∈ p.granted := fun k =>
    hasRoom_iff.trans (handout?_eq_some_iff h.granted_distinct)
  -- the same tickets, once as keys of what was granted and once as keys of what is at stake
  have hperm : ((p.granted.filter fun g => g.2.isRoom).map (·.1)).Perm
      ((tk.filter fun t => p.hasRoom t.1).map (·.1)) := by
    refine (List.perm_ext_iff_of_nodup (h.granted_distinct.sublist (List.filter_sublist.map _))
      (h.distinct.sublist (List.filter_sublist.map _))).2 fun k => ?_
    simp only [List.mem_map, List.mem_filter, hroom]
    constructor
    · rintro ⟨⟨k, x⟩, ⟨hg, hx⟩, rfl⟩
      obtain ⟨b, hb⟩ := h.granted _ hg
      cases x with
      | room => exact ⟨(k, b), ⟨hb, hg⟩, rfl⟩
      | page => cases hx
      | refused => cases hx
    · rintro ⟨t, ⟨-, hg⟩, rfl⟩
      exact ⟨_, ⟨hg, rfl⟩, rfl⟩
  rw [rooms, List.countP_eq_length_filter, List.countP_eq_length_filter]
  simpa using hperm.length_eq

end

namespace Crowd

/-- How many callers wait for the creation of a page. -/
def makers (c : State π) : Nat :=
  c.callers.countP fun x => match x.standing with
    | .creating _ => true
    | _ => false

/-- How many callers wait with a ticket that was granted room. -/
def awarded (c : State π) : Nat :=
  c.callers.countP fun x => match x.standing with
    | .paused (.signal (.granted k)) _ => c.pool.hasRoom k
    | _ => false

section
omit [DecidableEq π]

theorem creators_stakes (c : State π) : creators (stakes c) = makers c := by
  rw [creators, stakes, List.countP_map, makers]
  refine congrArg (List.countP · c.callers) (funext fun x => ?_)
  -- one case for each place where a caller stands
  rcases x with ⟨⟨(_ | _ | _) | _ | _, _⟩ | _ | _ | (_ | _ | _), _⟩ <;> rfl

theorem rooms_stakes {c : State π} (h : Accounts c.pool (stakes c)) :
    rooms c.pool.granted = awarded c := by
  rw [rooms_eq h.ticketed, tickets, stakes, List.filterMap_map, List.countP_filterMap, awarded]
  refine congrArg (List.countP · c.callers) (funext fun x => ?_)
  -- one case for each place where a caller stands
  rcases x with ⟨⟨(_ | _ | _) | _ | _, _⟩ | _ | _ | (_ | _ | _), _⟩ <;> rfl

end

/-- Whatever callers do and in whatever order, there are never more pages than allowed, those that
have room kept for them included, and room is kept for exactly the callers who create a page and
those whose tickets were granted room. -/
theorem within_limit {limit : Int} {es : List (Event π)} {c : State π}
    (hc : after limit es = some c) :
    c.pool.entries.length + c.pool.creating ≤ limit ∧ 0 ≤ c.pool.creating ∧
      c.pool.creating = makers c + awarded c := by
  obtain ⟨hacc, hmax⟩ := after_keeps (stable_accounts.and (stable_limit limit.toNat)) trivial
    (fun _ _ => trivial) ⟨accounts_empty _, rfl⟩ hc
  have hpos := (after_eq_some hc).1
  have hwithin := hacc.within
  have hslots := hacc.slots
  rw [creators_stakes, rooms_stakes hacc] at hslots
  exact ⟨by omega, by omega, hslots⟩

/-- The creation of the only page fails, and its room goes to the one who waits. -/
def roomPassedOn : List (Event Nat) :=
  [.enter .acquire, .enter .lease, .make 0 (.error (.failed (.outside "no page")))]

theorem within_limit_roomPassedOn : ∃ c, after 1 roomPassedOn = some c ∧ makers c = 0 ∧
    awarded c = 1 ∧ c.pool.entries.length + c.pool.creating ≤ (1 : Int) ∧ 0 ≤ c.pool.creating ∧
      c.pool.creating = makers c + awarded c :=
  ⟨_, rfl, rfl, rfl, within_limit (rfl : after 1 roomPassedOn = some _)⟩

end Crowd
end BrowserPlan.Pool
