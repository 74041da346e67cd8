import BrowserPlan.Proofs.Pool.Shelf

/-!
# What callers have at stake

At any time a caller of a pool has one thing at stake, if any: a ticket, the creation of a page, or
a page it holds. `Move` lists what a caller may do with what it has at stake, and what that makes of
the pool; it says nothing about the order in which callers move. `Stable` is the induction over all
such orders, made once: what is kept by every move is kept by every history (it is used for whole
histories in `Crowd`).
-/
namespace BrowserPlan

def Handout.isRoom {π : Type} : Handout π → Bool
  | room => true
  | _ => false

namespace Pool

variable {π : Type}

/-- What a caller has at stake. -/
inductive Stake (π : Type) where
  | nothing
  /-- A ticket; `isTold` says that the caller has been told to give up and does not know it yet. -/
  | ticket (number : Nat) (isTold : Bool)
  /-- The caller creates a page. -/
  | creation
  | page (p : π)
  deriving DecidableEq, Repr

namespace Stake

/-- The page that is held. -/
def page? : Stake π → Option π
  | page p => some p
  | _ => none

/-- The ticket, and whether its owner has been told to give up. -/
def ticket? : Stake π → Option (Nat × Bool)
  | ticket k b => some (k, b)
  | _ => none

def isCreation : Stake π → Bool
  | creation => true
  | _ => false

theorem page?_eq_some {s : Stake π} {p : π} : s.page? = some p ↔ s = .page p := by
  cases s <;> simp [page?]

theorem ticket?_eq_some {s : Stake π} {k : Nat} {b : Bool} :
    s.ticket? = some (k, b) ↔ s = .ticket k b := by
  cases s <;> simp [ticket?]

end Stake

/-- What is at stake for a caller who is admitted. -/
def stakeOf : Admission π → Stake π
  | .page p => .page p
  | .create => .creation
  | .queue k => .ticket k false
  | .refused _ => .nothing

/-- The kinds of moves. -/
inductive Manner where
  /-- By callers who bring back only what they hold. -/
  | orderly
  /-- A release by somebody who does not hold the page. -/
  | stray
  /-- Part of closing the pool. -/
  | closing
  deriving DecidableEq, Repr

/-- A caller's move: the pool and the caller's stake before, and both of them after. -/
inductive Move [DecidableEq π] : Manner → Pool π → Stake π → Pool π → Stake π → Prop where
  | acquire (p : Pool π) : Move .orderly p .nothing p.acquire.1 (stakeOf p.acquire.2)
  /-- Takes what a ticket was granted. -/
  | redeem (p : Pool π) (k : Nat) (h : (p.handout? k).isSome) :
    Move .orderly p (.ticket k false) (p.redeem k).1 (stakeOf (p.redeem k).2)
  /-- Is told to give up. -/
  | tell (p : Pool π) (k : Nat) (b : Bool) :
    Move .orderly p (.ticket k b) (p.forsake k) (.ticket k true)
  /-- Gives up. -/
  | renounce (p : Pool π) (k : Nat) : Move .orderly p (.ticket k true) (p.renounce k).1 .nothing
  | created (p : Pool π) (page : π) (fresh : page ∉ p.entries.map (·.page)) :
    Move .orderly p .creation (p.created page) (.page page)
  | notCreated (p : Pool π) : Move .orderly p .creation p.yieldRoom.1 .nothing
  | bringBack (p : Pool π) (page : π) : Move .orderly p (.page page) (p.release page).1 .nothing
  | release (p : Pool π) (page : π) : Move .stray p .nothing (p.release page).1 .nothing
  | shut (p : Pool π) : Move .closing p .nothing p.shut.1 .nothing
  | clear (p : Pool π) : Move .closing p .nothing p.clear .nothing

/-- What every move of the allowed kinds keeps. The order of the stakes does not matter, and
callers may come with nothing at stake. -/
structure Stable [DecidableEq π] (A : Manner → Prop) (J : Pool π → List (Stake π) → Prop) :
    Prop where
  perm : ∀ {p ss ts}, ss.Perm ts → J p ss → J p ts
  join : ∀ {p ss}, J p ss → J p (.nothing :: ss)
  move : ∀ {m p s q t ss}, A m → Move m p s q t → J p (s :: ss) → J q (t :: ss)

theorem Stable.mono [DecidableEq π] {A B : Manner → Prop} {J : Pool π → List (Stake π) → Prop}
    (hAB : ∀ m, A m → B m) (hJ : Stable B J) : Stable A J where
  perm := hJ.perm
  join := hJ.join
  move hA := hJ.move (hAB _ hA)

theorem Stable.and [DecidableEq π] {A : Manner → Prop} {J K : Pool π → List (Stake π) → Prop}
    (hJ : Stable A J) (hK : Stable A K) : Stable A fun p ss => J p ss ∧ K p ss where
  perm hp h := ⟨hJ.perm hp h.1, hK.perm hp h.2⟩
  join h := ⟨hJ.join h.1, hK.join h.2⟩
  move hA hm h := ⟨hJ.move hA hm h.1, hK.move hA hm h.2⟩

/-! ## The pages and tickets at stake -/

/-- The pages that callers hold. -/
def heldPages (ss : List (Stake π)) : List π := ss.filterMap Stake.page?

/-- The tickets that callers have drawn and not settled. -/
def tickets (ss : List (Stake π)) : List (Nat × Bool) := ss.filterMap Stake.ticket?

/-- How many callers create a page. -/
def creators (ss : List (Stake π)) : Nat := ss.countP Stake.isCreation

/-- The pages that tickets were granted. -/
def grantedPages (gs : List (Nat × Handout π)) : List π :=
  gs.filterMap fun g => match g.2 with
    | .page p => some p
    | _ => none

theorem index_unique {α β : Type} {f : α → Option β} {l : List α} (hn : (l.filterMap f).Nodup)
    {i j : Nat} {a b : α} {v : β} (hi : l[i]? = some a) (hj : l[j]? = some b) (ha : f a = some v)
    (hb : f b = some v) : i = j := by
  have hp := List.pairwise_iff_getElem.1 (List.pairwise_filterMap.1 hn)
  obtain ⟨hil, rfl⟩ := List.getElem?_eq_some_iff.1 hi
  obtain ⟨hjl, rfl⟩ := List.getElem?_eq_some_iff.1 hj
  rcases Nat.lt_trichotomy i j with hlt | heq | hgt
  · exact absurd rfl (hp i j hil hjl hlt v ha v hb)
  · exact heq
  · exact absurd rfl (hp j i hjl hil hgt v hb v ha)

theorem mem_grantedPages {gs : List (Nat × Handout π)} {page : π} :
    page ∈ grantedPages gs ↔ ∃ k, (k, .page page) ∈ gs := by
  simp only [grantedPages, List.mem_filterMap]
  constructor
  · rintro ⟨⟨k, x⟩, hg, hx⟩
    cases x with
    | page q =>
      obtain rfl : q = page := by simpa using hx
      exact ⟨k, hg⟩
    | room => simp at hx
    | refused => simp at hx
  · rintro ⟨k, hk⟩
    exact ⟨_, hk, rfl⟩

theorem granted_unique {gs : List (Nat × Handout π)} (hn : (grantedPages gs).Nodup) {page : π}
    {j k : Nat} (hj : (j, .page page) ∈ gs) (hk : (k, .page page) ∈ gs) : j = k := by
  obtain ⟨a, ha⟩ := List.mem_iff_getElem?.1 hj
  obtain ⟨b, hb⟩ := List.mem_iff_getElem?.1 hk
  obtain rfl := index_unique hn ha hb rfl rfl
  have heq := ha.symm.trans hb
  simpa using heq

/-- How many tickets were granted room for a page. -/
def rooms (gs : List (Nat × Handout π)) : Nat := gs.countP fun g => g.2.isRoom

end Pool
end BrowserPlan
