/-!
# The page pool

A pool lends pages, at most `maxPages` of them. Pages are created when they are first needed. Who
finds no page draws a ticket and waits; a page that comes back goes straight to the oldest waiter,
and so does the room for a page that could not be created after all. What a ticket was granted is
kept until its holder takes it, so that a holder who gives up in between can pass it on.

All of this is a transition function: `Pool.perform` answers one call and says which tickets were
granted something. Calls of different callers may come in any order.
-/
namespace BrowserPlan

/-- A page of a pool. -/
structure PoolEntry (π : Type) where
  page : π
  inUse : Bool
  leaseCount : Nat
  deriving DecidableEq, Repr

/-- Who waits for a page. -/
structure PoolWaiter where
  ticket : Nat
  /-- The waiter has given up, but has not left the queue yet. -/
  isCancelled : Bool := false
  deriving DecidableEq, Repr

/-- What a ticket can be granted. -/
inductive Handout (π : Type) where
  | page (p : π)
  /-- Room for a page, reserved for the holder. -/
  | room
  | refused
  deriving DecidableEq, Repr

/-- Why a pool refuses. -/
inductive PoolFault where
  | badLimit (n : Int)
  | closed
  | foreign
  | notOut
  deriving DecidableEq, Repr

/-- What a fault says. -/
def PoolFault.message : PoolFault → String
  | badLimit n => s!"max_pages must be >= 1, got {n}"
  | closed => "Page pool is closed"
  | foreign => "Released a page that was not acquired from this pool"
  | notOut => "Page released more than once"

/-- A pool of pages. -/
structure Pool (π : Type) where
  maxPages : Nat
  /-- In the order in which the pages were created. -/
  entries : List (PoolEntry π) := []
  /-- Pages that nobody holds, the one that came back first in front. -/
  available : List π := []
  /-- In the order in which the tickets were drawn. -/
  waiters : List PoolWaiter := []
  /-- What tickets were granted and their holders have not taken yet. -/
  granted : List (Nat × Handout π) := []
  /-- How many pages are being created or have room reserved. -/
  creating : Int := 0
  nextTicket : Nat := 0
  isClosed : Bool := false
  deriving Repr

/-- What a caller who wants a page gets. -/
inductive Admission (π : Type) where
  | page (p : π)
  /-- The caller has to create a page; there is room for it. -/
  | create
  | queue (ticket : Nat)
  | refused (fault : PoolFault)
  deriving DecidableEq, Repr

/-- What callers ask of a pool. -/
inductive PoolCall (π : Type) where
  /-- Asks for a page. -/
  | acquire
  /-- Takes what a ticket was granted. -/
  | redeem (ticket : Nat)
  /-- Gives up a ticket, and passes on what it was granted. -/
  | renounce (ticket : Nat)
  /-- Brings the page that was created and takes it. -/
  | created (page : π)
  /-- Tells that no page was created. -/
  | notCreated
  /-- Brings a page back. -/
  | release (page : π)
  /-- Closes the pool for callers; answers with the pages that are left to be closed. -/
  | shut
  /-- Forgets all pages. -/
  | clear
  deriving DecidableEq, Repr

/-- What a pool answers. -/
abbrev PoolCall.Answer {π : Type} : PoolCall π → Type
  | acquire | redeem _ => Admission π
  | renounce _ | release _ => Option PoolFault
  | created _ | notCreated | clear => Unit
  | shut => List π

/-- Numbers about a pool. -/
structure PoolStats where
  maxPages : Nat
  total : Nat
  available : Nat
  inUse : Nat
  waiting : Nat
  deriving DecidableEq, Repr

namespace Pool

variable {π : Type}

/-- An empty pool. -/
def ofLimit (n : Int) : Except PoolFault (Pool π) :=
  if n < 1 then .error (.badLimit n) else .ok { maxPages := n.toNat }

/-- Pages that there are and pages that are being created. -/
def total (p : Pool π) : Int := p.entries.length + p.creating

/-- Numbers about a pool. -/
def stats (p : Pool π) : PoolStats :=
  { maxPages := p.maxPages, total := p.entries.length, available := p.available.length
    inUse := (p.entries.filter (·.inUse)).length
    waiting := (p.waiters.filter fun w => !w.isCancelled).length }

/-! ## Granting -/

/-- The oldest waiter who has not given up, and the queue behind. -/
def nextWaiter? : List PoolWaiter → Option (Nat × List PoolWaiter)
  | [] => none
  | w :: rest => if w.isCancelled then nextWaiter? rest else some (w.ticket, rest)

/-- Reserves room for the oldest waiter, if there is one; tells the ticket. Waiters in front of it
who have given up leave the queue. -/
def grantRoom (p : Pool π) : Pool π × List Nat :=
  match nextWaiter? p.waiters with
  | some (ticket, rest) =>
    ({ p with waiters := rest, creating := p.creating + 1,
              granted := p.granted ++ [(ticket, .room)] }, [ticket])
  | none => ({ p with waiters := [] }, [])

/-- Gives up room for a page, to the oldest waiter if there is one. -/
def yieldRoom (p : Pool π) : Pool π × List Nat := { p with creating := p.creating - 1 }.grantRoom

/-- What a ticket was granted. -/
def handout? (p : Pool π) (ticket : Nat) : Option (Handout π) :=
  (p.granted.find? fun g => g.1 == ticket).map (·.2)

/-- The same pool after a ticket's holder has taken what it was granted. -/
def settle (p : Pool π) (ticket : Nat) : Pool π :=
  { p with granted := p.granted.filter fun g => g.1 != ticket }

/-- A waiter gives up while its ticket has been granted nothing. -/
def forsake (p : Pool π) (ticket : Nat) : Pool π :=
  { p with waiters := p.waiters.map fun w =>
      if w.ticket == ticket then { w with isCancelled := true } else w }

variable [DecidableEq π]

/-! ## Pages -/

/-- The entry of a page. -/
def entryFor? (p : Pool π) (page : π) : Option (PoolEntry π) := p.entries.find? fun e => e.page == page

/-- Changes the entry of a page. -/
def adjust (p : Pool π) (page : π) (f : PoolEntry π → PoolEntry π) : Pool π :=
  { p with entries := p.entries.map fun e => if e.page = page then f e else e }

/-- Notes that a page is lent. -/
def checkOut (p : Pool π) (page : π) : Pool π :=
  p.adjust page fun e => { e with inUse := true, leaseCount := e.leaseCount + 1 }

/-- Adds an entry, in place of one for the same page if there is one. -/
def addEntry (p : Pool π) (page : π) : Pool π :=
  let fresh : PoolEntry π := ⟨page, false, 0⟩
  if (p.entryFor? page).isSome then p.adjust page fun _ => fresh
  else { p with entries := p.entries ++ [fresh] }

/-! ## Calls -/

/-- Somebody wants a page. -/
def acquire (p : Pool π) : Pool π × Admission π :=
  if p.isClosed then (p, .refused .closed)
  else
    match p.available with
    | page :: rest => ({ p with available := rest }.checkOut page, .page page)
    | [] =>
      if p.total < p.maxPages then ({ p with creating := p.creating + 1 }, .create)
      else
        let ticket := p.nextTicket
        ({ p with nextTicket := ticket + 1, waiters := p.waiters ++ [{ ticket := ticket }] },
          .queue ticket)

/-- Somebody brings a page back. It goes to the oldest waiter, in use all the while, or to the
pages that nobody holds. -/
def release (p : Pool π) (page : π) : Pool π × Option PoolFault × List Nat :=
  match p.entryFor? page with
  | none => (p, some .foreign, [])
  | some e =>
    if !e.inUse then (p, some .notOut, [])
    else
      match nextWaiter? p.waiters with
      | some (ticket, rest) =>
        let p := p.adjust page fun e => { e with leaseCount := e.leaseCount + 1 }
        ({ p with waiters := rest, granted := p.granted ++ [(ticket, .page page)] }, none, [ticket])
      | none =>
        let p := p.adjust page fun e => { e with inUse := false }
        ({ p with waiters := [], available := p.available ++ [page] }, none, [])

/-- The holder of a ticket takes what it was granted. -/
def redeem (p : Pool π) (ticket : Nat) : Pool π × Admission π :=
  let q := p.settle ticket
  match p.handout? ticket with
  | some (.page page) => (q, .page page)
  | some .room =>
    if p.isClosed then ({ q with creating := q.creating - 1 }, .refused .closed) else (q, .create)
  | some .refused | none => (q, .refused .closed)

/-- The holder of a ticket gives up. What the ticket was granted is passed on; a refusal is
heard all the same. -/
def renounce (p : Pool π) (ticket : Nat) : Pool π × Option PoolFault × List Nat :=
  let q := p.settle ticket
  let q := { q with waiters := q.waiters.filter fun w => w.ticket != ticket }
  match p.handout? ticket with
  | none => (q, none, [])
  | some (.page page) => q.release page
  | some .room =>
    let (q, tickets) := q.yieldRoom
    (q, none, tickets)
  | some .refused => (q, some .closed, [])

/-- A page was created, and its creator takes it. -/
def created (p : Pool π) (page : π) : Pool π :=
  ({ p with creating := p.creating - 1 }.addEntry page).checkOut page

/-- Closes a pool for callers, and refuses all who wait. -/
def shut (p : Pool π) : Pool π × List π × List Nat :=
  let tickets := (p.waiters.filter fun w => !w.isCancelled).map (·.ticket)
  ({ p with isClosed := true, waiters := [],
            granted := p.granted ++ tickets.map fun t => (t, .refused) },
    p.entries.map (·.page), tickets)

/-- Forgets all pages. -/
def clear (p : Pool π) : Pool π := { p with entries := [], available := [] }

/-- Answers a call; tells which tickets were granted something. -/
def perform (p : Pool π) : (q : PoolCall π) → Pool π × q.Answer × List Nat
  | .acquire =>
    let (p, a) := p.acquire
    (p, a, [])
  | .redeem ticket =>
    let (p, a) := p.redeem ticket
    (p, a, [])
  | .renounce ticket => p.renounce ticket
  | .created page => (p.created page, (), [])
  | .notCreated =>
    let (p, tickets) := p.yieldRoom
    (p, (), tickets)
  | .release page => p.release page
  | .shut => p.shut
  | .clear => (p.clear, (), [])

end Pool
end BrowserPlan
