import BrowserPlan.Pool.Basic
import BrowserPlan.Task.Program

/-!
# Using a pool

What tasks do to borrow a page from a pool: wait for it, create it where there is room, and bring
it back whatever happens in between. A task that is told to give up while it waits passes on what
it may have been granted already.
-/
namespace BrowserPlan.Pool

open BrowserPlan.Task

/-- A pool as programs reach it: how to call it, which signal a ticket gives when it is granted
something, and how to create a page. -/
structure Client (I : Interface) (π : Type) where
  ask : (q : PoolCall π) → Program I q.Answer
  granted : (ticket : Nat) → I.Signal
  fault : PoolFault → I.Fault
  create : Program I π
  /-- Notes what has happened. -/
  noteQueued : Program I Unit
  noteCreated : Program I Unit
  noteClosed : Program I Unit

namespace Client

variable {I : Interface} {π α : Type} (c : Client I π)

/-- Creates a page in the room there is for it. -/
def createPage : Program I π := do
  match ← c.create.attempt with
  | .ok page =>
    c.ask (.created page)
    c.noteCreated
    return page
  | .error s =>
    c.ask .notCreated
    Program.ending (.error s)

/-- Takes what the caller was admitted to without waiting. -/
def enter : Admission π → Program I π
  | .page page => pure page
  | .create => c.createPage
  | .refused fault => Program.fail (c.fault fault)
  | .queue _ => Program.fail (c.fault .closed)

/-- Waits until a ticket is granted something, and takes it. -/
def queueUp (ticket : Nat) : Program I π := do
  c.noteQueued
  match ← (Program.wait (.signal (c.granted ticket))).attempt with
  | .ok _ => c.enter (← c.ask (.redeem ticket))
  | .error s =>
    match ← c.ask (.renounce ticket) with
    | some fault => Program.fail (c.fault fault)
    | none => Program.ending (.error s)

/-- Borrows a page. -/
def acquire : Program I π := do
  match ← c.ask .acquire with
  | .queue ticket => c.queueUp ticket
  | admission => c.enter admission

/-- Brings a page back. -/
def release (page : π) : Program I Unit := do
  match ← c.ask (.release page) with
  | some fault => Program.fail (c.fault fault)
  | none => return

/-- Borrows a page for the time of a program. -/
def lease (body : π → Program I α) : Program I α := do
  let page ← c.acquire
  (body page).ensuring fun _ => c.release page

/-- Closes the pool and its pages; pages that cannot be closed are passed over. -/
def close (closePage : π → Program I Unit) : Program I Unit := do
  let pages ← c.ask .shut
  Program.each (fun page => (closePage page).tolerating) pages
  c.ask .clear
  c.noteClosed

end Client
end BrowserPlan.Pool
