import BrowserPlan.Schema.Complaint
import BrowserPlan.Json.Basic

/-!
# Checked readings

A value read from a document, or all the complaints about it. Readings of several members are put
together without stopping at the first bad one: `complaints_seq` says that the complaints of both
sides are kept, in their order.
-/
namespace BrowserPlan.Schema

/-- A value, or what is wrong with what it was read from. -/
def Checked (α : Type) : Type := Except (List Complaint) α

namespace Checked

/-- A reading without complaints. -/
def ok {α : Type} (a : α) : Checked α := Except.ok a

/-- A reading with complaints. -/
def bad {α : Type} (complaints : List Complaint) : Checked α := Except.error complaints

/-- A reading with one complaint about the value itself. -/
def fail {α : Type} (reason : Reason) : Checked α := bad [⟨[], reason⟩]

/-- The complaints of a reading. -/
def complaints {α : Type} : Checked α → List Complaint
  | .ok _ => []
  | .error cs => cs

/-- The value of a reading that has one. -/
def value? {α : Type} : Checked α → Option α
  | .ok a => some a
  | .error _ => none

/-- A reading of a function and one of its argument, put together. -/
def seq {α β : Type} (f : Checked (α → β)) (a : Checked α) : Checked β :=
  match f, a with
  | .ok f, .ok a => .ok (f a)
  | .ok _, .error cs => .error cs
  | .error cs, .ok _ => .error cs
  | .error cs, .error ds => .error (cs ++ ds)

instance : Applicative Checked where
  pure := ok
  seq f a := seq f (a ())

theorem complaints_seq {α β : Type} (f : Checked (α → β)) (a : Checked α) :
    (seq f a).complaints = f.complaints ++ a.complaints := by
  cases f <;> cases a <;> simp [seq, complaints, ok]

/-- The same reading, its complaints placed below `part`. -/
def within {α : Type} (part : Part) : Checked α → Checked α
  | .ok a => .ok a
  | .error cs => .error (cs.map fun c => { c with place := part :: c.place })

/-- A second look at a value that was read without complaints. -/
def andThen {α β : Type} (a : Checked α) (next : α → Checked β) : Checked β :=
  match a with
  | .ok a => next a
  | .error cs => .error cs

/-- A reading that must also keep a rule. -/
def keeping {α : Type} (a : Checked α) (rule : String) (kept : α → Bool) : Checked α :=
  a.andThen fun value => if kept value then ok value else fail (.broken rule)

end Checked

/-- A way to read a value of a document. -/
abbrev Reader (α : Type) := Json → Checked α

/-! ## Members -/

/-- A member of an object: its spellings, the preferred one first. -/
structure Field where
  name : String
  otherName : Option String := none
  deriving Repr

namespace Field

/-- The member's value and how the member was spelled. The preferred spelling wins. -/
def find? {β : Type} (f : Field) (ms : List (String × β)) : Option (String × β) :=
  match ms.find? fun m => m.1 == f.name with
  | some m => some m
  | none => f.otherName.bind fun name => ms.find? fun m => m.1 == name

/-- Reads a member that must be there. -/
def required {α β : Type} (f : Field) (read : β → Checked α) (ms : List (String × β)) : Checked α :=
  match f.find? ms with
  | some (key, v) => (read v).within (.key key)
  | none => (Checked.fail .missing).within (.key f.name)

/-- Reads a member that may be left out. -/
def optional {α β : Type} (f : Field) (default : α) (read : β → Checked α)
    (ms : List (String × β)) : Checked α :=
  match f.find? ms with
  | some (key, v) => (read v).within (.key key)
  | none => .ok default

end Field

/-- Complaints about the members that no field was read from, in their order. -/
def strangers (fields : List Field) (ms : Json.Members) : List Complaint :=
  let used := fields.filterMap fun f => (f.find? ms).map (·.1)
  (ms.filter fun m => !used.contains m.1).map fun m => ⟨[.key m.1], .stranger⟩

/-- Refuses members that belong to no field. -/
def noStrangers (fields : List Field) (ms : Json.Members) : Checked Unit :=
  match strangers fields ms with
  | [] => .ok ()
  | cs => .bad cs

/-! ## Lists -/

/-- Reads items that have been read one by one, from position `n` on. -/
def itemsFrom {α : Type} (n : Nat) : List (Checked α) → Checked (List α)
  | [] => .ok []
  | a :: rest => (· :: ·) <$> a.within (.item n) <*> itemsFrom (n + 1) rest

end BrowserPlan.Schema
