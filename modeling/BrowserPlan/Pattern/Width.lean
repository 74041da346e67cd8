import BrowserPlan.Pattern.Basic

/-!
# Widths of patterns

The least and the greatest number of characters a pattern can match, the greatest capped at a
limit that stands for "without bound". Looking behind needs a pattern of one width.
-/
namespace BrowserPlan.Pattern

/-- A least and a greatest width. -/
structure Width where
  least : Nat
  most : Nat
  deriving DecidableEq, Repr, Inhabited

namespace Width

/-- The width that stands for "without bound". -/
def unbounded : Nat := Nat.pow 2 64

/-- A loop count at which the number of rounds is without bound. -/
def countLimit : Nat := Nat.pow 2 32 - 1

/-- One after the other. -/
def add (a b : Width) : Width := ⟨a.least + b.least, a.most + b.most⟩

/-- Either of the two. -/
def either (a b : Width) : Width := ⟨min a.least b.least, max a.most b.most⟩

/-- Capped at the limit. -/
def capped (w : Width) : Width := ⟨min w.least unbounded, min w.most unbounded⟩

/-- So many rounds of a pattern. -/
def times (w : Width) (least : Nat) (most : Option Nat) : Width :=
  ⟨w.least * least,
   match most with
   | some n => w.most * n
   | none => if w.most == 0 then 0 else unbounded⟩

/-- No characters. -/
def zero : Width := ⟨0, 0⟩

/-- One character. -/
def one : Width := ⟨1, 1⟩

end Width

mutual

/-- The width of a node; `groups` gives the widths of the groups closed so far. -/
def Node.width (groups : Nat → Width) : Node → Width
  | .char _ | .notChar _ | .anyChar | .set .. => .one
  | .anchor _ | .look .. => .zero
  | .group _ _ _ body | .atomic body => widthOf groups body
  | .loop _ least most body => (widthOf groups body).times least most
  | .branch alternatives => branchWidth groups alternatives
  | .backReference group => groups group
  | .conditional _ yes none => ⟨0, (widthOf groups yes).most⟩
  | .conditional _ yes (some no) => (widthOf groups yes).either (widthOf groups no)

/-- The width of a pattern. -/
def widthOf (groups : Nat → Width) (nodes : List Node) : Width :=
  (widthSum groups nodes).capped

/-- The widths of nodes one after another. -/
def widthSum (groups : Nat → Width) : List Node → Width
  | [] => .zero
  | n :: rest => (n.width groups).add (widthSum groups rest)

/-- The width of a choice. -/
def branchWidth (groups : Nat → Width) : List (List Node) → Width
  | [] => ⟨Width.unbounded, 0⟩
  | a :: rest => (widthOf groups a).either (branchWidth groups rest)

end

end BrowserPlan.Pattern
