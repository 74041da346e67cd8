/-!
# Iteration indices

Where a run stands in its nested iterations: the 1-based positions from the outermost iteration
to the current one. The root has none of them and is written `0`; any other index is its
positions with dashes between them.
-/
namespace BrowserPlan

/-- The positions from the outermost iteration inwards. -/
structure IterationIndex where
  positions : List Int
  deriving DecidableEq, Repr, Inhabited

namespace IterationIndex

/-- The index outside every iteration. -/
def root : IterationIndex := ⟨[]⟩

/-- The index of the iteration at `position` inside this one. -/
def child (i : IterationIndex) (position : Int) : IterationIndex := ⟨i.positions ++ [position]⟩

/-- The index of an iteration inside this one, for a position that is one. -/
def child? (i : IterationIndex) (position : Int) : Option IterationIndex :=
  if position < 1 then none else some (i.child position)

/-- How many iterations the index is inside of. -/
def depth (i : IterationIndex) : Nat := i.positions.length

/-- The written form of an index. -/
def toString (i : IterationIndex) : String :=
  match i.positions with
  | [] => "0"
  | ps => String.intercalate "-" (ps.map Int.repr)

instance : ToString IterationIndex := ⟨toString⟩

/-- What is said of a position that is none. -/
def positionMessage (position : Int) : String := s!"positions are 1-based, got {position}"

@[simp] theorem depth_root : root.depth = 0 := rfl

@[simp] theorem depth_child (i : IterationIndex) (p : Int) : (i.child p).depth = i.depth + 1 := by
  simp [depth, child]

theorem child?_eq_some_iff (i j : IterationIndex) (p : Int) :
    i.child? p = some j ↔ 1 ≤ p ∧ j = i.child p := by
  unfold child?
  split
  · simp; omega
  · simp [eq_comm]; omega

end IterationIndex
end BrowserPlan
