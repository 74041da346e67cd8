/-!
# Runs of named characters

Names of characters that follow one another, written as one text with bars between the names; a
character without a name has an empty place.
-/
namespace BrowserPlan.Text

/-- Names of characters from a code point on. -/
structure NameRun where
  first : Nat
  names : String

/-- The code point of a run that has a name. -/
def NameRun.code? (r : NameRun) (name : String) : Option Nat :=
  ((r.names.splitOn "|").idxOf? name).map (r.first + ·)

end BrowserPlan.Text
