import BrowserPlan.IterationIndex

/-!
# File paths

A path is a root and a list of names. Empty names and single dots are dropped when a text is read
as a path; double dots stay. `render` fills an iteration index into a template.
-/
namespace BrowserPlan

/-- A path: `""`, `"/"` or `"//"` as root, and the names from there on. -/
structure FilePath where
  root : String
  names : List String
  deriving DecidableEq, Repr, Inhabited

namespace FilePath

/-- The pieces between occurrences of a separator, one more than there are separators. -/
def splitOnChar (sep : Char) : List Char → List (List Char)
  | [] => [[]]
  | c :: rest =>
    if c == sep then [] :: splitOnChar sep rest
    else
      match splitOnChar sep rest with
      | [] => [[c]]
      | piece :: pieces => (c :: piece) :: pieces

/-- The root of a path text: exactly two slashes at its start are a root of their own. -/
def rootOf (cs : List Char) : String :=
  match (cs.takeWhile (· == '/')).length with
  | 0 => ""
  | 2 => "//"
  | _ => "/"

/-- A text read as a path. -/
def ofString (s : String) : FilePath :=
  let pieces := splitOnChar '/' s.toList
  ⟨rootOf s.toList, (pieces.filter fun p => p != [] && p != ['.']).map String.ofList⟩

/-- The text of a path; the empty path is a single dot. -/
def toString (p : FilePath) : String :=
  if p.root == "" && p.names.isEmpty then "."
  else p.root ++ String.intercalate "/" p.names

instance : ToString FilePath := ⟨toString⟩

/-- The directory a path lies in; a root and the empty path lie in themselves. -/
def parent (p : FilePath) : FilePath := { p with names := p.names.dropLast }

/-- The last name of a path, empty where it has none. -/
def name (p : FilePath) : String := p.names.getLast?.getD ""

/-- Every occurrence of `token` replaced, from left to right. -/
def replaceToken (token new : List Char) : List Char → List Char
  | [] => []
  | c :: rest =>
    if token.isPrefixOf (c :: rest) ∧ token ≠ [] then
      new ++ replaceToken token new (rest.drop (token.length - 1))
    else c :: replaceToken token new rest
  termination_by cs => cs.length
  decreasing_by all_goals simp; try omega

/-- What stands for the iteration index in a template. -/
def indexToken : List Char := ['$', 'i']

/-- A template with `value` in place of every index token, read as a path. -/
def fill (template value : String) : FilePath :=
  ofString (String.ofList (replaceToken indexToken value.toList template.toList))

/-- A template filled with an iteration index. -/
def render (template : String) (index : IterationIndex) : FilePath := fill template index.toString

end FilePath
end BrowserPlan
