import BrowserPlan.Json.Basic

/-!
# Extraction specifications

What to read from a page: an ordered list of keys, each with a field. A field with children is
structural: its children are read from every element it selects. Any other field is a leaf that
reads an attribute of the elements it selects, or the matches of a pattern in the content of an
element.
-/
namespace BrowserPlan

/-- One field of a specification. -/
structure FieldSpec where
  selector : Option String := none
  xpath : Option String := none
  regex : Option String := none
  /-- The attribute that is read from the selected elements. -/
  attributeName : String := "textContent"
  /-- What a pattern is matched against: the markup, or the text where this is `text`. -/
  source : String := "html"
  children : List (String × FieldSpec) := []
  deriving Inhabited

/-- Keys with their fields, in order. -/
abbrev Spec := List (String × FieldSpec)

/-- Whether an optional text is given and not empty. -/
def given (s : Option String) : Bool := s.any (· != "")

/-- The driver's selector for a selector or, where there is none, a path expression. -/
def target? (selector xpath : Option String) : Option String :=
  if given selector then selector
  else if given xpath then xpath.map ("xpath=" ++ ·)
  else none

/-- What is said where both a selector and a path expression are missing. -/
def noTargetMessage : String := "Either selector or xpath is required"

namespace FieldSpec

/-- Whether a field has children. -/
def isStructural (f : FieldSpec) : Bool := !f.children.isEmpty

/-- The driver's selector of a field. -/
def target? (f : FieldSpec) : Option String := BrowserPlan.target? f.selector f.xpath

/-- Whether a field says anything to look for. -/
def isResolvable (f : FieldSpec) : Bool :=
  f.isStructural || given f.selector || given f.xpath || given f.regex

end FieldSpec

namespace Spec

/-- The specification that reads one attribute of every element, under the key `links`. -/
def links (selector xpath : Option String) (attributeName : String) : Spec :=
  [("links", { selector, xpath, attributeName })]

mutual

/-- How many levels of fields a specification has. -/
def depth : List (String × FieldSpec) → Nat
  | [] => 0
  | (_, f) :: rest => max (fieldDepth f) (depth rest)

/-- How many levels a field has, itself included. -/
def fieldDepth : FieldSpec → Nat
  | ⟨_, _, _, _, _, children⟩ => depth children + 1

end

end Spec
end BrowserPlan
