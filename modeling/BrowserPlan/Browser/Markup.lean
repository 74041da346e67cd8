import BrowserPlan.Json.Basic

/-!
# Documents in memory

What a browser knows of a document: of every element its properties, the elements that each
selector finds below it, and its content as markup and as text. An element may be broken; whatever
is asked of it then fails.
-/
namespace BrowserPlan.Browser

/-- An element of a document, or the document itself. -/
structure Markup where
  props : List (String × Json) := []
  children : List (String × List Markup) := []
  html : Option String := none
  text : Option String := none
  /-- What is wrong with a broken element. -/
  error : Option String := none
  deriving Inhabited

namespace Markup

/-- The elements that a selector finds. -/
def find (m : Markup) (target : String) : List Markup :=
  ((m.children.find? fun c => c.1 == target).map (·.2)).getD []

/-- The value of a property, null where there is none. -/
def prop (m : Markup) (name : String) : Json := (Json.Members.get? m.props name).getD .null

/-- The members of a value that is an object. -/
def membersOf (v : Option Json) : List (String × Json) := (v.map Json.members).getD []

mutual

/-- The element that a value describes. -/
def ofJson : Json → Markup
  | .obj ms =>
    { props := membersOf (Json.Members.get? ms "props")
      children := childrenIn ms
      html := (Json.Members.get? ms "html").bind Json.text?
      text := (Json.Members.get? ms "text").bind Json.text?
      error := (Json.Members.get? ms "error").bind Json.text? }
  | _ => {}

/-- The elements below an element with these members. -/
def childrenIn : List (String × Json) → List (String × List Markup)
  | [] => []
  | (key, v) :: rest => if key == "children" then selections v else childrenIn rest

/-- The elements that each selector finds. -/
def selections : Json → List (String × List Markup)
  | .obj ms => selectionList ms
  | _ => []

/-- The elements that each of some selectors finds. -/
def selectionList : List (String × Json) → List (String × List Markup)
  | [] => []
  | (target, v) :: rest => (target, elements v) :: selectionList rest

/-- The elements that a value lists. -/
def elements : Json → List Markup
  | .arr vs => elementList vs
  | _ => []

/-- The elements that some values describe. -/
def elementList : List Json → List Markup
  | [] => []
  | v :: rest => ofJson v :: elementList rest

end

end Markup
end BrowserPlan.Browser
