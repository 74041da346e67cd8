import BrowserPlan.Json.Basic
import BrowserPlan.Decimal.Notation
import BrowserPlan.Text.Quoted

/-!
# Values in messages

How a value is shown inside a message: texts quoted, the constants as `None`, `True` and `False`,
and arrays and objects on one line.
-/
namespace BrowserPlan.Json

/-- A list of texts between brackets, with commas between them. -/
def bracketed (opening : String) (items : List String) (closing : String) : String :=
  opening ++ String.intercalate ", " items ++ closing

mutual

/-- A value as messages show it. -/
def display : Json → String
  | null => "None"
  | bool b => if b then "True" else "False"
  | int n => toString n
  | float x => Decimal.written x
  | str s | unpaired s => Text.quoted s
  | arr vs => bracketed "[" (displayItems vs) "]"
  | obj ms => bracketed "\x7b" (displayMembers ms) "\x7d"

/-- The items of an array as messages show them. -/
def displayItems : List Json → List String
  | [] => []
  | v :: vs => display v :: displayItems vs

/-- The members of an object as messages show them. -/
def displayMembers : List (String × Json) → List String
  | [] => []
  | (k, v) :: ms => (Text.quoted k ++ ": " ++ display v) :: displayMembers ms

end

/-- A value as it is put into running text: a text as it is, anything else as `display` shows
it. -/
def plain : Json → String
  | str s | unpaired s => s
  | v => display v

end BrowserPlan.Json
