/-!
# JSON values

Values as the program meets them: objects keep the order of their members, and whole numbers of
any size stay apart from floats. A text that holds half of a surrogate pair is no Unicode text; it
is kept as `unpaired`, with the replacement character in place of each such half. Keys are Unicode
texts: half of a pair in a key is read as the replacement character.
-/
namespace BrowserPlan

/-- A JSON value. -/
inductive Json where
  | null
  | bool (value : Bool)
  | int (value : Int)
  | float (value : Float)
  | str (value : String)
  /-- A text with half of a surrogate pair in it, shown with replacement characters. -/
  | unpaired (shown : String)
  | arr (items : List Json)
  | obj (members : List (String × Json))
  deriving Inhabited

namespace Json

/-- The members of an object. -/
abbrev Members := List (String × Json)

/-- The value under a key. -/
def Members.get? (ms : Members) (key : String) : Option Json :=
  (ms.find? fun m => m.1 == key).map (·.2)

/-- The same members with `value` under `key`: at the place of the key where it is present, at
the end where it is not. -/
def Members.put (ms : Members) (key : String) (value : Json) : Members :=
  match ms with
  | [] => [(key, value)]
  | m :: rest => if m.1 == key then (key, value) :: rest else m :: Members.put rest key value

theorem Members.get?_put_self (ms : Members) (key : String) (value : Json) :
    (ms.put key value).get? key = some value := by
  induction ms with
  | nil => simp [Members.put, Members.get?]
  | cons m rest ih =>
    by_cases h : m.1 == key
    · simp [Members.put, Members.get?, h]
    · have h' : (m.1 == key) = false := by simpa using h
      rw [Members.put, if_neg h]
      simpa [Members.get?, List.find?_cons, h'] using ih

/-- The name of a value's kind in messages. -/
def kindName : Json → String
  | null => "NoneType"
  | bool _ => "bool"
  | int _ => "int"
  | float _ => "float"
  | str _ | unpaired _ => "str"
  | arr _ => "list"
  | obj _ => "dict"

/-- Whether a value counts as present: null, false, zero and empty values do not. -/
def truthy : Json → Bool
  | null => false
  | bool b => b
  | int n => n != 0
  | float x => x != 0.0
  | str s => s != ""
  | unpaired _ => true
  | arr items => !items.isEmpty
  | obj ms => !ms.isEmpty

/-- The text of a string value. -/
def text? : Json → Option String
  | str s | unpaired s => some s
  | _ => none

mutual

/-- Whether no text in a value holds half of a surrogate pair. -/
def isUnicode : Json → Bool
  | unpaired _ => false
  | arr vs => areUnicode vs
  | obj ms => haveUnicode ms
  | _ => true

/-- Whether all items are so. -/
def areUnicode : List Json → Bool
  | [] => true
  | v :: vs => isUnicode v && areUnicode vs

/-- Whether the values of all members are so. -/
def haveUnicode : List (String × Json) → Bool
  | [] => true
  | (_, v) :: ms => isUnicode v && haveUnicode ms

end

/-- The value under a key of an object, none for other values and missing keys. -/
def member? (v : Json) (key : String) : Option Json :=
  match v with
  | obj ms => Members.get? ms key
  | _ => none

/-- The items of an array, none of them for other values. -/
def items : Json → List Json
  | arr xs => xs
  | _ => []

/-- The members of an object, none of them for other values. -/
def members : Json → Members
  | obj ms => ms
  | _ => []

end Json
end BrowserPlan
