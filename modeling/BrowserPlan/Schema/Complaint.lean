import BrowserPlan.Text.Quoted

/-!
# Complaints about a document

What is wrong with a value of a document, and where. A place is the way from the top of the
document: the keys of members as they were spelled, the positions of items, and the tag of a tagged
value.
-/
namespace BrowserPlan.Schema

/-- One step of the way to a value. -/
inductive Part where
  | key (name : String)
  | item (position : Nat)
  deriving DecidableEq, Repr, Inhabited

/-- What is wrong with a value. -/
inductive Reason where
  | missing
  | stranger
  | notText
  | notUnicode
  | tooShort
  | notBool
  | noBoolWord
  | notInt
  | noIntText
  | intTooLarge
  | fractional
  | notFinite
  | notFloat
  | noFloatText
  | tooSmall (least : Int)
  | notList
  | notDictionary
  /-- A tagged value that has no members. -/
  | notTagged
  /-- A value without members where one of the named model belongs. -/
  | notModel (model : String)
  | notOneOf (words : List String)
  | noTag (key : String)
  | unknownTag (key tag : String) (known : List String)
  /-- A rule that concerns several members at once. -/
  | broken (rule : String)
  deriving DecidableEq, Repr, Inhabited

/-- A complaint about the value at a place. -/
structure Complaint where
  place : List Part
  reason : Reason
  deriving DecidableEq, Repr, Inhabited

/-- Words in a row, the last one set off by `or`. -/
def listedWords : List String → String
  | [] => ""
  | [w] => Text.quoted w
  | [v, w] => Text.quoted v ++ " or " ++ Text.quoted w
  | w :: rest => Text.quoted w ++ ", " ++ listedWords rest

namespace Reason

/-- The short name of a reason. -/
def code : Reason → String
  | missing => "missing"
  | stranger => "extra_forbidden"
  | notText => "string_type"
  | notUnicode => "string_unicode"
  | tooShort => "string_too_short"
  | notBool => "bool_type"
  | noBoolWord => "bool_parsing"
  | notInt => "int_type"
  | noIntText => "int_parsing"
  | intTooLarge => "int_parsing_size"
  | fractional => "int_from_float"
  | notFinite => "finite_number"
  | notFloat => "float_type"
  | noFloatText => "float_parsing"
  | tooSmall _ => "greater_than_equal"
  | notList => "list_type"
  | notDictionary => "dict_type"
  | notTagged => "model_attributes_type"
  | notModel _ => "model_type"
  | notOneOf _ => "literal_error"
  | noTag _ => "union_tag_not_found"
  | unknownTag .. => "union_tag_invalid"
  | broken _ => "value_error"

/-- What a reason says. -/
def message : Reason → String
  | missing => "Field required"
  | stranger => "Extra inputs are not permitted"
  | notText => "Input should be a valid string"
  | notUnicode => "Input should be a valid string, unable to parse raw data as a unicode string"
  | tooShort => "String should have at least 1 character"
  | notBool => "Input should be a valid boolean"
  | noBoolWord => "Input should be a valid boolean, unable to interpret input"
  | notInt => "Input should be a valid integer"
  | noIntText => "Input should be a valid integer, unable to parse string as an integer"
  | intTooLarge => "Unable to parse input string as an integer, exceeded maximum size"
  | fractional => "Input should be a valid integer, got a number with a fractional part"
  | notFinite => "Input should be a finite number"
  | notFloat => "Input should be a valid number"
  | noFloatText => "Input should be a valid number, unable to parse string as a number"
  | tooSmall least => s!"Input should be greater than or equal to {least}"
  | notList => "Input should be a valid list"
  | notDictionary => "Input should be a valid dictionary"
  | notTagged => "Input should be a valid dictionary or object to extract fields from"
  | notModel model => s!"Input should be a valid dictionary or instance of {model}"
  | notOneOf words => "Input should be " ++ listedWords words
  | noTag key => "Unable to extract tag using discriminator " ++ Text.quoted key
  | unknownTag key tag known =>
    "Input tag '" ++ tag ++ "' found using " ++ Text.quoted key ++
      " does not match any of the expected tags: " ++
      String.intercalate ", " (known.map Text.quoted)
  | broken rule => "Value error, " ++ rule

end Reason
end BrowserPlan.Schema
