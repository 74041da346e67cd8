import BrowserPlan.Spec.Basic
import BrowserPlan.Json.Display
import BrowserPlan.Pattern.Program
import BrowserPlan.Text.Blank

/-!
# Reading specifications

A JSON object becomes a specification when every key is nonempty and every value is a field: a
selector as a text that is not blank, or an object with the six known members. The first fault in
the order of the document is reported with the path that leads to it, a field's own faults before
those of its children.
-/
namespace BrowserPlan

/-- Why a value is no specification. -/
inductive SpecCause where
  | notMapping (kind : String)
  | emptyKey
  | blankSelector
  | notField (kind : String)
  | unknownMembers (names : List String)
  | notText (kind : String)
  | twoTargets
  | targetCount (found : List String)
  | unknownSource (source : String)
  | badPattern (regex : String) (fault : Pattern.Fault)
  deriving Repr

/-- A fault found while a specification is read. -/
inductive SpecFault where
  /-- The value at a path is malformed. -/
  | malformed (path : String) (cause : SpecCause)
  /-- A pattern holds a number or flags that no pattern can have. -/
  | unreadable (fault : Pattern.Fault)
  deriving Repr

/-- What a pattern can be matched against. -/
def regexSources : List String := ["html", "text"]

/-- What a cause says. -/
def SpecCause.message : SpecCause → String
  | notMapping kind => s!"expected a mapping, got {kind}"
  | emptyKey => "keys must be non-empty strings"
  | blankSelector => "selector shorthand is empty"
  | notField kind => s!"expected a selector string or a mapping, got {kind}"
  | unknownMembers names => "unknown fields " ++ (Json.arr (names.map .str)).display
  | notText kind => s!"expected a string, got {kind}"
  | twoTargets => "set either selector or xpath, not both"
  | targetCount found =>
    "a leaf needs exactly one of selector, xpath or regex (found: " ++
      (if found.isEmpty then "none" else String.intercalate ", " found) ++ ")"
  | unknownSource source =>
    "source must be one of " ++ String.intercalate ", " regexSources ++ ", got " ++
      Text.quoted source
  | badPattern regex fault => "invalid regex " ++ Text.quoted regex ++ ": " ++ fault.message regex

/-- What a fault says. -/
def SpecFault.message : SpecFault → String
  | malformed path cause => path ++ ": " ++ cause.message
  | unreadable fault => fault.message ""

namespace Spec

/-- The members a field may have. -/
def memberNames : List String := ["selector", "xpath", "regex", "attribute", "source", "children"]

/-- Gives up at a path. -/
def refuse {α : Type} (path : String) (cause : SpecCause) : Except SpecFault α :=
  .error (.malformed path cause)

/-- An optional text among the members of a field; the empty text counts as missing. -/
def optionalText (path : String) (ms : Json.Members) (name : String) :
    Except SpecFault (Option String) :=
  match ms.get? name with
  | none | some .null => .ok none
  | some v =>
    match v.text? with
    | some s => .ok (if s == "" then none else some s)
    | none => refuse (path ++ "." ++ name) (.notText v.kindName)

/-- Checks that a text is a pattern. -/
def checkPattern (path regex : String) : Except SpecFault Unit :=
  match Pattern.compile regex .caseless with
  | .ok _ => .ok ()
  | .error fault =>
    if fault.isPatternError then refuse path (.badPattern regex fault) else .error (.unreadable fault)

/-- A field without children: exactly one target, and a pattern with a known source. -/
def leaf (path : String) (f : FieldSpec) : Except SpecFault FieldSpec := do
  let found := [("selector", f.selector), ("xpath", f.xpath), ("regex", f.regex)].filterMap
    fun (name, v) => v.map fun _ => name
  if found.length != 1 then refuse path (.targetCount found)
  else
    match f.regex with
    | none => return f
    | some regex =>
      if !regexSources.contains f.source then refuse path (.unknownSource f.source)
      else
        checkPattern path regex
        return f

/-- The texts among the members of a field, as a field without children. -/
def readTexts (path : String) (ms : Json.Members) : Except SpecFault FieldSpec := do
  let unknown := (ms.map (·.1)).filter fun name => !memberNames.contains name
  if !unknown.isEmpty then refuse path (.unknownMembers (unknown.mergeSort fun a b => a ≤ b))
  else
    let selector ← optionalText path ms "selector"
    let xpath ← optionalText path ms "xpath"
    let regex ← optionalText path ms "regex"
    let attributeName ← optionalText path ms "attribute"
    let source ← optionalText path ms "source"
    let default : FieldSpec := {}
    return { selector, xpath, regex, attributeName := attributeName.getD default.attributeName,
             source := source.getD default.source }

mutual

/-- Reads a specification; `path` is where it stands. -/
def read (path : String) : Json → Except SpecFault Spec
  | .obj ms => readMembers path ms
  | other => refuse path (.notMapping other.kindName)

/-- The fields of an object, in order. -/
def readMembers (path : String) : List (String × Json) → Except SpecFault Spec
  | [] => .ok []
  | (key, v) :: rest =>
    if key == "" then refuse path .emptyKey
    else do
      let f ← readField (path ++ "." ++ key) v
      return (key, f) :: (← readMembers path rest)

/-- One field. -/
def readField (path : String) : Json → Except SpecFault FieldSpec
  | .str s | .unpaired s =>
    if Text.allBlank s then refuse path .blankSelector else .ok { selector := some s }
  | .obj ms => do
    let texts ← readTexts path ms
    match readChildren path (texts.selector.isSome && texts.xpath.isSome) ms with
    | none => leaf path texts
    | some children => return { selector := texts.selector, xpath := texts.xpath, children := ← children }
  | other => refuse path (.notField other.kindName)

/-- The children among the members of a field, none when it has none or they count as missing.
`twoTargets` says that the field has two targets already, which a structural field may not. -/
def readChildren (path : String) (twoTargets : Bool) :
    List (String × Json) → Option (Except SpecFault Spec)
  | [] => none
  | (key, v) :: rest =>
    if key == "children" then
      if !v.truthy then none
      else if twoTargets then some (refuse path .twoTargets)
      else some (read (path ++ ".children") v)
    else readChildren path twoTargets rest

end

end Spec
end BrowserPlan
