import BrowserPlan.Number
import BrowserPlan.Json.Display
import BrowserPlan.Pattern.Program
import BrowserPlan.Spec.Basic

/-!
# Wait conditions

What a run may wait for. A condition has a kind, which some kinds of spelling name, and options;
most kinds need one option. `WaitCondition.check` refuses a condition that lacks it, that names an
unknown state of an element, that waits for a negative time, or whose address pattern is none.
-/
namespace BrowserPlan

/-- What is waited for. -/
inductive WaitKind where
  | navigation
  | networkIdle
  | selector
  | xpath
  | timeout
  | request
  | response
  | function
  deriving DecidableEq, Repr, Inhabited

namespace WaitKind

/-- The name of a kind. -/
def name : WaitKind → String
  | navigation => "navigation"
  | networkIdle => "networkIdle"
  | selector => "selector"
  | xpath => "xpath"
  | timeout => "timeout"
  | request => "request"
  | response => "response"
  | function => "function"

/-- Every spelling of a kind. -/
def spellings : List (String × WaitKind) :=
  [("custom-function", function), ("function", function), ("navigation", navigation),
   ("network-idle", networkIdle), ("networkIdle", networkIdle), ("networkidle", networkIdle),
   ("request", request), ("response", response), ("selector", selector), ("timeout", timeout),
   ("xpath", xpath)]

/-- The kind a text names. -/
def ofString? (label : String) : Option WaitKind :=
  (spellings.find? fun s => s.1 == label).map (·.2)

/-- Each kind is named by its own name. -/
theorem ofString?_name (k : WaitKind) : ofString? k.name = some k := by
  cases k <;> decide

end WaitKind

/-- A condition to wait for. -/
structure WaitCondition where
  kind : WaitKind
  selector : Option String := none
  xpath : Option String := none
  /-- The state an element must come to. -/
  state : Option String := none
  timeout : Option Number := none
  /-- The load state a navigation must come to. -/
  waitUntil : Option String := none
  url : Option String := none
  function : Option String := none
  args : List Json := []
  /-- How often a function is tried: milliseconds or a word. -/
  polling : Option Json := none
  deriving Inhabited

/-- Why a wait condition is refused. -/
inductive WaitFault where
  | unknownKind (label : Json)
  | missing (kind : WaitKind) (option : String)
  | unknownState (state : String)
  | negativeTimeout
  | badPattern (url : String) (fault : Pattern.Fault)
  /-- An address pattern holds a number or flags that no pattern can have. -/
  | unreadable (fault : Pattern.Fault)

/-- The states an element may be waited for in. -/
def elementStates : List String := ["attached", "detached", "visible", "hidden"]

/-- What a fault says. -/
def WaitFault.message : WaitFault → String
  | unknownKind label =>
    "Unknown wait condition " ++ label.display ++ " (expected one of: " ++
      String.intercalate ", " (WaitKind.spellings.map (·.1)) ++ ")"
  | missing kind option => "Wait for " ++ kind.name ++ s!" requires '{option}'"
  | unknownState state =>
    "Unknown element state " ++ Text.quoted state ++ " (expected one of: " ++
      String.intercalate ", " elementStates ++ ")"
  | negativeTimeout => "Wait timeout must be >= 0"
  | badPattern url fault =>
    "Invalid url pattern " ++ Text.quoted url ++ ": " ++
      fault.message (String.ofList (url.toList.drop 3))
  | unreadable fault => fault.message ""

/-- The kind a value of a document names. -/
def WaitKind.read (label : Json) : Except WaitFault WaitKind :=
  match label with
  | .str s =>
    match ofString? s with
    | some kind => .ok kind
    | none => .error (.unknownKind label)
  | other => .error (.unknownKind other)

/-! ## Addresses -/

/-- What an address is matched against: a glob that the driver understands, or a pattern. -/
inductive UrlMatcher where
  | glob (text : String)
  | pattern (p : Pattern)

/-- What introduces a pattern. -/
def patternMark : List Char := ['r', 'e', ':']

/-- The pattern text of an address matcher that has one. -/
def patternText? (url : String) : Option String :=
  if patternMark.isPrefixOf url.toList then some (String.ofList (url.toList.drop 3)) else none

/-- The matcher that a text describes. -/
def UrlMatcher.read (url : String) : Except Pattern.Fault UrlMatcher :=
  match patternText? url with
  | some text => (Pattern.compile text .none).map .pattern
  | none => .ok (.glob url)

namespace WaitCondition

/-- The option a kind cannot do without. -/
def requiredOption? : WaitKind → Option String
  | .navigation | .networkIdle => none
  | .selector => some "selector"
  | .xpath => some "xpath"
  | .timeout => some "timeout"
  | .request | .response => some "url"
  | .function => some "function"

/-- Whether a condition has the option its kind cannot do without. -/
def hasRequired (c : WaitCondition) : Bool :=
  match c.kind with
  | .navigation | .networkIdle => true
  | .selector => given c.selector
  | .xpath => given c.xpath
  | .timeout => c.timeout.isSome
  | .request | .response => given c.url
  | .function => given c.function

/-- Checks the pattern of an address, if it has one. -/
def checkUrl (url : String) : Except WaitFault Unit :=
  match UrlMatcher.read url with
  | .ok _ => .ok ()
  | .error fault =>
    if fault.isPatternError then .error (.badPattern url fault) else .error (.unreadable fault)

/-- Refuses a condition that cannot be waited for. -/
def check (c : WaitCondition) : Except WaitFault WaitCondition := do
  if !c.hasRequired then throw (.missing c.kind ((requiredOption? c.kind).getD ""))
  else if let some state := c.state.filter fun s => !elementStates.contains s then
    throw (.unknownState state)
  else if c.timeout.any (·.isNegative) then throw .negativeTimeout
  else
    match c.url with
    | none => return c
    | some url =>
      checkUrl url
      return c

end WaitCondition
end BrowserPlan
