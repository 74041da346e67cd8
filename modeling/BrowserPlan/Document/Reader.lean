import BrowserPlan.Document.Basic
import BrowserPlan.Json.Display
import BrowserPlan.Schema.Scalar

/-!
# Documents read from JSON

Every member of a document is read under its camel-case name or its snake-case name, the first
being preferred. Steps and waits refuse members they do not know; the top level passes over them.
All complaints are collected: those about known members in the order of the fields, then those
about strangers in the order of the document. Rules over several members are checked only where
there are no complaints.
-/
namespace BrowserPlan

open Schema

/-! ## Waits -/

namespace WaitDocument

def actionField : Field := ⟨"action", none⟩
def forField : Field := ⟨"for", some "for_"⟩
def selectorField : Field := ⟨"selector", none⟩
def xpathField : Field := ⟨"xpath", none⟩
def stateField : Field := ⟨"state", none⟩
def visibleField : Field := ⟨"visible", none⟩
def hiddenField : Field := ⟨"hidden", none⟩
def timeoutField : Field := ⟨"timeout", none⟩
def waitUntilField : Field := ⟨"waitUntil", some "wait_until"⟩
def urlField : Field := ⟨"url", none⟩
def functionField : Field := ⟨"function", none⟩
def argsField : Field := ⟨"args", none⟩
def pollingField : Field := ⟨"polling", none⟩

/-- The members of a wait. -/
def fields : List Field :=
  [actionField, forField, selectorField, xpathField, stateField, visibleField, hiddenField,
   timeoutField, waitUntilField, urlField, functionField, argsField, pollingField]

/-- Reads how often a function is tried: a text stays one, even if it could be a number. -/
def readPolling : Reader Json
  | .str s => .ok (.str s)
  | v =>
    match float v with
    | .ok x => .ok (.float x)
    | .error asFloat =>
      .bad (((Checked.bad asFloat : Checked Json).within (.key "float")).complaints ++
        ((text v).within (.key "str")).complaints)

/-- Reads a wait from its members. -/
def ofMembers (ms : Json.Members) : Checked WaitDocument :=
  (fun _ => WaitDocument.mk) <$>
    actionField.optional none (nullable (oneOf ["wait"])) ms <*>
    forField.required text ms <*>
    selectorField.optional none (nullable text) ms <*>
    xpathField.optional none (nullable text) ms <*>
    stateField.optional none (nullable text) ms <*>
    visibleField.optional none (nullable bool) ms <*>
    hiddenField.optional none (nullable bool) ms <*>
    timeoutField.optional none (nullable nonNegative) ms <*>
    waitUntilField.optional none (nullable text) ms <*>
    urlField.optional none (nullable text) ms <*>
    functionField.optional none (nullable text) ms <*>
    argsField.optional [] list ms <*>
    pollingField.optional none (nullable readPolling) ms <*
    noStrangers fields ms

/-- Reads a wait. -/
def read : Reader WaitDocument
  | .obj ms => ofMembers ms
  | _ => .fail (.notModel "WaitDocument")

end WaitDocument

/-! ## Steps -/

namespace StepDocument

/-- The key that tells what a step does. -/
def tagKey : String := "action"

def tagField : Field := ⟨tagKey, none⟩
def selectorField : Field := ⟨"selector", none⟩
def xpathField : Field := ⟨"xpath", none⟩
def waitField : Field := ⟨"wait", none⟩
def waitForField : Field := ⟨"waitFor", some "wait_for"⟩
def textField : Field := ⟨"text", none⟩
def delayField : Field := ⟨"delay", none⟩
def toField : Field := ⟨"to", none⟩
def waitUntilField : Field := ⟨"waitUntil", some "wait_until"⟩
def timeoutField : Field := ⟨"timeout", none⟩
def dataField : Field := ⟨"data", none⟩
def pathField : Field := ⟨"path", none⟩
def fullPageField : Field := ⟨"fullPage", some "full_page"⟩
def timesField : Field := ⟨"times", none⟩
def attributeField : Field := ⟨"attribute", none⟩
def stepsField : Field := ⟨"subSteps", some "sub_steps"⟩

/-- The members of a step. -/
def fields : Action → List Field
  | .click => [tagField, selectorField, xpathField, waitField, waitForField]
  | .type => [tagField, textField, selectorField, xpathField, delayField]
  | .go => [tagField, toField, waitUntilField, timeoutField]
  | .wait => WaitDocument.fields
  | .scrape => [tagField, dataField, pathField]
  | .screenshot => [tagField, pathField, fullPageField]
  | .repeat => [tagField, timesField, stepsField]
  | .crawl => [tagField, selectorField, xpathField, attributeField, stepsField]

/-- Whether a text is there and not empty. -/
def isGiven (t : Option String) : Bool := t.any (· != "")

/-- The rule that a step names its target in exactly one way. -/
def oneTargetRule (a : Action) : String :=
  a.name ++ " needs exactly one of 'selector' or 'xpath'"

/-- The rule that a click names its wait in at most one way. -/
def oneWaitRule : String := "click accepts 'wait' or 'waitFor', not both"

/-- The load states a step may name. -/
def loadStates : List String := ["load", "domcontentloaded", "networkidle", "commit"]

/-- Whether exactly one way to name a target is used. -/
def hasOneTarget (selector xpath : Option String) : Bool := isGiven selector != isGiven xpath

/-- Whether a step names its target, if it needs one, in exactly one way. -/
def keepsTargetRule : StepDocument → Bool
  | click selector xpath _ _ | type _ selector xpath _ | crawl selector xpath _ _ =>
    hasOneTarget selector xpath
  | _ => true

/-- Whether a click names its wait in at most one way. -/
def keepsWaitRule : StepDocument → Bool
  | click _ _ inner word => !(inner.isSome && isGiven word)
  | _ => true

/-- Reads the members of a step, given the lists of steps that its members are. -/
def ofMembers (a : Action) (ms : Json.Members) (nested : List (String × Checked (List StepDocument))) :
    Checked StepDocument :=
  match a with
  | .click =>
    click <$> selectorField.optional none (nullable text) ms <*>
      xpathField.optional none (nullable text) ms <*>
      waitField.optional none (nullable WaitDocument.read) ms <*>
      waitForField.optional none (nullable text) ms <* noStrangers (fields a) ms
  | .type =>
    type <$> textField.required text ms <*>
      selectorField.optional none (nullable text) ms <*>
      xpathField.optional none (nullable text) ms <*>
      delayField.optional (.int 0) (fun v => Number.float <$> nonNegative v) ms <*
      noStrangers (fields a) ms
  | .go =>
    go <$> toField.required someText ms <*>
      waitUntilField.optional none (nullable (oneOf loadStates)) ms <*>
      timeoutField.optional none (nullable nonNegative) ms <* noStrangers (fields a) ms
  | .wait => wait <$> WaitDocument.ofMembers ms
  | .scrape =>
    scrape <$> dataField.required dictionary ms <*> pathField.required someText ms <*
      noStrangers (fields a) ms
  | .screenshot =>
    screenshot <$> pathField.required someText ms <*> fullPageField.optional false bool ms <*
      noStrangers (fields a) ms
  | .repeat =>
    «repeat» <$> timesField.optional 0 int ms <*> stepsField.optional [] id nested <*
      noStrangers (fields a) ms
  | .crawl =>
    crawl <$> selectorField.optional none (nullable text) ms <*>
      xpathField.optional none (nullable text) ms <*>
      attributeField.optional "href" text ms <*> stepsField.optional [] id nested <*
      noStrangers (fields a) ms

/-- Reads the members of a step whose action is known, and checks the rules over several members. -/
def checked (a : Action) (ms : Json.Members)
    (nested : List (String × Checked (List StepDocument))) : Checked StepDocument :=
  (((ofMembers a ms nested).keeping (oneTargetRule a) keepsTargetRule).keeping
    oneWaitRule keepsWaitRule).within (.key a.name)

mutual

/-- Reads a step. -/
def read : Json → Checked StepDocument
  | .obj ms =>
    match Json.Members.get? ms tagKey with
    | none => .fail (.noTag tagKey)
    | some tag =>
      match tag.text?.bind Action.ofString? with
      | some a => checked a ms (readNested ms)
      | none => .fail (.unknownTag tagKey tag.plain (Action.all.map Action.name))
  | _ => .fail .notTagged

/-- Reads every member as a list of steps. -/
def readNested : List (String × Json) → List (String × Checked (List StepDocument))
  | [] => []
  | (key, v) :: rest => (key, readList v) :: readNested rest

/-- Reads a list of steps. -/
def readList : Json → Checked (List StepDocument)
  | .arr vs => itemsFrom 0 (readItems vs)
  | _ => .fail .notList

/-- Reads each item as a step. -/
def readItems : List Json → List (Checked StepDocument)
  | [] => []
  | v :: vs => read v :: readItems vs

end

end StepDocument

/-! ## The whole document -/

/-- Reads how long the browser stays open: a whole number stays one, anything else that can be a
truth value is one. -/
def KeepOpen.read : Reader KeepOpen
  | .int n => .ok (.millis n)
  | v =>
    match bool v, int v with
    | .ok b, _ => .ok (.flag b)
    | .error _, .ok n => .ok (.millis n)
    | .error asBool, .error asInt =>
      .bad (((Checked.bad asBool : Checked Bool).within (.key "bool")).complaints ++
        ((Checked.bad asInt : Checked Int).within (.key "int")).complaints)

/-- Whether the time the browser stays open is none below zero. -/
def KeepOpen.isValid : KeepOpen → Bool
  | .flag _ => true
  | .millis n => 0 ≤ n

namespace Document

def urlField : Field := ⟨"url", none⟩
def headlessField : Field := ⟨"headless", none⟩
def defaultTimeoutField : Field := ⟨"defaultTimeout", some "default_timeout"⟩
def defaultNavigationTimeoutField : Field :=
  ⟨"defaultNavigationTimeout", some "default_navigation_timeout"⟩
def maxPagesField : Field := ⟨"maxPages", some "max_pages"⟩
def keepOpenAfterField : Field := ⟨"keepOpenAfter", some "keep_open_after"⟩
def stepsField : Field := ⟨"steps", none⟩

/-- The rule that the browser stays open for no negative time. -/
def keepOpenRule : String := "keepOpenAfter must be a boolean or a non-negative integer"

/-- Reads a document from its members. -/
def ofMembers (ms : Json.Members) : Checked Document :=
  (Document.mk <$> urlField.required someText ms <*>
    headlessField.optional none (nullable bool) ms <*>
    defaultTimeoutField.optional none (nullable nonNegative) ms <*>
    defaultNavigationTimeoutField.optional none (nullable nonNegative) ms <*>
    maxPagesField.optional 1 (intFrom 1) ms <*>
    keepOpenAfterField.optional (.flag false) KeepOpen.read ms <*>
    stepsField.optional [] StepDocument.readList ms).keeping
      keepOpenRule fun d => d.keepOpenAfter.isValid

end Document
end BrowserPlan
