import BrowserPlan.Plan.Builder
import BrowserPlan.Proofs.Schema.Alike
import Mathlib.Logic.Relation

/-!
# Spellings of a document

One document can be written in many ways. `Respells` relates two documents that differ in one place by one of the
choices an author has: the name of a member, the order of members, a member that says what is said anyway, a number of
repetitions, the name of a kind of wait, one of two ways to write the wait of a click or the state of an element, and
the short form of a selector. `SameButSpelling` is any number of these, in any places and in both directions.

A rule that puts a member under another key asks that neither key is there otherwise; no object has a key twice.
-/
namespace BrowserPlan

open Schema

/-- The action that the members of a step name. -/
def Json.Members.action? (ms : Json.Members) : Option Action :=
  (ms.get? StepDocument.tagKey).bind fun tag => tag.text?.bind Action.ofString?

/-- The members of a document. -/
def Document.fields : List Field :=
  [urlField, headlessField, defaultTimeoutField, defaultNavigationTimeoutField, maxPagesField, keepOpenAfterField,
   stepsField]

open Json.Members (Lacks)

/-- One field of an extraction, written differently in one place. -/
inductive RespellsField : Json → Json → Prop where
  | shorthand {v : Json} {s : String} (hv : v.text? = some s) (hs : Text.allBlank s = false) :
    RespellsField v (.obj [("selector", v)])
  | order {ms ms' : Json.Members} (hkeys : ms.keys.Nodup) (h : ms.Perm ms') : RespellsField (.obj ms) (.obj ms')
  | child {a b c d : Json.Members} {key : String} {v v' : Json} (h : RespellsField v v') :
    RespellsField (.obj (a ++ ("children", .obj (c ++ (key, v) :: d)) :: b))
      (.obj (a ++ ("children", .obj (c ++ (key, v') :: d)) :: b))

/-- The members of a wait, written differently in one place. -/
inductive RespellsWait : Json.Members → Json.Members → Prop where
  | rename {a b : Json.Members} {f : Field} {other : String} {v : Json} (hf : f ∈ WaitDocument.fields)
    (hother : f.otherName = some other) (hlacks : (a ++ b).Lacks f.spellings) :
    RespellsWait (a ++ (f.name, v) :: b) (a ++ (other, v) :: b)
  | order {ms ms' : Json.Members} (hkeys : ms.keys.Nodup) (h : ms.Perm ms') : RespellsWait ms ms'
  | kind {a b : Json.Members} {key k k' : String} {kind : WaitKind} (hkey : key ∈ WaitDocument.forField.spellings)
    (hk : WaitKind.ofString? k = some kind) (hk' : WaitKind.ofString? k' = some kind) :
    RespellsWait (a ++ (key, .str k) :: b) (a ++ (key, .str k') :: b)
  | visible {a b : Json.Members} (hlacks : (a ++ b).Lacks ["visible", "hidden", "state"]) :
    RespellsWait (a ++ ("visible", .bool true) :: b) (a ++ ("state", .str "visible") :: b)
  | hidden {a b : Json.Members} (hlacks : (a ++ b).Lacks ["visible", "hidden", "state"]) :
    RespellsWait (a ++ ("hidden", .bool true) :: b) (a ++ ("state", .str "hidden") :: b)

/-- The members of a wait inside a click, which may name its action. -/
inductive RespellsInnerWait : Json.Members → Json.Members → Prop where
  | wait {ms ms' : Json.Members} (h : RespellsWait ms ms') : RespellsInnerWait ms ms'
  | action {a b : Json.Members} (hlacks : (a ++ b).Lacks ["action"]) :
    RespellsInnerWait (a ++ b) (a ++ ("action", .str "wait") :: b)

/-- One step, written differently in one place, which may lie in a step below it. -/
inductive RespellsStep : Json → Json → Prop where
  | rename {a b : Json.Members} {act : Action} {f : Field} {other : String} {v : Json}
    (hact : (a ++ b).action? = some act) (hf : f ∈ StepDocument.fields act) (hother : f.otherName = some other)
    (hlacks : (a ++ b).Lacks f.spellings) :
    RespellsStep (.obj (a ++ (f.name, v) :: b)) (.obj (a ++ (other, v) :: b))
  | order {ms ms' : Json.Members} (hkeys : ms.keys.Nodup) (h : ms.Perm ms') : RespellsStep (.obj ms) (.obj ms')
  | negated {a b : Json.Members} {v v' : Json} {n : Int} (h : Schema.int v = Checked.ok n)
    (h' : Schema.int v' = Checked.ok (-n)) :
    RespellsStep (.obj (a ++ ("times", v) :: b)) (.obj (a ++ ("times", v') :: b))
  | zeroTimes {a b : Json.Members} {v : Json} (h : Schema.int v = Checked.ok 0) :
    RespellsStep (.obj (a ++ ("times", v) :: b)) (.obj (a ++ ("times", .int 10) :: b))
  | noTimes {a b : Json.Members} (hact : (a ++ b).action? = some .repeat) (hlacks : (a ++ b).Lacks ["times"]) :
    RespellsStep (.obj (a ++ b)) (.obj (a ++ ("times", .int 10) :: b))
  | wait {ms ms' : Json.Members} (hact : ms.action? = some .wait) (h : RespellsWait ms ms') :
    RespellsStep (.obj ms) (.obj ms')
  | innerWait {a b ws ws' : Json.Members} (h : RespellsInnerWait ws ws') :
    RespellsStep (.obj (a ++ ("wait", .obj ws) :: b)) (.obj (a ++ ("wait", .obj ws') :: b))
  | waitForKind {a b : Json.Members} {key k k' : String} {kind : WaitKind}
    (hkey : key ∈ StepDocument.waitForField.spellings) (hk : WaitKind.ofString? k = some kind)
    (hk' : WaitKind.ofString? k' = some kind) :
    RespellsStep (.obj (a ++ (key, .str k) :: b)) (.obj (a ++ (key, .str k') :: b))
  | waitFor {a b : Json.Members} {key k : String} {v : Json} (hact : (a ++ b).action? = some .click)
    (hkey : key ∈ StepDocument.waitForField.spellings) (hv : v.text? = some k) (hk : k ≠ "")
    (hlacks : (a ++ b).Lacks ("wait" :: StepDocument.waitForField.spellings)) :
    RespellsStep (.obj (a ++ (key, v) :: b)) (.obj (a ++ ("wait", .obj [("for", v)]) :: b))
  | waitForNull {ms : Json.Members} {key k : String} {v : Json} (hact : ms.action? = some .click)
    (hkey : key ∈ StepDocument.waitForField.spellings) (hv : v.text? = some k) (hk : k ≠ "")
    (hlacks : ms.Lacks ("wait" :: StepDocument.waitForField.spellings)) :
    RespellsStep (.obj (("wait", .null) :: (key, v) :: ms)) (.obj (("wait", .obj [("for", v)]) :: ms))
  | data {a b c d : Json.Members} {key : String} {v v' : Json} (h : RespellsField v v') :
    RespellsStep (.obj (a ++ ("data", .obj (c ++ (key, v) :: d)) :: b))
      (.obj (a ++ ("data", .obj (c ++ (key, v') :: d)) :: b))
  | subStep {a b : Json.Members} {key : String} {vs ws : List Json} {v v' : Json}
    (hkey : key ∈ StepDocument.stepsField.spellings) (h : RespellsStep v v') :
    RespellsStep (.obj (a ++ (key, .arr (vs ++ v :: ws)) :: b)) (.obj (a ++ (key, .arr (vs ++ v' :: ws)) :: b))

/-- A document, written differently in one place. -/
inductive Respells : Json → Json → Prop where
  | rename {a b : Json.Members} {f : Field} {other : String} {v : Json} (hf : f ∈ Document.fields)
    (hother : f.otherName = some other) (hlacks : (a ++ b).Lacks f.spellings) :
    Respells (.obj (a ++ (f.name, v) :: b)) (.obj (a ++ (other, v) :: b))
  | order {ms ms' : Json.Members} (hkeys : ms.keys.Nodup) (h : ms.Perm ms') : Respells (.obj ms) (.obj ms')
  | unknown {a b : Json.Members} {key : String} {v : Json} (hkey : ∀ f ∈ Document.fields, key ∉ f.spellings) :
    Respells (.obj (a ++ b)) (.obj (a ++ (key, v) :: b))
  | step {a b : Json.Members} {vs ws : List Json} {v v' : Json} (h : RespellsStep v v') :
    Respells (.obj (a ++ ("steps", .arr (vs ++ v :: ws)) :: b)) (.obj (a ++ ("steps", .arr (vs ++ v' :: ws)) :: b))

/-- The documents differ by any number of choices of spelling. -/
def SameButSpelling : Json → Json → Prop := Relation.EqvGen Respells

end BrowserPlan
