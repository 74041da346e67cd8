import BrowserPlan.Extraction.Arena
import BrowserPlan.Pattern.Match
import BrowserPlan.Spec.Basic

/-!
# Extraction

Reads records from a document as a specification says. The work is done level by level: all
fields of one level are resolved, in the order in which they were come by, before the fields below
them. A field that selects nothing to look at is skipped. What the document answers comes through
a `Source`, so that the same work can be done on a page, on an element, or on plain data.
-/
namespace BrowserPlan.Extraction

/-- A document as extraction sees it: how its elements are found, read and written out, and what
is done about fields that cannot be resolved. -/
structure Source (m : Type → Type) (ε : Type) where
  /-- The elements that a selector finds below an element. -/
  query : ε → (target : String) → m (List ε)
  /-- An attribute of every element that a selector finds below an element. -/
  read : ε → (target attributeName : String) → m (List Json)
  /-- The content of an element, if it has any. -/
  content : ε → (source : String) → m (Option String)
  skip : (key : String) → m Unit
  /-- Refuses a pattern that is none. -/
  refuse : (regex : String) → Pattern.Fault → m Pattern

/-- A field to be resolved against an element, and the record its values belong to; the values of
a field of the first level each belong to a record of their own. -/
structure Work (ε : Type) where
  element : ε
  key : String
  field : FieldSpec
  place : Option Nat

variable {m : Type → Type} [Monad m] {ε : Type}

/-- The record that a value belongs to, by the value's position. -/
def Arena.placeFor (a : Arena) (place : Option Nat) (position : Nat) : Arena × Nat :=
  match place with
  | some place => (a, place)
  | none => a.root position

/-- The pattern that a text describes. -/
def compile (s : Source m ε) (regex : String) : m Pattern :=
  match Pattern.compile regex .caseless with
  | .ok p => pure p
  | .error fault => s.refuse regex fault

/-- The values of a leaf. -/
def leafValues (s : Source m ε) (element : ε) (f : FieldSpec) : m (List Json) :=
  if given f.regex then do
    let content ← s.content element f.source
    let p ← compile s (f.regex.getD "")
    return (p.occurrences (content.getD "")).map .str
  else
    match f.target? with
    | some target => s.read element target f.attributeName
    | none => pure []

/-- The elements that a structural field selects. -/
def matchesOf (s : Source m ε) (element : ε) (f : FieldSpec) : m (List ε) :=
  match f.target? with
  | some target => s.query element target
  | none => pure [element]

/-- Puts the values of a leaf into their records. -/
def assignValues (w : Work ε) : (position : Nat) → Arena → List Json → Arena
  | _, a, [] => a
  | position, a, v :: rest =>
    let (a, place) := a.placeFor w.place position
    assignValues w (position + 1) (a.assign place w.key (.value v)) rest

/-- Puts a record for each element that was selected into its record; tells the work to be done
on the elements. -/
def assignElements (w : Work ε) : (position : Nat) → Arena → List ε → Arena × List (Work ε)
  | _, a, [] => (a, [])
  | position, a, e :: rest =>
    let (a, place) := a.placeFor w.place position
    let (a, nested) := a.add
    let below := w.field.children.map fun (key, f) => ⟨e, key, f, some nested⟩
    let (a, works) := assignElements w (position + 1) (a.assign place w.key (.record nested)) rest
    (a, below ++ works)

/-- Resolves a field; tells the work that follows from it. -/
def resolve (s : Source m ε) (a : Arena) (w : Work ε) : m (Arena × List (Work ε)) := do
  if !w.field.isResolvable then
    s.skip w.key
    return (a, [])
  else if w.field.isStructural then
    return assignElements w 0 a (← matchesOf s w.element w.field)
  else
    return (assignValues w 0 a (← leafValues s w.element w.field), [])

/-- Resolves the fields of one level; tells the work of the next one. -/
def resolveLevel (s : Source m ε) : Arena → List (Work ε) → m (Arena × List (Work ε))
  | a, [] => pure (a, [])
  | a, w :: rest => do
    let (a, below) ← resolve s a w
    let (a, next) ← resolveLevel s a rest
    return (a, below ++ next)

/-- Resolves the fields of so many levels. -/
def resolveLevels (s : Source m ε) : (levels : Nat) → Arena → List (Work ε) → m Arena
  | 0, a, _ => pure a
  | n + 1, a, works => do
    let (a, next) ← resolveLevel s a works
    resolveLevels s n a next

/-- The records that a specification describes, read from a document. There is no work left
below the last level of the specification. -/
def extract (s : Source m ε) (root : ε) (spec : Spec) : m (List Json) := do
  let works := spec.map fun (key, f) => ⟨root, key, f, none⟩
  let a ← resolveLevels s (Spec.depth spec) {} works
  return a.results

end BrowserPlan.Extraction
