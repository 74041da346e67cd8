import BrowserPlan.Extraction.Worklist

/-!
# What an extraction means

The records that a specification describes, by recursion over the specification and without any
arena: a field has a list of values on an element, and a record has a member for each of its fields
that has a value. `records` is what the worklist is measured against; `refuses` says on which
documents a field comes to a pattern that is none.
-/
namespace BrowserPlan.Extraction

/-- A document whose answers depend on nothing but the element and the question. -/
structure Document (ε : Type) where
  query : ε → (target : String) → List ε
  read : ε → (target attributeName : String) → List Json
  content : ε → (source : String) → Option String

/-- What a record holds under a key: the value itself where there is one, a list of them where
there are several. -/
def member (key : String) : List Json → Json.Members
  | [] => []
  | [v] => [(key, v)]
  | vs => [(key, .arr vs)]

/-- The `i`-th record of a table: the `i`-th value of each column that is long enough. -/
def row (columns : List (String × List Json)) (i : Nat) : Json.Members :=
  columns.filterMap fun (key, vs) => vs[i]?.map (key, ·)

/-- As many records as the longest column has values. -/
def rows (columns : List (String × List Json)) : List Json :=
  (List.range ((columns.map fun c => c.2.length).foldr max 0)).map fun i => .obj (row columns i)

namespace Document

variable {ε : Type} (doc : Document ε)

/-- The elements that a structural field selects. -/
def elements (e : ε) (f : FieldSpec) : List ε :=
  match f.target? with
  | some target => doc.query e target
  | none => [e]

/-- The values of a leaf; none where its pattern is refused. -/
def leaf (e : ε) (f : FieldSpec) : List Json :=
  if given f.regex then
    match Pattern.compile (f.regex.getD "") .caseless with
    | .ok p => (p.occurrences ((doc.content e f.source).getD "")).map .str
    | .error _ => []
  else
    match f.target? with
    | some target => doc.read e target f.attributeName
    | none => []

mutual

/-- The values of a field on an element. -/
def values (e : ε) : FieldSpec → List Json
  | ⟨selector, xpath, regex, attributeName, source, children⟩ =>
    let f : FieldSpec := ⟨selector, xpath, regex, attributeName, source, children⟩
    if !f.isResolvable then []
    else if f.isStructural then (doc.elements e f).map fun x => .obj (record x children)
    else doc.leaf e f

/-- The members of the record of an element. -/
def record (e : ε) : List (String × FieldSpec) → Json.Members
  | [] => []
  | (key, f) :: rest => member key (values e f) ++ record e rest

end

/-- The records that a specification describes. -/
def records (root : ε) (spec : Spec) : List Json :=
  rows (spec.map fun (key, f) => (key, doc.values root f))

/-- Whether a field is a leaf with a pattern that is none. -/
def isRefused (f : FieldSpec) : Bool :=
  f.isResolvable && !f.isStructural && given f.regex &&
    match Pattern.compile (f.regex.getD "") .caseless with
    | .ok _ => false
    | .error _ => true

mutual

/-- Whether the values of a field on an element cannot be had, because of a pattern that is none. -/
def refuses (e : ε) : FieldSpec → Bool
  | ⟨selector, xpath, regex, attributeName, source, children⟩ =>
    let f : FieldSpec := ⟨selector, xpath, regex, attributeName, source, children⟩
    if f.isStructural then (doc.elements e f).any fun x => refusesAny x children
    else isRefused f

/-- Whether the record of an element cannot be had. -/
def refusesAny (e : ε) : List (String × FieldSpec) → Bool
  | [] => false
  | (_, f) :: rest => refuses e f || refusesAny e rest

end

/-! ## The recursion, field by field -/

theorem values_eq (e : ε) (f : FieldSpec) : doc.values e f =
    if !f.isResolvable then []
    else if f.isStructural then (doc.elements e f).map fun x => .obj (doc.record x f.children)
    else doc.leaf e f := by
  cases f
  rw [values]

theorem refuses_eq (e : ε) (f : FieldSpec) : doc.refuses e f =
    if f.isStructural then (doc.elements e f).any fun x => doc.refusesAny x f.children
    else isRefused f := by
  cases f
  rw [refuses]

theorem record_eq (e : ε) (fields : List (String × FieldSpec)) :
    doc.record e fields = fields.flatMap fun (key, f) => member key (doc.values e f) := by
  induction fields with
  | nil => rfl
  | cons c rest ih => rw [record, ih, List.flatMap_cons]

theorem refusesAny_eq (e : ε) (fields : List (String × FieldSpec)) :
    doc.refusesAny e fields = fields.any fun c => doc.refuses e c.2 := by
  induction fields with
  | nil => rfl
  | cons c rest ih => rw [refusesAny, ih, List.any_cons]

end Document

/-! ## Distinct keys -/

mutual

/-- No two fields of a record have the same key, here and further down. -/
def Distinct : List (String × FieldSpec) → Prop
  | [] => True
  | (key, f) :: rest => (∀ c ∈ rest, c.1 ≠ key) ∧ DistinctBelow f ∧ Distinct rest

/-- No two fields below a field have the same key in one record. -/
def DistinctBelow : FieldSpec → Prop
  | ⟨_, _, _, _, _, children⟩ => Distinct children

end

end BrowserPlan.Extraction
