import BrowserPlan.Json.Basic

/-!
# Record arenas

Records under construction. A record lies at a place of the arena and holds, under each key, one
value or several; a value is a JSON value or the place of another record, which is always further
on. When the construction is over, `results` turns the records into JSON values, from the last one
to the first.
-/
namespace BrowserPlan.Extraction

/-- A value of a record. -/
inductive Entry where
  | value (v : Json)
  /-- The record at a place of the arena. -/
  | record (place : Nat)
  deriving Inhabited

/-- What a record holds under a key. -/
inductive Cell where
  | one (e : Entry)
  | several (es : List Entry)
  deriving Inhabited

/-- The cell with one more value. -/
def Cell.add (c : Cell) (e : Entry) : Cell :=
  match c with
  | one first => several [first, e]
  | several es => several (es ++ [e])

/-- A record under construction. -/
abbrev Draft := List (String × Cell)

/-- The record with one more value under a key. -/
def Draft.assign (d : Draft) (key : String) (e : Entry) : Draft :=
  match d with
  | [] => [(key, .one e)]
  | (k, c) :: rest => if k == key then (k, c.add e) :: rest else (k, c) :: Draft.assign rest key e

/-- Records under construction. -/
structure Arena where
  records : Array Draft := #[]
  /-- The places of the records that no other record holds. -/
  roots : Array Nat := #[]
  deriving Inhabited

namespace Arena

/-- An arena with one more record, and its place. -/
def add (a : Arena) : Arena × Nat := ({ a with records := a.records.push [] }, a.records.size)

/-- An arena with so many more roots. -/
def addRoots (a : Arena) : (count : Nat) → Arena
  | 0 => a
  | n + 1 =>
    let (b, place) := a.add
    { b with roots := b.roots.push place }.addRoots n

/-- The place of a root, which is made, with all those before it, where it is missing. -/
def root (a : Arena) (position : Nat) : Arena × Nat :=
  let b := a.addRoots (position + 1 - a.roots.size)
  (b, b.roots.getD position 0)

/-- An arena with one more value in a record. -/
def assign (a : Arena) (place : Nat) (key : String) (e : Entry) : Arena :=
  { a with records := a.records.modify place fun d => d.assign key e }

/-- The JSON value of an entry; `later` has the records from the last one backwards to the one
behind the entry's own, of `count` records in all. -/
def entryValue (count : Nat) (later : Array Json) : Entry → Json
  | .value v => v
  | .record place => later.getD (count - 1 - place) .null

/-- The JSON value of a record. -/
def recordValue (count : Nat) (later : Array Json) (d : Draft) : Json :=
  .obj (d.map fun (key, c) => (key, match c with
    | .one e => entryValue count later e
    | .several es => .arr (es.map (entryValue count later))))

/-- All records as JSON values, from the last one to the first. -/
def recordValues (a : Arena) : Array Json :=
  a.records.toList.foldr (fun d later => later.push (recordValue a.records.size later d)) #[]

/-- The records that no other record holds. -/
def results (a : Arena) : List Json :=
  let values := a.recordValues
  a.roots.toList.map fun place => entryValue a.records.size values (.record place)

end Arena
end BrowserPlan.Extraction
