import BrowserPlan.Browser.Operation
import BrowserPlan.Files

/-!
# Sites in memory

What the network would bring: the documents at some addresses, and rules by which calls are slow,
hang, fail or lead elsewhere. A rule applies to the calls it names; it may let the first few pass,
and it may be good for a few calls only. The first rule that applies to a call is the one that
counts.
-/
namespace BrowserPlan.Browser

/-- The kinds of failure a call can end in. -/
inductive FailureKind where
  | failure
  | badValue
  /-- One of the program's own. -/
  | own
  | pool
  deriving DecidableEq, Repr, Inhabited

/-- Why a call fails. -/
inductive CallFault where
  | raised (kind : FailureKind) (text : String)
  | file (fault : FileFault)
  deriving DecidableEq, Repr

/-- What a fault says. -/
def CallFault.message : CallFault → String
  | raised _ text => text
  | file fault => fault.message

/-- How a call goes: what it waits for, how it ends, and where it leads. -/
structure Course where
  hangs : Bool := false
  /-- How long the call takes, in microseconds. -/
  delay : Nat := 0
  /-- The user interrupts the program. -/
  interrupts : Bool := false
  fault : Option CallFault := none
  /-- The address the call leads to. -/
  landing : Option String := none
  deriving Inhabited

/-- A rule. -/
structure Rule where
  /-- The name of the calls it applies to. -/
  on : String
  party : Option String := none
  key : Option String := none
  /-- How many more calls it lets pass. -/
  skip : Int := 0
  /-- For how many more calls it is good, if not for all. -/
  times : Option Int := none
  course : Course := {}
  deriving Inhabited

namespace Rule

/-- Whether a rule applies to a call. -/
def appliesTo (r : Rule) (name party : String) (key : Option String) : Bool :=
  r.on == name && r.party.all (· == party) && r.key.all fun k => key == some k

/-- Finds the course of a call, and notes that the rules have been asked. -/
def consult (name party : String) (key : Option String) : List Rule → List Rule × Course
  | [] => ([], {})
  | r :: rest =>
    if !r.appliesTo name party key then
      let (rest, course) := consult name party key rest
      (r :: rest, course)
    else if 0 < r.skip then
      let (rest, course) := consult name party key rest
      ({ r with skip := r.skip - 1 } :: rest, course)
    else if r.times.any (· < 1) then
      let (rest, course) := consult name party key rest
      (r :: rest, course)
    else ({ r with times := r.times.map (· - 1) } :: rest, r.course)

end Rule

/-- A site. -/
structure Site where
  /-- The documents by their addresses. -/
  documents : List (String × Markup) := []
  rules : List Rule := []
  deriving Inhabited

/-- The document at an address; an address that is not known has an empty one. -/
def Site.documentAt (s : Site) (url : String) : Markup :=
  ((s.documents.find? fun d => d.1 == url).map (·.2)).getD {}

end BrowserPlan.Browser
