import BrowserPlan.Text.Hex

/-!
# Patterns

Search patterns as trees. A pattern is a list of nodes matched one after another; groups,
alternatives, loops and looks around hold patterns in turn. Flags that change how letters, lines
and blanks are understood are part of the tree where they are set for a group only.
-/
namespace BrowserPlan.Pattern

/-- How a pattern, or a part of it, is understood. -/
structure Flags where
  /-- Letters match without regard to case. -/
  ignoreCase : Bool := false
  /-- `^` and `$` match at line breaks too. -/
  multiLine : Bool := false
  /-- `.` matches line feeds too. -/
  dotAll : Bool := false
  /-- Blanks and comments in the pattern are passed over. -/
  verbose : Bool := false
  /-- Classes and case know ASCII only. -/
  ascii : Bool := false
  /-- Classes and case know all of Unicode. -/
  unicode : Bool := false
  /-- Loops are ruled out. -/
  template : Bool := false
  deriving DecidableEq, Repr, Inhabited

namespace Flags

/-- No flag. -/
def none : Flags := {}

/-- The flags with which content is searched: letter case does not count. -/
def caseless : Flags := { ignoreCase := true }

/-- Every flag of either. -/
def union (a b : Flags) : Flags :=
  ⟨a.ignoreCase || b.ignoreCase, a.multiLine || b.multiLine, a.dotAll || b.dotAll,
   a.verbose || b.verbose, a.ascii || b.ascii, a.unicode || b.unicode, a.template || b.template⟩

/-- The flags of the first without those of the second. -/
def without (a b : Flags) : Flags :=
  ⟨a.ignoreCase && !b.ignoreCase, a.multiLine && !b.multiLine, a.dotAll && !b.dotAll,
   a.verbose && !b.verbose, a.ascii && !b.ascii, a.unicode && !b.unicode,
   a.template && !b.template⟩

/-- Whether the two have a flag in common. -/
def meets (a b : Flags) : Bool :=
  a.ignoreCase && b.ignoreCase || a.multiLine && b.multiLine || a.dotAll && b.dotAll ||
  a.verbose && b.verbose || a.ascii && b.ascii || a.unicode && b.unicode || a.template && b.template

/-- Whether a flag is set that says which characters classes know. -/
def setsAlphabet (f : Flags) : Bool := f.ascii || f.unicode

/-- The flags inside a group that turns some on and some off. An alphabet that is turned on takes
the place of the one around the group. -/
def within (around on off : Flags) : Flags :=
  let base := if on.setsAlphabet then { around with ascii := false, unicode := false } else around
  (base.union on).without off

/-- The flag a letter stands for. -/
def ofLetter? (c : Char) : Option Flags :=
  if c == 'i' then some { ignoreCase := true }
  else if c == 'm' then some { multiLine := true }
  else if c == 's' then some { dotAll := true }
  else if c == 'x' then some { verbose := true }
  else if c == 'a' then some { ascii := true }
  else if c == 'u' then some { unicode := true }
  else if c == 't' then some { template := true }
  else Option.none

end Flags

/-- Classes of characters with a letter of their own. -/
inductive Class where
  | digit
  | space
  | word
  deriving DecidableEq, Repr

/-- A member of a character set. -/
inductive SetItem where
  | char (code : Nat)
  | range (first last : Nat)
  | «class» (kind : Class) (negated : Bool)
  deriving DecidableEq, Repr

/-- Places that match without consuming anything. -/
inductive Anchor where
  /-- `^` -/
  | start
  /-- `$` -/
  | finish
  /-- `\A` -/
  | textStart
  /-- `\Z` -/
  | textEnd
  /-- `\b` -/
  | boundary
  /-- `\B` -/
  | inside
  deriving DecidableEq, Repr

/-- How a loop chooses the number of its rounds. -/
inductive Greed where
  /-- As many as possible, fewer if what follows fails. -/
  | greedy
  /-- As few as possible, more if what follows fails. -/
  | lazy
  /-- As many as possible, and never fewer. -/
  | possessive
  deriving DecidableEq, Repr

/-- A part of a pattern. -/
inductive Node where
  | char (code : Nat)
  | notChar (code : Nat)
  | anyChar
  | set (negated : Bool) (items : List SetItem)
  | anchor (place : Anchor)
  | group (index : Option Nat) (on off : Flags) (body : List Node)
  | atomic (body : List Node)
  | loop (greed : Greed) (least : Nat) (most : Option Nat) (body : List Node)
  | branch (alternatives : List (List Node))
  | backReference (group : Nat)
  | conditional (group : Nat) (yes : List Node) (no : Option (List Node))
  | look (behind negated : Bool) (body : List Node)
  deriving Repr, Inhabited

namespace Node

/-- Whether a node is an anchor. -/
def isAnchor : Node → Bool
  | anchor _ => true
  | _ => false

/-- Whether a node is a loop. -/
def isLoop : Node → Bool
  | loop .. => true
  | _ => false

/-- What a loop around a node repeats: the inside of a group that only groups. -/
def loopBody : Node → List Node
  | n@(group Option.none on off body) => if on == .none && off == .none then body else [n]
  | n => [n]

end Node

/-! ## Faults -/

/-- Why a text is not a pattern. -/
inductive Fault where
  /-- A fault of the text at an offset. -/
  | syntactic (what : String) (position : Nat)
  /-- A fault of the pattern as a whole. -/
  | structural (what : String)
  /-- A loop count that is beyond every limit. -/
  | hugeCount
  /-- A loop count with more digits than are ever read. -/
  | longCount (digits : Nat)
  /-- The code of a character that is beyond every limit. -/
  | hugeCode
  /-- Both alphabets at once for the whole pattern. -/
  | bothAlphabets
  deriving DecidableEq, Repr

/-- Whether the fault is one of the pattern's own language, and not a number out of range or two
flags that exclude each other. -/
def Fault.isPatternError : Fault → Bool
  | .syntactic .. | .structural _ => true
  | .hugeCount | .longCount _ | .hugeCode | .bothAlphabets => false

/-- What a fault in a pattern says. An offset is given also as line and column when the pattern
has several lines. -/
def Fault.message (pattern : String) : Fault → String
  | .syntactic what position =>
    let cs := pattern.toList
    let before := cs.take position
    let line := (before.filter (· == '\n')).length + 1
    let column := (before.reverse.takeWhile (· != '\n')).length + 1
    let text := s!"{what} at position {position}"
    if cs.contains '\n' then s!"{text} (line {line}, column {column})" else text
  | .structural what => what
  | .hugeCount => "the repetition number is too large"
  | .longCount digits => Text.tooManyDigits digits
  | .hugeCode => "Python int too large to convert to C int"
  | .bothAlphabets => "ASCII and UNICODE flags are incompatible"

end BrowserPlan.Pattern
