import BrowserPlan.Pattern.Width
import BrowserPlan.Text.Quoted

/-!
# Reading a pattern token by token

A token is one character or a backslash with the character after it. The reader always holds the
next token, so a backslash at the very end is found as soon as the token before it is taken.
Faults are reported at the place of the next token, moved back by an offset.
-/
namespace BrowserPlan.Pattern

/-- One character, or a backslash and the character after it. -/
inductive Token where
  | char (c : Char)
  | escape (c : Char)
  deriving DecidableEq, Repr

namespace Token

/-- How many characters a token takes. -/
def length : Token → Nat
  | char _ => 1
  | escape _ => 2

/-- The characters of a token. -/
def chars : Token → List Char
  | char c => [c]
  | escape c => ['\\', c]

/-- The text of a token. -/
def text (t : Token) : String := String.ofList t.chars

end Token

/-- What reading a pattern keeps track of. -/
structure Reader where
  /-- The pattern. -/
  source : Array Char
  /-- Where the characters after the next token start. -/
  index : Nat
  /-- The next token, none at the end. -/
  next : Option Token
  /-- Flags set for the whole pattern. -/
  flags : Flags
  /-- Named groups with their numbers. -/
  names : List (String × Nat)
  /-- The width of each group from the first, none while it is open. -/
  widths : Array (Option Width)
  /-- The number of groups when the outermost look behind began. -/
  behindFrom : Option Nat
  /-- Groups referred to in conditions, with the place of the first reference. -/
  references : List (Nat × Nat)

/-- Reading, which may find a fault. -/
abbrev Reading := StateT Reader (Except Fault)

namespace Reading

/-- Whether the next token is the character `c`. -/
def atChar (c : Char) : Reading Bool := return (← get).next == some (.char c)

/-- The next token. -/
def peek : Reading (Option Token) := return (← get).next

/-- The place of the next token. -/
def place : Reading Nat := return (← get).index - (((← get).next.map Token.length).getD 0)

/-- Gives up with a fault `offset` characters before the next token. -/
def fail {α : Type} (what : String) (offset : Nat) : Reading α := do
  throw (.syntactic what ((← place) - offset))

/-- Makes the token at `index` the next one. -/
def load : Reading Unit := do
  let r ← get
  match r.source[r.index]? with
  | none => set { r with next := none }
  | some '\\' =>
    match r.source[r.index + 1]? with
    | none => throw (.syntactic "bad escape (end of pattern)" (r.source.size - 1))
    | some c => set { r with index := r.index + 2, next := some (.escape c) }
  | some c => set { r with index := r.index + 1, next := some (.char c) }

/-- Takes the next token. -/
def take : Reading (Option Token) := do
  let t ← peek
  load
  return t

/-- Takes the next token if it is the character `c`. -/
def accept (c : Char) : Reading Bool := do
  if ← atChar c then
    load
    return true
  else return false

/-- Goes back or on to the token at a place. -/
def seek (index : Nat) : Reading Unit := do
  modify fun r => { r with index := index }
  load

/-- Takes characters that satisfy `p`, at most so many. -/
def takeWhile (p : Char → Bool) : (most : Nat) → Reading (List Char)
  | 0 => return []
  | most + 1 => do
    match ← peek with
    | some (.char c) =>
      if p c then
        load
        return c :: (← takeWhile p most)
      else return []
    | _ => return []

/-- Takes what stands before a closing character, and that character; `fuel` bounds the tokens. -/
def takeUntil (closing : Char) (what : String) : (fuel : Nat) → (acc : List Char) →
    Reading (List Char)
  | 0, acc => return acc
  | fuel + 1, acc => do
    match ← take with
    | none =>
      if acc.isEmpty then fail s!"missing {what}" 0
      else fail s!"missing {closing}, unterminated name" acc.length
    | some t =>
      if t == .char closing then
        if acc.isEmpty then fail s!"missing {what}" 1 else return acc
      else takeUntil closing what fuel (acc ++ t.chars)

/-- What stands before a closing character. -/
def nameUntil (closing : Char) (what : String) : Reading (List Char) := do
  takeUntil closing what ((← get).source.size + 1) []

/-! ## Groups -/

/-- How many groups there are, the whole match counted as one. -/
def groupCount : Reading Nat := return (← get).widths.size + 1

/-- The width of a closed group. -/
def closedWidth? (group : Nat) : Reading (Option Width) := do
  if group == 0 then return none
  else return (((← get).widths[group - 1]?).getD none)

/-- The widths of the closed groups. -/
def groupWidths : Reading (Nat → Width) := do
  let widths := (← get).widths
  return fun group => ((widths[group - 1]?).getD none).getD .zero

/-- A reference from inside a look behind must be to a group closed before it began. -/
def checkBehind (group : Nat) : Reading Unit := do
  match (← get).behindFrom with
  | none => return ()
  | some from_ =>
    if (← closedWidth? group).isNone then fail "cannot refer to an open group" 0
    else if group ≥ from_ then
      fail "cannot refer to group defined in the same lookbehind subpattern" 0
    else return ()

/-- Opens a group; a name may be given only once. -/
def openGroup (name : Option String) : Reading Nat := do
  let group ← groupCount
  modify fun r => { r with widths := r.widths.push none }
  match name with
  | none => return group
  | some name =>
    match (← get).names.find? (·.1 == name) with
    | some (_, earlier) =>
      fail (s!"redefinition of group name " ++ Text.quoted name ++
        s!" as group {group}; was group {earlier}") (name.length + 1)
    | none =>
      modify fun r => { r with names := r.names ++ [(name, group)] }
      return group

/-- Closes a group, whose width is now known. -/
def closeGroup (group : Nat) (body : List Node) : Reading Unit := do
  let width := widthOf (← groupWidths) body
  modify fun r => { r with widths := r.widths.setIfInBounds (group - 1) (some width) }

/-- The number of a named group. -/
def groupNamed? (name : String) : Reading (Option Nat) :=
  return ((← get).names.find? (·.1 == name)).map (·.2)

end Reading
end BrowserPlan.Pattern
