import BrowserPlan.Pattern.Alphabet
import BrowserPlan.Pattern.Parser

/-!
# Patterns ready to match

A parsed pattern with its flags worked in: characters and sets become tests, anchors say which
breaks they know, and a look behind knows how far back it starts. `Pattern.compile` is what the
rest of the program uses; it fails where the text is no pattern.
-/
namespace BrowserPlan.Pattern

/-- Places as flags have settled them. -/
inductive Place where
  | textStart
  | lineStart
  | textEnd
  /-- The end, or the place before a line feed that ends the text. -/
  | finalBreak
  | lineEnd
  | boundary (unicode negated : Bool)
  deriving DecidableEq, Repr

/-- A part of a pattern that is ready to match. -/
inductive Code where
  | test (t : CharTest)
  | place (p : Place)
  | group (index : Option Nat) (body : List Code)
  | atomic (body : List Code)
  | loop (greed : Greed) (least : Nat) (most : Option Nat) (body : List Code)
  | branch (alternatives : List (List Code))
  | backReference (group : Nat) (folding : Folding)
  | conditional (group : Nat) (yes no : List Code)
  /-- `back` characters before the place, none for a look ahead. -/
  | look (back : Nat) (negated : Bool) (body : List Code)
  deriving Inhabited

/-- The name under which a loop is refused. -/
def Greed.label : Greed → String
  | .greedy => "MAX_REPEAT"
  | .lazy => "MIN_REPEAT"
  | .possessive => "POSSESSIVE_REPEAT"

/-- An anchor under flags. -/
def Anchor.settled (flags : Flags) : Anchor → Place
  | .start => if flags.multiLine then .lineStart else .textStart
  | .finish => if flags.multiLine then .lineEnd else .finalBreak
  | .textStart => .textStart
  | .textEnd => .textEnd
  | .boundary => .boundary flags.unicode false
  | .inside => .boundary flags.unicode true

/-- The greatest width of a look behind. -/
def maxBehind : Nat := Nat.pow 2 32 - 1

mutual

/-- A node under flags. -/
def Node.settle (groups : Nat → Width) (flags : Flags) : Node → Except Fault Code
  | .char code => .ok (.test (.ofChar flags false code))
  | .notChar code => .ok (.test (.ofChar flags true code))
  | .anyChar => .ok (.test (.ofDot flags))
  | .set negated items => .ok (.test (.ofSet flags negated items))
  | .anchor place => .ok (.place (place.settled flags))
  | .group index on off body => (settleAll groups (flags.within on off) body).map (.group index)
  | .atomic body => (settleAll groups flags body).map .atomic
  | .loop greed least most body =>
    if flags.template then
      .error (.structural ("internal: unsupported template operator " ++ greed.label))
    else (settleAll groups flags body).map (.loop greed least most)
  | .branch alternatives => (settleBranches groups flags alternatives).map .branch
  | .backReference group => .ok (.backReference group flags.folding)
  | .conditional group yes none => (settleAll groups flags yes).map (.conditional group · [])
  | .conditional group yes (some no) => do
    let yes ← settleAll groups flags yes
    let no ← settleAll groups flags no
    return .conditional group yes no
  | .look behind negated body => do
    let width := widthOf groups body
    if behind && width.least > maxBehind then throw (.structural "looks too much behind")
    else if behind && width.least != width.most then
      throw (.structural "look-behind requires fixed-width pattern")
    else return .look (if behind then width.least else 0) negated (← settleAll groups flags body)

/-- Nodes under flags, one after another. -/
def settleAll (groups : Nat → Width) (flags : Flags) : List Node → Except Fault (List Code)
  | [] => .ok []
  | n :: rest => do
    let code ← n.settle groups flags
    return code :: (← settleAll groups flags rest)

/-- Alternatives under flags, one after another. -/
def settleBranches (groups : Nat → Width) (flags : Flags) :
    List (List Node) → Except Fault (List (List Code))
  | [] => .ok []
  | a :: rest => do
    let codes ← settleAll groups flags a
    return codes :: (← settleBranches groups flags rest)

end

end Pattern

/-- A pattern ready to match. -/
structure Pattern where
  source : String
  /-- The flags of the whole pattern, its own and those given from outside. -/
  flags : Pattern.Flags
  codes : List Pattern.Code

namespace Pattern

/-- Reads a pattern and makes it ready to match. -/
def compile (source : String) (given : Flags) : Except Fault Pattern := do
  let parsed ← parse source given
  let flags := parsed.flags.union given
  let groups := fun g => ((parsed.groups[g - 1]?).getD none).getD .zero
  return ⟨source, flags, ← settleAll groups flags parsed.nodes⟩

end Pattern
end BrowserPlan
