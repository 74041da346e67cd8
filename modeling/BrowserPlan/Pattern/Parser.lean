import BrowserPlan.Pattern.Escape
import BrowserPlan.Text.Identifier
import BrowserPlan.Text.Word
import BrowserPlan.Text.Blank

/-!
# Reading patterns

`Pattern.parse` turns a text into a tree or finds the first fault in it. Alternatives are read by
`alternatives`, what stands between two bars by `sequence`, and what follows an opening
parenthesis by `parenthesis`. Each call takes at least one token, so a multiple of the length of
the text bounds their depth.
-/
namespace BrowserPlan.Pattern

/-- The largest group number that is ever looked at. -/
def maxGroups : Nat := 1073741823

namespace Reading

/-! ## Character sets -/

/-- The text of a token that starts a range or ends one. -/
def rangeFault {α : Type} (first last : Token) : Reading α :=
  fail ("bad character range " ++ first.text ++ "-" ++ last.text) (first.length + 1 + last.length)

/-- What a token stands for inside a set. -/
def setItem : Token → Reading SetItem
  | .char c => return .char c.toNat
  | .escape c => setEscape c

/-- The items up to the closing bracket, after those in `acc`, the last one first; `opened` is
the place of the opening bracket. -/
def setItems (opened : Nat) : (fuel : Nat) → (acc : List SetItem) → Reading (List SetItem)
  | 0, acc => return acc.reverse
  | fuel + 1, acc => do
    match ← take with
    | none => fail "unterminated character set" ((← place) - opened)
    | some t =>
      if t == .char ']' && !acc.isEmpty then return acc.reverse
      else
        let item ← setItem t
        if ← accept '-' then
          match ← take with
          | none => fail "unterminated character set" ((← place) - opened)
          | some (.char ']') => return (.char 0x2d :: item :: acc).reverse
          | some last =>
            match item, ← setItem last with
            | .char lo, .char hi =>
              if hi < lo then rangeFault t last else setItems opened fuel (.range lo hi :: acc)
            | _, _ => rangeFault t last
        else setItems opened fuel (item :: acc)

/-- The set whose opening bracket was taken. A set of one character is that character. -/
def characterSet : Reading Node := do
  let opened := (← place) - 1
  let negated ← accept '^'
  let items ← setItems opened ((← get).source.size + 1) []
  match items.eraseDups with
  | [.char c] => return if negated then .notChar c else .char c
  | distinct => return .set negated distinct

/-! ## Loops -/

/-- The number of rounds that a run of digits denotes. -/
def loopCount (digits : List Char) : Reading Nat :=
  if digits.length > Text.maxDigits then throw (.longCount digits.length)
  else
    let rounds := Text.digitsValue digits
    if rounds ≥ Width.countLimit then throw .hugeCount else return rounds

/-- The bounds of a loop whose sign was taken, none when the brace stands for itself. -/
def loopBounds (sign : Char) : Reading (Option (Nat × Option Nat)) := do
  if sign == '?' then return some (0, some 1)
  else if sign == '*' then return some (0, none)
  else if sign == '+' then return some (1, none)
  else if ← atChar '}' then return none
  else
    let here ← place
    let size := (← get).source.size
    let low ← takeWhile Text.isDigitChar size
    let comma ← accept ','
    let high ← if comma then takeWhile Text.isDigitChar size else pure low
    if !(← accept '}') then
      seek here
      return none
    else
      let least ← loopCount low
      if high.isEmpty then return some (least, none)
      else
        let most ← loopCount high
        if most < least then fail "min repeat greater than max repeat" ((← place) - here)
        else return some (least, some most)

/-- How a loop chooses the number of its rounds, by the sign behind its bounds. -/
def loopGreed : Reading Greed := do
  if ← accept '?' then return .lazy
  else if ← accept '+' then return .possessive
  else return .greedy

/-- Puts a loop around the last node. `here` is the place after the sign. -/
def loopAround (here least : Nat) (most : Option Nat) (acc : List Node) : Reading (List Node) := do
  match acc with
  | [] => fail "nothing to repeat" ((← place) - here + 1)
  | last :: before =>
    if last.isAnchor then fail "nothing to repeat" ((← place) - here + 1)
    else if last.isLoop then fail "multiple repeat" ((← place) - here + 1)
    else
      return .loop (← loopGreed) least most last.loopBody :: before

/-! ## Flags -/

/-- What a letter says that is no flag, where flags are expected. -/
def notAFlag {α : Type} (t : Token) (otherwise : String) : Reading α :=
  let letter := match t with
    | .char c => Text.isLetter c.toNat
    | .escape _ => false
  fail (if letter then "unknown flag" else otherwise) t.length

/-- The flag of a token. -/
def flagOf? : Token → Option Flags
  | .char c => Flags.ofLetter? c
  | .escape _ => none

/-- Refuses the flag for the locale's alphabet. -/
def checkFlag (t : Token) : Reading Unit :=
  if t == .char 'L' then fail "bad inline flags: cannot use 'L' flag with a str pattern" 0
  else return ()

/-- The flags that are turned off, up to the colon. -/
def flagsOff : (fuel : Nat) → (off : Flags) → Token → Reading Flags
  | 0, off, _ => return off
  | fuel + 1, off, t => do
    match flagOf? t with
    | none =>
      if t == .char 'L' then fail "bad inline flags: cannot turn off flags 'a', 'u' and 'L'" 0
      else notAFlag t (if off == .none then "missing flag" else "missing :")
    | some flag =>
      if flag.setsAlphabet then fail "bad inline flags: cannot turn off flags 'a', 'u' and 'L'" 0
      else
        match ← take with
        | none => fail "missing :" 0
        | some (.char ':') => return off.union flag
        | some t => flagsOff fuel (off.union flag) t

/-- The flags that are turned on, from the token `t`, and the character after them. -/
def flagsOn : (fuel : Nat) → (on : Flags) → Token → Reading (Flags × Char)
  | 0, on, _ => return (on, ')')
  | fuel + 1, on, t => do
    checkFlag t
    match flagOf? t with
    | none => notAFlag t "missing -, : or )"
    | some flag =>
      let on := on.union flag
      if flag.setsAlphabet && on.ascii && on.unicode then
        fail "bad inline flags: flags 'a', 'u' and 'L' are incompatible" 0
      else
        match ← take with
        | none => fail "missing -, : or )" 0
        | some (.char c) =>
          if c == ')' || c == '-' || c == ':' then return (on, c)
          else flagsOn fuel on (.char c)
        | some t => notAFlag t "missing -, : or )"

/-- Flags after `(?`, from the token `t`: none when they were set for the whole pattern. -/
def inlineFlags (t : Token) : Reading (Option (Flags × Flags)) := do
  let fuel := (← get).source.size + 1
  let (on, after) ← if t == .char '-' then pure (Flags.none, '-') else flagsOn fuel .none t
  if after == ')' then
    modify fun r => { r with flags := r.flags.union on }
    return none
  else if on.template then fail "bad inline flags: cannot turn on global flag" 1
  else
    let off ← if after == '-' then do
        match ← take with
        | none => fail "missing flag" 0
        | some t => flagsOff fuel .none t
      else pure Flags.none
    if off.template then fail "bad inline flags: cannot turn off global flag" 1
    else if on.meets off then fail "bad inline flags: flag turned on and off" 1
    else return some (on, off)

/-! ## Names of groups -/

/-- Refuses what is no name. -/
def checkName (name : List Char) : Reading Unit :=
  if Text.isIdentifier name then return ()
  else fail ("bad character in group name " ++ Text.quoted (String.ofList name)) (name.length + 1)

/-- The digits of a number in any script, single underscores between them left out. -/
def scriptDigits? : (afterDigit : Bool) → List Char → Option (List Nat)
  | afterDigit, [] => if afterDigit then some [] else none
  | afterDigit, c :: rest =>
    if c == '_' && afterDigit then scriptDigits? false rest
    else
      match Text.decimalValue? c.toNat with
      | some d => (scriptDigits? true rest).map (d :: ·)
      | none => none

/-- A number as a group may be given by in a condition: blanks around it and a plus sign are
allowed, and so are the digits of any script, as long as there are not too many of them. -/
def groupNumber? (name : List Char) : Option Nat :=
  let body := Text.trim Text.isBlank name
  let value (ds : List Char) :=
    ((scriptDigits? false ds).filter (·.length ≤ Text.maxDigits)).map
      (·.foldl (fun acc d => 10 * acc + d) 0)
  match body with
  | '+' :: ds => value ds
  | '-' :: ds => (value ds).bind fun n => if n == 0 then some 0 else none
  | ds => value ds

/-- The group a condition refers to, by name or by number. -/
def conditionGroup (name : List Char) : Reading Nat := do
  let text := String.ofList name
  let offset := name.length + 1
  if Text.isIdentifier name then
    match ← groupNamed? text with
    | some group => return group
    | none => fail ("unknown group name " ++ Text.quoted text) offset
  else
    match groupNumber? name with
    | none => fail ("bad character in group name " ++ Text.quoted text) offset
    | some 0 => fail "bad group number" offset
    | some group =>
      if group ≥ maxGroups then fail s!"invalid group reference {group}" offset
      else
        let here ← place
        modify fun r =>
          if r.references.any (·.1 == group) then r
          else { r with references := r.references ++ [(group, here - name.length - 1)] }
        return group

/-! ## Comments -/

/-- Passes over the rest of a line. -/
def skipLine : (fuel : Nat) → Reading Unit
  | 0 => return ()
  | fuel + 1 => do
    match ← take with
    | none | some (.char '\n') => return ()
    | _ => skipLine fuel

/-- Passes over a comment in parentheses that were opened at `opened`. -/
def skipComment (opened : Nat) : (fuel : Nat) → Reading Unit
  | 0 => return ()
  | fuel + 1 => do
    if (← peek).isNone then fail "missing ), unterminated comment" ((← place) - opened)
    else if (← take) == some (.char ')') then return ()
    else skipComment opened fuel

/-- Whether a character is passed over in a verbose pattern. -/
def isVerboseBlank (c : Char) : Bool :=
  c == ' ' || c == '\t' || c == '\n' || c == '\r' || c == '\x0b' || c == '\x0c'

/-! ## The grammar -/

/-- The closing parenthesis of what was opened at `opened`. -/
def closing (opened : Nat) : Reading Unit := do
  if ← accept ')' then return ()
  else fail "missing ), unterminated subpattern" ((← place) - opened)

/-- What stands behind an opening parenthesis adds to the pattern: nothing but perhaps a change of
the verbose flag, or a node. -/
inductive Parenthesis where
  | nothing
  | verbose (on : Bool)
  | node (n : Node)

mutual

/-- Alternatives between bars. `top` says that they are the whole pattern. -/
def alternatives : (fuel : Nat) → (verbose top : Bool) → Reading (List Node)
  | 0, _, _ => return []
  | fuel + 1, verbose, top => do
    let first ← sequence fuel verbose top []
    if ← atChar '|' then
      let rest ← moreAlternatives fuel verbose top
      return [.branch (first :: rest)]
    else return first

/-- The alternatives from a bar on. Flags set in the first alternative of the whole pattern hold
in the later ones. -/
def moreAlternatives : (fuel : Nat) → (verbose top : Bool) → Reading (List (List Node))
  | 0, _, _ => return []
  | fuel + 1, verbose, top => do
    if ← accept '|' then
      let flags := (← get).flags
      let verbose := if top then flags.verbose else verbose
      let next ← sequence fuel verbose false []
      return next :: (← moreAlternatives fuel verbose top)
    else return []

/-- The nodes up to a bar, a closing parenthesis or the end, after those in `acc`, the last one
first. `first` says that flags for the whole pattern may stand here. -/
def sequence : (fuel : Nat) → (verbose first : Bool) → (acc : List Node) → Reading (List Node)
  | 0, _, _, acc => return acc.reverse
  | fuel + 1, verbose, first, acc => do
    match ← peek with
    | none | some (.char '|') | some (.char ')') => return acc.reverse
    | some (.escape c) =>
      load
      sequence fuel verbose first ((← nodeEscape c) :: acc)
    | some (.char c) =>
      load
      if verbose && isVerboseBlank c then sequence fuel verbose first acc
      else if verbose && c == '#' then
        skipLine ((← get).source.size + 1)
        sequence fuel verbose first acc
      else if c == '[' then sequence fuel verbose first ((← characterSet) :: acc)
      else if c == '*' || c == '+' || c == '?' || c == '{' then
        let here ← place
        match ← loopBounds c with
        | none => sequence fuel verbose first (.char c.toNat :: acc)
        | some (least, most) =>
          sequence fuel verbose first (← loopAround here least most acc)
      else if c == '.' then sequence fuel verbose first (.anyChar :: acc)
      else if c == '^' then sequence fuel verbose first (.anchor .start :: acc)
      else if c == '$' then sequence fuel verbose first (.anchor .finish :: acc)
      else if c == '(' then
        match ← parenthesis fuel verbose (first && acc.isEmpty) with
        | .nothing => sequence fuel verbose first acc
        | .verbose on => sequence fuel on first acc
        | .node n => sequence fuel verbose first (n :: acc)
      else sequence fuel verbose first (.char c.toNat :: acc)

/-- What follows an opening parenthesis, through its closing one. -/
def parenthesis : (fuel : Nat) → (verbose first : Bool) → Reading Parenthesis
  | 0, _, _ => return .nothing
  | fuel + 1, verbose, first => do
    let opened := (← place) - 1
    if !(← accept '?') then group fuel verbose opened none
    else
      match ← take with
      | none => fail "unexpected end of pattern" 0
      | some (.char 'P') =>
        if ← accept '<' then
          let name ← nameUntil '>' "group name"
          checkName name
          group fuel verbose opened (some (String.ofList name))
        else if ← accept '=' then
          let name ← nameUntil ')' "group name"
          checkName name
          let text := String.ofList name
          match ← groupNamed? text with
          | none => fail ("unknown group name " ++ Text.quoted text) (name.length + 1)
          | some number =>
            if (← closedWidth? number).isNone then
              fail "cannot refer to an open group" (name.length + 1)
            else
              checkBehind number
              return .node (.backReference number)
        else
          match ← take with
          | none => fail "unexpected end of pattern" 0
          | some t => fail ("unknown extension ?P" ++ t.text) (t.length + 2)
      | some (.char ':') => return .node (.group none .none .none (← body fuel verbose opened))
      | some (.char '#') =>
        skipComment opened ((← get).source.size + 1)
        return .nothing
      | some (.char '=') => look fuel verbose opened false false
      | some (.char '!') => look fuel verbose opened false true
      | some (.char '<') =>
        match ← take with
        | none => fail "unexpected end of pattern" 0
        | some (.char '=') => look fuel verbose opened true false
        | some (.char '!') => look fuel verbose opened true true
        | some t => fail ("unknown extension ?<" ++ t.text) (t.length + 2)
      | some (.char '(') =>
        let number ← conditionGroup (← nameUntil ')' "group name")
        checkBehind number
        let yes ← sequence fuel verbose false []
        let no ← if ← accept '|' then do
            let no ← sequence fuel verbose false []
            if ← atChar '|' then fail "conditional backref with more than two branches" 0
            else pure (some no)
          else pure none
        closing opened
        return .node (.conditional number yes no)
      | some (.char '>') => return .node (.atomic (← body fuel verbose opened))
      | some t =>
        if t == .char '-' || t == .char 'L' || (flagOf? t).isSome then
          match ← inlineFlags t with
          | none =>
            if !first then
              fail "global flags not at the start of the expression" ((← place) - opened)
            else return .verbose (← get).flags.verbose
          | some (on, off) =>
            let verbose := (verbose || on.verbose) && !off.verbose
            return .node (.group none on off (← body fuel verbose opened))
        else fail ("unknown extension ?" ++ t.text) (t.length + 1)

/-- A group that is counted. -/
def group : (fuel : Nat) → (verbose : Bool) → (opened : Nat) → (name : Option String) →
    Reading Parenthesis
  | 0, _, _, _ => return .nothing
  | fuel + 1, verbose, opened, name => do
    let number ← openGroup name
    let inner ← body fuel verbose opened
    closeGroup number inner
    return .node (.group (some number) .none .none inner)

/-- The inside of a group, through its closing parenthesis. -/
def body : (fuel : Nat) → (verbose : Bool) → (opened : Nat) → Reading (List Node)
  | 0, _, _ => return []
  | fuel + 1, verbose, opened => do
    let inner ← alternatives fuel verbose false
    closing opened
    return inner

/-- A look ahead or behind. -/
def look : (fuel : Nat) → (verbose : Bool) → (opened : Nat) → (behind negated : Bool) →
    Reading Parenthesis
  | 0, _, _, _, _ => return .nothing
  | fuel + 1, verbose, opened, behind, negated => do
    let outer := (← get).behindFrom
    if behind && outer.isNone then
      let groups ← groupCount
      modify fun r => { r with behindFrom := some groups }
    let inner ← alternatives fuel verbose false
    if behind && outer.isNone then modify fun r => { r with behindFrom := none }
    closing opened
    return .node (.look behind negated inner)

end

/-- The whole pattern. -/
def whole (flags : Flags) : Reading (List Node) := do
  load
  let nodes ← alternatives (8 * (← get).source.size + 16) flags.verbose true
  let set := (← get).flags
  if set.ascii && set.unicode then throw .bothAlphabets
  else if (← peek).isSome then fail "unbalanced parenthesis" 0
  else
    let groups ← groupCount
    match (← get).references.find? fun r => r.1 ≥ groups with
    | some (group, position) => throw (.syntactic s!"invalid group reference {group}" position)
    | none => return nodes

end Reading

/-- A pattern that was read: its nodes, the flags it holds for itself and its groups' widths. -/
structure Parsed where
  nodes : List Node
  flags : Flags
  groups : Array (Option Width)

/-- Reads a pattern under the flags given from outside. -/
def parse (pattern : String) (flags : Flags) : Except Fault Parsed := do
  let start : Reader := ⟨pattern.toList.toArray, 0, none, flags, [], #[], none, []⟩
  let (nodes, reader) ← (Reading.whole flags).run start
  let alphabet := if reader.flags.ascii then reader.flags else { reader.flags with unicode := true }
  return ⟨nodes, alphabet, reader.widths⟩

end BrowserPlan.Pattern
