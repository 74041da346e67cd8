import BrowserPlan.Pattern.Program

/-!
# Matching

A pattern is matched by trying its parts in order and going back to the last choice where one
fails. What remains to be matched is a list of frames; a choice tries the frames of its first
alternative and, where they fail, those of the next. The marks that groups leave belong to the
attempt, so going back forgets them. A loop that has its least number of rounds goes round again
only from a place other than the one of its last round.

`search` is the first match of a pattern in a text, `occurrences` are all its matches, none of
which overlaps another; after an empty match only a nonempty one may start at the same place.
-/
namespace BrowserPlan.Pattern

/-- Where the groups of an attempt start and end: start and end of group `g` are the entries
`2 g - 2` and `2 g - 1`. -/
abbrev Marks := Array (Option Nat)

/-- The marks with `mark` set to a place. -/
def Marks.put (marks : Marks) (mark place : Nat) : Marks :=
  let wide := if marks.size ≤ mark then marks ++ Array.replicate (mark + 1 - marks.size) none
    else marks
  wide.setIfInBounds mark (some place)

/-- Start and end of what a group matched. -/
def Marks.group? (marks : Marks) (group : Nat) : Option (Nat × Nat) :=
  match marks[2 * group - 2]?, marks[2 * group - 1]? with
  | some (some start), some (some stop) => if stop < start then none else some (start, stop)
  | _, _ => none

/-- What remains to be matched. -/
inductive Frame where
  | codes (rest : List Code)
  /-- The end of a group. -/
  | close (group : Nat)
  /-- A loop that made `count` rounds, the last of them from `last`. -/
  | again (greed : Greed) (least : Nat) (most : Option Nat) (body : List Code) (count : Nat)
      (last : Option Nat)

/-- The code point at a place. -/
abbrev Subject := Array Nat

/-- Whether the character at a place exists and is a word character. -/
def wordAt (s : Subject) (unicode : Bool) (i : Nat) : Bool :=
  match s[i]? with
  | some c => Class.word.holds unicode c
  | none => false

/-- Whether a place of the text is the one asked for. -/
def Place.holds (s : Subject) (i : Nat) : Place → Bool
  | .textStart => i == 0
  | .lineStart => i == 0 || s[i - 1]? == some 0x0a
  | .textEnd => i == s.size
  | .finalBreak => i == s.size || (i + 1 == s.size && s[i]? == some 0x0a)
  | .lineEnd => i == s.size || s[i]? == some 0x0a
  | .boundary unicode negated =>
    s.size != 0 &&
      ((wordAt s unicode i != (i != 0 && wordAt s unicode (i - 1))) != negated)

/-- How many characters from a place on pass a test, up to a bound. -/
def runLength (s : Subject) (t : CharTest) (i : Nat) : (bound : Nat) → Nat
  | 0 => 0
  | bound + 1 =>
    match s[i]? with
    | some c => if t.accepts c then runLength s t (i + 1) bound + 1 else 0
    | none => 0

/-- Whether the text at `i` repeats the one from `start` to `stop`, and where that ends. -/
def repeats? (s : Subject) (folding : Folding) (start stop i : Nat) : Option Nat :=
  let same := (List.range (stop - start)).all fun k =>
    match s[start + k]?, s[i + k]? with
    | some a, some b => folding.apply a == folding.apply b
    | _, _ => false
  if same then some (i + (stop - start)) else none

/-- Matches frames from a place on: the place where they end and the marks they leave. `accept`
says which end is allowed; `fuel` bounds the depth. -/
def attempt (s : Subject) : (fuel : Nat) → (accept : Nat → Bool) → List Frame → (i : Nat) →
    Marks → Option (Nat × Marks)
  | 0, _, _, _, _ => none
  | _ + 1, accept, [], i, marks => if accept i then some (i, marks) else none
  | fuel + 1, accept, .close group :: rest, i, marks =>
    attempt s fuel accept rest i (marks.put (2 * group - 1) i)
  | fuel + 1, accept, .again greed least most body count last :: rest, i, marks =>
    let oneMore (last : Option Nat) :=
      .codes body :: .again greed least most body (count + 1) last :: rest
    if count < least then attempt s fuel accept (oneMore last) i marks
    else
      let open_ := (match most with
        | none => true
        | some n => count < n) && last != some i
      match greed with
      | .greedy =>
        if open_ then
          match attempt s fuel accept (oneMore (some i)) i marks with
          | some found => some found
          | none => attempt s fuel accept rest i marks
        else attempt s fuel accept rest i marks
      | .lazy =>
        match attempt s fuel accept rest i marks with
        | some found => some found
        | none => if open_ then attempt s fuel accept (oneMore (some i)) i marks else none
      | .possessive =>
        if open_ then
          match attempt s fuel (fun _ => true) [.codes body] i marks with
          | some (j, marks) =>
            attempt s fuel accept (.again greed least most body (count + 1) (some i) :: rest) j marks
          | none => attempt s fuel accept rest i marks
        else attempt s fuel accept rest i marks
  | fuel + 1, accept, .codes [] :: rest, i, marks => attempt s fuel accept rest i marks
  | fuel + 1, accept, .codes (code :: codes) :: rest, i, marks =>
    let after := Frame.codes codes :: rest
    match code with
    | .test t =>
      match s[i]? with
      | some c => if t.accepts c then attempt s fuel accept after (i + 1) marks else none
      | none => none
    | .place p => if p.holds s i then attempt s fuel accept after i marks else none
    | .group none body => attempt s fuel accept (.codes body :: after) i marks
    | .group (some g) body =>
      attempt s fuel accept (.codes body :: .close g :: after) i (marks.put (2 * g - 2) i)
    | .atomic body =>
      match attempt s fuel (fun _ => true) [.codes body] i marks with
      | some (j, marks) => attempt s fuel accept after j marks
      | none => none
    | .loop greed least most [.test t] =>
      let longest := runLength s t i (match most with
        | none => s.size - i
        | some n => min n (s.size - i))
      if longest < least then none
      else
        let lengths := (List.range (longest - least + 1)).map (least + ·)
        match greed with
        | .greedy => lengths.reverse.findSome? fun n => attempt s fuel accept after (i + n) marks
        | .lazy => lengths.findSome? fun n => attempt s fuel accept after (i + n) marks
        | .possessive => attempt s fuel accept after (i + longest) marks
    | .loop .possessive least most body =>
      if least == 0 then
        attempt s fuel accept (.again .possessive 0 most body 0 none :: after) i marks
      else
        match attempt s fuel (fun _ => true)
            [.again .greedy least (some least) [.atomic body] 0 none] i marks with
        | some (j, marks) =>
          attempt s fuel accept (.again .possessive 0 (most.map (· - least)) body 0 none :: after) j
            marks
        | none => none
    | .loop greed least most body =>
      attempt s fuel accept (.again greed least most body 0 none :: after) i marks
    | .branch alternatives =>
      alternatives.findSome? fun a => attempt s fuel accept (.codes a :: after) i marks
    | .backReference group folding =>
      match marks.group? group with
      | none => none
      | some (start, stop) =>
        match repeats? s folding start stop i with
        | some j => attempt s fuel accept after j marks
        | none => none
    | .conditional group yes no =>
      attempt s fuel accept
        (.codes (if (marks.group? group).isSome then yes else no) :: after) i marks
    | .look back negated body =>
      let found := if i < back then none
        else attempt s fuel (fun _ => true) [.codes body] (i - back) marks
      match found, negated with
      | some (_, marks), false => attempt s fuel accept after i marks
      | none, true => attempt s fuel accept after i marks
      | _, _ => none

mutual

/-- How many frames one pass through a part can take. -/
def Code.weight : Code → Nat
  | .test _ | .place _ | .backReference .. => 2
  | .group _ body | .atomic body => weightOf body + 4
  | .loop _ least _ body => (least + 2) * (weightOf body + 4)
  | .branch alternatives => branchWeight alternatives + 2
  | .conditional _ yes no => weightOf yes + weightOf no + 2
  | .look _ _ body => weightOf body + 2

/-- How many frames one pass through parts in a row can take. -/
def weightOf : List Code → Nat
  | [] => 2
  | c :: rest => c.weight + weightOf rest

/-- How many frames one pass through alternatives can take. -/
def branchWeight : List (List Code) → Nat
  | [] => 0
  | a :: rest => weightOf a + branchWeight rest

end

end Pattern

namespace Pattern

/-- A depth that no attempt exceeds: between two characters each part is passed through a number
of times that its nesting bounds. -/
def depthBound (p : Pattern) (s : Subject) : Nat :=
  (s.size + 2) * (weightOf p.codes + 4) * (weightOf p.codes + 4)

/-- The end of the match that starts at a place, none where there is none. -/
def matchAt? (p : Pattern) (s : Subject) (accept : Nat → Bool) (i : Nat) : Option Nat :=
  (attempt s (p.depthBound s) accept [.codes p.codes] i #[]).map (·.1)

/-- The first match that starts at one of `count` places from `i` on. `nonempty` asks for a
nonempty match at the first of them. -/
def searchFrom (p : Pattern) (s : Subject) : (count i : Nat) → (nonempty : Bool) →
    Option (Nat × Nat)
  | 0, _, _ => none
  | count + 1, i, nonempty =>
    match p.matchAt? s (fun j => !(nonempty && j == i)) i with
    | some j => some (i, j)
    | none => searchFrom p s count (i + 1) false

/-- The code points of a text. -/
def subject (text : String) : Subject := (text.toList.map Char.toNat).toArray

/-- The part of a text between two places. -/
def slice (text : List Char) (start stop : Nat) : String :=
  String.ofList ((text.drop start).take (stop - start))

/-- Where the first match in a text starts, and its text. -/
def search (p : Pattern) (text : String) : Option (Nat × String) :=
  let s := subject text
  (p.searchFrom s (s.size + 1) 0 false).map fun (i, j) => (i, slice text.toList i j)

/-- All matches from a place on; `fuel` bounds their number. -/
def occurrencesFrom (p : Pattern) (s : Subject) : (fuel i : Nat) → (nonempty : Bool) →
    List (Nat × Nat)
  | 0, _, _ => []
  | fuel + 1, i, nonempty =>
    match p.searchFrom s (s.size + 1 - i) i nonempty with
    | some (start, stop) => (start, stop) :: occurrencesFrom p s fuel stop (start == stop)
    | none => []

/-- The texts of all matches. Each match but an empty one moves on, and after an empty one the
next moves on, so twice the length bounds their number. -/
def occurrences (p : Pattern) (text : String) : List String :=
  let s := subject text
  (p.occurrencesFrom s (2 * s.size + 2) 0 false).map fun (i, j) => slice text.toList i j

end Pattern
end BrowserPlan
