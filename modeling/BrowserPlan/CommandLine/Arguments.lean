import BrowserPlan.Text.Quoted
import BrowserPlan.Text.Word

/-!
# Arguments of the command line

The program takes the path of a plan and a few options. A long option may be cut short as long as
it stays clear which one is meant, and its value may be attached with `=`; short options may be
run together. After `--` nothing is an option. `Arguments.read` tells what is asked for, or why the
arguments are refused.
-/
namespace BrowserPlan.CommandLine

/-- The options. -/
inductive Switch where
  | help
  | logLevel
  | verbose
  deriving DecidableEq, Repr

namespace Switch

/-- Every spelling of an option. -/
def spellings : List (String × Switch) :=
  [("-h", help), ("--help", help), ("--log-level", logLevel), ("-v", verbose),
   ("--verbose", verbose)]

/-- The option with a spelling. -/
def ofString? (text : String) : Option Switch :=
  (spellings.find? fun s => s.1 == text).map (·.2)

/-- The spellings of an option. -/
def title (s : Switch) : String :=
  String.intercalate "/" ((spellings.filter fun p => p.2 == s).map (·.1))

/-- Whether an option needs a value. -/
def takesValue : Switch → Bool
  | logLevel => true
  | help | verbose => false

end Switch

/-- What an argument is taken for. -/
inductive Token where
  | word (text : String)
  /-- The mark that no options follow. -/
  | separator
  /-- An option as it was spelt, and the value attached to it. -/
  | option (s : Switch) (spelling : String) (attached : Option String)
  /-- Something that looks like an option. -/
  | unknown (text : String)
  deriving DecidableEq, Repr

/-- What the arguments ask for. -/
structure Arguments where
  path : String
  logLevel : Option String
  verbose : Bool
  deriving DecidableEq, Repr

/-- Why nothing is run. -/
inductive Refusal where
  | helpWanted
  | usage (message : String)
  deriving DecidableEq, Repr

namespace Token

/-- Parts a text at the first equals sign, if it has one. -/
def partValue (cs : List Char) : List Char × Option String :=
  match cs.dropWhile (· != '=') with
  | [] => (cs, none)
  | _ :: value => (cs.takeWhile (· != '='), some (String.ofList value))

/-- The options that a text with two dashes may be short for. -/
def longCandidates (cs : List Char) : List (Switch × String × Option String) :=
  let (name, attached) := partValue cs
  (Switch.spellings.filter fun p => name.isPrefixOf p.1.toList).map fun p => (p.2, p.1, attached)

/-- The options that a text with one dash may be: short ones that others may follow, and long ones
spelt with a single dash. -/
def shortCandidates (cs : List Char) : List (Switch × String × Option String) :=
  Switch.spellings.filterMap fun p =>
    if p.1.toList == cs.take 2 then some (p.2, p.1, some (String.ofList (cs.drop 2)))
    else if cs.isPrefixOf p.1.toList then some (p.2, p.1, none)
    else none

/-- Whether a text has digits only. -/
def allDigits (cs : List Char) : Bool := cs.all fun c => Text.isDecimalCode c.toNat

/-- Whether a text that begins with a dash is a negative number. -/
def isNegativeNumber (cs : List Char) : Bool :=
  let body := cs.drop 1
  let body := if body.getLast? == some '\n' then body.dropLast else body
  match body.dropWhile (· != '.') with
  | [] => !body.isEmpty && allDigits body
  | _ :: fraction => allDigits (body.takeWhile (· != '.')) && !fraction.isEmpty && allDigits fraction

/-- What a text with a dash at its start, which is no option as it stands, is taken for. -/
def ofDashed (text : String) : Except Refusal Token :=
  let cs := text.toList
  let candidates :=
    if ['-', '-'].isPrefixOf cs then longCandidates cs else shortCandidates cs
  match candidates with
  | [(s, spelling, attached)] => .ok (.option s spelling attached)
  | [] =>
    if isNegativeNumber cs || cs.contains ' ' then .ok (.word text) else .ok (.unknown text)
  | several =>
    .error (.usage ("ambiguous option: " ++ text ++ " could match " ++
      String.intercalate ", " (several.map (·.2.1))))

/-- What an argument is taken for while options may follow. -/
def ofString (text : String) : Except Refusal Token :=
  match text.toList with
  | [] | [_] => .ok (.word text)
  | '-' :: _ =>
    match Switch.ofString? text with
    | some s => .ok (.option s text none)
    | none =>
      let (name, attached) := partValue text.toList
      let spelling := String.ofList name
      match attached, Switch.ofString? spelling with
      | some _, some s => .ok (.option s spelling attached)
      | _, _ => ofDashed text
  | _ => .ok (.word text)

/-- What the arguments are taken for. -/
def ofStrings : List String → Except Refusal (List Token)
  | [] => .ok []
  | "--" :: rest => .ok (.separator :: rest.map .word)
  | text :: rest => do
    let t ← ofString text
    return t :: (← ofStrings rest)

/-- Whether a token is spelt like an option. -/
def isOption : Token → Bool
  | option .. | unknown _ => true
  | word _ | separator => false

/-- The text of a token that is no option. -/
def plainText : Token → String
  | word text | unknown text | option _ text _ => text
  | separator => "--"

end Token

/-- What has been read of the arguments. -/
structure Progress where
  path : Option String := none
  logLevel : Option String := none
  verbose : Bool := false
  /-- Arguments that nobody wants. -/
  extras : List String := []
  deriving Repr

namespace Progress

/-- Puts an argument with the unwanted ones. -/
def spare (p : Progress) (text : String) : Progress := { p with extras := p.extras ++ [text] }

/-- Takes an argument that is no option. -/
def word (p : Progress) (text : String) : Progress :=
  match p.path with
  | none => { p with path := some text }
  | some _ => p.spare text

/-- The fault of an option whose value is not as it should be. -/
def badValue {α : Type} (s : Switch) (message : String) : Except Refusal α :=
  .error (.usage ("argument " ++ s.title ++ ": " ++ message))

/-- Heeds an option without a value. -/
def heed (p : Progress) : Switch → Except Refusal Progress
  | .help => .error .helpWanted
  | .verbose => .ok { p with verbose := true }
  | .logLevel => .ok p

/-- Heeds several options without a value, in order. -/
def heedAll (p : Progress) : List Switch → Except Refusal Progress
  | [] => .ok p
  | s :: rest => do (← p.heed s).heedAll rest

/-- The short options that are run together with `s`, the first one. -/
def cluster (s : Switch) : (attached : List Char) → Except Refusal (List Switch)
  | [] => .ok [s]
  | c :: rest =>
    match Switch.ofString? (String.ofList ['-', c]) with
    | some t => do return s :: (← cluster t rest)
    | none => badValue s ("ignored explicit argument " ++ Text.quoted (String.ofList (c :: rest)))

/-- Heeds an option with something attached to it. -/
def heedAttached (p : Progress) (s : Switch) (spelling attached : String) :
    Except Refusal Progress :=
  if s.takesValue then .ok { p with logLevel := some attached }
  else if ['-', '-'].isPrefixOf spelling.toList || attached == "" then
    badValue s ("ignored explicit argument " ++ Text.quoted attached)
  else do p.heedAll (← cluster s attached.toList)

/-- Takes the arguments behind the last option: a path, if there is none yet, and unwanted ones. -/
def last (p : Progress) (tokens : List Token) : Progress :=
  match p.path, tokens with
  | none, .separator :: .word text :: rest | none, .word text :: .separator :: rest
  | none, .word text :: rest =>
    { p with path := some text, extras := p.extras ++ rest.map Token.plainText }
  | _, rest => { p with extras := p.extras ++ rest.map Token.plainText }

/-- Takes the arguments, one after the other. -/
def take (p : Progress) : List Token → Except Refusal Progress
  | [] => .ok (p.last [])
  | t :: rest =>
    if !(t :: rest).any Token.isOption then .ok (p.last (t :: rest))
    else
      match t with
      | .word text => (p.word text).take rest
      | .separator => .ok (p.last (t :: rest))
      | .unknown text => (p.spare text).take rest
      | .option s spelling attached =>
        match attached with
        | some value => do (← p.heedAttached s spelling value).take rest
        | none =>
          if s.takesValue then
            match rest with
            | .word value :: rest => { p with logLevel := some value }.take rest
            | _ => badValue s "expected one argument"
          else do (← p.heed s).take rest

end Progress

namespace Arguments

/-- What the arguments ask for. -/
def read (arguments : List String) : Except Refusal Arguments := do
  let p ← Progress.take {} (← Token.ofStrings arguments)
  match p.path with
  | none => throw (.usage "the following arguments are required: config")
  | some path =>
    if p.extras.isEmpty then
      return { path := path, logLevel := p.logLevel, verbose := p.verbose }
    else throw (.usage ("unrecognized arguments: " ++ String.intercalate " " p.extras))

end Arguments

/-! ## Help -/

/-- How the program is called. -/
def usageLine : String := "usage: stepwright [-h] [--log-level LOG_LEVEL] [-v] config"

/-- What the program and its options do; `level` is the level of the log if none is given. -/
def helpText (level : String) : List String :=
  [usageLine,
   "",
   "Run a declarative browser automation config",
   "",
   "positional arguments:",
   "  config                Path to the JSON automation config",
   "",
   "options:",
   "  -h, --help            show this help message and exit",
   "  --log-level LOG_LEVEL",
   "                        Logging level (default: " ++ level ++ ")",
   "  -v, --verbose         Shortcut for --log-level DEBUG"]

end BrowserPlan.CommandLine
