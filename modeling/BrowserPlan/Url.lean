import BrowserPlan.Host
import BrowserPlan.Text.Case
import BrowserPlan.Text.Quoted

/-!
# Addresses

An address falls into scheme, authority, path, parameters, query and fragment, any of which may be
missing. `Url.read` splits a text, `Url.toString` joins the parts again, and `Url.join` reads a
reference in the light of a base address: dots are resolved against the path of the base.
-/
namespace BrowserPlan

/-- The parts of an address; a missing part is empty. -/
structure Url where
  scheme : String
  authority : String
  path : String
  params : String
  query : String
  fragment : String
  deriving DecidableEq, Repr, Inhabited

/-- Why a text is no address. -/
inductive UrlFault where
  /-- An authority with a square bracket that is none of two around its host. -/
  | misplacedBracket
  /-- A host in brackets that has a version, but no right form. -/
  | badVersion
  /-- A dotted number in brackets. -/
  | dottedInBrackets
  /-- A host in brackets that is no number. -/
  | notNumeric (host : String)
  /-- An authority with a character that can be taken for one that ends it. -/
  | deceptive (authority : String)
  deriving DecidableEq, Repr

namespace UrlFault

/-- What a fault says. -/
def message : UrlFault → String
  | misplacedBracket => "Invalid IPv6 URL"
  | badVersion => "IPvFuture address is invalid"
  | dottedInBrackets => "An IPv4 address cannot be in brackets"
  | notNumeric host => Text.quoted host ++ " does not appear to be an IPv4 or IPv6 address"
  | deceptive authority =>
    "netloc '" ++ authority ++ "' contains invalid characters under NFKC normalization"

end UrlFault

namespace Url

/-! ## Schemes -/

/-- The schemes whose references may be relative. -/
def hierarchical : List String :=
  ["", "ftp", "http", "gopher", "nntp", "imap", "wais", "file", "https", "shttp", "mms",
   "prospero", "rtsp", "rtsps", "rtspu", "sftp", "svn", "svn+ssh", "ws", "wss"]

/-- The schemes whose addresses have an authority. -/
def authoritative : List String :=
  ["", "ftp", "http", "gopher", "nntp", "telnet", "imap", "wais", "file", "mms", "https", "shttp",
   "snews", "prospero", "rtsp", "rtsps", "rtspu", "rsync", "svn", "svn+ssh", "sftp", "nfs", "git",
   "git+ssh", "ws", "wss"]

/-- The schemes whose paths may carry parameters. -/
def parametric : List String :=
  ["", "ftp", "hdl", "prospero", "http", "imap", "https", "shttp", "rtsp", "rtsps", "rtspu", "sip",
   "sips", "mms", "sftp", "tel"]

/-- Whether a character may stand in the name of a scheme. -/
def isSchemeChar (c : Char) : Bool :=
  Text.isAsciiLetter c.toNat || Text.isDigitChar c || c == '+' || c == '-' || c == '.'

/-- A text parted at the first occurrence of `sep`; the second part is absent where there is
none. -/
def cut (sep : Char) (cs : List Char) : List Char × Option (List Char) :=
  match cs.span (· != sep) with
  | (front, []) => (front, none)
  | (front, _ :: back) => (front, some back)

/-- The scheme at the start of a text, in lower case, and what follows its colon. -/
def scheme? (cs : List Char) : Option (List Char × List Char) :=
  match cut ':' cs with
  | (c :: name, some rest) =>
    if Text.isAsciiLetter c.toNat && name.all isSchemeChar then
      some ((c :: name).map Char.toLower, rest)
    else none
  | _ => none

/-! ## Reading -/

/-- Characters that become one of `/`, `?`, `#`, `@` and `:` when compatible forms are unified. -/
def deceptiveCodes : List Nat :=
  [0x2047, 0x2048, 0x2049, 0x2100, 0x2101, 0x2105, 0x2106, 0x2a74, 0xfe13, 0xfe16, 0xfe55, 0xfe56,
   0xfe5f, 0xfe6b, 0xff03, 0xff0f, 0xff1a, 0xff1f, 0xff20]

/-- Refuses a host in brackets that is neither a number in groups nor of a later form. -/
def checkBracketed : List Char → Except UrlFault Unit
  | 'v' :: rest => if Host.isVersioned rest then .ok () else .error .badVersion
  | cs =>
    if Host.isDotted cs then .error .dottedInBrackets
    else if Host.isGrouped cs then .ok ()
    else .error (.notNumeric (String.ofList cs))

/-- Refuses an authority with brackets, unless they stand around its host. -/
def checkBrackets (cs : List Char) : Except UrlFault Unit :=
  let place := (cs.reverse.takeWhile (· != '@')).reverse
  match cut '[' place with
  | (before, some rest) =>
    let (host, port) := cut ']' rest
    if before != [] || (port.getD []).head?.any (· != ':') then .error .misplacedBracket
    else checkBracketed host
  | (_, none) => checkBracketed (cut ':' place).1

/-- Refuses an authority that cannot be told from its surroundings. -/
def checkAuthority (cs : List Char) : Except UrlFault Unit := do
  if cs.contains '[' != cs.contains ']' then throw .misplacedBracket
  if cs.contains '[' then checkBrackets cs
  if cs.any fun c => deceptiveCodes.contains c.toNat then throw (.deceptive (String.ofList cs))

/-- The text that is read: controls and spaces at its start and all tabs and line ends fall
away. -/
def cleaned (cs : List Char) : List Char :=
  (cs.dropWhile fun c => c.toNat ≤ 0x20).filter fun c => c != '\t' && c != '\r' && c != '\n'

/-- The authority that two slashes introduce, and what follows it. -/
def splitAuthority : List Char → List Char × List Char
  | '/' :: '/' :: rest => rest.span fun c => c != '/' && c != '?' && c != '#'
  | cs => ([], cs)

/-- The path without its parameters, and those: what follows the first semicolon of its last
segment. -/
def splitParams (path : List Char) : List Char × List Char :=
  let last := (path.reverse.takeWhile (· != '/')).reverse
  match cut ';' last with
  | (name, some params) => (path.take (path.length - last.length) ++ name, params)
  | (_, none) => (path, [])

/-- The parts of a text, which has the scheme `inherited` if it names none. -/
def read (inherited : String) (text : String) : Except UrlFault Url := do
  let (scheme, rest) := match scheme? (cleaned text.toList) with
    | some (name, rest) => (String.ofList name, rest)
    | none => (inherited, cleaned text.toList)
  let (authority, rest) := splitAuthority rest
  checkAuthority authority
  let (rest, fragment) := cut '#' rest
  let (path, query) := cut '?' rest
  let (path, params) := if parametric.contains scheme then splitParams path else (path, [])
  return ⟨scheme, String.ofList authority, String.ofList path, String.ofList params,
    String.ofList (query.getD []), String.ofList (fragment.getD [])⟩

/-! ## Writing -/

/-- A part with the mark that introduces it, nothing for an empty part. -/
def marked (mark : Char) (part : String) : List Char :=
  if part == "" then [] else mark :: part.toList

/-- Two slashes and the authority, where the address has one or its scheme calls for it. -/
def writtenAuthority (u : Url) (path : List Char) : List Char :=
  if u.authority != "" ||
      (u.scheme != "" && authoritative.contains u.scheme && !(['/', '/'].isPrefixOf path)) then
    let slash := if path == [] || path.head? == some '/' then [] else ['/']
    '/' :: '/' :: u.authority.toList ++ slash ++ path
  else path

/-- The text of an address. -/
def toString (u : Url) : String :=
  let scheme := if u.scheme == "" then [] else u.scheme.toList ++ [':']
  String.ofList (scheme ++ u.writtenAuthority (u.path.toList ++ marked ';' u.params) ++
    marked '?' u.query ++ marked '#' u.fragment)

instance : ToString Url := ⟨toString⟩

/-! ## References -/

/-- The segments of a path. -/
def segments (path : String) : List (List Char) := FilePath.splitOnChar '/' path.toList

/-- Segments without the empty ones that stand neither first nor last. -/
def dropEmptyInside : List (List Char) → List (List Char)
  | [] => []
  | [s] => [s]
  | s :: rest => s :: rest.dropLast.filter (· != []) ++ [rest.getLast?.getD []]

/-- Segments with dots resolved: one stays, two go back by one segment. -/
def resolveDots (segments : List (List Char)) : List (List Char) :=
  let resolved := segments.foldl (fun acc s =>
    if s == ['.', '.'] then acc.dropLast
    else if s == ['.'] then acc
    else acc ++ [s]) []
  if segments.getLast? == some ['.'] || segments.getLast? == some ['.', '.'] then resolved ++ [[]]
  else resolved

/-- The segments that a reference to `path` names from a base path: all its own when it starts at
the root, else those of the base's directory before them. -/
def targetSegments (base path : String) : List (List Char) :=
  if path.toList.head? == some '/' then segments path
  else
    let parts := segments base
    let directory := if parts.getLast? == some [] then parts else parts.dropLast
    dropEmptyInside (directory ++ segments path)

/-- The path that a reference to `path` names from a base path. -/
def joinPath (base path : String) : String :=
  let joined := List.intercalate ['/'] (resolveDots (targetSegments base path))
  if joined == [] then "/" else String.ofList joined

/-- A reference of the base's own scheme, in the light of the base. -/
def under (base reference : Url) : Url :=
  if authoritative.contains reference.scheme && reference.authority != "" then reference
  else
    let authority :=
      if authoritative.contains reference.scheme then base.authority else reference.authority
    if reference.path == "" && reference.params == "" then
      { reference with
        authority := authority, path := base.path, params := base.params,
        query := if reference.query == "" then base.query else reference.query }
    else { reference with authority := authority, path := joinPath base.path reference.path }

/-- The address that a reference means where `base` is the address at hand. A reference of another
scheme, or of one without relative references, stays as it is. -/
def join (base reference : String) : Except UrlFault String := do
  if base == "" then return reference
  else if reference == "" then return base
  else
    let b ← read "" base
    let r ← read b.scheme reference
    if r.scheme != b.scheme || !hierarchical.contains r.scheme then return reference
    else return (under b r).toString

end Url
end BrowserPlan
