import BrowserPlan.FilePath
import BrowserPlan.Text.Quoted
import BrowserPlan.Text.Utf8

/-!
# Files

A tree of directories and files, with the operations a run performs on it: reading and writing a
file and making a directory together with those it lies in. Names are resolved from the working
directory, one after another; the first one that cannot be passed decides the fault.
-/
namespace BrowserPlan

/-- What a name in the tree stands for. -/
inductive FileEntry where
  | directory
  | file (bytes : List UInt8)
  deriving Repr, DecidableEq

/-- Why the file system refuses an operation. -/
inductive FileRefusal where
  | notFound
  | alreadyThere
  | notDirectory
  | isDirectory
  | nameTooLong
  deriving Repr, DecidableEq

/-- Why an operation on a path fails. -/
inductive FileFault where
  | refused (why : FileRefusal) (path : String)
  /-- A name with the NUL character in it names no file at all. -/
  | nulInName
  /-- A text with half of a surrogate pair in it has no bytes. -/
  | halfPair
  deriving Repr, DecidableEq

/-- Whether a fault is one of the file system, and not of what it was asked. -/
def FileFault.isRefusal : FileFault → Bool
  | refused .. => true
  | nulInName | halfPair => false

/-- The number under which a refusal is reported. -/
def FileRefusal.number : FileRefusal → Nat
  | notFound => 2
  | alreadyThere => 17
  | notDirectory => 20
  | isDirectory => 21
  | nameTooLong => 36

/-- What a refusal says. -/
def FileRefusal.message : FileRefusal → String
  | notFound => "No such file or directory"
  | alreadyThere => "File exists"
  | notDirectory => "Not a directory"
  | isDirectory => "Is a directory"
  | nameTooLong => "File name too long"

/-- What a fault says. -/
def FileFault.message : FileFault → String
  | refused why path =>
    let number := why.number
    s!"[Errno {number}] " ++ why.message ++ ": " ++ Text.quoted path
  | nulInName => "embedded null byte"
  -- the reason alone, since which half it is has not been kept
  | halfPair => "surrogates not allowed"

/-- A tree of files: every entry under the names that lead to it from the top. -/
structure Files where
  entries : List (List String × FileEntry)

namespace Files

/-- The names that lead to the working directory. -/
def workingDirectory : List String := ["work"]

/-- The length of the longest name, in bytes. -/
def nameLimit : Nat := 255
/-- The first length of a path that is too long, in bytes. -/
def pathLimit : Nat := 4096

/-- What stands at a place; the top is a directory. -/
def at? (fs : Files) (place : List String) : Option FileEntry :=
  if place.isEmpty then some .directory
  else (fs.entries.find? fun e => e.1 == place).map (·.2)

/-- The tree with `entry` at a place. -/
def set (fs : Files) (place : List String) (entry : FileEntry) : Files :=
  ⟨(fs.entries.filter fun e => e.1 != place) ++ [(place, entry)]⟩

/-- The place a list of names leads to: each but the last must name a directory. -/
def follow (fs : Files) (place : List String) : List String → Except FileRefusal (List String)
  | [] => .ok place
  | name :: rest =>
    if name.utf8ByteSize > nameLimit then .error .nameTooLong
    else
      let next := if name == ".." then place.dropLast else place ++ [name]
      if rest.isEmpty then .ok next
      else
        match fs.at? next with
        | none => .error .notFound
        | some (.file _) => .error .notDirectory
        | some .directory => follow fs next rest

/-- The place of a path. -/
def resolve (fs : Files) (p : FilePath) : Except FileFault (List String) :=
  let text := p.toString
  if text.toList.contains '\x00' then .error .nulInName
  else if text.utf8ByteSize ≥ pathLimit then .error (.refused .nameTooLong text)
  else
    match fs.follow (if p.root == "" then workingDirectory else []) p.names with
    | .ok place => .ok place
    | .error why => .error (.refused why text)

/-- The bytes of a file. -/
def read (fs : Files) (p : FilePath) : Except FileFault (List UInt8) := do
  match fs.at? (← fs.resolve p) with
  | none => throw (.refused .notFound p.toString)
  | some .directory => throw (.refused .isDirectory p.toString)
  | some (.file bytes) => return bytes

/-- The tree after a text is written to a file, which is made where there is none. -/
def write (fs : Files) (p : FilePath) (text : String) : Except FileFault Files := do
  let place ← fs.resolve p
  match fs.at? place with
  | some .directory => throw (.refused .isDirectory p.toString)
  | _ => return fs.set place (.file (Text.Utf8.encode text))

/-- Whether a path leads to a directory. -/
def isDirectory (fs : Files) (p : FilePath) : Bool :=
  match fs.resolve p with
  | .ok place => fs.at? place == some .directory
  | .error _ => false

/-- The tree with one new directory. -/
def makeDirectory (fs : Files) (p : FilePath) : Except FileFault Files := do
  let place ← fs.resolve p
  match fs.at? place with
  | some _ => throw (.refused .alreadyThere p.toString)
  | none => return fs.set place .directory

/-- The tree with one new directory, or the same tree where the directory is there already. -/
def ensureOne (fs : Files) (p : FilePath) : Except FileFault Files :=
  match fs.makeDirectory p with
  | .ok made => .ok made
  | .error (.refused .notFound path) => .error (.refused .notFound path)
  | .error .nulInName => .error .nulInName
  | .error fault => if fs.isDirectory p then .ok fs else .error fault

/-- The tree with a directory and all those it lies in, `depth` names deep at most. -/
def ensureFrom (fs : Files) : (depth : Nat) → FilePath → Except FileFault Files
  | 0, p => fs.ensureOne p
  | depth + 1, p =>
    match fs.ensureOne p with
    | .error (.refused .notFound path) =>
      if p.parent == p then .error (.refused .notFound path)
      else do (← fs.ensureFrom depth p.parent).ensureOne p
    | result => result

/-- The tree with a directory and all those it lies in. -/
def ensureDirectory (fs : Files) (p : FilePath) : Except FileFault Files :=
  fs.ensureFrom p.names.length p

/-- Every nonempty beginning of a list of names, the shortest first. -/
def beginnings (place : List String) : List (List String) :=
  (List.range place.length).map fun n => place.take (n + 1)

/-- The tree that holds `dirs` and `files` in its working directory, with the directories that
they lie in. -/
def ofLists (files : List (String × List UInt8)) (dirs : List String) : Files :=
  let withDirs (fs : Files) (places : List (List String)) : Files :=
    places.foldl (fun fs place => if (fs.at? place).isSome then fs else fs.set place .directory) fs
  let start := withDirs ⟨[]⟩ [workingDirectory]
  let placeOf (name : String) := workingDirectory ++ (FilePath.ofString name).names
  let made := dirs.foldl (fun fs name => withDirs fs (beginnings (placeOf name))) start
  files.foldl (fun fs (name, bytes) =>
    (withDirs fs (beginnings (placeOf name)).dropLast).set (placeOf name) (.file bytes)) made

/-- The files of the working directory by their paths in it, in the order of the paths. -/
def listing (fs : Files) : List (String × List UInt8) :=
  let inside := fs.entries.filterMap fun (place, entry) =>
    match entry with
    | .file bytes =>
      if workingDirectory.isPrefixOf place then
        some (String.intercalate "/" (place.drop workingDirectory.length), bytes)
      else none
    | .directory => none
  inside.mergeSort fun a b => a.1 ≤ b.1

/-- The place that a path names when nothing in the tree is in its way. -/
def placeOf (p : FilePath) : List String :=
  p.names.foldl (fun place name => if name == ".." then place.dropLast else place ++ [name])
    (if p.root == "" then workingDirectory else [])

/-- The tree with something at a path, and the directories that it lies in. -/
def plant (fs : Files) (p : FilePath) (entry : FileEntry) : Files :=
  let place := placeOf p
  let fs := (beginnings place).dropLast.foldl (fun fs dir =>
    if (fs.at? dir).isSome then fs else fs.set dir .directory) fs
  fs.set place entry

/-- The path of a place, as short as it can be. -/
def pathOf (place : List String) : FilePath :=
  if workingDirectory.isPrefixOf place then ⟨"", place.drop workingDirectory.length⟩
  else ⟨"/", place⟩

/-- The files of a tree that are not the same in another one, the tree as it was before. -/
def changedSince (fs before : Files) : List (FilePath × List UInt8) :=
  fs.entries.filterMap fun (place, entry) =>
    match entry with
    | .file bytes => if before.at? place == some entry then none else some (pathOf place, bytes)
    | .directory => none

end Files
end BrowserPlan
