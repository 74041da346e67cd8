import BrowserPlan.Files
import BrowserPlan.Json.Writer

/-!
# Record files

Extracted records are written as JSON text to a file whose directories are made first. A failed
write leaves the directories that were made before it failed. The file is opened, and emptied, before
its text is encoded, so data with half of a surrogate pair in it leaves an empty file.
-/
namespace BrowserPlan.Files

/-- The tree after the directory of a path is made, with the directories it lies in. -/
def ensureParent (fs : Files) (p : FilePath) : Except FileFault Files := fs.ensureDirectory p.parent

/-- Writes a value as JSON text; on failure the tree is as the failing operation left it. -/
def writeRecords (fs : Files) (p : FilePath) (data : Json) : Except (Files × FileFault) Files :=
  match fs.ensureParent p with
  | .error fault => .error (fs, fault)
  | .ok made =>
    match made.write p (if data.isUnicode then data.render else "") with
    | .error fault => .error (made, fault)
    | .ok written => if data.isUnicode then .ok written else .error (written, .halfPair)

end BrowserPlan.Files
