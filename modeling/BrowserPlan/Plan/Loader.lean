import BrowserPlan.Plan.Builder
import BrowserPlan.Json.Reader
import BrowserPlan.Files

/-!
# Plans read from files

A plan is read from the bytes of a file in four stages, each with faults of its own: the file is
opened, its bytes are decoded, the text is read as JSON, and the plan is built.
-/
namespace BrowserPlan

/-- Why no plan can be read from a file. -/
inductive LoadFault where
  | unreadable (path : FilePath) (fault : FileFault)
  | notText (fault : Text.Utf8.Fault)
  | notJson (path : FilePath) (fault : Json.ReadFault) (text : String)
  | noPlan (path : FilePath) (fault : PlanFault)

namespace LoadFault

/-- What bytes that are no text say. -/
def undecodable (f : Text.Utf8.Fault) : String :=
  let which :=
    if f.first = f.last then
      "byte 0x" ++ String.ofList (Text.hexPadded 2 f.byte) ++ s!" in position {f.first}"
    else s!"bytes in position {f.first}-{f.last}"
  "'utf-8' codec can't decode " ++ which ++ ": " ++ f.cause.message

/-- What a fault says. -/
def message : LoadFault → String
  | unreadable path fault =>
    if fault.isRefusal then "Failed to read config " ++ path.toString ++ ": " ++ fault.message
    else fault.message
  | notText fault => undecodable fault
  | notJson path fault text =>
    if fault.cause.isSyntactic then
      "Config " ++ path.toString ++ " is not valid JSON: " ++ fault.message text
    else fault.message text
  | noPlan path fault => fault.message (some path.toString)

/-- Whether a fault is reported as one of the plan. Bytes that are no text, names that name no file,
and numbers beyond all bounds are not. -/
def isOfPlan : LoadFault → Bool
  | unreadable _ fault => fault.isRefusal
  | notText _ => false
  | notJson _ fault _ => fault.cause.isSyntactic
  | noPlan _ fault => fault.isPlaced

end LoadFault

namespace Plan

/-- A text with every line end written as a single line feed. -/
def unifyLineEnds : List Char → List Char
  | '\r' :: '\n' :: rest => '\n' :: unifyLineEnds rest
  | '\r' :: rest => '\n' :: unifyLineEnds rest
  | c :: rest => c :: unifyLineEnds rest
  | [] => []

/-- The plan in the file at `path`. -/
def load (settings : Settings) (fs : Files) (path : FilePath) : Except LoadFault Plan := do
  let bytes ← (fs.read path).mapError (.unreadable path)
  let raw ← (Text.Utf8.decode bytes).mapError .notText
  let text := String.ofList (unifyLineEnds raw.toList)
  let v ← (Json.read text).mapError fun fault => .notJson path fault text
  (ofJson settings (some path.toString) v).mapError (.noPlan path)

end Plan
end BrowserPlan
