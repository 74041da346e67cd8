import BrowserPlan.Extraction.Worklist
import BrowserPlan.Run.Calls

/-!
# Reading documents

How the pages and elements of a browser answer what extraction asks of a document.
-/
namespace BrowserPlan.Run

open BrowserPlan.Task BrowserPlan.Browser

/-- The elements that a selector finds. -/
def queryAll (root : Party) (target : String) : Program scene (List Element) :=
  invoke root (.query target)

/-- An attribute of all elements that a selector finds; without a selector nothing is asked. -/
def readAll (root : Party) (target : Option String) (attributeName : String) :
    Program scene (List Json) :=
  match target.filter (· != "") with
  | some target => invoke root (.read target attributeName)
  | none => pure []

/-- The content of a page or an element: its text where `source` says so, else its markup. -/
def contentOf (root : Party) (source : String) : Program scene (Option String) :=
  match root with
  | .element _ =>
    invoke root (.evaluate (if source == "text" then .elementText else .elementHtml))
  | _ => if source == "text" then invoke root (.evaluate .pageText) else invoke root .content

/-- The browser's documents as extraction sees them. -/
def documents : Extraction.Source (Program scene) Party :=
  { query := fun root target => (fun es => es.map .element) <$> queryAll root target
    read := fun root target attributeName => readAll root (some target) attributeName
    content := contentOf
    skip := fun key =>
      say .warning .extraction ("Extraction key " ++ Text.quoted key ++
        " has no selector, xpath or regex; skipped")
    refuse := fun regex fault => fail (.pattern regex fault) }

/-- The records that a specification describes, read from a page or an element. -/
def extract (root : Party) (spec : Spec) : Program scene (List Json) :=
  Extraction.extract documents root spec

/-- What a look at a document shows. -/
def look (root : Party) : Look → Program scene Yield
  | .all target => do return .values ((← queryAll root target).map fun e => .str e.name)
  | .read target attributeName => do return .values (← readAll root target attributeName)
  | .content source => do return .text (← contentOf root source)

end BrowserPlan.Run
