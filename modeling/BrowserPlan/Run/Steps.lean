import BrowserPlan.Link
import BrowserPlan.Pool.Client
import BrowserPlan.Run.Reading
import BrowserPlan.Run.Session
import BrowserPlan.Run.Waiting

/-!
# Carrying out steps

How each step of a plan is carried out on a page. Steps come one after the other; the first one
that fails ends the list it stands in. A step that repeats others fails as they do, and so does a
crawl whose links cannot be found; any other step that fails says which step it was. A crawl
follows each of its links on a page of its own, borrowed from the pool, in a task of its own; a
branch that fails is noted in the report and harms nobody else.
-/
namespace BrowserPlan.Run

open BrowserPlan.Task BrowserPlan.Browser

/-! ## The pool of pages -/

/-- The pool of pages of a run. -/
def pages : Pool.Client scene PageId :=
  { ask := fun q => ask (.pool q)
    granted := .granted
    fault := .pool
    create := Session.newPage
    noteQueued := do
      let p ← ask .poolState
      say .debug .pool s!"[PagePool] Pool exhausted, {p.waiters.length} waiting"
    noteCreated := do
      let p ← ask .poolState
      say .debug .pool s!"[PagePool] Created page {p.entries.length}/{p.maxPages}"
    noteClosed := say .debug .pool "[PagePool] Closed" }

/-- Closes the pool and its pages. -/
def closePages : Program scene Unit := pages.close fun p => invoke (.page p) .close

/-! ## Steps that repeat nothing -/

/-- The selector of a step that acts on an element. -/
def targetOf (selector xpath : Option String) : Program scene String :=
  match target? selector xpath with
  | some target => pure target
  | none => fail .noTarget

/-- Clicks on an element; a wait for what the click brings about begins before the click. -/
def clickOn (page : PageId) (target : String) (condition : Option WaitCondition) :
    Program scene Unit :=
  match condition with
  | none => invoke (.page page) (.click target)
  | some c => Program.together (I := scene) [.wait page c, .click page target]

/-- Goes to an address, or back or forward. -/
def goTo (page : PageId) (place : String) (waitUntil : Option String) (timeout : Option Number) :
    Program scene Unit := do
  if place == "back" then invoke (.page page) (.back waitUntil timeout)
  else if place == "forward" then invoke (.page page) (.forward waitUntil timeout)
  else
    let url ← settleFor .address (Url.join (← ask (.urlOf page)) place)
    invoke (.page page) (.goto url waitUntil timeout)

/-- Writes what a page holds to a file of records. -/
def scrape (page : PageId) (index : IterationIndex) (data : Spec) (template : String) :
    Program scene Unit := do
  let records ← extract (.page page) data
  let path := FilePath.render template index
  writeRecords path (.arr records)
  ask (.produced path)
  say .info .interpreter (s!"Scraped {records.length} records -> " ++ path.toString)

/-- Takes a picture of a page. -/
def takeScreenshot (page : PageId) (index : IterationIndex) (template : String)
    (fullPage : Bool) : Program scene Unit := do
  let path := FilePath.render template index
  ensureParent path
  invoke (.page page) (.screenshot path fullPage)
  ask (.produced path)
  say .info .interpreter ("Screenshot -> " ++ path.toString)

/-- Lets a step that fails say which step it was, unless it fails with one of the program's own
faults. -/
def named (action : Action) (index : IterationIndex) (p : Program scene Unit) :
    Program scene Unit := do
  match ← p.attempt with
  | .error (.failed fault) =>
    fail (if fault.isOwn then fault else .step action index fault)
  | r => Program.ending (I := scene) r

/-! ## Crawls -/

/-- The values that the links of a crawl were found with. -/
def linkValues (records : List Json) : List Json :=
  records.map fun r => (r.member? "links").getD .null

/-- Finds the links of a crawl. -/
def findLinks (page : PageId) (index : IterationIndex) (selector xpath : Option String)
    (attributeName : String) : Program scene (List Json) := do
  match ← (extract (.page page) (Spec.links selector xpath attributeName)).attempt with
  | .ok records => return linkValues records
  | .error (.failed fault) => fail (.step .crawl index fault)
  | .error s => Program.ending (I := scene) (.error s)

/-- The branches that a crawl starts: for each value found that leads somewhere, the address and
the index by its position. Values that lead nowhere are mentioned in the log. -/
def branchesOf (base : String) (index : IterationIndex) :
    (position : Int) → List Json → Program scene (List (String × IterationIndex))
  | _, [] => pure []
  | position, v :: rest => do
    let here := index.child position
    if !v.truthy then branchesOf base index (position + 1) rest
    else
      match ← settleFor .address (Link.resolve? (some base) v) with
      | some link =>
        let later ← branchesOf base index (position + 1) rest
        return (link, here) :: later
      | none =>
        say .warning .interpreter ("Skipping uncrawlable link " ++ v.display ++ " (index " ++
          here.toString ++ ")")
        branchesOf base index (position + 1) rest

/-- Follows each link of a crawl in a task of its own. -/
def crawl (page : PageId) (index : IterationIndex) (selector xpath : Option String)
    (attributeName : String) (steps : List Step) : Program scene Unit := do
  let found ← findLinks page index selector xpath attributeName
  let base ← ask (.urlOf page)
  let branches ← branchesOf base index 1 found
  say .info .interpreter (s!"Crawling {branches.length} links from " ++ base)
  let tasks ← branches.mapM fun (link, here) => Program.start (I := scene) (.branch link here steps)
  Program.joinAll tasks false

/-- Notes that a branch has failed. -/
def noteFailure (link : String) (index : IterationIndex) (fault : Fault) :
    Program scene Unit := do
  say .warning .interpreter ("Crawl branch " ++ link ++ " (index " ++ index.toString ++
    ") failed: " ++ fault.message)
  say .debug .interpreter "Crawl branch traceback"
  ask (.branchFailed { link := link, index := index, error := fault.message })

/-! ## Steps -/

mutual

/-- Carries out steps, one after the other. -/
def runSteps (page : PageId) (index : IterationIndex) : List Step → Program scene Unit
  | [] => pure ()
  | step :: rest => do
    runStep page index step
    runSteps page index rest

/-- Carries out a step. -/
def runStep (page : PageId) (index : IterationIndex) (step : Step) : Program scene Unit := do
  let action := step.action
  ask (.executed action)
  say .debug .interpreter ("Step " ++ action.name ++ " at index " ++ index.toString)
  spanned action index (match step with
    | .click selector xpath condition => named action index do
      clickOn page (← targetOf selector xpath) condition
    | .type text selector xpath delay => named action index do
      invoke (.page page) (.type (← targetOf selector xpath) text delay)
    | .go place waitUntil timeout => named action index (goTo page place waitUntil timeout)
    | .wait condition => named action index do
      let _ ← waitFor page condition
    | .scrape data path => named action index (scrape page index data path)
    | .screenshot path fullPage => named action index (takeScreenshot page index path fullPage)
    | .repeat steps times => Program.count (fun n => runSteps page (index.child n) steps) 1 times
    | .crawl selector xpath attributeName steps =>
      crawl page index selector xpath attributeName steps)

end

/-- Follows a link of a crawl on a page of its own. -/
def followLink (link : String) (index : IterationIndex) (steps : List Step) :
    Program scene Unit :=
  pages.lease fun page => do
    invoke (.page page) (.goto link none none)
    runSteps page index steps

/-- A branch of a crawl. It never fails; what goes wrong is noted. -/
def branch (link : String) (index : IterationIndex) (steps : List Step) :
    Program scene Unit := do
  match ← (followLink link index steps).attempt with
  | .error (.failed fault) => noteFailure link index fault
  | r => Program.ending (I := scene) r

end BrowserPlan.Run
