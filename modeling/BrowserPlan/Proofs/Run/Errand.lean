import BrowserPlan.Proofs.Plan.Nesting
import BrowserPlan.Proofs.Pool.Ledger
import BrowserPlan.Proofs.Task.Conduct
import BrowserPlan.Run.Automation

/-!
# Errands

What the tasks of a run may do, one step at a time. A branch of a crawl asks for a page, waits for it
or makes it, goes to its link, carries out its steps on that page and no other, and brings the page
back when all its helpers have ended; a helper does something on one page; the task that carries out
the plan works on a page of its own, which does not come from the pool, and starts the branches.
`Stage` is where a task stands in this, and `Next` lists the steps, each with what the world answers
to it.
-/
namespace BrowserPlan

namespace Step

mutual

/-- The actions of the steps that carrying out a step begins with, in their order; those of the
branches of a crawl are not among them. -/
def walk : Step → List Action
  | .repeat steps times => .repeat :: (List.replicate times (walkAll steps)).flatten
  | .click .. => [.click]
  | .type .. => [.type]
  | .go .. => [.go]
  | .wait _ => [.wait]
  | .scrape .. => [.scrape]
  | .screenshot .. => [.screenshot]
  | .crawl .. => [.crawl]

/-- The actions of several steps, one after the other. -/
def walkAll : List Step → List Action
  | [] => []
  | s :: rest => walk s ++ walkAll rest

end

end Step

/-- Whether a call closes what it goes to. -/
def Browser.Operation.closes : Browser.Operation → Bool
  | .close | .stop => true
  | _ => false

namespace Run

open BrowserPlan.Task BrowserPlan.Browser

/-! ## Steps of single tasks -/

/-- Steps that only look at the run or tell about it. -/
inductive IsAside : Deed scene → Prop where
  | log (record a) : IsAside (.ask (.log record) a)
  | poolState (a) : IsAside (.ask .poolState a)
  | session (a) : IsAside (.ask .session a)

/-- Waits that nobody but the task itself has to do with. -/
inductive IsPause : Deed scene → Prop where
  | timer (micros r) : IsPause (.wake (.timer micros) r)
  | forever (r) : IsPause (.wake .forever r)

/-- Which elements count as found on which page. -/
abbrev Findings := PageId → Element → Prop

/-- A page, or what was found on it. -/
inductive IsOn (F : Findings) (p : PageId) : Party → Prop where
  | page : IsOn F p (.page p)
  | element {e} (h : F p e) : IsOn F p (.element e)

/-- Whatever is found on what is found counts as found. -/
def Findings.CoverAnswer (F : Findings) : (q : Call) → q.Answer → Prop
  | .complete who _ (.query _), .ok es => ∀ p, IsOn F p who → ∀ e ∈ es, F p e
  | _, _ => True

/-- Whatever is found in the step counts as found. -/
def Findings.Cover (F : Findings) : Deed scene → Prop
  | .ask q a => F.CoverAnswer q a
  | _ => True

theorem cover_anything (d : Deed scene) : Findings.Cover (fun _ _ => True) d := by
  cases d with
  | ask q a =>
    cases q with
    | complete who landing op =>
      cases op with
      | query target =>
        cases a with
        | ok es => exact fun _ _ _ _ => trivial
        | error => trivial
      | _ => trivial
    | _ => trivial
  | _ => trivial

/-- The parts of a call to the browser. -/
inductive IsCall (who : Party) (op : Operation) : Deed scene → Prop where
  | «begin» (a) : IsCall who op (.ask (.begin who op) a)
  | complete (landing a) : IsCall who op (.ask (.complete who landing op) a)
  | breakOff (a) : IsCall who op (.ask (.breakOff who op) a)

/-- Steps of work on a page that change nothing but the browser, the files and the books of the
run. -/
inductive IsQuiet (F : Findings) (p : PageId) : Deed scene → Prop where
  | aside {d} (h : IsAside d) : IsQuiet F p d
  | pause {d} (h : IsPause d) : IsQuiet F p d
  | call {who op d} (hw : IsOn F p who) (hop : op.closes = false) (h : IsCall who op d) : IsQuiet F p d
  | urlOf (a) : IsQuiet F p (.ask (.urlOf p) a)
  | produced (path a) : IsQuiet F p (.ask (.produced path) a)
  | openSpan (action index a) : IsQuiet F p (.ask (.openSpan action index) a)
  | closeSpan (n status a) : IsQuiet F p (.ask (.closeSpan n status) a)
  | ensureParent (path a) : IsQuiet F p (.ask (.ensureParent path) a)
  | writeRecords (path data a) : IsQuiet F p (.ask (.writeRecords path data) a)

/-- Steps that open or close the span of a step. -/
inductive IsSpan : Deed scene → Prop where
  | openSpan (action index a) : IsSpan (.ask (.openSpan action index) a)
  | closeSpan (n status a) : IsSpan (.ask (.closeSpan n status) a)

theorem IsPause.not_span {d : Deed scene} (h : IsPause d) : ¬ IsSpan d := by
  cases h <;> nofun

theorem IsCall.not_span {who : Party} {op : Operation} {d : Deed scene} (h : IsCall who op d) :
    ¬ IsSpan d := by
  cases h <;> nofun

/-- Calls that set a time limit. -/
def IsLimit : Operation → Prop
  | .setDefaultTimeout _ | .setDefaultNavigationTimeout _ => True
  | _ => False

theorem IsLimit.not_closes {op : Operation} (h : IsLimit op) : op.closes = false := by
  cases op <;> first | rfl | exact h.elim

/-! ## Stages -/

/-- Work on a page. -/
structure Work where
  page : PageId
  /-- The page is that of the plan, and branches may be started. -/
  leads : Bool
  /-- The helpers that were started and not waited for yet. -/
  helpers : List TaskId := []
  /-- Somebody who was waited for has failed; helpers that go on are told to give up. -/
  isStopping : Bool := false
  /-- The branches that were started and not waited for yet. -/
  branches : List TaskId := []
  /-- The steps that are still to begin. -/
  remaining : List Action
  deriving DecidableEq

/-- What a branch had of the pool, when it is done with it. -/
inductive Past where
  | nothing
  /-- It made a page and was not lent it. -/
  | made (page : PageId)
  /-- It worked. -/
  | worked (w : Work)

/-- The page that it called. -/
def Past.page? : Past → Option PageId
  | nothing => none
  | made p => some p
  | worked w => some w.page

/-- Where a task stands. -/
inductive Stage where
  /-- A branch has not asked for a page yet. -/
  | fresh
  /-- It waits with a ticket. -/
  | drawn (ticket : Nat)
  /-- Its ticket was granted something. -/
  | due (ticket : Nat)
  /-- It gives up its ticket. -/
  | dropping (ticket : Nat)
  /-- It makes a page. -/
  | making
  /-- It has made a page and sets its time limits. -/
  | made (page : PageId)
  /-- It was lent a page. -/
  | lent (page : PageId)
  | working (w : Work)
  /-- A helper does something on a page. -/
  | helping (page : PageId)
  /-- A branch is done with the pool. -/
  | through (past : Past)
  /-- It has put its failure into the report. -/
  | noted (past : Past)

namespace Stage

/-- What a task has at stake with the pool. -/
def stake : Stage → Pool.Stake PageId
  | drawn k | due k => .ticket k false
  | dropping k => .ticket k true
  | making | made _ => .creation
  | lent p => .page p
  | working w => if w.leads then .nothing else .page w.page
  | fresh | helping _ | through _ | noted _ => .nothing

/-- The stage of who was admitted by the pool. -/
def admitted : Admission PageId → Stage
  | .page p => lent p
  | .create => making
  | .queue k => drawn k
  | .refused _ => through .nothing

/-- The stage of who takes what a ticket was granted. -/
def entered : Admission PageId → Stage
  | .page p => lent p
  | .create => making
  | .queue _ | .refused _ => through .nothing

end Stage

/-! ## Rules -/

/-- The jobs of helpers on a page. -/
inductive IsHelp (p : PageId) : Job → Prop where
  | wait (condition) : IsHelp p (.wait p condition)
  | click (target) : IsHelp p (.click p target)

/-- `Deals s d s'`: the steps in which a branch deals with the pool. -/
inductive Deals : Stage → Deed scene → Stage → Prop where
  | acquire (a) : Deals .fresh (.ask (.pool .acquire) a) (.admitted a)
  | granted (k) : Deals (.drawn k) (.wake (.signal (.granted k)) (.ok ())) (.due k)
  | brokenOff (k s) : Deals (.drawn k) (.wake (.signal (.granted k)) (.error s)) (.dropping k)
  | redeem (k a) : Deals (.due k) (.ask (.pool (.redeem k)) a) (.entered a)
  | renounce (k a) : Deals (.dropping k) (.ask (.pool (.renounce k)) a) (.through .nothing)
  | created (p a) : Deals (.made p) (.ask (.pool (.created p)) a) (.lent p)
  | notMade (a) : Deals .making (.ask (.pool .notCreated) a) (.through .nothing)
  | notCreated (p a) : Deals (.made p) (.ask (.pool .notCreated) a) (.through (.made p))
  | release {w : Work} (a) (hl : w.leads = false) (hh : w.helpers = []) :
    Deals (.working w) (.ask (.pool (.release w.page)) a) (.through (.worked w))

/-- `Shares w d w'`: the steps of work that concern other tasks. -/
inductive Shares (w : Work) : Deed scene → Work → Prop where
  | engage {help} (u) (hs : w.isStopping = false) (h : IsHelp w.page help) (hb : w.branches = []) :
    Shares w (.start help u) { w with helpers := w.helpers ++ [u] }
  | gathered {patient r} (h : patient = true ∨ ∃ a, r = .ok a) (hb : w.branches = []) :
    Shares w (.meet w.helpers patient r) { w with helpers := [], isStopping := false }
  | upset (s) (hs : w.isStopping = false) (hb : w.branches = []) :
    Shares w (.meet w.helpers false (.error s)) { w with isStopping := true }
  | dismiss {u} (hu : u ∈ w.helpers) (hs : w.isStopping = true) : Shares w (.stop u) w
  | dispatch {link index steps} (u) (hl : w.leads = true)
    (h : Step.allKeepApart true steps = true) :
    Shares w (.start (.branch link index steps) u) { w with branches := w.branches ++ [u] }
  | reunited (a) (hl : w.leads = true) :
    Shares w (.meet w.branches false (.ok a)) { w with branches := [] }
  | abandoned (s) (hl : w.leads = true) :
    Shares w (.meet w.branches false (.error s)) { w with isStopping := true }

/-- `Next F job s d s'`: a task with the job `job` at the stage `s` may take the step `d`, and is then
at the stage `s'`. -/
inductive Next (F : Findings) (job : Job) : Stage → Deed scene → Stage → Prop where
  | aside {s d} (h : IsAside d) : Next F job s d s
  | deal {s d s'} (h : Deals s d s') : Next F job s d s'
  -- making a page
  | make {d} (h : IsPause d) : Next F job .making d .making
  | opening (a) : Next F job .making (.ask (.begin .context .newPage) a) .making
  | notOpened (a) : Next F job .making (.ask (.breakOff .context .newPage) a) .making
  | opened (landing p) : Next F job .making (.ask (.complete .context landing .newPage) (.ok p)) (.made p)
  | failed (landing e) :
    Next F job .making (.ask (.complete .context landing .newPage) (.error e)) .making
  | limit {p op d} (hop : IsLimit op) (h : IsCall (.page p) op d) : Next F job (.made p) d (.made p)
  | prepare {p d} (h : IsPause d) : Next F job (.made p) d (.made p)
  -- working
  | enter {link index steps} (p a) (h : job = .branch link index steps) :
    Next F job (.lent p) (.ask (.begin (.page p) (.goto link none none)) a)
      (.working { page := p, leads := false, remaining := Step.walkAll steps })
  | quiet {w : Work} {d} (h : IsQuiet F w.page d) : Next F job (.working w) d (.working w)
  | executed {w : Work} {rest} (action a) (hh : w.helpers = []) (hb : w.branches = [])
    (hr : w.remaining = action :: rest) :
    Next F job (.working w) (.ask (.executed action) a) (.working { w with remaining := rest })
  | share {w w' : Work} {d} (h : Shares w d w') : Next F job (.working w) d (.working w')
  -- the rest
  | note {link index steps} (past error a) (h : job = .branch link index steps) :
    Next F job (.through past) (.ask (.branchFailed ⟨link, index, error⟩) a) (.noted past)
  | help {p d} (h : IsQuiet F p d) : Next F job (.helping p) d (.helping p)

/-! ## Steps that concern other tasks -/

/-- Steps in which a task has to do with others. -/
def IsShared : Deed scene → Prop
  | .start .. | .stop _ | .learn .. | .meet .. => True
  | .ask .. | .wake .. => False

section
variable {F : Findings} {job : Job} {s s' : Stage} {d : Deed scene}

theorem IsCall.not_shared {who : Party} {op : Operation} (h : IsCall who op d) : ¬ IsShared d := by
  cases h <;> exact id

theorem IsQuiet.not_shared {p : PageId} (h : IsQuiet F p d) : ¬ IsShared d := by
  cases h with
  | aside h | pause h => cases h <;> exact id
  | call hw hop h => exact h.not_shared
  | _ => exact id

theorem Next.shares (h : Next F job s d s') (hd : IsShared d) :
    ∃ w w', s = .working w ∧ s' = .working w' ∧ Shares w d w' := by
  cases h with
  | share h => exact ⟨_, _, rfl, rfl, h⟩
  | aside h | deal h | make h | prepare h => cases h <;> exact hd.elim
  | limit hop h => exact absurd hd h.not_shared
  | quiet h | help h => exact absurd hd h.not_shared
  | _ => exact hd.elim

end

end Run
end BrowserPlan
