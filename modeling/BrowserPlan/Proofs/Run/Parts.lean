import BrowserPlan.Proofs.Plan.Iterations
import BrowserPlan.Proofs.Run.Agenda
import BrowserPlan.Proofs.Run.Calls
import BrowserPlan.Proofs.Task.Faults

/-!
# What the parts of a run do

`Takes D p`: the program `p` takes only steps for which `D` holds, whatever it meets. Most parts of a run
take plain steps only (`Deed.IsPlain`): they neither set up nor close anything, and begin no step of the
plan. Carrying out steps begins steps and starts branches besides (`Deed.IsWork`).
-/
namespace BrowserPlan.Run

open BrowserPlan.Task BrowserPlan.Browser

/-! ## Kinds of steps -/

/-- It does not launch browsers and is none itself. -/
def Party.IsModest : Party → Prop
  | .launcher | .browser _ => False
  | .context | .page _ | .element _ | .document _ => True

/-- A call that sets up nothing, closes nothing, and begins no step of the plan. -/
def Call.IsPlain : Call → Prop
  | .begin who op | .complete who _ op | .breakOff who op => Party.IsModest who ∧ op.closes = false
  | .setSession _ | .openPool _ | .pool .shut | .pool .clear | .openSpan .. | .goAway | .returned _ => False
  | _ => True

/-- A job that a step has others do on its page. -/
def Job.IsHelper : Job → Prop
  | .wait .. | .click .. => True
  | _ => False

/-- A step that sets up nothing, closes nothing, begins no step of the plan, and starts nobody but
helpers. -/
def Deed.IsPlain : Deed scene → Prop
  | .ask q _ => Call.IsPlain q
  | .start job _ => Job.IsHelper job
  | _ => True

/-- A step in which a page of the pool is asked for, made ready or brought back. -/
inductive IsBorrowing : Deed scene → Prop where
  | aside {d} (h : IsAside d) : IsBorrowing d
  | pause {d} (h : IsPause d) : IsBorrowing d
  | granted (k r) : IsBorrowing (.wake (.signal (.granted k)) r)
  | pool (q a) (hshut : q ≠ .shut) (hclear : q ≠ .clear) : IsBorrowing (.ask (.pool q) a)
  | open {d} (h : IsCall .context .newPage d) : IsBorrowing d
  | limit {p op d} (hop : IsLimit op) (h : IsCall (.page p) op d) : IsBorrowing d

/-- A step in which nothing of the plan begins and nobody is started. -/
def Deed.IsLone : Deed scene → Prop
  | .ask (.openSpan ..) _ | .start .. => False
  | _ => True

/-- A step of the plan begins. -/
inductive IsBeginning : Deed scene → Prop where
  | step (action index n) : IsBeginning (.ask (.openSpan action index) n)
  | branch (link index steps u) : IsBeginning (.start (.branch link index steps) u)

/-- A step that carrying out the steps of a plan can take. -/
def Deed.IsWork (d : Deed scene) : Prop := Deed.IsPlain d ∨ IsBeginning d

theorem IsQuiet.isPlain {F : Findings} {p : PageId} {d : Deed scene} (h : IsQuiet F p d)
    (hspan : ¬ IsSpan d) : Deed.IsPlain d := by
  cases h with
  | aside h => cases h <;> trivial
  | pause h => cases h <;> trivial
  | @call who _ _ hw hop h =>
    have hmodest : Party.IsModest who := by cases hw <;> trivial
    cases h <;> exact ⟨hmodest, hop⟩
  | openSpan => exact absurd (.openSpan ..) hspan
  | closeSpan => exact absurd (.closeSpan ..) hspan
  | urlOf | produced | ensureParent | writeRecords => trivial

theorem IsBorrowing.isPlain {d : Deed scene} (h : IsBorrowing d) : Deed.IsPlain d := by
  cases h with
  | aside h | pause h => cases h <;> trivial
  | granted => trivial
  | pool q a hshut hclear =>
    cases q with
    | shut => exact absurd rfl hshut
    | clear => exact absurd rfl hclear
    | _ => trivial
  | «open» h => cases h <;> exact ⟨trivial, rfl⟩
  | limit hop h => cases h <;> exact ⟨trivial, hop.not_closes⟩

/-! ## Programs -/

/-- The program takes only steps for which `D` holds. -/
abbrev Takes {α : Type} (D : Deed scene → Prop) (p : Program scene α) : Prop :=
  Program.Avoids (I := scene) (fun _ => False) D (fun _ => True) p

section
variable {D : Deed scene → Prop} {α β : Type} {p : Program scene α} {f : α → Program scene β}

theorem blameless_any {α : Type} (r : Outcome Fault α) : Blameless (I := scene) (fun _ => False) r :=
  fun _ _ => id

namespace Takes

theorem bind (hp : Takes D p) (hf : ∀ a, Takes D (f a)) : Takes D (p >>= f) :=
  Program.Avoids.bind hp fun a _ => hf a

theorem pure (a : α) : Takes D (pure a : Program scene α) := Program.Avoids.pure trivial

theorem ending (r : Outcome Fault α) : Takes D (Program.ending (I := scene) r) :=
  Program.Avoids.ending (blameless_any r) fun _ _ => trivial

theorem fail (fault : Fault) : Takes D (Run.fail (α := α) fault) := Program.Avoids.fail id

theorem ask {q : Call} (h : ∀ a, D (.ask q a)) : Takes D (Run.ask q) :=
  Program.Avoids.ask (I := scene) h fun _ => trivial

theorem attempt {f : Outcome Fault α → Program scene β} (hp : Takes D p) (hf : ∀ r, Takes D (f r)) :
    Takes D (p.attempt >>= f) := Program.Avoids.attempt hp fun r _ _ => hf r

theorem attempted (hp : Takes D p) : Takes D (Program.attempt (I := scene) p) := by
  rw [← Program.bind_pure (Program.attempt p)]
  exact hp.attempt fun r => .pure r

theorem settleFor {ε : Type} (toFault : ε → Fault) (r : Except ε α) :
    Takes D (Run.settleFor toFault r) := by
  cases r with
  | ok a => exact .pure a
  | error e => exact .fail _

theorem failIf (fault : Option Fault) : Takes D (Run.failIf fault) := by
  cases fault with
  | none => exact .pure ()
  | some fault => exact .fail fault

/-- A program that stays where it is by rules that know only one place. -/
theorem of_stays {V : α → Prop}
    (h : Stays (Deed.Blameless (I := scene) fun _ => False) (fun (_ : Unit) d _ => D d) () V p) :
    Takes D p := h.weaken fun _ r _ => ⟨blameless_any r, fun _ _ => trivial⟩

theorem mono {D' : Deed scene → Prop} (hD : ∀ d, D d → D' d) (h : Takes D p) : Takes D' p :=
  Program.Obeys.mono (fun _ => id) (fun _ d _ => hD d) (fun _ _ => id) h

end Takes

theorem blameless_anything (d : Deed scene) : d.Blameless fun _ => False := by
  cases d with
  | wake _ r | learn _ r | meet _ _ r => exact blameless_any r
  | ask | start | stop => trivial

/-- All steps that the program takes on its way. -/
theorem Takes.path (h : Takes D p) {ds : List (Deed scene)} {q : Program scene α} (hq : Program.Path p ds q) :
    ∀ d ∈ ds, D d := by
  obtain ⟨_, halong, -⟩ := Program.Obeys.path h hq fun d _ => blameless_anything d
  clear hq
  induction halong with
  | nil => exact fun d hd => absurd hd List.not_mem_nil
  | snoc _ hd ih =>
    intro d hin
    rcases List.mem_append.1 hin with hin | hin
    · exact ih d hin
    · rwa [List.mem_singleton.1 hin]

/-- A program whose steps lead nowhere else by the rules `μ` stays where it is. -/
theorem avoids_obeys {V : α → Prop} {σ : Type} {R : Deed scene → Prop} {μ : Rules scene σ} {s : σ}
    (h : Program.Avoids (I := scene) (fun _ => False) D V p) (hμ : ∀ d, D d → μ s d s) :
    p.Obeys R μ (fun s' r => s' = s ∧ ∀ a, r = .ok a → V a) s := by
  induction p with
  | done r => exact ⟨rfl, h.2⟩
  | cancel t next ih =>
    intro _
    obtain ⟨_, hd, hnext⟩ := h (blameless_anything _)
    exact ⟨s, hμ _ hd, ih hnext⟩
  | _ =>
    rename_i ih
    intro r _
    obtain ⟨_, hd, hnext⟩ := h r (blameless_anything _)
    exact ⟨s, hμ _ hd, ih r hnext⟩

theorem Takes.obeys {σ : Type} {R : Deed scene → Prop} {μ : Rules scene σ} {s : σ} (h : Takes D p)
    (hμ : ∀ d, D d → μ s d s) : p.Obeys R μ (fun s' _ => s' = s) s :=
  (avoids_obeys h hμ).weaken fun _ _ h => h.1

end

/-! ## The body of a step -/

/-- What a step does within its span. -/
def stepBody (page : PageId) (index : IterationIndex) (step : Step) : Program scene Unit :=
  match step with
  | .click selector xpath condition => named step.action index do
    clickOn page (← targetOf selector xpath) condition
  | .type text selector xpath delay => named step.action index do
    invoke (.page page) (.type (← targetOf selector xpath) text delay)
  | .go place waitUntil timeout => named step.action index (goTo page place waitUntil timeout)
  | .wait condition => named step.action index do
    let _ ← waitFor page condition
  | .scrape data path => named step.action index (scrape page index data path)
  | .screenshot path fullPage => named step.action index (takeScreenshot page index path fullPage)
  | .repeat steps times => Program.count (fun n => runSteps page (index.child n) steps) 1 times
  | .crawl selector xpath attributeName steps => crawl page index selector xpath attributeName steps

theorem runStep_eq (page : PageId) (index : IterationIndex) (step : Step) :
    runStep page index step = (do
      ask (.executed step.action)
      say .debug .interpreter ("Step " ++ step.action.name ++ " at index " ++ index.toString)
      spanned step.action index (stepBody page index step)) := by
  cases step <;> rw [runStep, stepBody]

/-! ## Calls, reading, waiting -/

section
variable {D : Deed scene → Prop} (hD : ∀ d, Deed.IsPlain d → D d)
include hD

theorem takes_say (level : Log.Level) (speaker : Log.Speaker) (message : String) :
    Takes D (say level speaker message) := .ask fun _ => hD _ trivial

omit hD in
/-- Any call to the browser. -/
theorem takes_invoke_of {who : Party} {op : Operation} (hpause : ∀ d, IsPause d → D d)
    (hcall : ∀ d, IsCall who op d → D d) : Takes D (invoke who op) :=
  .of_stays (.invoke hpause hcall)

theorem takes_invoke {who : Party} (op : Operation) (hwho : Party.IsModest who := by trivial)
    (hop : op.closes = false := by rfl) : Takes D (invoke who op) :=
  takes_invoke_of (fun _ h => hD _ (by cases h <;> trivial))
    fun _ h => hD _ (by cases h <;> exact ⟨hwho, hop⟩)

theorem quiet_plain {F : Findings} {page : PageId} (d : Deed scene) (h : IsQuiet F page d)
    (hspan : ¬ IsSpan d) : D d := hD d (h.isPlain hspan)

/-! ## Steps that repeat nothing -/

omit hD in
theorem takes_targetOf (selector xpath : Option String) : Takes D (targetOf selector xpath) :=
  .of_stays (stays_targetOf selector xpath)

theorem takes_waitFor (page : PageId) (c : WaitCondition) : Takes D (waitFor page c) :=
  .of_stays (stays_waitFor (F := fun _ _ => True) (quiet_plain hD) c)

theorem takes_goTo (page : PageId) (place : String) (waitUntil : Option String)
    (timeout : Option Number) : Takes D (goTo page place waitUntil timeout) :=
  .of_stays (stays_goTo (F := fun _ _ => True) (quiet_plain hD) place waitUntil timeout)

theorem takes_scrape (page : PageId) (index : IterationIndex) (data : Spec) (template : String) :
    Takes D (scrape page index data template) :=
  .of_stays (stays_scrape (quiet_plain hD) (fun d _ => cover_anything d) index data template)

theorem takes_takeScreenshot (page : PageId) (index : IterationIndex) (template : String)
    (fullPage : Bool) : Takes D (takeScreenshot page index template fullPage) :=
  .of_stays (stays_takeScreenshot (F := fun _ _ => True) (quiet_plain hD) index template fullPage)

theorem takes_clickOn (page : PageId) (target : String) (condition : Option WaitCondition) :
    Takes D (clickOn page target condition) := by
  cases condition with
  | none => exact takes_invoke hD (.click target)
  | some c =>
    refine Program.Avoids.together (I := scene) (fun _ => trivial) (fun job hjob _ => hD _ ?_)
      (fun _ _ _ => hD _ trivial) fun _ => hD _ trivial
    simp only [List.mem_cons, List.not_mem_nil, or_false] at hjob
    rcases hjob with rfl | rfl <;> trivial

theorem takes_findLinks (page : PageId) (index : IterationIndex) (selector xpath : Option String)
    (attributeName : String) : Takes D (findLinks page index selector xpath attributeName) :=
  .of_stays (stays_findLinks (quiet_plain hD) (fun d _ => cover_anything d) index selector xpath
    attributeName)

omit hD in
theorem takes_named {action : Action} {index : IterationIndex} {p : Program scene Unit}
    (hp : Takes D p) : Takes D (named action index p) := by
  refine Takes.attempt hp fun r => ?_
  split
  · exact .fail _
  · exact .ending _

/-- A step that repeats nothing and is no crawl. -/
theorem takes_stepBody (page : PageId) (index : IterationIndex) {step : Step} (h : step.body? = none) :
    Takes D (stepBody page index step) := by
  cases step with
  | click selector xpath condition =>
    exact takes_named (.bind (takes_targetOf selector xpath) fun target =>
      takes_clickOn hD page target condition)
  | type text selector xpath delay =>
    exact takes_named (.bind (takes_targetOf selector xpath) fun target =>
      takes_invoke hD (.type target text delay))
  | go place waitUntil timeout => exact takes_named (takes_goTo hD page place waitUntil timeout)
  | wait condition => exact takes_named (.bind (takes_waitFor hD page condition) fun _ => .pure ())
  | scrape data path => exact takes_named (takes_scrape hD page index data path)
  | screenshot path fullPage => exact takes_named (takes_takeScreenshot hD page index path fullPage)
  | «repeat» | crawl => cases h

/-! ## Making and borrowing pages -/

omit hD in
/-- Setting time limits is reading the session and making calls. -/
theorem takes_applyTimeouts_of {who : Party} (hread : ∀ s, D (.ask .session s))
    (hlimit : ∀ op, IsLimit op → Takes D (invoke who op)) : Takes D (Session.applyTimeouts who) := by
  have hlater : ∀ s : Session, Takes D (Session.limitNavigation who s) := by
    intro s
    unfold Session.limitNavigation
    split
    · exact hlimit _ trivial
    · exact .pure ()
  rw [Session.applyTimeouts_eq]
  refine Takes.bind (.ask hread) fun s => ?_
  split
  · exact Takes.bind (hlimit _ trivial) fun _ => hlater s
  · exact hlater s

omit hD in
theorem takes_newPage_of (hread : ∀ s, D (.ask .session s)) (hopen : Takes D (invoke .context .newPage))
    (hlimit : ∀ p op, IsLimit op → Takes D (invoke (.page p) op)) : Takes D Session.newPage := by
  rw [Session.newPage]
  refine Takes.bind (.ask hread) fun s => ?_
  split
  · exact .fail _
  · exact Takes.bind hopen fun p => Takes.bind (takes_applyTimeouts_of hread (hlimit p)) fun _ => .pure p

end

section
variable {D : Deed scene → Prop} (hD : ∀ d, IsBorrowing d → D d)
include hD

theorem takes_newPage : Takes D Session.newPage :=
  takes_newPage_of (fun s => hD _ (.aside (.session s)))
    (takes_invoke_of (fun _ h => hD _ (.pause h)) fun _ h => hD _ (.open h))
    fun _ _ hop => takes_invoke_of (fun _ h => hD _ (.pause h)) fun _ h => hD _ (.limit hop h)

theorem takes_createPage : Takes D pages.createPage := by
  have hnote : ∀ message : Pool PageId → String, Takes D (do
      let p ← ask .poolState
      say .debug .pool (message p)) := fun message =>
    Takes.bind (.ask fun a => hD _ (.aside (.poolState a))) fun p => .ask fun a => hD _ (.aside (.log _ a))
  refine Takes.attempt (takes_newPage hD) fun r => ?_
  cases r with
  | ok page =>
    refine Takes.bind (.ask fun a => hD _ (.pool _ a nofun nofun)) fun _ => ?_
    exact Takes.bind (hnote _) fun _ => .pure page
  | error s => exact Takes.bind (.ask fun a => hD _ (.pool _ a nofun nofun)) fun _ => .ending _

theorem takes_enter (a : Admission PageId) : Takes D (pages.enter a) := by
  cases a with
  | page p => exact .pure p
  | create => exact takes_createPage hD
  | queue k => exact .fail _
  | refused fault => exact .fail _

theorem takes_queueUp (k : Nat) : Takes D (pages.queueUp k) := by
  refine Takes.bind (Takes.bind (.ask fun a => hD _ (.aside (.poolState a))) fun p =>
    .ask fun a => hD _ (.aside (.log _ a))) fun _ => ?_
  refine Takes.attempt (Program.Avoids.wait (fun r => hD _ (.granted k r)) fun _ => trivial) fun r => ?_
  cases r with
  | ok u => exact Takes.bind (.ask fun a => hD _ (.pool _ a nofun nofun)) fun a => takes_enter hD a
  | error s =>
    refine Takes.bind (.ask fun a => hD _ (.pool _ a nofun nofun)) fun fault => ?_
    cases fault with
    | none => exact .ending _
    | some fault => exact .fail _

theorem takes_acquire : Takes D pages.acquire := by
  refine Takes.bind (.ask fun a => hD _ (.pool _ a nofun nofun)) fun a => ?_
  cases a with
  | queue k => exact takes_queueUp hD k
  | page | create | refused => exact takes_enter hD _

theorem takes_release (page : PageId) : Takes D (pages.release page) := by
  refine Takes.bind (.ask fun a => hD _ (.pool _ a nofun nofun)) fun fault => ?_
  cases fault with
  | none => exact .pure ()
  | some fault => exact .fail _

theorem takes_lease {α : Type} {body : PageId → Program scene α} (hbody : ∀ page, Takes D (body page)) :
    Takes D (pages.lease body) :=
  Takes.bind (takes_acquire hD) fun page =>
    Program.Avoids.ensuring (hbody page) fun _ => takes_release hD page

end

/-! ## Steps that begin other steps -/

section
variable {D : Deed scene → Prop} (hplain : ∀ d, Deed.IsPlain d → D d) (hbegin : ∀ d, IsBeginning d → D d)
include hplain hbegin

theorem takes_crawl (page : PageId) (index : IterationIndex) (selector xpath : Option String)
    (attributeName : String) (steps : List Step) :
    Takes D (crawl page index selector xpath attributeName steps) := by
  refine Takes.bind (takes_findLinks hplain page index selector xpath attributeName) fun found => ?_
  refine Takes.bind (.ask fun _ => hplain _ trivial) fun base => ?_
  have hquiet : ∀ d, IsQuiet (fun _ _ => True) page d → ¬ IsSpan d → D d := quiet_plain hplain
  refine Takes.bind (.of_stays (stays_branchesOf hquiet base index found 1)) fun branches => ?_
  refine Takes.bind (takes_say hplain _ _ _) fun _ => ?_
  refine Takes.bind ?_ fun ts => Program.Avoids.joinAll (fun _ => hplain _ trivial) fun _ => trivial
  refine Program.Avoids.mapM (U := fun _ => True) (fun _ => trivial) fun x _ => ?_
  exact .start (fun u => hbegin _ (.branch x.1 x.2 steps u)) fun _ => trivial

end

mutual

theorem takes_runSteps {D : Deed scene → Prop} (hplain : ∀ d, Deed.IsPlain d → D d)
    (hbegin : ∀ d, IsBeginning d → D d) (page : PageId) (index : IterationIndex) (steps : List Step) :
    Takes D (runSteps page index steps) := by
  match steps with
  | [] =>
    rw [runSteps]
    exact .pure ()
  | step :: rest =>
    rw [runSteps]
    exact Takes.bind (takes_runStep hplain hbegin page index step) fun _ =>
      takes_runSteps hplain hbegin page index rest

theorem takes_runStep {D : Deed scene → Prop} (hplain : ∀ d, Deed.IsPlain d → D d)
    (hbegin : ∀ d, IsBeginning d → D d) (page : PageId) (index : IterationIndex) (step : Step) :
    Takes D (runStep page index step) := by
  rw [runStep_eq]
  refine Takes.bind (.ask fun _ => hplain _ trivial) fun _ => Takes.bind (takes_say hplain _ _ _) fun _ => ?_
  refine Takes.bind (.ask fun n => hbegin _ (.step step.action index n)) fun n => ?_
  refine Program.Avoids.ensuring ?_ fun _ => Takes.ask fun _ => hplain _ trivial
  match step with
  | .click .. | .type .. | .go .. | .wait .. | .scrape .. | .screenshot .. =>
    exact takes_stepBody hplain page index rfl
  | .repeat steps times =>
    exact .count (fun _ => trivial)
      (fun n => takes_runSteps hplain hbegin page (index.child n) steps) times 1
  | .crawl selector xpath attributeName steps =>
    exact takes_crawl hplain hbegin page index selector xpath attributeName steps

end

section
variable {D : Deed scene → Prop} (hplain : ∀ d, Deed.IsPlain d → D d) (hbegin : ∀ d, IsBeginning d → D d)
include hplain hbegin

theorem takes_perform (plan : Plan) (page : PageId) : Takes D (perform plan page) := by
  refine Takes.bind (takes_say hplain _ _ _) fun _ => ?_
  exact Takes.bind (takes_invoke hplain (.goto plan.url none none)) fun _ =>
    takes_runSteps hplain hbegin page .root plan.steps

/-- The jobs that steps of the plan have others do. -/
theorem takes_branch (link : String) (index : IterationIndex) (steps : List Step) :
    Takes D (branch link index steps) := by
  have hfollow : Takes D (followLink link index steps) := takes_lease (fun d h => hplain d h.isPlain) fun page =>
    Takes.bind (takes_invoke hplain (.goto link none none)) fun _ =>
      takes_runSteps hplain hbegin page index steps
  refine Takes.attempt hfollow fun r => ?_
  match r with
  | .error (.failed fault) =>
    exact Takes.bind (takes_say hplain _ _ _) fun _ => Takes.bind (takes_say hplain _ _ _) fun _ =>
      .ask fun _ => hplain _ trivial
  | .ok _ | .error .cancelled | .error .interrupted => exact .ending _

end

/-! ## The session -/

section
variable {D : Deed scene → Prop} (hD : ∀ d, Deed.IsLone d → D d)
include hD

theorem lone_invoke (who : Party) (op : Operation) : Takes D (invoke who op) :=
  takes_invoke_of (fun d h => hD d (by cases h <;> trivial)) fun d h => hD d (by cases h <;> trivial)

theorem lone_say (level : Log.Level) (speaker : Log.Speaker) (message : String) :
    Takes D (say level speaker message) := .ask fun _ => hD _ trivial

theorem takes_current : Takes D Session.current := .ask fun _ => hD _ trivial

theorem takes_update (f : Session → Session) : Takes D (Session.update f) :=
  Takes.bind (takes_current hD) fun _ => .ask fun _ => hD _ trivial

theorem takes_start : Takes D Session.start := by
  refine Takes.bind (takes_current hD) fun s => ?_
  refine Takes.bind (lone_say hD _ _ _) fun _ => Takes.bind (lone_invoke hD _ _) fun _ => ?_
  refine Takes.bind (takes_update hD _) fun _ => Takes.bind (lone_invoke hD _ _) fun b => ?_
  refine Takes.bind (takes_update hD _) fun _ => Takes.bind (lone_invoke hD _ _) fun _ => ?_
  exact Takes.bind (takes_update hD _) fun _ => takes_applyTimeouts_of (fun _ => hD _ trivial) fun op _ => lone_invoke hD _ op

theorem takes_openUp (plan : Plan) : Takes D (openUp plan) := by
  have hpage : Takes D Session.newPage :=
    takes_newPage_of (fun _ => hD _ trivial) (lone_invoke hD _ _) fun _ op _ => lone_invoke hD _ op
  refine Takes.bind (takes_start hD) fun _ => Takes.bind hpage fun page => ?_
  exact Takes.bind (.ask fun _ => hD _ trivial) fun r => Takes.bind (.failIf _) fun _ => .pure page

omit hD in
/-- Closing a session is reading and setting it, making two calls, and saying so. -/
theorem takes_close_of (hread : ∀ s, D (.ask .session s)) (hset : ∀ s u, D (.ask (.setSession s) u))
    (hsay : ∀ r u, D (.ask (.log r) u)) (hbrowser : ∀ b, Takes D (invoke (.browser b) .close))
    (hlauncher : Takes D (invoke .launcher .stop)) : Takes D Session.close := by
  have hupdate : ∀ f, Takes D (Session.update f) := fun f =>
    Takes.bind (p := Session.current) (.ask hread) fun _ => .ask (hset _)
  have hend : Takes D (do
      Session.update fun s => { s with browser := none, hasContext := false, isLauncherStarted := false }
      say .info .session "Browser session closed") :=
    Takes.bind (hupdate _) fun _ => .ask (hsay _)
  have hstop : ∀ s : Session, Takes D (do
      if s.isLauncherStarted then (invoke .launcher .stop).tolerating
      Session.update fun s => { s with browser := none, hasContext := false, isLauncherStarted := false }
      say .info .session "Browser session closed") := by
    intro s
    dsimp only
    split
    · exact Takes.bind (hlauncher.tolerating fun _ => trivial) fun _ => hend
    · exact hend
  refine Takes.bind (p := Session.current) (.ask hread) fun s => ?_
  split
  · refine Takes.bind (hupdate _) fun _ => Takes.bind (p := Session.current) (.ask hread) fun s => ?_
    dsimp only
    split
    · exact Takes.bind ((hbrowser _).tolerating fun _ => trivial) fun _ =>
        Takes.bind (p := Session.current) (.ask hread) hstop
    · exact Takes.bind (p := Session.current) (.ask hread) hstop
  · exact .pure ()

theorem takes_close : Takes D Session.close :=
  takes_close_of (fun _ => hD _ trivial) (fun _ _ => hD _ trivial) (fun _ _ => hD _ trivial)
    (fun _ => lone_invoke hD _ _) (lone_invoke hD _ _)

theorem takes_giveUp {α : Type} (e : Stop Fault) : Takes D (giveUp (α := α) e) :=
  Takes.bind (takes_close hD) fun _ => .ending _

omit hD in
theorem takes_closePages_of (hask : ∀ q a, D (.ask (.pool q) a)) (hsay : ∀ r u, D (.ask (.log r) u))
    (hcall : ∀ p, Takes D (invoke (.page p) .close)) : Takes D closePages := by
  refine Takes.bind (.ask fun _ => hask _ _) fun ps => Takes.bind (Program.Avoids.each (fun _ => trivial)
    fun p _ => (hcall p).tolerating fun _ => trivial) fun _ => ?_
  exact Takes.bind (.ask fun _ => hask _ _) fun _ => .ask (hsay _)

theorem takes_closePages : Takes D closePages :=
  takes_closePages_of (fun _ _ => hD _ trivial) (fun _ _ => hD _ trivial) fun _ => lone_invoke hD _ _

omit hD in
/-- When all has gone well, the session is closed, or somebody is started who does that later. -/
theorem takes_wrapUp_of (hclose : Takes D Session.close) (hreport : ∀ r, D (.ask .report r))
    (hsay : ∀ r u, D (.ask (.log r) u)) (hstart : ∀ later u, D (.start (.close later) u)) (plan : Plan) :
    Takes D (wrapUp plan) := by
  have hend : ∀ closing, Takes D (do
      sayDone
      return .closing closing : Program scene Yield) := fun closing =>
    Takes.bind (Takes.bind (.ask hreport) fun _ => .ask (hsay _)) fun _ => .pure _
  have hschedule : Takes D (scheduleClose (Deferral.of? plan.keepOpenAfter)) := by
    rw [scheduleClose.eq_def]
    split
    · exact .pure none
    · exact Takes.bind (.ask (hsay _)) fun _ =>
        Program.Avoids.map (V := fun _ => True) (.start (hstart _) fun _ => trivial) fun _ _ => trivial
  refine Takes.bind hschedule ?_
  rintro (_ | t)
  · exact Takes.bind hclose fun _ => hend none
  · exact hend (some t)

end

end BrowserPlan.Run
