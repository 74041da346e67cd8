import BrowserPlan.Proofs.Run.Steps

/-!
# Tasks keep to the rules

A branch borrows a page, goes to its link, carries out its steps and brings the page back, and all of
this is in the rules, however it goes (`obeys_branch`). `program_obeys` says so of every task that
carrying out steps starts.
-/
namespace BrowserPlan.Run

open BrowserPlan.Task BrowserPlan.Browser

variable {R : Deed scene → Prop} {F : Findings} {job : Job}

/-! ## Making a page -/

theorem stays_applyTimeouts {p : PageId} :
    Stays R (Next F job) (.made p) (Anything Unit) (Session.applyTimeouts (.page p)) := by
  have hlimit : ∀ op, IsLimit op →
      Stays R (Next F job) (.made p) (Anything op.Answer) (invoke (.page p) op) :=
    fun op hop => .invoke (fun d hd => .prepare hd) fun d hd => .limit hop hd
  have hlater : ∀ s : Session,
      Stays R (Next F job) (.made p) (Anything Unit) (Session.limitNavigation (.page p) s) := by
    intro s
    unfold Session.limitNavigation
    split
    · exact hlimit _ trivial
    · exact .pure trivial
  rw [Session.applyTimeouts_eq]
  refine Stays.bind (.ask fun a => .aside (.session a)) fun s _ => ?_
  split
  · exact Stays.bind (hlimit _ trivial) fun _ _ => hlater s
  · exact hlater s

/-- How an attempt to make a page ends. -/
def Made (R : Deed scene → Prop) (s : Stage) (r : Outcome Fault PageId) : Prop :=
  (∃ p, r = .ok p ∧ s = .made p) ∨
    ∃ e, r = .error e ∧ Sound R r ∧ (s = .making ∨ ∃ p, s = .made p)

/-- What is left of making a page when there is a browser. -/
def openPage : Program scene PageId := do
  let p ← invoke .context .newPage
  Session.applyTimeouts (.page p)
  return p

theorem obeys_openPage : openPage.Obeys R (Next F job) (Made R) .making := by
  intro course hcourse
  refine ⟨.making, .opening course, Program.Obeys.bind (obeys_proceed hcourse (fun d hd => .make hd)
    (fun a => .notOpened a) (fun e he => .inr ⟨e, rfl, he.error, .inl rfl⟩) fun a _ => ?_)⟩
  cases a with
  | error f => exact ⟨.making, .failed _ f, .inr ⟨_, rfl, .failed R _, .inl rfl⟩⟩
  | ok p =>
    refine ⟨.made p, .opened _ p, Program.Obeys.bind (stays_applyTimeouts.weaken ?_)⟩
    rintro s r ⟨rfl, hr, -⟩
    cases r with
    | ok u => exact .inl ⟨p, rfl, rfl⟩
    | error e => exact .inr ⟨e, rfl, hr.error, .inr ⟨p, rfl⟩⟩

theorem obeys_newPage : Session.newPage.Obeys R (Next F job) (Made R) .making := by
  have hnew : Session.newPage = (ask .session).bind fun s =>
      if !s.hasContext then fail .notStarted else openPage := rfl
  rw [hnew]
  intro s _
  refine ⟨.making, .aside (.session s), ?_⟩
  change Program.Obeys R _ _ (if !s.hasContext then fail .notStarted else openPage) _
  split
  · exact .inr ⟨_, rfl, .failed R _, .inl rfl⟩
  · exact obeys_openPage

/-! ## Borrowing a page -/

/-- A branch has done with the pool. -/
def IsThrough (s : Stage) : Prop := ∃ past, s = .through past

/-- How an attempt to borrow a page ends. -/
def Borrowed (R : Deed scene → Prop) (s : Stage) (r : Outcome Fault PageId) : Prop :=
  (∃ p, r = .ok p ∧ s = .lent p) ∨ ∃ e, r = .error e ∧ Sound R r ∧ IsThrough s

theorem obeys_createPage : pages.createPage.Obeys R (Next F job) (Borrowed R) .making := by
  refine Program.Obeys.bind (Program.Obeys.attempt (obeys_newPage.weaken ?_))
  rintro s r (⟨p, rfl, rfl⟩ | ⟨e, rfl, hr, hs⟩)
  · intro a _
    refine ⟨.lent p, .deal (.created p a), ?_⟩
    intro pool _
    refine ⟨.lent p, .aside (.poolState pool), ?_⟩
    intro a _
    exact ⟨.lent p, .aside (.log _ a), .inl ⟨p, rfl, rfl⟩⟩
  · intro a _
    rcases hs with rfl | ⟨p, rfl⟩
    · exact ⟨_, .deal (.notMade a), .inr ⟨e, rfl, hr, .nothing, rfl⟩⟩
    · exact ⟨_, .deal (.notCreated p a), .inr ⟨e, rfl, hr, .made p, rfl⟩⟩

theorem obeys_enter (a : Admission PageId) :
    (pages.enter a).Obeys R (Next F job) (Borrowed R) (.entered a) := by
  cases a with
  | page p => exact .inl ⟨p, rfl, rfl⟩
  | create => exact obeys_createPage
  | queue k => exact .inr ⟨_, rfl, .failed R _, .nothing, rfl⟩
  | refused fault => exact .inr ⟨_, rfl, .failed R _, .nothing, rfl⟩

/-- Waits with a ticket. -/
theorem obeys_queueUp (k : Nat) : (pages.queueUp k).Obeys R (Next F job) (Borrowed R) (.drawn k) := by
  intro pool _
  refine ⟨.drawn k, .aside (.poolState pool), ?_⟩
  intro a _
  refine ⟨.drawn k, .aside (.log _ a), ?_⟩
  intro r hr
  cases r with
  | ok u =>
    refine ⟨.due k, .deal (.granted k), ?_⟩
    intro a _
    exact ⟨.entered a, .deal (.redeem k a), obeys_enter a⟩
  | error e =>
    refine ⟨.dropping k, .deal (.brokenOff k e), ?_⟩
    intro a _
    refine ⟨.through .nothing, .deal (.renounce k a), ?_⟩
    cases a with
    | some fault => exact .inr ⟨_, rfl, .failed R _, .nothing, rfl⟩
    | none => exact .inr ⟨e, rfl, Sound.error (α := Unit) (.of_deed hr id), .nothing, rfl⟩

theorem obeys_acquire : pages.acquire.Obeys R (Next F job) (Borrowed R) .fresh := by
  intro a _
  refine ⟨.admitted a, .deal (.acquire a), ?_⟩
  cases a with
  | queue k => exact obeys_queueUp k
  | page p => exact obeys_enter (.page p)
  | create => exact obeys_enter .create
  | refused fault => exact obeys_enter (.refused fault)

/-! ## Branches -/

section
variable {link : String} {index : IterationIndex} {steps : List Step}

/-- A branch at work on the page `p`. -/
def branchWork (p : PageId) (steps : List Step) : Work :=
  { page := p, leads := false, remaining := Step.walkAll steps }

/-- What a branch does on the page that it was lent: it goes to its link and carries out its steps. -/
theorem obeys_visit (hF : ∀ d, R d → F.Cover d) (hsteps : Step.allKeepApart true steps = true)
    (p : PageId) :
    Program.Obeys R (Next F (.branch link index steps)) (Leaves R (branchWork p steps) [])
      (do
        invoke (.page p) (.goto link none none)
        runSteps p index steps) (.lent p) := by
  intro course hcourse
  have hw : (branchWork p steps).IsClear := ⟨rfl, rfl, rfl⟩
  have hquiet : ∀ d, IsQuiet F p d → Next F (.branch link index steps)
      (.working (branchWork p steps)) d (.working (branchWork p steps)) := fun d hd => .quiet hd
  refine ⟨.working (branchWork p steps), .enter p course rfl, Program.Obeys.bind (obeys_proceed
    hcourse (fun d hd => hquiet d (.pause hd)) (fun a => hquiet _ (.call .page rfl (.breakOff a)))
    (fun e he => ⟨_, rfl, rfl, rfl, .inl hw, nofun, he.error⟩)
    fun a _ => ⟨_, hquiet _ (.call .page rfl (.complete _ a)), ?_⟩)⟩
  cases a with
  | error f => exact ⟨_, rfl, rfl, rfl, .inl hw, nofun, .failed R _⟩
  | ok u => exact works_runSteps hF hw hsteps (List.append_nil _).symm index

/-- How following a link ends: all steps were begun if it ends well. -/
def Followed (R : Deed scene → Prop) (s : Stage) (r : Outcome Fault Unit) : Prop :=
  ∃ past, s = .through past ∧
    (∀ a, r = .ok a → ∃ w, past = .worked w ∧ w.remaining = []) ∧ Sound R r

theorem obeys_followLink (hF : ∀ d, R d → F.Cover d) (hsteps : Step.allKeepApart true steps = true) :
    (followLink link index steps).Obeys R (Next F (.branch link index steps)) (Followed R) .fresh := by
  refine Program.Obeys.bind (obeys_acquire.weaken ?_)
  rintro s r (⟨p, rfl, rfl⟩ | ⟨e, rfl, hr, past, rfl⟩)
  · refine Program.Obeys.ensuring ((obeys_visit hF hsteps p).weaken ?_)
    rintro s r ⟨w, rfl, hpage, hleads, hleft, hok, hr⟩ a _
    have hh := hleft.helpers
    obtain rfl : w.page = p := hpage
    refine ⟨_, .deal (.release a hleads hh), ?_⟩
    cases a with
    | some fault => exact ⟨_, rfl, nofun, .failed R _⟩
    | none =>
      cases r with
      | ok u => exact ⟨_, rfl, fun u _ => ⟨w, rfl, by rw [hok u rfl]⟩, hr⟩
      | error e => exact ⟨_, rfl, nofun, hr⟩
  · exact ⟨past, rfl, nofun, hr.error⟩

/-- How a branch ends: it does not fail, and it has nothing of the pool's. -/
def BranchEnds (R : Deed scene → Prop) {α : Type} (s : Stage) (r : Outcome Fault α) : Prop :=
  (∃ past, s = .through past ∨ s = .noted past) ∧ (∀ fault, r ≠ .error (.failed fault)) ∧ Sound R r

/-- A branch keeps to the rules. -/
theorem obeys_branch (hF : ∀ d, R d → F.Cover d) (hsteps : Step.allKeepApart true steps = true) :
    (branch link index steps).Obeys R (Next F (.branch link index steps)) (BranchEnds R) .fresh := by
  refine Program.Obeys.bind (Program.Obeys.attempt ((obeys_followLink hF hsteps).weaken ?_))
  rintro s r ⟨past, rfl, -, hr⟩
  match r with
  | .ok () => exact ⟨⟨past, .inl rfl⟩, nofun, .ok R ()⟩
  | .error .cancelled => exact ⟨⟨past, .inl rfl⟩, nofun, hr⟩
  | .error .interrupted => exact ⟨⟨past, .inl rfl⟩, nofun, hr⟩
  | .error (.failed fault) =>
    intro a _
    refine ⟨_, .aside (.log _ a), ?_⟩
    intro a _
    refine ⟨_, .aside (.log _ a), ?_⟩
    intro a _
    exact ⟨_, .note past fault.message a rfl, ⟨past, .inr rfl⟩, nofun, .ok R ()⟩

end

/-! ## All tasks -/

/-- The jobs of tasks that carrying out steps starts, the first one among them. -/
def Job.IsPartOfRun : Job → Prop
  | .steps _ list _ => Step.allKeepApart false list = true
  | .branch _ _ list => Step.allKeepApart true list = true
  | .wait .. | .click .. => True
  | _ => False

/-- Where a task stands before it begins. -/
def Stage.first : Job → Stage
  | .steps page list _ => working { page := page, leads := true, remaining := Step.walkAll list }
  | .wait page _ | .click page _ => helping page
  | .branch .. => fresh
  | _ => through .nothing

/-- How a task ends. -/
def TaskEnds (R : Deed scene → Prop) (job : Job) (s : Stage) (r : Outcome Fault Yield) : Prop :=
  Sound R r ∧ match job with
    | .steps .. => ∃ w, s = .working w ∧ w.leads = true ∧ w.IsLeft
    | .wait page _ | .click page _ => s = .helping page
    | _ => (∃ past, s = .through past ∨ s = .noted past) ∧ ∀ fault, r ≠ .error (.failed fault)

/-- Every task of a run keeps to the rules. -/
theorem program_obeys (hF : ∀ d, R d → F.Cover d) (hjob : job.IsPartOfRun) :
    (program job).Obeys R (Next F job) (TaskEnds R job) (.first job) := by
  have hhelp : ∀ {α : Type} {page : PageId} {p : Program scene α} {job : Job} (f : α → Yield),
      Stays R (Next F job) (.helping page) (Anything α) p →
      Program.Obeys R (Next F job) (fun s r => Sound R r ∧ s = .helping page)
        (p.bind fun a => .done (.ok (f a))) (.helping page) := by
    intro α page p job f hp
    refine Program.Obeys.bind (hp.weaken ?_)
    rintro s r ⟨rfl, hr, -⟩
    cases r with
    | ok a => exact ⟨.ok R _, rfl⟩
    | error e => exact ⟨hr.error, rfl⟩
  have hquiet : ∀ (page : PageId) (job : Job) d, IsQuiet F page d → ¬ IsSpan d →
      Next F job (.helping page) d (.helping page) := fun _ _ _ hd _ => .help hd
  cases job with
  | steps page steps index =>
    have hsteps : Step.allKeepApart false steps = true := hjob
    refine Program.Obeys.bind (Program.Obeys.weaken ?_
      (works_runSteps hF (w := { page := page, leads := true, remaining := Step.walkAll steps })
        ⟨rfl, rfl, rfl⟩ hsteps (List.append_nil _).symm index))
    rintro s r ⟨w, rfl, hpage, hleads, hleft, hok, hr⟩
    cases r with
    | ok a => exact ⟨.ok R _, w, rfl, hleads, hleft⟩
    | error e => exact ⟨hr.error, w, rfl, hleads, hleft⟩
  | branch link index steps =>
    have hsteps : Step.allKeepApart true steps = true := hjob
    refine Program.Obeys.bind ((obeys_branch hF hsteps).weaken ?_)
    rintro s r ⟨hs, hne, hr⟩
    cases r with
    | ok a => exact ⟨.ok R _, hs, nofun⟩
    | error e => exact ⟨hr.error, hs, fun fault h => hne fault (by cases h; rfl)⟩
  | wait page condition => exact hhelp .text (stays_waitFor (hquiet page _) condition)
  | click page target => exact hhelp (fun _ => .nothing) (.onPage (hquiet page _) (.click target))
  | _ => exact hjob.elim

end BrowserPlan.Run
