import BrowserPlan.Proofs.Run.Calls

/-!
# Steps keep to the rules

Carrying out the steps of a plan is work on one page (`works_runSteps`). Each step is begun in its
turn; helpers are waited for before the step ends, whatever it ends with, and so are branches unless
one of them has ended badly.
-/
namespace BrowserPlan.Run

open BrowserPlan.Task BrowserPlan.Browser

variable {R : Deed scene → Prop} {F : Findings} {job : Job} {w : Work} {rest : List Action}

/-- Nobody is waited for. -/
def Work.IsClear (w : Work) : Prop := w.helpers = [] ∧ w.isStopping = false ∧ w.branches = []

/-- Nobody is waited for any more, unless a branch has ended badly. -/
def Work.IsLeft (w : Work) : Prop :=
  w.IsClear ∨ w.leads = true ∧ w.helpers = [] ∧ w.isStopping = true

/-- Helpers are never left behind. -/
theorem Work.IsLeft.helpers (h : w.IsLeft) : w.helpers = [] := by
  rcases h with ⟨hh, -⟩ | ⟨-, hh, -⟩ <;> exact hh

/-- How work is left by a program that ends with `r`: on the same page, and only with the actions
`rest` still to come if it ends well. -/
def Leaves (R : Deed scene → Prop) (w : Work) (rest : List Action) (s : Stage)
    (r : Outcome Fault Unit) : Prop :=
  ∃ w', s = .working w' ∧ w'.page = w.page ∧ w'.leads = w.leads ∧ w'.IsLeft ∧
    (∀ a, r = .ok a → w' = { w with remaining := rest }) ∧ Sound R r

/-- Carries out part of the work, after which the actions `rest` are still to come. -/
abbrev Works (R : Deed scene → Prop) (F : Findings) (job : Job) (w : Work) (rest : List Action)
    (p : Program scene Unit) : Prop := p.Obeys R (Next F job) (Leaves R w rest) (.working w)

theorem quiet_working (d : Deed scene) (h : IsQuiet F w.page d) (_ : ¬ IsSpan d) :
    Next F job (.working w) d (.working w) := .quiet h

namespace Works

variable {p : Program scene Unit}

theorem of_stays (hw : w.IsClear) (hp : Stays R (Next F job) (.working w) (Anything Unit) p) :
    Works R F job w w.remaining p :=
  hp.weaken fun _ _ h => ⟨w, h.1, rfl, rfl, .inl hw, fun _ _ => rfl, h.2.1⟩

theorem bind_stays {α : Type} {V : α → Prop} {p : Program scene α} {f : α → Program scene Unit}
    (hw : w.IsClear) (hp : Stays R (Next F job) (.working w) V p)
    (hf : ∀ a, V a → Works R F job w rest (f a)) : Works R F job w rest (p >>= f) := by
  refine Program.Obeys.bind (hp.weaken ?_)
  rintro s r ⟨rfl, hr, hV⟩
  cases r with
  | ok a => exact hf a (hV a rfl)
  | error e => exact ⟨w, rfl, rfl, rfl, .inl hw, nofun, hr.error⟩

theorem seq {q : Program scene Unit} {between : List Action} (hp : Works R F job w between p)
    (hq : Works R F job { w with remaining := between } rest q) :
    Works R F job w rest (p.bind fun _ => q) := by
  refine Program.Obeys.bind (Program.Obeys.weaken ?_ hp)
  rintro s r ⟨w', rfl, hpage, hleads, hleft, hok, hr⟩
  cases r with
  | ok a =>
    rw [hok a rfl]
    exact hq
  | error e => exact ⟨w', rfl, hpage, hleads, hleft, nofun, hr.error⟩

theorem named {action : Action} {index : IterationIndex} (hp : Works R F job w rest p) :
    Works R F job w rest (Run.named action index p) := by
  refine Program.Obeys.bind (Program.Obeys.attempt (hp.weaken ?_))
  rintro s r ⟨w', rfl, hpage, hleads, hleft, hok, hr⟩
  match r with
  | .ok () => exact ⟨w', rfl, hpage, hleads, hleft, hok, hr⟩
  | .error (.failed fault) => exact ⟨w', rfl, hpage, hleads, hleft, nofun, .failed R _⟩
  | .error .cancelled => exact ⟨w', rfl, hpage, hleads, hleft, nofun, hr⟩
  | .error .interrupted => exact ⟨w', rfl, hpage, hleads, hleft, nofun, hr⟩

theorem spanned {action : Action} {index : IterationIndex} (hp : Works R F job w rest p) :
    Works R F job w rest (Run.spanned action index p) := by
  intro n _
  refine ⟨.working w, .quiet (.openSpan action index n), Program.Obeys.ensuring (hp.weaken ?_)⟩
  rintro s r ⟨w', rfl, hpage, hleads, hleft, hok, hr⟩ a _
  exact ⟨.working w', .quiet (.closeSpan n _ a), w', rfl, hpage, hleads, hleft, hok, hr⟩

theorem count (hw : w.IsClear) {f : Nat → Program scene Unit} {actions : List Action}
    (hf : ∀ n rest, Works R F job { w with remaining := actions ++ rest } rest (f n)) (times : Nat) :
    ∀ first rest, Works R F job
      { w with remaining := (List.replicate times actions).flatten ++ rest } rest
      (Program.count f first times) := by
  induction times with
  | zero => exact fun _ rest => ⟨_, rfl, rfl, rfl, .inl hw, fun _ _ => rfl, .ok R ()⟩
  | succ n ih =>
    intro first rest
    rw [List.replicate_succ, List.flatten_cons, List.append_assoc]
    exact seq (hf first _) (ih (first + 1) rest)

end Works

/-! ## Helpers -/

/-- Helpers are started and waited for, whatever becomes of them. -/
theorem works_together (hw : w.IsClear) {jobs : List Job} (hjobs : ∀ j ∈ jobs, IsHelp w.page j) :
    Works R F job w w.remaining (Program.together (I := scene) jobs) := by
  obtain ⟨page, leads, helpers, isStopping, branches, remaining⟩ := w
  obtain ⟨rfl, rfl, rfl⟩ : helpers = [] ∧ isStopping = false ∧ branches = [] := hw
  -- the work while the helpers `ts` are at it
  let busy (ts : List TaskId) (isStopping : Bool) : Work :=
    { page := page, leads := leads, helpers := ts, isStopping := isStopping, remaining := remaining }
  have hstarts := Program.obeys_starts (R := R) (μ := Next F job) (j := id)
    (g := fun ts => .working (busy ts false)) jobs
    (fun j hj ts u => Next.share (.engage (w := busy ts false) u rfl (hjobs j hj) rfl)) []
  have hstop : ∀ ts us : List TaskId, us ⊆ ts →
      (Program.each (Program.stop (I := scene)) us).Obeys R (Next F job)
        (fun s r => s = .working (busy ts true) ∧ r = .ok ()) (.working (busy ts true)) := by
    intro ts us hsub
    induction us with
    | nil => exact ⟨rfl, rfl⟩
    | cons u us ih =>
      exact fun _ => ⟨_, .share (.dismiss (w := busy ts true) (hsub List.mem_cons_self) rfl),
        ih fun x hx => hsub (List.mem_cons_of_mem _ hx)⟩
  have hdone : ∀ r : Outcome Fault Unit, Sound R r →
      Leaves R (busy [] false) remaining (.working (busy [] false)) r :=
    fun r hr => ⟨_, rfl, rfl, rfl, .inl ⟨rfl, rfl, rfl⟩, fun _ _ => rfl, hr⟩
  refine Program.Obeys.bind (hstarts.weaken ?_)
  rintro s r ⟨ts, rfl, rfl⟩
  rw [List.nil_append]
  intro r hr
  match r with
  | .ok () =>
    exact ⟨_, .share (.gathered (w := busy ts false) (.inr ⟨(), rfl⟩) rfl), hdone _ (.ok R ())⟩
  | .error e =>
    refine ⟨_, .share (.upset (w := busy ts false) e rfl rfl), ?_⟩
    change Program.Obeys R _ _ ((Program.each (Program.stop (I := scene)) ts).bind fun _ =>
      (Program.joinAll (I := scene) ts true).bind fun _ => Program.done (.error e)) _
    refine Program.Obeys.bind ((hstop ts ts (List.Subset.refl ts)).weaken ?_)
    rintro s x ⟨rfl, rfl⟩ x hx
    refine ⟨_, .share (.gathered (w := busy ts true) (.inl rfl) rfl), ?_⟩
    cases x with
    | ok u => exact hdone _ (.of_deed hr id)
    | error e' => exact hdone _ (.of_deed hx id)

theorem works_clickOn (hw : w.IsClear) (target : String) (condition : Option WaitCondition) :
    Works R F job w w.remaining (clickOn w.page target condition) := by
  cases condition with
  | none => exact .of_stays hw (.onPage quiet_working (.click target))
  | some c =>
    refine works_together hw fun j hj => ?_
    simp only [List.mem_cons, List.not_mem_nil, or_false] at hj
    rcases hj with rfl | rfl
    · exact .wait c
    · exact .click target

/-! ## Branches -/

/-- A crawl finds its links, starts a branch for each, and waits for them. -/
theorem works_crawl (hF : ∀ d, R d → F.Cover d) (hw : w.IsClear) (hleads : w.leads = true) {steps : List Step}
    (hsteps : Step.allKeepApart true steps = true) (index : IterationIndex)
    (selector xpath : Option String) (attributeName : String) :
    Works R F job w w.remaining (crawl w.page index selector xpath attributeName steps) := by
  rw [crawl]
  refine .bind_stays hw (stays_findLinks quiet_working hF index selector xpath attributeName) ?_
  refine fun found _ => .bind_stays hw (.ask fun a => .quiet (.urlOf a)) fun base _ => ?_
  refine .bind_stays hw (stays_branchesOf quiet_working base index found 1) fun branches _ => ?_
  refine .bind_stays hw (.say quiet_working _ _ _) fun _ _ => ?_
  obtain ⟨page, leads, helpers, isStopping, kids, remaining⟩ := w
  obtain ⟨rfl, rfl, rfl⟩ : helpers = [] ∧ isStopping = false ∧ kids = [] := hw
  obtain rfl : leads = true := hleads
  -- the work while the branches `ts` are under way
  let busy (ts : List TaskId) : Work :=
    { page := page, leads := true, branches := ts, remaining := remaining }
  have hstarts := Program.obeys_starts (R := R) (μ := Next F job)
    (j := fun x : String × IterationIndex => .branch x.1 x.2 steps)
    (g := fun ts => .working (busy ts)) branches
    (fun x _ ts u => Next.share (.dispatch (w := busy ts) u rfl hsteps)) []
  refine Program.Obeys.bind (hstarts.weaken ?_)
  rintro s r ⟨ts, rfl, rfl⟩
  rw [List.nil_append]
  intro r hr
  cases r with
  | ok u =>
    exact ⟨_, .share (.reunited (w := busy ts) u rfl), _, rfl, rfl, rfl,
      .inl ⟨rfl, rfl, rfl⟩, fun _ _ => rfl, .ok R u⟩
  | error e =>
    exact ⟨_, .share (.abandoned (w := busy ts) e rfl), _, rfl, rfl, rfl,
      .inr ⟨rfl, rfl, rfl⟩, nofun, .of_deed hr id⟩

/-! ## Steps -/

/-- A step that repeats nothing and is no crawl is known by its name when it fails. -/
theorem works_begin {w : Work} (hw : w.IsClear) {action : Action} {rest : List Action}
    {index : IterationIndex} {p : Program scene Unit}
    (hr : w.remaining = action :: rest) {rest' : List Action}
    (hp : Works R F job { w with remaining := rest } rest' p) :
    Works R F job w rest' (do
      ask (.executed action)
      say .debug .interpreter ("Step " ++ action.name ++ " at index " ++ index.toString)
      spanned action index p) := by
  obtain ⟨hh, hs, hb⟩ := hw
  intro a _
  refine ⟨_, .executed action a hh hb hr, ?_⟩
  change Works R F job { w with remaining := rest } rest' (do
    say .debug .interpreter ("Step " ++ action.name ++ " at index " ++ index.toString)
    spanned action index p)
  exact .bind_stays ⟨hh, hs, hb⟩ (.say quiet_working _ _ _) fun _ _ => hp.spanned

mutual

/-- Carries out steps, one after the other. -/
theorem works_runSteps (hF : ∀ d, R d → F.Cover d) {w : Work} (hw : w.IsClear) {steps : List Step}
    (hsteps : Step.allKeepApart (!w.leads) steps = true) {rest : List Action}
    (hr : w.remaining = Step.walkAll steps ++ rest) (index : IterationIndex) :
    Works R F job w rest (runSteps w.page index steps) := by
  match steps with
  | [] =>
    rw [runSteps]
    obtain rfl : w.remaining = rest := hr
    exact .of_stays hw (.pure trivial)
  | step :: steps =>
    rw [Step.allKeepApart, Bool.and_eq_true] at hsteps
    rw [Step.walkAll, List.append_assoc] at hr
    rw [runSteps]
    exact .seq (works_runStep hF hw hsteps.1 hr index)
      (works_runSteps hF (w := { w with remaining := Step.walkAll steps ++ rest }) hw hsteps.2 rfl index)
termination_by sizeOf steps

/-- Carries out a step. -/
theorem works_runStep (hF : ∀ d, R d → F.Cover d) {w : Work} (hw : w.IsClear) {step : Step}
    (hstep : Step.keepsApart (!w.leads) step = true) {rest : List Action}
    (hr : w.remaining = Step.walk step ++ rest) (index : IterationIndex) :
    Works R F job w rest (runStep w.page index step) := by
  -- the work when the step has begun
  let begun (rest : List Action) : Work := { w with remaining := rest }
  have hbegun : ∀ rest, (begun rest).IsClear := fun _ => hw
  match step with
  | .click selector xpath condition =>
    rw [runStep]
    refine works_begin hw hr (Works.named ?_)
    refine Works.bind_stays (hbegun rest) (stays_targetOf selector xpath) fun target _ => ?_
    exact works_clickOn (w := begun rest) hw target condition
  | .type text selector xpath delay =>
    rw [runStep]
    refine works_begin hw hr (Works.named (.of_stays (w := begun rest) hw ?_))
    exact Stays.bind (stays_targetOf selector xpath) fun target _ =>
      .onPage quiet_working (.type target text delay)
  | .go place waitUntil timeout =>
    rw [runStep]
    exact works_begin hw hr (Works.named (.of_stays (w := begun rest) hw
      (stays_goTo quiet_working place waitUntil timeout)))
  | .wait condition =>
    rw [runStep]
    refine works_begin hw hr (Works.named (.of_stays (w := begun rest) hw ?_))
    exact Stays.bind (stays_waitFor quiet_working condition) fun _ _ => .pure trivial
  | .scrape data path =>
    rw [runStep]
    exact works_begin hw hr (Works.named (.of_stays (w := begun rest) hw
      (stays_scrape quiet_working hF index data path)))
  | .screenshot path fullPage =>
    rw [runStep]
    exact works_begin hw hr (Works.named (.of_stays (w := begun rest) hw
      (stays_takeScreenshot quiet_working index path fullPage)))
  | .repeat steps times =>
    rw [runStep]
    rw [Step.keepsApart] at hstep
    rw [Step.walk, List.cons_append] at hr
    refine works_begin hw hr ?_
    refine Works.count (w := begun _) hw (fun n rest => ?_) times 1 rest
    exact works_runSteps hF (w := begun (Step.walkAll steps ++ rest)) hw hstep rfl (index.child n)
  | .crawl selector xpath attributeName steps =>
    rw [runStep]
    rw [Step.keepsApart, Bool.and_eq_true] at hstep
    refine works_begin hw hr ?_
    exact works_crawl hF (w := begun rest) hw (by simpa using hstep.1) hstep.2 index selector xpath
      attributeName
termination_by sizeOf step

end

end BrowserPlan.Run
