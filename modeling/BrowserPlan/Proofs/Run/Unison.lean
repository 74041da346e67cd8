import BrowserPlan.Proofs.Run.Accord

/-!
# Branches that do the same

A step is simple if it goes forward on one page only. Wherever simple steps are carried out, they agree
(`agree_runSteps`), and so do branches that follow the same link with the same steps, on whatever pages
they were lent and wherever these pages were before (`agree_branch`).
-/
namespace BrowserPlan

namespace Step

mutual

/-- The step starts nobody and does not look back: it is no crawl, goes neither back nor forward in the
history of the page, and does not wait while it clicks; and so are the steps that it repeats. -/
def isSimple : Step → Bool
  | .click _ _ condition => condition.isNone
  | .go place _ _ => place != "back" && place != "forward"
  | .repeat steps _ => allSimple steps
  | .crawl .. => false
  | _ => true

/-- All steps are simple. -/
def allSimple : List Step → Bool
  | [] => true
  | s :: rest => isSimple s && allSimple rest

end

end Step

namespace Run

open BrowserPlan.Task BrowserPlan.Browser

/-! ## Parts of steps -/

section
variable {B : Habits} {u u' : String} {p p' : Program scene Unit}

/-- A question whose answer does not matter, and then a bad end. -/
theorem agree_failing {α α' : Type} {V : α → α' → Prop} {q q' : Call} (e : Stop Fault) (hq : q.IsIdle)
    (hq' : q'.IsIdle) : Agree B u u' V (ask q >>= fun _ => Program.ending (I := scene) (.error e))
      (ask q' >>= fun _ => Program.ending (I := scene) (.error e)) := by
  have hend : ∀ {α : Type} {q : Call} {u v : String} {ds : List (Deed scene)} {r : Outcome Fault α}, q.IsIdle →
      Served B u (ask q >>= fun _ => Program.ending (I := scene) (.error e)) ds r v →
      v = B.walk u ds ∧ B.account u ds = [] ∧ r = .error e := by
    intro α q u v ds r hq h
    rcases h.bind with ⟨e', hask, -⟩ | ⟨ds₁, ds₂, a, x, rfl, hask, hrest⟩
    · obtain ⟨⟨_, heq⟩, -⟩ := hask.idle hq
      cases heq
    · obtain ⟨-, hx, hwalk, hnone⟩ := hask.idle hq
      obtain ⟨rfl, rfl, rfl⟩ := hrest.done
      rw [List.append_nil]
      exact ⟨hx.trans hwalk.symm, hnone, rfl⟩
  intro ds r v ds' r' v' hs hs'
  obtain ⟨hwalk, hnone, rfl⟩ := hend hq hs
  obtain ⟨hwalk', hnone', rfl⟩ := hend hq' hs'
  exact ⟨⟨hwalk, hwalk'⟩, hnone.trans hnone'.symm, rfl⟩

theorem agree_named {action : Action} {index : IterationIndex} (h : Agree B u u Eq p p') :
    Agree B u u Eq (named action index p) (named action index p') := by
  refine Agree.attempt h (fun v a a' _ => .pure rfl) fun v v' e => ?_
  match e with
  | .failed fault => exact .fail _
  | .cancelled | .interrupted => exact .error _

theorem agree_spanned {action : Action} {index : IterationIndex} (h : ∀ u, Agree B u u Eq p p') :
    Agree B u u Eq (spanned action index p) (spanned action index p') := by
  rw [spanned, spanned]
  refine (Agree.tell (q := .openSpan action index) fun _ _ => rfl).bind fun v n n' _ => ?_
  refine Agree.attempt (h v) (fun v a a' _ => ?_) fun v v' e => agree_failing e {} {}
  exact (Agree.ask (q := .closeSpan n _) (k := .closeSpan n' _) (V := fun _ _ => True)
    fun _ _ _ _ => ⟨rfl, trivial⟩).bind fun _ _ _ _ => .pure rfl

theorem agree_count {f f' : Nat → Program scene Unit} (hf : ∀ u n, Agree B u u Eq (f n) (f' n)) (times : Nat) :
    ∀ u first, Agree B u u Eq (Program.count f first times) (Program.count f' first times) := by
  induction times with
  | zero => exact fun _ _ => .pure rfl
  | succ n ih => exact fun u first => (hf u first).bind fun v _ _ _ => ih v (first + 1)

end

/-! ## Steps that repeat nothing -/

section
variable {B : Habits} {u : String} (p p' : PageId)

theorem agree_targetOf (selector xpath : Option String) :
    Agree B u u Eq (targetOf selector xpath) (targetOf selector xpath) := by
  rw [targetOf.eq_def]
  split
  · exact .pure rfl
  · exact .fail _

theorem agree_goTo {place : String} (hback : (place == "back") = false) (hforward : (place == "forward") = false)
    (waitUntil : Option String) (timeout : Option Number) :
    Agree B u u Eq (goTo p place waitUntil timeout) (goTo p' place waitUntil timeout) := by
  rw [goTo, goTo, hback, hforward]
  refine (Agree.ask (q := .urlOf p) (k := .urlOf p') (V := Eq) fun a a' h h' => ⟨rfl, h.trans h'.symm⟩).bind
    fun v base _ h => h ▸ ?_
  exact (Agree.settleFor _ _).bind fun v url _ h => h ▸ .goto p p' url waitUntil timeout

theorem agree_writeRecords (path : FilePath) (data : Json) :
    Agree B u u Eq (writeRecords path data) (writeRecords path data) :=
  (Agree.ask (q := .writeRecords path data) (k := .writeRecords path data) (V := Eq)
    fun _ _ h h' => ⟨rfl, h.trans h'.symm⟩).bind fun _ a _ h => h ▸ .failIf _

theorem agree_ensureParent (path : FilePath) : Agree B u u Eq (ensureParent path) (ensureParent path) :=
  (Agree.ask (q := .ensureParent path) (k := .ensureParent path) (V := Eq)
    fun _ _ h h' => ⟨rfl, h.trans h'.symm⟩).bind fun _ a _ h => h ▸ .failIf _

theorem agree_scrape (index : IterationIndex) (data : Spec) (template : String) :
    Agree B u u Eq (scrape p index data template) (scrape p' index data template) := by
  rw [scrape, scrape]
  refine (agree_extract (.page p p') data).bind fun v records _ h => h ▸ ?_
  refine (agree_writeRecords _ _).bind fun v _ _ _ => ?_
  refine (Agree.tell (q := .produced _) fun _ _ => rfl).bind fun v _ _ _ => ?_
  exact (Agree.say _ _ _).mono fun _ _ _ => rfl

theorem agree_takeScreenshot (index : IterationIndex) (template : String) (fullPage : Bool) :
    Agree B u u Eq (takeScreenshot p index template fullPage) (takeScreenshot p' index template fullPage) := by
  rw [takeScreenshot, takeScreenshot]
  refine (agree_ensureParent _).bind fun v _ _ _ => ?_
  refine (agree_onPage p p' (.screenshot _ fullPage)).bind fun v _ _ _ => ?_
  refine (Agree.tell (q := .produced _) fun _ _ => rfl).bind fun v _ _ _ => ?_
  exact (Agree.say _ _ _).mono fun _ _ _ => rfl

/-- A simple step that repeats nothing. -/
theorem agree_stepBody {step : Step} (hsimple : step.isSimple = true) (hbody : step.body? = none)
    (index : IterationIndex) : Agree B u u Eq (stepBody p index step) (stepBody p' index step) := by
  cases step with
  | click selector xpath condition =>
    obtain rfl : condition = none := Option.isNone_iff_eq_none.1 hsimple
    exact agree_named ((agree_targetOf selector xpath).bind fun v target _ h => h ▸ agree_onPage p p' (.click target))
  | type text selector xpath delay =>
    exact agree_named ((agree_targetOf selector xpath).bind fun v target _ h =>
      h ▸ agree_onPage p p' (.type target text delay))
  | go place waitUntil timeout =>
    simp only [Step.isSimple, Bool.and_eq_true, bne, Bool.not_eq_true'] at hsimple
    exact agree_named (agree_goTo p p' hsimple.1 hsimple.2 waitUntil timeout)
  | wait condition => exact agree_named ((agree_waitFor p p' condition).bind fun _ _ _ _ => .pure rfl)
  | scrape data path => exact agree_named (agree_scrape p p' index data path)
  | screenshot path fullPage => exact agree_named (agree_takeScreenshot p p' index path fullPage)
  | «repeat» | crawl => cases hbody

end

mutual

/-- Simple steps agree on all pages at the same address. -/
theorem agree_runSteps {B : Habits} (p p' : PageId) {steps : List Step} (h : Step.allSimple steps = true)
    (u : String) (index : IterationIndex) : Agree B u u Eq (runSteps p index steps) (runSteps p' index steps) := by
  match steps with
  | [] =>
    rw [runSteps, runSteps]
    exact .pure rfl
  | step :: rest =>
    rw [Step.allSimple, Bool.and_eq_true] at h
    rw [runSteps, runSteps]
    exact (agree_runStep p p' h.1 u index).bind fun v _ _ _ => agree_runSteps p p' h.2 v index

theorem agree_runStep {B : Habits} (p p' : PageId) {step : Step} (h : step.isSimple = true) (u : String)
    (index : IterationIndex) : Agree B u u Eq (runStep p index step) (runStep p' index step) := by
  rw [runStep_eq, runStep_eq]
  refine (Agree.tell (q := .executed _) fun _ _ => rfl).bind fun v _ _ _ => (Agree.say _ _ _).bind fun v _ _ _ => ?_
  refine agree_spanned fun u => ?_
  match step with
  | .click .. | .type .. | .go .. | .wait .. | .scrape .. | .screenshot .. => exact agree_stepBody p p' h rfl index
  | .repeat steps times =>
    exact agree_count (fun u n => agree_runSteps p p' (by rwa [Step.isSimple] at h) u (index.child n)) times u 1
  | .crawl .. => cases h

end

/-! ## Borrowing a page -/

section
variable {B : Habits} {u u' v v' : String} {ds ds' : List (Deed scene)} {d : Deed scene}

/-- Borrowing a page leaves no mark and moves no page. -/
theorem IsBorrowing.still (h : IsBorrowing d) (here : String) :
    B.Foresees here d ∧ B.after here d = here ∧ Deed.mark? here d = none := by
  cases h with
  | aside h | pause h => cases h <;> exact ⟨trivial, rfl, rfl⟩
  | granted => exact ⟨trivial, rfl, rfl⟩
  | pool => exact ⟨trivial, rfl, rfl⟩
  | «open» h => cases h <;> exact ⟨by first | trivial | exact ⟨rfl, nofun⟩, rfl, rfl⟩
  | @limit p op _ hop h =>
    have hsight : Sight.of? (fun _ => here) (.page p) op = none := by
      cases op <;> first | rfl | exact hop.elim
    cases h with
    | «begin» => exact ⟨trivial, rfl, by rw [Deed.mark?, hsight]; rfl⟩
    | complete landing a =>
      refine ⟨⟨?_, fun s hs => ?_⟩, by rw [Habits.after, hsight], rfl⟩
      · cases op <;> first | rfl | exact hop.elim
      · rw [hsight] at hs
        cases hs
    | breakOff => exact ⟨trivial, rfl, rfl⟩

theorem still_of_borrowing (hds : ∀ d ∈ ds, IsBorrowing d) (u : String) :
    B.walk u ds = u ∧ B.account u ds = [] := by
  induction ds with
  | nil => exact ⟨rfl, rfl⟩
  | cons d ds ih =>
    obtain ⟨-, hafter, hmark⟩ := (hds d List.mem_cons_self).still (B := B) u
    obtain ⟨hwalk, hnone⟩ := ih fun d hd => hds d (List.mem_cons_of_mem _ hd)
    constructor
    · change B.walk (B.after u d) ds = u
      rw [hafter, hwalk]
    · rw [Habits.account, hmark, hafter, hnone]
      rfl

theorem along_of_borrowing (h : Along (Serves B) u ds v) (hds : ∀ d ∈ ds, IsBorrowing d) :
    v = u ∧ ∀ d ∈ ds, B.Meets u d := by
  induction h with
  | nil => exact ⟨rfl, fun _ hd => absurd hd List.not_mem_nil⟩
  | snoc _ hd ih =>
    obtain ⟨rfl, hmeets⟩ := ih fun d hd => hds d (List.mem_append_left _ hd)
    obtain ⟨hforeseen, hafter, -⟩ := (hds _ (List.mem_append_right _ List.mem_cons_self)).still (B := B) _
    obtain ⟨heq, hmet⟩ := hd hforeseen
    exact ⟨heq.trans hafter, List.forall_mem_append.2 ⟨hmeets, by simpa using hmet⟩⟩

/-- As long as it meets what is wont to be met, a task that asks for a page is lent one. -/
theorem lends_acquire (B : Habits) (u : String) : pages.acquire.Obeys (B.Meets u) (fun (_ : Unit) _ _ => True)
    (fun _ r => ∃ p, r = .ok p) () := by
  have hcreate : pages.createPage.Obeys (B.Meets u) (fun (_ : Unit) _ _ => True) (fun _ r => ∃ p, r = .ok p) () := by
    have hnew : Session.newPage.Obeys (B.Meets u) (fun (_ : Unit) _ _ => True) (fun _ _ => True) () :=
      Program.Obeys.mono (fun d _ => blameless_anything d) (fun _ _ _ _ => trivial) (fun _ _ _ => trivial)
        (takes_newPage fun _ => id)
    refine Program.Obeys.bind (Program.Obeys.attempt (hnew.weaken fun _ r _ => ?_))
    cases r with
    | ok p => exact fun _ _ => ⟨(), trivial, fun _ _ => ⟨(), trivial, fun _ _ => ⟨(), trivial, p, rfl⟩⟩⟩
    | error e => exact fun _ h => h.elim
  intro a ha
  refine ⟨(), trivial, ?_⟩
  cases a with
  | page p => exact ⟨p, rfl⟩
  | create => exact hcreate
  | refused fault => exact absurd rfl (ha fault)
  | queue k =>
    intro _ _
    refine ⟨(), trivial, fun _ _ => ⟨(), trivial, ?_⟩⟩
    rintro r rfl
    refine ⟨(), trivial, fun a ha => ⟨(), trivial, ?_⟩⟩
    cases a with
    | page p => exact ⟨p, rfl⟩
    | create => exact hcreate
    | refused fault => exact absurd rfl (ha.1 fault)
    | queue k => exact absurd rfl (ha.2 k)

theorem served_acquire {r : Outcome Fault PageId} (h : Served B u pages.acquire ds r v) :
    v = u ∧ (∀ d ∈ ds, IsBorrowing d) ∧ ∃ p, r = .ok p := by
  have hds := (takes_acquire fun _ => id).path h.path
  obtain ⟨rfl, hmeets⟩ := along_of_borrowing h.along hds
  obtain ⟨_, -, hend⟩ := (lends_acquire B v).path h.path hmeets
  exact ⟨rfl, hds, hend⟩

theorem served_release {p : PageId} {r : Outcome Fault Unit} (h : Served B u (pages.release p) ds r v) :
    (∀ d ∈ ds, IsBorrowing d) ∧ r = .ok () := by
  refine ⟨(takes_release (fun _ => id) p).path h.path, ?_⟩
  obtain ⟨a, es, rfl, hend⟩ := ask_path h.path
  obtain ⟨x, hfirst, -⟩ := h.along.head
  obtain ⟨-, rfl⟩ := hfirst trivial
  obtain ⟨-, heq⟩ := hend.of_done
  cases heq
  rfl

/-- When something is done on a borrowed page, it is what counts. -/
theorem served_lease {α : Type} {body : PageId → Program scene α} {r : Outcome Fault α}
    (h : Served B u (pages.lease body) ds r v) : ∃ before p visit after x, ds = before ++ (visit ++ after) ∧
      (∀ d ∈ before, IsBorrowing d) ∧ Served B u (body p) visit r x ∧ ∀ d ∈ after, IsBorrowing d := by
  rcases h.bind with ⟨e, hacquire, -⟩ | ⟨before, ds₂, p, x, rfl, hacquire, hrest⟩
  · obtain ⟨-, -, p, heq⟩ := served_acquire hacquire
    cases heq
  obtain ⟨rfl, hbefore, -⟩ := served_acquire hacquire
  obtain ⟨visit, ds₃, o, y, rfl, hbody, hend⟩ := hrest.attempt
  rcases hend.bind with ⟨e, hrelease, -⟩ | ⟨after, ds₄, _, z, rfl, hrelease, hover⟩
  · obtain ⟨-, heq⟩ := served_release hrelease
    cases heq
  · obtain ⟨rfl, rfl, rfl⟩ := hover.done
    rw [List.append_nil]
    exact ⟨before, p, visit, after, y, rfl, hbefore, hbody, (served_release hrelease).1⟩

/-! ## Branches -/

variable {link : String} {index : IterationIndex} {steps : List Step}

/-- Visits to the same link with the same simple steps agree, wherever the pages were before. -/
theorem agree_visit (hsteps : Step.allSimple steps = true) (p p' : PageId) :
    Agree B u u' Eq (do
      invoke (.page p) (.goto link none none)
      runSteps p index steps) (do
      invoke (.page p') (.goto link none none)
      runSteps p' index steps) :=
  (Agree.goto p p' link none none).bind fun v _ _ _ => agree_runSteps p p' hsteps v index

/-- The failure that is noted of a branch that has ended so. -/
def failureNote (link : String) (index : IterationIndex) : Outcome Fault Unit → List Mark
  | .error (.failed fault) => [.failed ⟨link, index, fault.message⟩]
  | _ => []

theorem account_noteFailure {fault : Fault} {r : Outcome Fault Unit}
    (h : Program.Path (noteFailure link index fault) ds (.done r)) (here : String) :
    B.account here ds = [.failed ⟨link, index, fault.message⟩] := by
  obtain ⟨_, es, rfl, hrest⟩ := ask_path h
  obtain ⟨_, es', rfl, hrest'⟩ := ask_path hrest
  obtain ⟨_, es'', rfl, hend⟩ := Program.Path.of_call hrest'
  obtain ⟨rfl, -⟩ := hend.of_done
  rfl

/-- Going to an address does not depend on where the page was. -/
theorem along_goto {p : PageId} {url : String} {waitUntil : Option String} {timeout : Option Number}
    (h : Along (Serves B) u ds v) (hds : ∀ d ∈ ds, IsPause d ∨ IsCall (.page p) (.goto url waitUntil timeout) d)
    (here : String) : ∃ there, Along (Serves B) here ds there := by
  induction h with
  | nil => exact ⟨here, .nil⟩
  | @snoc ds x d y _ hd ih =>
    obtain ⟨z, hz⟩ := ih fun d hd => hds d (List.mem_append_left _ hd)
    refine ⟨B.after z d, hz.snoc fun hforeseen => ⟨rfl, ?_⟩⟩
    rcases hds d (List.mem_append_right _ List.mem_cons_self) with hd' | hd' <;> cases hd' <;>
      exact (hd hforeseen).2

/-- A visit to a link is the same, wherever the page was before. -/
theorem served_visit {p : PageId} {r : Outcome Fault Unit} (h : Served B u (do
      invoke (.page p) (.goto link none none)
      runSteps p index steps) ds r v) (here : String) : ∃ there, Served B here (do
      invoke (.page p) (.goto link none none)
      runSteps p index steps) ds r there := by
  have hgoes : Takes (fun d => IsPause d ∨ IsCall (.page p) (.goto link none none) d)
      (invoke (.page p) (.goto link none none)) := takes_invoke_of (fun _ => .inl) fun _ => .inr
  rcases h.bind with ⟨e, hgoto, rfl⟩ | ⟨ds₁, ds₂, a, x, rfl, hgoto, hrest⟩
  · obtain ⟨there, halong⟩ := along_goto hgoto.along (hgoes.path hgoto.path) here
    exact ⟨there, h.path, halong⟩
  · obtain ⟨there, halong⟩ := along_goto hgoto.along (hgoes.path hgoto.path) here
    obtain ⟨-, -, -, rfl⟩ := Agree.goto p p link none none _ _ _ _ _ _ hgoto ⟨hgoto.path, halong⟩
    exact ⟨v, h.path, halong.append hrest.along⟩

/-- What a branch does is what it does on the page that it is lent, and then it notes its failure if it
has failed. -/
theorem served_branch {r : Outcome Fault Yield} (h : Served B u (program (.branch link index steps)) ds r v) :
    ∃ p visit o x y, Served B x (do
        invoke (.page p) (.goto link none none)
        runSteps p index steps) visit o y ∧
      ∀ here, B.account here ds = B.account here visit ++ failureNote link index o := by
  have hbranch : ∃ r', Served B u (branch link index steps) ds r' v := by
    rcases h.bind with ⟨e, hbranch, -⟩ | ⟨ds₁, ds₂, a, x, rfl, hbranch, hrest⟩
    · exact ⟨_, hbranch⟩
    · obtain ⟨rfl, -, rfl⟩ := hrest.done
      rw [List.append_nil]
      exact ⟨_, hbranch⟩
  obtain ⟨r', hbranch⟩ := hbranch
  obtain ⟨ds₁, ds₂, o, x, rfl, hfollow, hrest⟩ := hbranch.attempt
  obtain ⟨before, p, visit, after, y, rfl, hbefore, hvisit, hafter⟩ := served_lease hfollow
  refine ⟨p, visit, o, u, y, hvisit, fun here => ?_⟩
  have hnoted : ∀ here, B.account here ds₂ = failureNote link index o := by
    match o with
    | .error (.failed fault) => exact account_noteFailure hrest.path
    | .ok _ | .error .cancelled | .error .interrupted =>
      obtain ⟨rfl, -⟩ := hrest.done
      exact fun _ => rfl
  rw [Habits.account_append, Habits.account_append, Habits.account_append, (still_of_borrowing hbefore here).1,
    (still_of_borrowing hbefore here).2, (still_of_borrowing hafter _).2, List.nil_append, List.append_nil, hnoted]

/-- Two branches that follow the same link with the same simple steps give the same account, wherever
they are said to have set out from. -/
theorem agree_branch (hsteps : Step.allSimple steps = true) {r r' : Outcome Fault Yield}
    (h : Served B u (program (.branch link index steps)) ds r v)
    (h' : Served B u' (program (.branch link index steps)) ds' r' v') (here : String) :
    B.account here ds = B.account here ds' := by
  obtain ⟨p, visit, o, x, y, hvisit, heq⟩ := served_branch h
  obtain ⟨p', visit', o', x', y', hvisit', heq'⟩ := served_branch h'
  obtain ⟨z, hvisit⟩ := served_visit hvisit here
  obtain ⟨z', hvisit'⟩ := served_visit hvisit' here
  obtain ⟨-, haccount, hends⟩ := agree_visit hsteps p p' _ _ _ _ _ _ hvisit hvisit'
  rw [heq, heq', haccount]
  match o, o' with
  | .ok _, .ok _ => rfl
  | .error e, .error e' => rw [show e = e' from hends]

end

/-! ## Links -/

/-- What a crawl does before it starts its branches. -/
def crawlLinks (page : PageId) (index : IterationIndex) (selector xpath : Option String) (attributeName : String) :
    Program scene (List (String × IterationIndex)) := do
  let found ← findLinks page index selector xpath attributeName
  let base ← ask (.urlOf page)
  let branches ← branchesOf base index 1 found
  say .info .interpreter (s!"Crawling {branches.length} links from " ++ base)
  return branches

/-- A crawl finds its links, starts a branch for each, and waits for them. -/
theorem crawl_eq (page : PageId) (index : IterationIndex) (selector xpath : Option String)
    (attributeName : String) (steps : List Step) : crawl page index selector xpath attributeName steps = (do
      let branches ← crawlLinks page index selector xpath attributeName
      let tasks ← branches.mapM fun (link, here) => Program.start (I := scene) (.branch link here steps)
      Program.joinAll tasks false) := by
  simp only [crawl, crawlLinks, bind_assoc, pure_bind]

section
variable {B : Habits} {u : String} (p p' : PageId) (index : IterationIndex)

theorem agree_findLinks (selector xpath : Option String) (attributeName : String) :
    Agree B u u Eq (findLinks p index selector xpath attributeName) (findLinks p' index selector xpath attributeName) := by
  refine Agree.attempt (agree_extract (.page p p') _) (fun v records _ h => h ▸ .pure rfl) fun v v' e => ?_
  match e with
  | .failed fault => exact .fail _
  | .cancelled | .interrupted => exact .error _

theorem agree_branchesOf (base : String) (vs : List Json) : ∀ (u : String) (position : Int),
    Agree B u u Eq (branchesOf base index position vs) (branchesOf base index position vs) := by
  induction vs with
  | nil => exact fun _ _ => .pure rfl
  | cons v vs ih =>
    intro u position
    rw [branchesOf]
    split
    · exact ih u _
    · refine (Agree.settleFor _ _).bind fun u link _ h => h ▸ ?_
      split
      · exact (ih u _).bind fun _ later _ h => h ▸ .pure rfl
      · exact (Agree.say _ _ _).bind fun u _ _ _ => ih u _

/-- Crawls on pages at the same address find the same links. -/
theorem agree_crawlLinks (selector xpath : Option String) (attributeName : String) :
    Agree B u u Eq (crawlLinks p index selector xpath attributeName)
      (crawlLinks p' index selector xpath attributeName) := by
  refine (agree_findLinks p p' index selector xpath attributeName).bind fun u found _ h => h ▸ ?_
  refine (Agree.ask (q := .urlOf p) (k := .urlOf p') (V := Eq) fun a a' h h' => ⟨rfl, h.trans h'.symm⟩).bind
    fun u base _ h => h ▸ ?_
  refine (agree_branchesOf index base found u 1).bind fun u branches _ h => h ▸ ?_
  exact (Agree.say _ _ _).bind fun _ _ _ _ => .pure rfl

end

end Run
end BrowserPlan
