import BrowserPlan.Proofs.Plan.Iterations
import BrowserPlan.Proofs.Run.Reporting

/-!
# Steps without crawls come one after the other

Unrolled, a list of steps without crawls is a list of single steps, each with the index it is carried out at: a
step that repeats others comes before all its rounds, and these come in their order (`Step.unrollAll`). `Tours` is
what a task does with such a list: it notes one step after the other and does the work of those that repeat
nothing, until one of them fails. Carrying out the steps is touring the list, apart from the spans, which nest
(`tours_runSteps`), and so the report and the fault at the end can be read off the list
(`steps_run_in_sequence`).
-/
namespace BrowserPlan

namespace Step

/-- Among the steps and all steps below them there is no crawl. -/
def IsCrawlFree (steps : List Step) : Prop :=
  ∀ s ∈ steps, ∀ c, c = s ∨ Below Step.subSteps s c → ¬ c.IsCrawl

theorem isCrawlFree_iff {steps : List Step} : IsCrawlFree steps ↔ allKeepApart true steps = true := by
  have hcrawl : ∀ {c : Step}, keepsApart true c = true → ¬ c.IsCrawl := by
    intro c h
    cases c with
    | crawl => cases h
    | _ => nofun
  rw [allKeepApart_iff]
  constructor
  · exact fun h s hs => keepsApart_of_no_crawl (h s hs s (.inl rfl)) fun c hc => h s hs c (.inr hc)
  · rintro h s hs c (rfl | hc)
    · exact hcrawl (h c hs)
    · exact hcrawl (keepsApart_below (h s hs) hc)

mutual

/-- The steps that carrying out a step comes to, in their order, each with its index. -/
def unroll (index : IterationIndex) : Step → List (IterationIndex × Step)
  | .repeat steps times =>
    (index, .repeat steps times) :: (List.range' 1 times).flatMap fun (n : Nat) => unrollAll (index.child n) steps
  | s => [(index, s)]

/-- The steps that carrying out several steps comes to. -/
def unrollAll (index : IterationIndex) : List Step → List (IterationIndex × Step)
  | [] => []
  | s :: rest => unroll index s ++ unrollAll index rest

end

/-- The file that a step at an index writes. -/
def output? (index : IterationIndex) : Step → Option FilePath
  | .scrape _ path | .screenshot path _ => some (FilePath.render path index)
  | _ => none

end Step

namespace Run

open BrowserPlan.Task BrowserPlan.Browser

/-! ## Single steps -/

/-- The work of a step that repeats nothing and is no crawl. -/
def leafWork (page : PageId) (index : IterationIndex) : Step → Program scene Unit
  | .click selector xpath condition => do clickOn page (← targetOf selector xpath) condition
  | .type text selector xpath delay => do invoke (.page page) (.type (← targetOf selector xpath) text delay)
  | .go place waitUntil timeout => goTo page place waitUntil timeout
  | .wait condition => do
    let _ ← waitFor page condition
  | .scrape data path => scrape page index data path
  | .screenshot path fullPage => takeScreenshot page index path fullPage
  | .repeat .. | .crawl .. => pure ()

/-- The step opens or closes a span. -/
def Deed.isSpan : Deed scene → Bool
  | .ask (.openSpan ..) _ | .ask (.closeSpan ..) _ => true
  | _ => false

/-- What is done apart from opening and closing spans. -/
def withoutSpans (ds : List (Deed scene)) : List (Deed scene) := ds.filter fun d => !Deed.isSpan d

/-- How a step is noted. -/
def noting (action : Action) (index : IterationIndex) : List (Deed scene) :=
  [.ask (.executed action) (),
    .ask (.log ⟨.debug, .interpreter, "Step " ++ action.name ++ " at index " ++ index.toString⟩) ()]

/-- What a task does that tours a list of steps on a page. Each step is noted; those that repeat others leave it
at that, and the others do their work. The first one whose work fails ends the tour. -/
inductive Tours (page : PageId) :
    List (IterationIndex × Step) → List (Deed scene) → Outcome Fault Unit → Prop where
  | nil : Tours page [] [] (.ok ())
  | group {index steps times visits ds r} (h : Tours page visits ds r) :
    Tours page ((index, .repeat steps times) :: visits) (noting .repeat index ++ ds) r
  | leaf {index step visits ds ds' r} (hs : step.body? = none)
    (h : Program.Path (leafWork page index step) ds (.done (.ok ()))) (hrest : Tours page visits ds' r) :
    Tours page ((index, step) :: visits) (noting step.action index ++ (ds ++ ds')) r
  | fails {index step visits ds e} (hs : step.body? = none)
    (h : Program.Path (leafWork page index step) ds (.done (.error e))) :
    Tours page ((index, step) :: visits) (noting step.action index ++ ds) (ascribed step.action index (.error e))

section
variable {page : PageId} {index : IterationIndex} {ds ds' : List (Deed scene)} {r : Outcome Fault Unit}
  {visits visits' : List (IterationIndex × Step)}

theorem Tours.append (h : Tours page visits ds (.ok ())) (h' : Tours page visits' ds' r) :
    Tours page (visits ++ visits') (ds ++ ds') r := by
  generalize ho : Except.ok () = o at h
  induction h with
  | nil => exact h'
  | group _ ih =>
    rw [List.cons_append, List.append_assoc]
    exact .group (ih ho)
  | leaf hs hwork _ ih =>
    rw [List.cons_append, List.append_assoc, List.append_assoc]
    exact .leaf hs hwork (ih ho)
  | @fails _ step _ _ e => cases e <;> cases ho

theorem Tours.stopped {e : Stop Fault} (h : Tours page visits ds (.error e)) (visits' : List (IterationIndex × Step)) :
    Tours page (visits ++ visits') ds (.error e) := by
  generalize ho : Except.error e = o at h
  induction h with
  | nil => cases ho
  | group _ ih => exact .group (ih ho)
  | leaf hs hwork _ ih => exact .leaf hs hwork (ih ho)
  | fails hs hwork => exact .fails hs hwork

/-! ## Carrying out steps is a tour -/

theorem withoutSpans_append : withoutSpans (ds ++ ds') = withoutSpans ds ++ withoutSpans ds' := List.filter_append ..

theorem isSpan_iff {d : Deed scene} : Deed.isSpan d = true ↔ IsSpan d := by
  constructor
  · intro h
    cases d with
    | ask q a => cases q <;> first | exact .openSpan .. | exact .closeSpan .. | cases h
    | _ => cases h
  · rintro (_ | _) <;> rfl

/-- A step of the work of a single step: no step is noted and no span is opened, and only helpers are started. -/
structure Deed.IsLeafWork (d : Deed scene) : Prop where
  executed : Deed.executed? d = none
  span : ¬ IsSpan d
  starts : ∀ job u, d = .start job u → Job.IsHelper job

theorem isLeafWork_of_quiet {F : Findings} {d : Deed scene} (h : IsQuiet F page d) (hspan : ¬ IsSpan d) : Deed.IsLeafWork d where
  executed := h.executed?
  span := hspan
  starts := by
    rintro job u rfl
    cases h with
    | aside h | pause h => cases h
    | call _ _ h => cases h

theorem does_leafWork {step : Step} (h : step.body? = none) : Takes Deed.IsLeafWork (leafWork page index step) := by
  have hquiet : ∀ {F : Findings} d, IsQuiet F page d → ¬ IsSpan d → Deed.IsLeafWork d := fun _ => isLeafWork_of_quiet
  have htarget : ∀ selector xpath, Takes Deed.IsLeafWork (targetOf selector xpath) := fun selector xpath =>
    .of_stays (stays_targetOf selector xpath)
  cases step with
  | click selector xpath condition =>
    refine Takes.bind (htarget selector xpath) fun target => ?_
    cases condition with
    | none => exact .of_stays (Stays.onPage (F := fun _ _ => True) hquiet (.click target))
    | some c =>
      have hmeet : ∀ ts patient r, Deed.IsLeafWork (.meet ts patient r) := fun _ _ _ =>
        ⟨rfl, nofun, fun _ _ heq => by cases heq⟩
      have hstop : ∀ t, Deed.IsLeafWork (.stop t) := fun _ => ⟨rfl, nofun, fun _ _ heq => by cases heq⟩
      refine Program.Avoids.together (I := scene) (fun _ => trivial) (fun job hjob u => ⟨rfl, nofun, ?_⟩) hmeet hstop
      rintro _ _ ⟨⟩
      simp only [List.mem_cons, List.not_mem_nil, or_false] at hjob
      rcases hjob with rfl | rfl <;> trivial
  | type text selector xpath delay =>
    exact Takes.bind (htarget selector xpath) fun target =>
      .of_stays (Stays.onPage (F := fun _ _ => True) hquiet (.type target text delay))
  | go place waitUntil timeout =>
    exact .of_stays (stays_goTo (F := fun _ _ => True) hquiet place waitUntil timeout)
  | wait condition =>
    exact Takes.bind (.of_stays (stays_waitFor (F := fun _ _ => True) hquiet condition)) fun _ => .pure ()
  | scrape data path =>
    exact .of_stays (stays_scrape (F := fun _ _ => True) hquiet (fun d _ => cover_anything d) index data path)
  | screenshot path fullPage =>
    exact .of_stays (stays_takeScreenshot (F := fun _ _ => True) hquiet index path fullPage)
  | «repeat» | crawl => cases h

theorem withoutSpans_leafWork {step : Step} (hs : step.body? = none) {p : Program scene Unit}
    (h : Program.Path (leafWork page index step) ds p) : withoutSpans ds = ds :=
  List.filter_eq_self.2 fun d hd => by
    have hspan := ((does_leafWork hs).path h d hd).span
    rwa [← isSpan_iff, Bool.not_eq_true, ← Bool.not_eq_true'] at hspan

theorem stepBody_of_leaf {step : Step} (h : step.body? = none) :
    stepBody page index step = named step.action index (leafWork page index step) := by
  cases step with
  | «repeat» | crawl => cases h
  | _ => rfl

theorem tours_leaf {step : Step} (hs : step.body? = none)
    (h : Program.Path (runStep page index step) ds (.done r)) : Tours page [(index, step)] (withoutSpans ds) r := by
  obtain ⟨span, body, rfl, hbody⟩ := runStep_path h
  rw [stepBody_of_leaf hs] at hbody
  obtain ⟨o, hwork, rfl⟩ := named_path hbody
  have hdone : withoutSpans (opening step.action index span ++
      (body ++ [.ask (.closeSpan span (SpanStatus.ofOutcome (ascribed step.action index o))) ()])) =
        noting step.action index ++ (body ++ []) := by
    rw [withoutSpans_append, withoutSpans_append, withoutSpans_leafWork hs hwork]
    rfl
  rw [hdone]
  cases o with
  | ok u => exact .leaf hs hwork .nil
  | error e =>
    rw [List.append_nil]
    exact .fails hs hwork

/-- Rounds that are tours are a tour together. -/
theorem tours_count {f : Nat → Program scene Unit} {rounds : Nat → List (IterationIndex × Step)}
    (hround : ∀ n ds r, Program.Path (f n) ds (.done r) → Tours page (rounds n) (withoutSpans ds) r) (times : Nat) :
    ∀ {first : Nat} {ds : List (Deed scene)} {r : Outcome Fault Unit},
      Program.Path (Program.count (I := scene) f first times) ds (.done r) →
        Tours page ((List.range' first times).flatMap rounds) (withoutSpans ds) r := by
  induction times with
  | zero =>
    intro first ds r h
    obtain ⟨rfl, heq⟩ := h.of_done
    cases heq
    exact .nil
  | succ times ih =>
    intro first ds r h
    rw [List.range'_succ, List.flatMap_cons]
    rcases Program.Path.bind_end h with ⟨e, hfirst, rfl⟩ | ⟨ds₁, ds₂, _, rfl, hfirst, hrest⟩
    · exact (hround first _ _ hfirst).stopped _
    · rw [withoutSpans_append]
      exact (hround first _ _ hfirst).append (ih hrest)

/-- A step that repeats others is noted, and then come its rounds. -/
theorem tours_repeat {steps : List Step} {times : Nat}
    (hround : ∀ (n : Nat) ds r, Program.Path (runSteps page (index.child n) steps) ds (.done r) →
      Tours page (Step.unrollAll (index.child n) steps) (withoutSpans ds) r)
    (h : Program.Path (runStep page index (.repeat steps times)) ds (.done r)) :
    Tours page (Step.unroll index (.repeat steps times)) (withoutSpans ds) r := by
  obtain ⟨span, body, rfl, hbody⟩ := runStep_path h
  have hdone : withoutSpans (opening .repeat index span ++
      (body ++ [.ask (.closeSpan span (SpanStatus.ofOutcome r)) ()])) = noting .repeat index ++ withoutSpans body := by
    rw [withoutSpans_append, withoutSpans_append]
    exact congrArg (noting .repeat index ++ ·) (List.append_nil _)
  rw [Step.unroll, Step.action, hdone]
  exact .group (tours_count hround times hbody)

end

mutual

/-- Carrying out steps without crawls is touring what they unroll to. -/
theorem tours_runSteps {page : PageId} {index : IterationIndex} {steps : List Step}
    (hfree : Step.allKeepApart true steps = true) {ds : List (Deed scene)} {r : Outcome Fault Unit}
    (h : Program.Path (runSteps page index steps) ds (.done r)) :
    Tours page (Step.unrollAll index steps) (withoutSpans ds) r := by
  match steps with
  | [] =>
    rw [runSteps] at h
    obtain ⟨rfl, heq⟩ := h.of_done
    cases heq
    rw [Step.unrollAll]
    exact .nil
  | step :: rest =>
    rw [Step.allKeepApart, Bool.and_eq_true] at hfree
    rw [runSteps] at h
    rw [Step.unrollAll]
    rcases Program.Path.bind_end h with ⟨e, hfirst, rfl⟩ | ⟨ds₁, ds₂, _, rfl, hfirst, hrest⟩
    · exact (tours_runStep hfree.1 hfirst).stopped _
    · rw [withoutSpans_append]
      exact (tours_runStep hfree.1 hfirst).append (tours_runSteps hfree.2 hrest)

theorem tours_runStep {page : PageId} {index : IterationIndex} {step : Step}
    (hfree : Step.keepsApart true step = true) {ds : List (Deed scene)} {r : Outcome Fault Unit}
    (h : Program.Path (runStep page index step) ds (.done r)) :
    Tours page (Step.unroll index step) (withoutSpans ds) r := by
  match step with
  | .repeat steps times =>
    rw [Step.keepsApart] at hfree
    exact tours_repeat (fun n ds r => tours_runSteps hfree) h
  | .crawl .. => cases hfree
  | .click .. | .type .. | .go .. | .wait .. | .scrape .. | .screenshot .. =>
    rw [Step.unroll]
    · exact tours_leaf rfl h
    · exact nofun

end

/-! ## What a tour leaves in the report -/

/-- Of the files in the report, the program adds this one if it ends well, and else none. -/
def Produces (output : Option FilePath) (p : Program scene Unit) : Prop :=
  ∀ ds o, Program.Path p ds (.done o) → ds.filterMap Deed.produced? = match o with
    | .ok _ => output.toList
    | .error _ => []

theorem filterMap_produced {α : Type} {p q : Program scene α} {ds : List (Deed scene)} (h : Unreported p)
    (hpath : Program.Path p ds q) : ds.filterMap Deed.produced? = [] :=
  List.filterMap_eq_nil_iff.2 fun d hd => (h.path hpath d hd).produced?

theorem Produces.of_unreported {p : Program scene Unit} (h : Unreported p) : Produces none p := by
  intro ds o hpath
  rw [filterMap_produced h hpath]
  cases o <;> rfl

theorem Produces.after {α : Type} {p : Program scene α} {f : α → Program scene Unit} {output : Option FilePath}
    (hp : Unreported p) (hf : ∀ a, Produces output (f a)) : Produces output (p >>= f) := by
  intro ds o hpath
  rcases Program.Path.bind_end hpath with ⟨e, hfirst, rfl⟩ | ⟨ds₁, ds₂, a, rfl, hfirst, hrest⟩
  · exact filterMap_produced hp hfirst
  · rw [List.filterMap_append, filterMap_produced hp hfirst, List.nil_append]
    exact hf a _ _ hrest

theorem produces_last (path : FilePath) (message : String) : Produces (some path) (do
    ask (.produced path)
    say .info .interpreter message) := by
  intro ds o hpath
  obtain ⟨_, _, rfl, hsay⟩ := ask_path hpath
  obtain ⟨_, _, rfl, hend⟩ := Program.Path.of_call hsay
  obtain ⟨rfl, heq⟩ := hend.of_done
  cases heq
  rfl

section
variable (page : PageId)

theorem unreported_targetOf (selector xpath : Option String) : Unreported (targetOf selector xpath) := by
  rw [targetOf.eq_def]
  split
  · exact .pure _
  · exact .fail _

/-- Waiting is calling the page, and letting time pass. -/
theorem takes_waitFor_of {D : Deed scene → Prop} (hcall : ∀ op, Takes D (invoke (.page page) op))
    (hpause : ∀ on r, D (.wake on r)) (c : WaitCondition) : Takes D (waitFor page c) := by
  have hwait : ∀ on, Takes D (wait on) := fun on => Program.Avoids.wait (hpause on) fun _ => trivial
  have hhalf : ∀ half, Takes D (waitForHalf page half c) := fun half =>
    Takes.bind (.settleFor _ _) fun _ => Takes.bind (hcall _) fun _ => hcall _
  have hload : ∀ state : String, Takes D (if loadStates.contains state then
      invoke (.page page) (.waitForLoadState state c.timeout) else pure ()) := by
    intro state
    split
    · exact hcall _
    · exact .pure _
  rw [waitFor.eq_def]
  split
  · exact Takes.bind (Takes.bind (hcall _) fun _ => hload _) fun _ => .pure _
  · exact Takes.bind (hcall _) fun _ => .pure _
  · exact Takes.bind (hcall _) fun _ => .pure _
  · exact Takes.bind (hcall _) fun _ => .pure _
  · refine Takes.bind (hcall _) fun _ => Takes.bind ?_ fun _ => .pure _
    rw [passTime.eq_def]
    split
    · exact .fail _
    · split
      · split <;> exact hwait _
      · exact .pure _
  · exact Takes.bind (hhalf _) fun _ => .pure _
  · exact Takes.bind (hhalf _) fun _ => .pure _
  · exact Takes.bind (hcall _) fun _ => .pure _

theorem unreported_goTo (place : String) (waitUntil : Option String) (timeout : Option Number) :
    Unreported (goTo page place waitUntil timeout) := by
  rw [goTo]
  split
  · exact unreported_invoke _ _
  · split
    · exact unreported_invoke _ _
    · exact Takes.bind (.ask fun _ => trivial) fun _ => Takes.bind (.settleFor _ _) fun _ => unreported_invoke _ _

theorem unreported_clickOn (target : String) (condition : Option WaitCondition) :
    Unreported (clickOn page target condition) := by
  cases condition with
  | none => exact unreported_invoke _ _
  | some c =>
    exact Program.Avoids.together (I := scene) (fun _ => trivial) (fun _ _ _ => trivial) (fun _ _ _ => trivial)
      fun _ => trivial

/-- A step that ends well has reported the file that it writes, if it writes one. -/
theorem produces_leafWork {step : Step} (hs : step.body? = none) (index : IterationIndex) :
    Produces (step.output? index) (leafWork page index step) := by
  have hsettle : ∀ fault : Option FileFault, Unreported (failIf (fault.map .file)) := fun _ => .failIf _
  cases step with
  | click selector xpath condition =>
    exact .of_unreported (Takes.bind (unreported_targetOf _ _) fun target => unreported_clickOn page target condition)
  | type text selector xpath delay =>
    exact .of_unreported (Takes.bind (unreported_targetOf _ _) fun target =>
      unreported_invoke (.page page) (.type target text delay))
  | go place waitUntil timeout => exact .of_unreported (unreported_goTo page place waitUntil timeout)
  | wait condition =>
    exact .of_unreported (Takes.bind (takes_waitFor_of page (unreported_invoke _) (fun _ _ => trivial) condition)
      fun _ => .pure _)
  | scrape data path =>
    refine .after (unreported_extract _ _) fun records => .after ?_ fun _ => produces_last _ _
    exact Takes.bind (.ask fun _ => trivial) hsettle
  | screenshot path fullPage =>
    refine .after ?_ fun _ => .after (unreported_invoke _ _) fun _ => produces_last _ _
    exact Takes.bind (.ask fun _ => trivial) hsettle
  | «repeat» | crawl => cases hs

end

/-- What a tour of a list of steps leaves in the report, and how it ends: it has noted the actions of all steps and
has written all their files; or it has come to a step whose work fails, and has noted the actions up to this one,
has written the files of those before, and ends with the fault of this one, ascribed to it. -/
inductive Reckons (page : PageId) (visits : List (IterationIndex × Step)) :
    List Action → List FilePath → Outcome Fault Unit → Prop where
  | whole : Reckons page visits (visits.map fun v => v.2.action) (visits.filterMap fun v => v.2.output? v.1) (.ok ())
  | broken {done index step rest ds e} (heq : visits = done ++ (index, step) :: rest) (hs : step.body? = none)
    (h : Program.Path (leafWork page index step) ds (.done (.error e))) :
    Reckons page visits ((done ++ [(index, step)]).map fun v => v.2.action)
      (done.filterMap fun v => v.2.output? v.1) (ascribed step.action index (.error e))

section
variable {page : PageId} {visits : List (IterationIndex × Step)} {ds : List (Deed scene)} {r : Outcome Fault Unit}

theorem Reckons.cons {actions : List Action} {files : List FilePath} (v : IterationIndex × Step)
    (h : Reckons page visits actions files r) :
    Reckons page (v :: visits) (v.2.action :: actions) ((v.2.output? v.1).toList ++ files) r := by
  cases h with
  | whole =>
    have hfiles : (v :: visits).filterMap (fun v => v.2.output? v.1) =
        (v.2.output? v.1).toList ++ visits.filterMap fun v => v.2.output? v.1 := by
      cases h : v.2.output? v.1 <;> simp [h]
    exact hfiles ▸ .whole
  | @broken done index step rest _ _ heq hs hpath =>
    have hfiles : (v :: done).filterMap (fun v => v.2.output? v.1) =
        (v.2.output? v.1).toList ++ done.filterMap fun v => v.2.output? v.1 := by
      cases h : v.2.output? v.1 <;> simp [h]
    have hvisits : v :: visits = (v :: done) ++ (index, step) :: rest := congrArg (v :: ·) heq
    exact hfiles ▸ .broken hvisits hs hpath

/-- The fault at the end is told to be that of a step once and for all. -/
theorem Reckons.named {actions : List Action} {files : List FilePath} {fault : Fault}
    (h : Reckons page visits actions files (.error (.failed fault))) (action : Action) (index : IterationIndex) :
    fault.named action index = fault := by
  have hnamed : ∀ {own : Fault} {action index}, (own.named action index).isOwn = true := by
    intro own action index
    rw [Fault.named]
    split
    · assumption
    · rfl
  generalize ho : Except.error (Stop.failed fault) = o at h
  cases h with
  | whole => cases ho
  | @broken _ _ _ _ _ e =>
    cases e with
    | failed own =>
      cases ho
      exact if_pos hnamed
    | cancelled | interrupted => cases ho

theorem Tours.reckons (h : Tours page visits ds r) :
    Reckons page visits (ds.filterMap Deed.executed?) (ds.filterMap Deed.produced?) r := by
  have hidle : ∀ {index step ds o}, step.body? = none → Program.Path (leafWork page index step) ds (.done o) →
      ds.filterMap Deed.executed? = [] := fun hs hwork =>
    List.filterMap_eq_nil_iff.2 fun d hd => ((does_leafWork hs).path hwork d hd).executed
  induction h with
  | nil => exact .whole
  | @group index steps times _ _ _ _ ih => exact ih.cons (index, .repeat steps times)
  | @leaf index step _ _ _ _ hs hwork _ ih =>
    rw [List.filterMap_append, List.filterMap_append, List.filterMap_append, List.filterMap_append, hidle hs hwork,
      produces_leafWork page hs index _ _ hwork]
    exact ih.cons (index, step)
  | @fails index step _ _ _ hs hwork =>
    rw [List.filterMap_append, List.filterMap_append, hidle hs hwork, produces_leafWork page hs index _ _ hwork]
    exact .broken (List.nil_append _).symm hs hwork

theorem filterMap_withoutSpans {α : Type} {f : Deed scene → Option α} (hf : ∀ d, IsSpan d → f d = none) :
    (withoutSpans ds).filterMap f = ds.filterMap f := by
  induction ds with
  | nil => rfl
  | cons d ds ih =>
    rw [withoutSpans, List.filter_cons, List.filterMap_cons]
    split
    · rw [List.filterMap_cons]
      exact congrArg (fun l => match f d with
        | none => l
        | some a => a :: l) ih
    · rename_i hspan
      rw [hf d (isSpan_iff.1 (by simpa using hspan))]
      exact ih

end

/-! ## Helpers -/

/-- Nobody but a helper is started in the step. -/
def Deed.EngagesHelpers (d : Deed scene) : Prop := ∀ job u, d = .start job u → Job.IsHelper job

theorem engages_ask (q : Call) : Takes Deed.EngagesHelpers (ask q) := .ask fun _ _ _ heq => by cases heq

mutual

theorem engages_runSteps {page : PageId} {index : IterationIndex} {steps : List Step}
    (hfree : Step.allKeepApart true steps = true) : Takes Deed.EngagesHelpers (runSteps page index steps) := by
  match steps with
  | [] =>
    rw [runSteps]
    exact .pure ()
  | step :: rest =>
    rw [Step.allKeepApart, Bool.and_eq_true] at hfree
    rw [runSteps]
    exact Takes.bind (engages_runStep hfree.1) fun _ => engages_runSteps hfree.2

theorem engages_runStep {page : PageId} {index : IterationIndex} {step : Step}
    (hfree : Step.keepsApart true step = true) : Takes Deed.EngagesHelpers (runStep page index step) := by
  rw [runStep_eq]
  refine Takes.bind (engages_ask _) fun _ => Takes.bind (engages_ask _) fun _ => Takes.bind (engages_ask _) fun _ => ?_
  refine Program.Avoids.ensuring ?_ fun _ => engages_ask _
  match step with
  | .repeat steps times =>
    rw [Step.keepsApart] at hfree
    exact .count (fun _ => trivial) (fun n => engages_runSteps hfree) times 1
  | .crawl .. => cases hfree
  | .click .. | .type .. | .go .. | .wait .. | .scrape .. | .screenshot .. =>
    rw [stepBody_of_leaf rfl]
    exact takes_named ((does_leafWork rfl).mono fun _ h => h.starts)

end

theorem helper_unreported {job : Job} (h : Job.IsHelper job) :
    Takes (fun d => Deed.IsUnreported d ∧ ∀ job u, d ≠ .start job u) (program job) := by
  have hcall : ∀ who op, Takes (fun d => Deed.IsUnreported d ∧ ∀ job u, d ≠ .start job u) (invoke who op) :=
    fun who op => takes_invoke_of (fun d h => by cases h <;> exact ⟨trivial, fun _ _ heq => by cases heq⟩)
      fun d h => by cases h <;> exact ⟨trivial, fun _ _ heq => by cases heq⟩
  cases job with
  | wait page condition =>
    exact Takes.bind (takes_waitFor_of page (hcall _) (fun _ _ => ⟨trivial, fun _ _ heq => by cases heq⟩) condition)
      fun _ => .pure _
  | click page target => exact Takes.bind (hcall _ (.click target)) fun _ => .pure _
  | _ => exact h.elim

/-- The first task starts helpers only, and these report nothing and start nobody. -/
inductive Assists : Rules scene Bool
  | chief {d} (h : Deed.EngagesHelpers d) : Assists true d true
  | helper {d} (h : Deed.IsUnreported d) (hnone : ∀ job u, d ≠ .start job u) : Assists false d false

section
variable {W : Type} {m : Machine scene W} {w : W} {page : PageId} {steps : List Step} {index : IterationIndex}
  {h : List (Event scene)} {c : Crew scene W}

/-- When steps without crawls are carried out, only the task that carries them out reports anything. -/
theorem others_unreported (hm : m.program = program) (hfree : Step.allKeepApart true steps = true)
    (hr : Crew.Reaches m IsOutside (Crew.single m w (.steps page steps index)) h c) :
    c.Keeps (fun _ => True) Assists (· == 0) ∧ ∀ t, t ≠ 0 → ∀ d ∈ deedsOf h t, Deed.IsUnreported d := by
  induction hr with
  | refl =>
    refine ⟨.single w (s := true) ?_ rfl, fun t _ d hd => absurd hd List.not_mem_nil⟩
    have hsteps : Takes Deed.EngagesHelpers (program (.steps page steps index)) :=
      Takes.bind (engages_runSteps hfree) fun _ => .pure _
    rw [hm]
    exact Program.Obeys.weaken (fun _ _ _ => trivial) (hsteps.obeys (R := fun _ => True) fun _ hd => .chief hd)
  | @step h c e c' hreach hs ih =>
    obtain ⟨hkeeps, hothers⟩ := ih
    by_cases he : ∃ t d, e = .act t d
    · obtain ⟨t, d, rfl⟩ := he
      obtain ⟨b, hassists, hnext⟩ := hkeeps.act hs trivial
      have hsame : (t == 0) = b := by
        generalize (t == 0) = b' at hassists
        cases hassists <;> rfl
      refine ⟨hnext _ hsame (fun _ _ _ => rfl) ?_, fun u hu d' hd' => ?_⟩
      · rintro job u rfl
        obtain ⟨hu, ht, -⟩ := hs.started_last
        have hnew : (u == 0) = false := beq_false_of_ne (Nat.ne_of_gt (Nat.lt_of_le_of_lt (Nat.zero_le t) ht))
        have hhelper : Job.IsHelper job := by
          generalize (t == 0) = b' at hassists
          cases hassists with
          | chief hengages => exact hengages job u rfl
          | helper _ hnone => exact absurd rfl (hnone job u)
        rw [hm, hnew]
        exact Program.Obeys.weaken (fun _ _ _ => trivial)
          ((helper_unreported hhelper).obeys (R := fun _ => True) fun _ hd => .helper hd.1 hd.2)
      · by_cases hut : u = t
        · subst hut
          rw [deedsOf_act, List.mem_append, List.mem_singleton] at hd'
          rcases hd' with hd' | rfl
          · exact hothers u hu d' hd'
          · rw [beq_false_of_ne hu] at hassists
            cases hassists with
            | helper hunreported => exact hunreported
        · rw [deedsOf_idle fun d'' heq => hut (by cases heq; rfl)] at hd'
          exact hothers u hu d' hd'
    · have hidle : ∀ t d, e ≠ .act t d := fun t d heq => he ⟨t, d, heq⟩
      refine ⟨hkeeps.idle hs hidle, fun t ht d hd => ?_⟩
      rw [deedsOf_idle (hidle t)] at hd
      exact hothers t ht d hd

theorem entries_of_first {α : Type} {f : Deed scene → Option α} (hf : ∀ d, Deed.IsUnreported d → f d = none)
    (hothers : ∀ t, t ≠ 0 → ∀ d ∈ deedsOf h t, Deed.IsUnreported d) :
    (entries f h).map Prod.snd = (deedsOf h 0).filterMap f := by
  rw [← entries_of f h 0]
  refine congrArg (List.map Prod.snd) (List.filter_eq_self.2 fun x hx => ?_).symm
  obtain ⟨e, he, hsome⟩ := List.mem_filterMap.1 hx
  by_contra hne
  cases e with
  | act t d =>
    obtain ⟨a, ha, rfl⟩ := Option.map_eq_some_iff.1 hsome
    have ht : t ≠ 0 := by simpa using hne
    rw [hf d (hothers t ht d (mem_deedsOf.2 he))] at ha
    cases ha
  | _ => cases hsome

end

/-! ## The whole run -/

/-- Carrying out steps without crawls. As long as nobody interrupts, calls to the page may fail in any way. The task
tours what the steps unroll to, apart from the spans: it notes one step after the other and does the work of those
that repeat nothing, up to the first one whose work fails. The report gets the actions that were noted, and the files
of the steps that went well. If no work fails, the task ends well; else it ends with the fault of the step that
failed, which says which step that was unless it is one of the program's own; no step around it says so again. -/
theorem steps_run_in_sequence {W : Type} {m : Machine scene W} {V : Venue m} {b : Brief} {w : W}
    {h : List (Event scene)} {c : Crew scene W} {r : Outcome Fault Yield} (ho : b.Opens V w)
    (hfree : Step.IsCrawlFree b.steps) (hr : b.Reaches m w h c) (hcalm : ∀ e ∈ h, Event.IsCalm e)
    (hend : c.result? 0 = some r) :
    ∃ o actions files, r = o.map (fun _ => .nothing) ∧ IsCalm o ∧
      Tours b.home (Step.unrollAll b.index b.steps) (withoutSpans (deedsOf h 0)) o ∧
      Reckons b.home (Step.unrollAll b.index b.steps) actions files o ∧
      (∀ fault action index, o = .error (.failed fault) → fault.named action index = fault) ∧
      (V.report c.world).executed.toList = (V.report w).executed.toList ++ actions ∧
      (V.report c.world).outputs.toList = (V.report w).outputs.toList ++ files := by
  have hapart := Step.isCrawlFree_iff.1 hfree
  obtain ⟨g, hf⟩ := exists_follows ho
    (Step.allKeepApart_iff.2 fun s hs => Step.keepsApart_of_true (Step.allKeepApart_iff.1 hapart s hs)) hr
    (coverAll_anything (h := h))
  obtain ⟨x, hx, hjob⟩ := hf.inOrder.chief
  have hresult : x.result = some r := by rwa [Crew.result?, hx, Option.bind_some] at hend
  have htold : x.isTold = false := by
    by_contra hne
    obtain ⟨⟨p, hhelp⟩, -⟩ := (hf.calm hcalm).told 0 x hx (by simpa using hne)
    rw [hjob] at hhelp
    cases hhelp
  have hfits := hf.inOrder.fits 0 x hx
  have hpath : Program.Path (program b.job) (deedsOf h 0) (.done r) := by
    rcases (hfits.ended r hresult).2 with hdone | ⟨-, ht⟩
    · exact hjob ▸ hdone ▸ hfits.path
    · rw [htold] at ht
      cases ht
  have hsound := ((hf.calm hcalm).result hf.inOrder hx htold hresult).1
  obtain ⟨o, hsteps, rfl⟩ : ∃ o, Program.Path (runSteps b.home b.index b.steps) (deedsOf h 0) (.done o) ∧
      r = o.map fun _ => .nothing := by
    rcases Program.Path.bind_end hpath with ⟨e, hsteps, rfl⟩ | ⟨ds₁, ds₂, u, heq, hsteps, hdone⟩
    · exact ⟨_, hsteps, rfl⟩
    · obtain ⟨rfl, hr⟩ := hdone.of_done
      rw [List.append_nil] at heq
      exact ⟨.ok u, heq ▸ hsteps, Program.done.inj hr⟩
  have htour := tours_runSteps hapart hsteps
  have hothers := (others_unreported (V.program) hapart hr).2
  refine ⟨o, _, _, rfl, ?_, htour, htour.reckons, fun fault action index heq => ?_, ?_, ?_⟩
  · cases o with
    | ok a => trivial
    | error e =>
      cases e with
      | failed fault => trivial
      | cancelled | interrupted => exact hsound
  · subst heq
    exact htour.reckons.named action index
  · rw [(reported V hr).1, entries_of_first (fun _ hd => hd.executed?) hothers,
      filterMap_withoutSpans fun d hd => by cases hd <;> rfl]
    rfl
  · rw [outputs_reported V hr, entries_of_first (fun _ hd => hd.produced?) hothers,
      filterMap_withoutSpans fun d hd => by cases hd <;> rfl]
    rfl

/-- Two rounds in each of which a file is written and then something is clicked that is not given. -/
def clickingBrief : Brief where
  home := 0
  steps := [.repeat [.screenshot "$i.png" false, .click none none none] 2]
  index := .root
  limit := 1

/-- A run that has failed for want of something to click on, in the first round. -/
def lacksClickTarget : Option (Outcome Fault Yield) → Bool
  | some (.error (.failed (.step .click index .noTarget))) => index == .child .root 1
  | _ => false

/-- A world with an empty page. -/
def emptyPage : World :=
  { (World.ofSite {} (Files.ofLists [] [])).withPage "main" "http://a/" with pool := { maxPages := 1 } }

/-- The run ends in the first round, when one file was written. -/
theorem steps_run_in_sequence_clicking : ∃ h c o, Step.IsCrawlFree clickingBrief.steps ∧
    clickingBrief.Opens World.venue emptyPage ∧ clickingBrief.Reaches machine emptyPage h c ∧
    (∀ e ∈ h, Event.IsCalm e) ∧ c.result? 0 = some (.error (.failed (.step .click (.child .root 1) .noTarget))) ∧
    o = .error (.failed (.step .click (.child .root 1) .noTarget)) ∧
    Tours 0 (Step.unrollAll .root clickingBrief.steps) (withoutSpans (deedsOf h 0)) o ∧
    Reckons 0 (Step.unrollAll .root clickingBrief.steps) [.repeat, .screenshot, .click] [⟨"", ["1.png"]⟩] o := by
  have hplay : (Crew.rehearse machine (List.replicate 18 0)
      (Crew.single machine emptyPage clickingBrief.job)).any (fun x =>
        x.1.all Event.isCalm && lacksClickTarget (x.2.result? 0) && x.2.world.report.executed.toList == [.repeat, .screenshot, .click] &&
        x.2.world.report.outputs.toList == [⟨"", ["1.png"]⟩]) = true := by decide +kernel
  obtain ⟨⟨h, c⟩, hrun, hall⟩ := (Option.any_eq_true _ _).1 hplay
  simp only [Bool.and_eq_true, beq_iff_eq, List.all_eq_true] at hall
  obtain ⟨⟨⟨hcalm, hends⟩, hexecuted⟩, houtputs⟩ := hall
  have hend : c.result? 0 = some (.error (.failed (.step .click (.child .root 1) .noTarget))) := by
    unfold lacksClickTarget at hends
    split at hends
    · rename_i index heq
      rw [heq, eq_of_beq hends]
    · cases hends
  have hfree : Step.IsCrawlFree clickingBrief.steps := Step.isCrawlFree_iff.2 rfl
  have hopens : clickingBrief.Opens World.venue emptyPage := ⟨Nat.zero_lt_one, rfl, Nat.zero_lt_one⟩
  have hr : clickingBrief.Reaches machine emptyPage h c := Crew.reaches_of_rehearse .refl hrun
  have hquiet : ∀ e ∈ h, Event.IsCalm e := fun e he => (Event.isCalm_iff e).1 (hcalm e he)
  obtain ⟨o, actions, files, heq, -, htour, hreckons, -, hactions, hfiles⟩ :=
    steps_run_in_sequence hopens hfree hr hquiet hend
  obtain rfl : [Action.repeat, .screenshot, .click] = actions := hexecuted.symm.trans hactions
  obtain rfl : [⟨"", ["1.png"]⟩] = files := houtputs.symm.trans hfiles
  cases o with
  | ok u => cases heq
  | error e =>
    cases heq
    exact ⟨h, c, _, hfree, hopens, hr, hquiet, hend, rfl, htour, hreckons⟩

end Run
end BrowserPlan
