import BrowserPlan.Proofs.Plan.WellFormed
import BrowserPlan.Proofs.Run.Calls
import BrowserPlan.Proofs.Task.Faults
import BrowserPlan.Proofs.Task.Rehearsal
import BrowserPlan.Run.Scenario

/-!
# Runs of accepted plans

Carrying out a plan trusts it in three places: a step that needs a target has one, a text that is
used as a pattern is one, and a field of a specification says what to look for. Where a plan betrays
that trust, a task raises a fault that blames the plan, or the log says that a key was skipped.
`avoids_program` says that no task does so as long as its steps are sound, and that it starts only
tasks with sound steps; so in a run of an accepted plan it never happens (`accepted_plan_trusted`).
-/
namespace BrowserPlan

/-- All steps are sound, at any depth. -/
def Step.AllSound (steps : List Step) : Prop := ∀ s, Within Step.subSteps steps s → s.IsSound

section
variable {s : Step} {steps : List Step}

theorem Step.AllSound.head (h : Step.AllSound (s :: steps)) : s.IsSound := h s (.root List.mem_cons_self)

theorem Step.AllSound.tail (h : Step.AllSound (s :: steps)) : Step.AllSound steps := by
  rintro c ⟨r, hr, hc⟩
  exact h c ⟨r, List.mem_cons_of_mem _ hr, hc⟩

theorem Step.AllSound.below (h : Step.AllSound (s :: steps)) : Step.AllSound s.subSteps := by
  rintro c ⟨r, hr, rfl | hc⟩
  · exact h c ⟨s, List.mem_cons_self, .inr (.child hr)⟩
  · exact h c ⟨s, List.mem_cons_self, .inr (.head hr hc)⟩

end

/-- There is a selector or a path expression to go by. -/
theorem Step.HasOneTarget.exists_target {selector xpath : Option String}
    (h : Step.HasOneTarget selector xpath) : ∃ t, target? selector xpath = some t := by
  rw [target?]
  rcases h with ⟨hs, -⟩ | ⟨hx, hs⟩
  · rw [if_pos hs]
    cases selector with
    | none => cases hs
    | some s => exact ⟨s, rfl⟩
  · rw [if_neg hs, if_pos hx]
    cases xpath with
    | none => cases hx
    | some x => exact ⟨_, rfl⟩

/-- A field says what to look for, and so do those below it. Where that is a pattern, it is one. -/
inductive FieldSpec.Readable : FieldSpec → Prop where
  | intro {f} (hresolvable : f.isResolvable = true)
    (hpattern : f.isStructural = false → given f.regex = true →
      ∃ p, Pattern.compile (f.regex.getD "") .caseless = .ok p)
    (hchildren : ∀ m ∈ f.children, Readable m.2) : Readable f

/-- All fields of a specification can be read. -/
def Spec.Readable (spec : Spec) : Prop := ∀ m ∈ spec, m.2.Readable

theorem FieldSpec.IsLeaf.readable {f : FieldSpec} (h : f.IsLeaf) : f.Readable := by
  refine .intro ?_ (fun _ hgiven => ?_) ?_
  · obtain ⟨t, ht, hlist⟩ := h.target
    obtain ⟨selector, xpath, regex, attributeName, source, children⟩ := f
    cases selector <;> cases xpath <;> cases regex <;>
      simp_all [isResolvable, given]
  · cases hregex : f.regex with
    | none =>
      rw [hregex] at hgiven
      cases hgiven
    | some regex => exact h.pattern regex hregex
  · rw [h.children]
    nofun

/-- Well-formed fields can be read. -/
theorem FieldSpec.WellFormed.readable {f : FieldSpec} (h : f.WellFormed) : f.Readable := by
  induction h with
  | leaf h => exact h.readable
  | @node f h _ ih =>
    have hstructural : f.isStructural = true := by simpa [isStructural] using h.children
    refine .intro ?_ (fun hnot => ?_) ih
    · rw [isResolvable, hstructural]
      rfl
    · rw [hstructural] at hnot
      cases hnot

/-- What a crawl with a target looks for can be read. -/
theorem Spec.readable_links {selector xpath : Option String}
    (h : Step.HasOneTarget selector xpath) (attributeName : String) :
    (Spec.links selector xpath attributeName).Readable := by
  intro m hm
  obtain rfl := List.mem_singleton.1 hm
  refine .intro ?_ nofun nofun
  rcases h with ⟨hs, -⟩ | ⟨hx, -⟩
  · simp [FieldSpec.isResolvable, hs]
  · simp [FieldSpec.isResolvable, hx]

/-- The matcher that a condition's address describes, where the condition needs one. -/
theorem WaitCondition.exists_matcher {c : WaitCondition} (h : c.check = .ok c)
    (hkind : c.kind = .request ∨ c.kind = .response) :
    ∃ matcher, UrlMatcher.read (c.url.getD "") = .ok matcher := by
  rw [check] at h
  split at h
  · cases h
  rename_i hrequired
  split at h
  · cases h
  split at h
  · cases h
  cases hurl : c.url with
  | none => rcases hkind with hk | hk <;> simp [hasRequired, hk, hurl, given] at hrequired
  | some url =>
    rw [hurl] at h
    obtain ⟨⟨⟩, hcheck, -⟩ := exists_of_bind_eq_ok h
    rw [checkUrl] at hcheck
    split at hcheck
    · exact ⟨_, ‹_›⟩
    · split at hcheck <;> cases hcheck

namespace Run

open BrowserPlan.Task BrowserPlan.Browser

/-! ## What blames a plan -/

/-- Faults that only a plan can be blamed for: a target is missing, or a pattern is none. A step
passes them on with its name. -/
def Fault.BlamesPlan : Fault → Prop
  | .noTarget | .pattern .. => True
  | .step _ _ cause => cause.BlamesPlan
  | _ => False

/-- The record that says that a key of a specification was skipped. -/
def skipRecord (key : String) : Log.Record :=
  ⟨.warning, .extraction,
    "Extraction key " ++ Text.quoted key ++ " has no selector, xpath or regex; skipped"⟩

/-- Jobs whose steps, conditions and specifications are sound. -/
def Job.IsSound : Job → Prop
  | .automation plan _ | .attended plan _ | .commanded plan _ => Step.AllSound plan.steps
  | .steps _ list _ | .branch _ _ list => Step.AllSound list
  | .wait _ condition => condition.check = .ok condition
  | .extract _ spec => spec.Readable
  | _ => True

/-- No key is skipped, and only sound jobs are started. -/
def Deed.TrustsPlan : Deed scene → Prop
  | .ask (.log record) _ => ∀ key, record ≠ skipRecord key
  | .start job _ => Job.IsSound job
  | _ => True

/-- As long as a program meets no fault that the plan is to blame for, it raises none, and its steps
trust the plan; of its value `V` holds. -/
abbrev Trusts {α : Type} (V : α → Prop) (p : Program scene α) : Prop :=
  Program.Avoids (I := scene) Fault.BlamesPlan Deed.TrustsPlan V p

/-- Of the value nothing is said. -/
abbrev Trusting {α : Type} (p : Program scene α) : Prop := Trusts (fun _ => True) p

section
variable {α β : Type} {V : α → Prop} {U : β → Prop} {p : Program scene α} {f : α → Program scene β}

/-- One program after the other. -/
theorem Trusting.bind (hp : Trusting p) (hf : ∀ a, Trusts U (f a)) : Trusts U (p >>= f) :=
  Program.Avoids.bind hp fun a _ => hf a

theorem Trusting.map {f : α → β} (hp : Trusting p) : Trusting (f <$> p) :=
  Program.Avoids.map hp fun _ _ => trivial

theorem trusting_pure (a : α) : Trusting (pure a : Program scene α) := Program.Avoids.pure trivial

theorem trusting_fail {fault : Fault} (h : ¬ fault.BlamesPlan) : Trusting (fail (α := α) fault) :=
  Program.Avoids.fail h

theorem trusting_ending {r : Outcome Fault α} (h : Blameless (I := scene) Fault.BlamesPlan r) :
    Trusting (Program.ending (I := scene) r) := Program.Avoids.ending h fun _ _ => trivial

theorem trusting_ask {q : Call} (h : ∀ a, Deed.TrustsPlan (.ask q a)) : Trusting (ask q) :=
  Program.Avoids.ask (I := scene) h fun _ => trivial

theorem trusting_wait (on : Pause Signal) : Trusting (wait on) :=
  Program.Avoids.wait (fun _ => trivial) fun _ => trivial

theorem trusting_failIf {fault : Option Fault} (h : ∀ f ∈ fault, ¬ f.BlamesPlan) :
    Trusting (failIf fault) := by
  cases fault with
  | none => exact trusting_pure ()
  | some fault => exact trusting_fail (h fault rfl)

theorem trusting_settleFor {ε : Type} {toFault : ε → Fault} (r : Except ε α)
    (h : ∀ e, r = .error e → ¬ (toFault e).BlamesPlan) : Trusting (settleFor toFault r) := by
  cases r with
  | ok a => exact trusting_pure a
  | error e => exact trusting_fail (h e rfl)

/-- Who speaks in the log about anything but extraction does not skip a key. -/
theorem trusting_say {level : Log.Level} {speaker : Log.Speaker} (h : speaker ≠ .extraction)
    (message : String) : Trusting (say level speaker message) := by
  refine trusting_ask fun _ key heq => h ?_
  cases heq
  rfl

/-! ## Calls to the browser -/

theorem trusting_sitOut (who : Party) (op : Operation) (course : Course) :
    Trusting (sitOut who op course) := by
  rw [sitOut]
  split
  · exact trusting_pure ()
  · refine Program.Avoids.attempt (trusting_wait _) fun r hr _ => ?_
    split
    · exact Trusting.bind (trusting_ask fun _ => trivial) fun _ => trusting_ending blameless_cancelled
    · exact trusting_ending hr

/-- A call to the browser never blames the plan. -/
theorem trusting_invoke (who : Party) (op : Operation) : Trusting (invoke who op) := by
  rw [invoke]
  refine Trusting.bind (trusting_ask fun _ => trivial) fun course => ?_
  refine Trusting.bind (trusting_sitOut who op course) fun _ => ?_
  have hcomplete : Trusting (do
      failIf (course.fault.map .call)
      settleFor .call (← ask (.complete who course.landing op))) := by
    refine Trusting.bind (trusting_failIf fun f hf => ?_) fun _ => ?_
    · obtain ⟨fault, -, rfl⟩ := Option.map_eq_some_iff.1 hf
      exact id
    · exact Trusting.bind (trusting_ask fun _ => trivial) fun a => trusting_settleFor a fun _ _ => id
  dsimp only
  split
  · exact Trusting.bind (trusting_ending blameless_interrupted) fun _ => hcomplete
  · exact hcomplete

/-- A step within a span of its own. -/
theorem trusting_spanned {action : Action} {index : IterationIndex} {p : Program scene Unit}
    (hp : Trusting p) : Trusting (spanned action index p) :=
  Trusting.bind (trusting_ask fun _ => trivial) fun _ =>
    Program.Avoids.ensuring hp fun _ => trusting_ask fun _ => trivial

/-! ## Extraction -/

theorem trusting_queryAll (root : Party) (target : String) : Trusting (documents.query root target) :=
  Trusting.map (trusting_invoke root (.query target))

theorem trusting_readAll (root : Party) (target : Option String) (attributeName : String) :
    Trusting (readAll root target attributeName) := by
  rw [readAll.eq_def]
  split
  · exact trusting_invoke root _
  · exact trusting_pure _

theorem trusting_contentOf (root : Party) (source : String) : Trusting (contentOf root source) := by
  rw [contentOf.eq_def]
  split
  · exact trusting_invoke _ _
  · split
    · exact trusting_invoke _ _
    · exact trusting_invoke _ _

/-- The values of a leaf. -/
theorem trusting_leafValues (root : Party) {f : FieldSpec} (hf : f.Readable)
    (hleaf : f.isStructural = false) : Trusting (Extraction.leafValues documents root f) := by
  rw [Extraction.leafValues]
  obtain ⟨-, hpattern, -⟩ := hf
  split
  · rename_i hregex
    obtain ⟨p, hp⟩ := hpattern hleaf hregex
    refine Trusting.bind (trusting_contentOf root f.source) fun content => ?_
    rw [Extraction.compile, hp]
    exact trusting_pure _
  · split
    · exact trusting_readAll root _ f.attributeName
    · exact trusting_pure _

theorem trusting_matchesOf (root : Party) (f : FieldSpec) :
    Trusting (Extraction.matchesOf documents root f) := by
  rw [Extraction.matchesOf]
  split
  · exact trusting_queryAll root _
  · exact trusting_pure _

/-- Work with fields that can be read. -/
def Faithful (works : List (Extraction.Work Party)) : Prop := ∀ w ∈ works, w.field.Readable

/-- The work that follows from a field is on the fields below it. -/
theorem faithful_assignElements {w : Extraction.Work Party} (hw : w.field.Readable)
    (es : List Party) : ∀ (position : Nat) (a : Extraction.Arena),
    Faithful (Extraction.assignElements w position a es).2 := by
  induction es with
  | nil => exact fun _ _ => nofun
  | cons e es ih =>
    intro position a w' hw'
    rcases List.mem_append.1 hw' with hw' | hw'
    · obtain ⟨c, hc, rfl⟩ := List.mem_map.1 hw'
      obtain ⟨-, -, hchildren⟩ := hw
      exact hchildren c hc
    · exact ih _ _ w' hw'

theorem trusts_resolve (a : Extraction.Arena) {w : Extraction.Work Party} (hw : w.field.Readable) :
    Trusts (fun x => Faithful x.2) (Extraction.resolve documents a w) := by
  have hresolvable : w.field.isResolvable = true := by
    obtain ⟨hresolvable, -, -⟩ := hw
    exact hresolvable
  rw [Extraction.resolve, hresolvable]
  split
  · rename_i hnot
    cases hnot
  · split
    · exact Trusting.bind (trusting_matchesOf _ _) fun es =>
        Program.Avoids.pure (faithful_assignElements hw es 0 a)
    · rename_i hleaf
      exact Trusting.bind (trusting_leafValues _ hw (by simpa using hleaf)) fun vs =>
        Program.Avoids.pure (List.forall_mem_nil _)

theorem trusts_resolveLevel {works : List (Extraction.Work Party)} (hw : Faithful works) :
    ∀ a : Extraction.Arena, Trusts (fun x => Faithful x.2) (Extraction.resolveLevel documents a works) := by
  induction works with
  | nil => exact fun a => Program.Avoids.pure nofun
  | cons w works ih =>
    intro a
    rw [Extraction.resolveLevel]
    refine Program.Avoids.bind (trusts_resolve a (hw w List.mem_cons_self)) fun x hx => ?_
    refine Program.Avoids.bind (ih (fun w hmem => hw w (List.mem_cons_of_mem _ hmem)) x.1)
      fun y hy => ?_
    refine Program.Avoids.pure fun w' hw' => ?_
    rcases List.mem_append.1 hw' with hw' | hw'
    · exact hx w' hw'
    · exact hy w' hw'

theorem trusting_resolveLevels (levels : Nat) : ∀ {works : List (Extraction.Work Party)},
    Faithful works → ∀ a : Extraction.Arena,
    Trusting (Extraction.resolveLevels documents levels a works) := by
  induction levels with
  | zero => exact fun _ a => trusting_pure a
  | succ n ih =>
    intro works hw a
    rw [Extraction.resolveLevels]
    exact Program.Avoids.bind (trusts_resolveLevel hw a) fun x hx => ih hx x.1

/-- A specification is read without blame. -/
theorem trusting_extract (root : Party) {spec : Spec} (h : spec.Readable) :
    Trusting (extract root spec) := by
  rw [extract, Extraction.extract]
  refine Trusting.bind (trusting_resolveLevels _ (fun w hw => ?_) _) fun a => trusting_pure _
  obtain ⟨c, hc, rfl⟩ := List.mem_map.1 hw
  exact h c hc

theorem trusting_look (root : Party) (l : Look) : Trusting (look root l) := by
  cases l with
  | all target => exact Trusting.bind (trusting_invoke root _) fun _ => trusting_pure _
  | read target attributeName =>
    exact Trusting.bind (trusting_readAll root target attributeName) fun _ => trusting_pure _
  | content source => exact Trusting.bind (trusting_contentOf root source) fun _ => trusting_pure _

/-! ## Waits -/

theorem trusting_passTime (millis : Option Number) : Trusting (passTime millis) := by
  cases millis with
  | none => exact trusting_fail id
  | some millis =>
    rw [passTime]
    split
    · split
      · exact trusting_wait _
      · exact trusting_wait _
    · exact trusting_pure ()

theorem trusting_waitForHalf (page : PageId) (half : Half) {c : WaitCondition}
    (h : ∃ matcher, UrlMatcher.read (c.url.getD "") = .ok matcher) :
    Trusting (waitForHalf page half c) := by
  obtain ⟨matcher, hmatcher⟩ := h
  rw [waitForHalf]
  refine Trusting.bind (trusting_settleFor _ fun e he => ?_) fun matcher => ?_
  · rw [hmatcher] at he
    cases he
  · exact Trusting.bind (trusting_invoke _ (.expect half matcher c.timeout)) fun _ =>
      trusting_invoke _ _

/-- A condition that was checked is waited for without blame. -/
theorem trusting_waitFor (page : PageId) {c : WaitCondition} (h : c.check = .ok c) :
    Trusting (waitFor page c) := by
  have hload : ∀ state : String, Trusting (if loadStates.contains state then
      invoke (.page page) (.waitForLoadState state c.timeout) else pure ()) := by
    intro state
    split
    · exact trusting_invoke _ (.waitForLoadState state c.timeout)
    · exact trusting_pure ()
  rw [waitFor.eq_def]
  split
  · refine Trusting.bind (p := waitForNavigation page c) ?_ fun _ => trusting_pure _
    exact Trusting.bind (trusting_invoke _ _) fun _ => hload _
  · exact Trusting.bind (trusting_invoke _ _) fun _ => trusting_pure _
  · exact Trusting.bind (trusting_invoke _ (.waitForSelector _ _ _)) fun _ => trusting_pure _
  · exact Trusting.bind (trusting_invoke _ (.waitForSelector _ _ _)) fun _ => trusting_pure _
  · exact Trusting.bind (trusting_invoke _ _) fun _ =>
      Trusting.bind (trusting_passTime _) fun _ => trusting_pure _
  · rename_i hkind
    exact Trusting.bind (trusting_waitForHalf page .request (WaitCondition.exists_matcher h (.inl hkind)))
      fun _ => trusting_pure _
  · rename_i hkind
    exact Trusting.bind (trusting_waitForHalf page .response (WaitCondition.exists_matcher h (.inr hkind)))
      fun _ => trusting_pure _
  · exact Trusting.bind (trusting_invoke _ (.waitForFunction _ _ _ _)) fun _ => trusting_pure _

/-! ## Steps -/

/-- The target of a step is found. -/
theorem trusting_targetOf {selector xpath : Option String} (h : Step.HasOneTarget selector xpath) :
    Trusting (targetOf selector xpath) := by
  obtain ⟨t, ht⟩ := h.exists_target
  rw [targetOf, ht]
  exact trusting_pure t

theorem trusting_clickOn (page : PageId) (target : String) {condition : Option WaitCondition}
    (h : ∀ c ∈ condition, c.check = .ok c) : Trusting (clickOn page target condition) := by
  cases condition with
  | none => exact trusting_invoke _ _
  | some c =>
    refine Program.Avoids.together (I := scene) (fun _ => trivial) (fun job hjob _ => ?_)
      (fun _ _ _ => trivial) fun _ => trivial
    simp only [List.mem_cons, List.not_mem_nil, or_false] at hjob
    rcases hjob with rfl | rfl
    · exact h c rfl
    · trivial

theorem trusting_goTo (page : PageId) (place : String) (waitUntil : Option String)
    (timeout : Option Number) : Trusting (goTo page place waitUntil timeout) := by
  rw [goTo]
  split
  · exact trusting_invoke _ _
  · split
    · exact trusting_invoke _ _
    · refine Trusting.bind (trusting_ask fun _ => trivial) fun base => ?_
      exact Trusting.bind (trusting_settleFor _ fun _ _ => id) fun url => trusting_invoke _ _

theorem trusting_scrape (page : PageId) (index : IterationIndex) {data : Spec}
    (h : data.Readable) (template : String) : Trusting (scrape page index data template) := by
  rw [scrape]
  refine Trusting.bind (trusting_extract _ h) fun records => ?_
  refine Trusting.bind (p := writeRecords _ _) ?_ fun _ => ?_
  · refine Trusting.bind (trusting_ask fun _ => trivial) fun a => trusting_failIf fun f hf => ?_
    obtain ⟨fault, -, rfl⟩ := Option.map_eq_some_iff.1 hf
    exact id
  · exact Trusting.bind (trusting_ask fun _ => trivial) fun _ => trusting_say (by decide) _

theorem trusting_takeScreenshot (page : PageId) (index : IterationIndex) (template : String)
    (fullPage : Bool) : Trusting (takeScreenshot page index template fullPage) := by
  rw [takeScreenshot]
  refine Trusting.bind (p := ensureParent _) ?_ fun _ => ?_
  · refine Trusting.bind (trusting_ask fun _ => trivial) fun a => trusting_failIf fun f hf => ?_
    obtain ⟨fault, -, rfl⟩ := Option.map_eq_some_iff.1 hf
    exact id
  · refine Trusting.bind (trusting_invoke _ _) fun _ => ?_
    exact Trusting.bind (trusting_ask fun _ => trivial) fun _ => trusting_say (by decide) _

/-- A step that passes on a fault with its name does not shift the blame. -/
theorem trusting_named {action : Action} {index : IterationIndex} {p : Program scene Unit}
    (hp : Trusting p) : Trusting (named action index p) := by
  refine Program.Avoids.attempt hp fun r hr _ => ?_
  match r with
  | .error (.failed fault) =>
    have hfault : ¬ Fault.BlamesPlan fault := blameless_failed.1 hr
    refine trusting_fail ?_
    split
    · exact hfault
    · exact hfault
  | .ok () => exact trusting_ending hr
  | .error .cancelled => exact trusting_ending hr
  | .error .interrupted => exact trusting_ending hr

/-- The links of a crawl with a target are found. -/
theorem trusting_findLinks (page : PageId) (index : IterationIndex) {selector xpath : Option String}
    (h : Step.HasOneTarget selector xpath) (attributeName : String) :
    Trusting (findLinks page index selector xpath attributeName) := by
  refine Program.Avoids.attempt (trusting_extract _ (Spec.readable_links h attributeName))
    fun r hr _ => ?_
  match r with
  | .ok records => exact trusting_pure _
  | .error (.failed fault) =>
    have hfault : ¬ fault.BlamesPlan := blameless_failed.1 hr
    exact trusting_fail hfault
  | .error .cancelled => exact trusting_ending blameless_cancelled
  | .error .interrupted => exact trusting_ending blameless_interrupted

theorem trusting_branchesOf (base : String) (index : IterationIndex) (vs : List Json) :
    ∀ position, Trusting (branchesOf base index position vs) := by
  induction vs with
  | nil => exact fun _ => trusting_pure _
  | cons v vs ih =>
    intro position
    rw [branchesOf]
    split
    · exact ih _
    · refine Trusting.bind (trusting_settleFor _ fun _ _ => id) fun link => ?_
      split
      · exact Trusting.bind (ih _) fun _ => trusting_pure _
      · exact Trusting.bind (trusting_say (by decide) _) fun _ => ih _

theorem trusting_crawl (page : PageId) (index : IterationIndex) {selector xpath : Option String}
    (h : Step.HasOneTarget selector xpath) (attributeName : String) {steps : List Step}
    (hsteps : Step.AllSound steps) : Trusting (crawl page index selector xpath attributeName steps) := by
  rw [crawl]
  refine Trusting.bind (trusting_findLinks page index h attributeName) fun found => ?_
  refine Trusting.bind (trusting_ask fun _ => trivial) fun base => ?_
  refine Trusting.bind (trusting_branchesOf base index found 1) fun branches => ?_
  refine Trusting.bind (trusting_say (by decide) _) fun _ => ?_
  refine Trusting.bind (Program.Avoids.mapM (I := scene) (U := fun _ => True) (fun _ => trivial)
    fun x _ => Program.Avoids.start (fun _ => hsteps) fun _ => trivial) fun tasks => ?_
  exact Program.Avoids.joinAll (fun _ => trivial) fun _ => trivial

/-- What comes before and after each step. -/
theorem trusting_begin {action : Action} {index : IterationIndex} {p : Program scene Unit}
    (hp : Trusting p) : Trusting (do
      ask (.executed action)
      say .debug .interpreter ("Step " ++ action.name ++ " at index " ++ index.toString)
      spanned action index p) :=
  Trusting.bind (trusting_ask fun _ => trivial) fun _ =>
    Trusting.bind (trusting_say (by decide) _) fun _ => trusting_spanned hp

mutual

/-- Sound steps are carried out without blame. -/
theorem trusting_runSteps (page : PageId) (index : IterationIndex) {steps : List Step}
    (h : Step.AllSound steps) : Trusting (runSteps page index steps) := by
  match steps with
  | [] =>
    rw [runSteps]
    exact trusting_pure ()
  | step :: rest =>
    rw [runSteps]
    exact Trusting.bind (trusting_runStep page index h.head h.below) fun _ =>
      trusting_runSteps page index h.tail
termination_by sizeOf steps

theorem trusting_runStep (page : PageId) (index : IterationIndex) {step : Step} (h : step.IsSound)
    (hsub : Step.AllSound step.subSteps) : Trusting (runStep page index step) := by
  match step with
  | .click selector xpath condition =>
    rw [runStep]
    exact trusting_begin (trusting_named (Trusting.bind (trusting_targetOf h.1) fun target =>
      trusting_clickOn page target h.2))
  | .type text selector xpath delay =>
    rw [runStep]
    exact trusting_begin (trusting_named (Trusting.bind (trusting_targetOf h) fun target =>
      trusting_invoke _ _))
  | .go place waitUntil timeout =>
    rw [runStep]
    exact trusting_begin (trusting_named (trusting_goTo page place waitUntil timeout))
  | .wait condition =>
    rw [runStep]
    exact trusting_begin (trusting_named (Trusting.bind (trusting_waitFor page h) fun _ =>
      trusting_pure ()))
  | .scrape data path =>
    rw [runStep]
    exact trusting_begin (trusting_named (trusting_scrape page index
      (fun m hm => (h m hm).readable) path))
  | .screenshot path fullPage =>
    rw [runStep]
    exact trusting_begin (trusting_named (trusting_takeScreenshot page index path fullPage))
  | .repeat steps times =>
    rw [runStep]
    have hround : ∀ n : Nat, Trusting (runSteps page (index.child n) steps) := fun n =>
      trusting_runSteps page (index.child n) hsub
    exact trusting_begin (Program.Avoids.count (fun _ => trivial) hround times 1)
  | .crawl selector xpath attributeName steps =>
    rw [runStep]
    exact trusting_begin (trusting_crawl page index h attributeName hsub)
termination_by sizeOf step

end

/-! ## The session and the pool -/

theorem trusting_applyTimeouts (who : Party) : Trusting (Session.applyTimeouts who) := by
  rw [Session.applyTimeouts_eq]
  refine Trusting.bind (trusting_ask fun _ => trivial) fun s => ?_
  have hlater : Trusting (Session.limitNavigation who s) := by
    unfold Session.limitNavigation
    split
    · exact trusting_invoke _ (.setDefaultNavigationTimeout _)
    · exact trusting_pure ()
  split
  · exact Trusting.bind (trusting_invoke _ (.setDefaultTimeout _)) fun _ => hlater
  · exact hlater

theorem trusting_update (f : Session → Session) : Trusting (Session.update f) :=
  Trusting.bind (trusting_ask fun _ => trivial) fun _ => trusting_ask fun _ => trivial

theorem trusting_start : Trusting Session.start := by
  refine Trusting.bind (trusting_ask fun _ => trivial) fun s => ?_
  refine Trusting.bind (trusting_say (by decide) _) fun _ => ?_
  refine Trusting.bind (trusting_invoke _ .start) fun _ => ?_
  refine Trusting.bind (trusting_update _) fun _ => ?_
  refine Trusting.bind (trusting_invoke _ (.launch s.engine s.headless)) fun b => ?_
  refine Trusting.bind (trusting_update _) fun _ => ?_
  refine Trusting.bind (trusting_invoke _ .newContext) fun _ => ?_
  exact Trusting.bind (trusting_update _) fun _ => trusting_applyTimeouts _

theorem trusting_newPage : Trusting Session.newPage := by
  refine Trusting.bind (trusting_ask fun _ => trivial) fun s => ?_
  split
  · exact trusting_fail id
  · refine Trusting.bind (trusting_invoke _ .newPage) fun p => ?_
    exact Trusting.bind (trusting_applyTimeouts _) fun _ => trusting_pure p

theorem trusting_launched : Trusting Session.launched := by
  refine Trusting.bind (trusting_ask fun _ => trivial) fun s => ?_
  split
  · exact trusting_pure _
  · exact trusting_fail id

theorem trusting_waitClosed : Trusting Session.waitClosed := by
  refine Trusting.bind trusting_launched fun b => ?_
  refine Trusting.bind (trusting_ask fun _ => trivial) fun connected => ?_
  split
  · exact Trusting.bind (trusting_invoke _ (.on "disconnected")) fun _ => trusting_wait _
  · exact trusting_pure ()

theorem trusting_shutDown : Trusting Session.shutDown := by
  have hstop : Trusting (do
      if (← Session.current).isLauncherStarted then (invoke .launcher .stop).tolerating
      Session.update fun s =>
        { s with browser := none, hasContext := false, isLauncherStarted := false }
      say .info .session "Browser session closed") := by
    have hend : Trusting (do
        Session.update fun s =>
          { s with browser := none, hasContext := false, isLauncherStarted := false }
        say .info .session "Browser session closed") :=
      Trusting.bind (trusting_update _) fun _ => trusting_say (by decide) _
    refine Trusting.bind (trusting_ask fun _ => trivial) fun s => ?_
    dsimp only
    split
    · exact Trusting.bind (Program.Avoids.tolerating (trusting_invoke _ .stop) fun _ => trivial)
        fun _ => hend
    · exact hend
  refine Trusting.bind (trusting_ask fun _ => trivial) fun s => ?_
  dsimp only
  split
  · exact Trusting.bind (Program.Avoids.tolerating (trusting_invoke _ .close) fun _ => trivial)
      fun _ => hstop
  · exact hstop

theorem trusting_close : Trusting Session.close := by
  refine Trusting.bind (trusting_ask fun _ => trivial) fun s => ?_
  split
  · exact Trusting.bind (trusting_update _) fun _ => trusting_shutDown
  · exact trusting_pure ()

theorem trusting_session (deed : SessionDeed) : Trusting (Session.perform deed) := by
  cases deed with
  | start => exact Trusting.bind trusting_start fun _ => trusting_pure _
  | newPage => exact Trusting.bind trusting_newPage fun _ => trusting_pure _
  | waitClosed => exact Trusting.bind trusting_waitClosed fun _ => trusting_pure _
  | close => exact Trusting.bind trusting_close fun _ => trusting_pure _
  | browser => exact Trusting.bind trusting_launched fun _ => trusting_pure _

theorem trusting_createPage : Trusting pages.createPage := by
  refine Program.Avoids.attempt trusting_newPage fun r hr _ => ?_
  cases r with
  | ok p =>
    refine Trusting.bind (trusting_ask fun _ => trivial) fun _ => ?_
    refine Trusting.bind ?_ fun _ => trusting_pure p
    exact Trusting.bind (trusting_ask fun _ => trivial) fun _ => trusting_say (by decide) _
  | error e => exact Trusting.bind (trusting_ask fun _ => trivial) fun _ => trusting_ending hr

theorem trusting_enter (a : Admission PageId) : Trusting (pages.enter a) := by
  cases a with
  | page p => exact trusting_pure p
  | create => exact trusting_createPage
  | refused fault => exact trusting_fail id
  | queue ticket => exact trusting_fail id

theorem trusting_queueUp (ticket : Nat) : Trusting (pages.queueUp ticket) := by
  refine Trusting.bind (p := pages.noteQueued) ?_ fun _ => ?_
  · exact Trusting.bind (trusting_ask fun _ => trivial) fun _ => trusting_say (by decide) _
  · refine Program.Avoids.attempt (trusting_wait _) fun r hr _ => ?_
    cases r with
    | ok u => exact Trusting.bind (trusting_ask fun _ => trivial) trusting_enter
    | error e =>
      refine Trusting.bind (trusting_ask fun _ => trivial) fun a => ?_
      dsimp only
      split
      · exact trusting_fail id
      · exact trusting_ending hr.error

theorem trusting_acquire : Trusting pages.acquire := by
  refine Trusting.bind (trusting_ask fun _ => trivial) fun a => ?_
  cases a with
  | queue ticket => exact trusting_queueUp ticket
  | page p => exact trusting_enter _
  | create => exact trusting_enter _
  | refused fault => exact trusting_enter _

theorem trusting_release (p : PageId) : Trusting (pages.release p) := by
  refine Trusting.bind (trusting_ask fun _ => trivial) fun a => ?_
  split
  · exact trusting_fail id
  · exact trusting_pure ()

theorem trusting_closePages : Trusting closePages := by
  refine Trusting.bind (trusting_ask fun _ => trivial) fun ps => ?_
  refine Trusting.bind (Program.Avoids.each (fun _ => trivial) fun p _ =>
    Program.Avoids.tolerating (trusting_invoke _ .close) fun _ => trivial) fun _ => ?_
  exact Trusting.bind (trusting_ask fun _ => trivial) fun _ => trusting_say (by decide) _

/-! ## Tasks -/

/-- A branch follows its link without blame, and reports its failure. -/
theorem trusting_branch (link : String) (index : IterationIndex) {steps : List Step}
    (h : Step.AllSound steps) : Trusting (branch link index steps) := by
  have hfollow : Trusting (followLink link index steps) :=
    Trusting.bind trusting_acquire fun p => Program.Avoids.ensuring
      (Trusting.bind (trusting_invoke _ _) fun _ => trusting_runSteps p index h)
      fun _ => trusting_release p
  refine Program.Avoids.attempt hfollow fun r hr _ => ?_
  match r with
  | .error (.failed fault) =>
    refine Trusting.bind (trusting_say (by decide) _) fun _ => ?_
    refine Trusting.bind (trusting_say (by decide) _) fun _ => ?_
    exact trusting_ask fun _ => trivial
  | .ok () => exact trusting_ending hr
  | .error .cancelled => exact trusting_ending hr
  | .error .interrupted => exact trusting_ending hr

theorem trusting_scheduleClose (d : Option Deferral) : Trusting (scheduleClose d) := by
  cases d with
  | none => exact trusting_pure _
  | some d =>
    refine Trusting.bind (trusting_say (by decide) _) fun _ => ?_
    exact Trusting.bind (Program.Avoids.start (I := scene) (fun _ => trivial) fun _ => trivial)
      fun t => trusting_pure _

theorem trusting_closeLater (d : Deferral) : Trusting (closeLater d) := by
  refine Trusting.bind (Program.Avoids.ensuring ?_ fun _ => trusting_close) fun _ => trusting_pure _
  cases d with
  | whenGone => exact trusting_waitClosed
  | after millis =>
    cases millis with
    | int n =>
      rw [Deferral.elapse]
      split
      · exact trusting_fail id
      · exact trusting_wait _
    | float x =>
      rw [Deferral.elapse]
      split
      · exact trusting_wait _
      · exact trusting_wait _

theorem trusting_giveUp {α : Type} {e : Stop Fault}
    (h : Blameless (I := scene) (α := α) Fault.BlamesPlan (.error e)) : Trusting (giveUp (α := α) e) :=
  Trusting.bind trusting_close fun _ => trusting_ending h

theorem trusting_openUp (plan : Plan) : Trusting (openUp plan) := by
  refine Trusting.bind trusting_start fun _ => ?_
  refine Trusting.bind trusting_newPage fun page => ?_
  refine Trusting.bind (trusting_ask fun _ => trivial) fun a => ?_
  refine Trusting.bind (trusting_failIf fun f hf => ?_) fun _ => trusting_pure page
  obtain ⟨fault, -, rfl⟩ := Option.map_eq_some_iff.1 hf
  exact id

theorem trusting_performInSession {plan : Plan} (h : Step.AllSound plan.steps) :
    Trusting (performInSession plan) := by
  refine Program.Avoids.attempt (trusting_openUp plan) fun r hr _ => ?_
  cases r with
  | error e => exact trusting_giveUp hr.error
  | ok page =>
    refine Program.Avoids.attempt (V := fun _ => True) (p := perform plan page) ?_ fun r hr _ => ?_
    · refine Trusting.bind (trusting_say (by decide) _) fun _ => ?_
      exact Trusting.bind (trusting_invoke _ _) fun _ => trusting_runSteps page .root h
    · refine Trusting.bind trusting_closePages fun _ => ?_
      cases r with
      | error e => exact trusting_giveUp hr.error
      | ok u => exact trusting_pure ()

theorem trusting_automation {plan : Plan} (h : Step.AllSound plan.steps) (engine : String) :
    Trusting (automation plan engine) := by
  rw [automation]
  refine Trusting.bind (trusting_settleFor _ fun e he => ?_) fun s => ?_
  · rw [Session.ofOptions] at he
    split at he
    · cases he
    · cases he
      exact id
  refine Trusting.bind (trusting_ask fun _ => trivial) fun _ => ?_
  refine Trusting.bind (trusting_performInSession h) fun _ => ?_
  refine Trusting.bind (trusting_scheduleClose _) fun closing => ?_
  have hend : Trusting (do
      sayDone
      return closing) :=
    Trusting.bind (p := sayDone) (Trusting.bind (trusting_ask fun _ => trivial) fun _ =>
      trusting_say (by decide) _) fun _ => trusting_pure closing
  dsimp only
  split
  · exact Trusting.bind trusting_close fun _ => hend
  · exact hend

theorem trusting_awaitClose (closing : Option TaskId) : Trusting (awaitClose closing) := by
  cases closing with
  | none => exact trusting_pure ()
  | some t =>
    exact Trusting.bind (Program.Avoids.join (I := scene) (fun _ => trivial) fun _ => trivial)
      fun _ => trusting_pure ()

theorem trusting_attended (plan : Plan) (h : Step.AllSound plan.steps) (engine : String) :
    Trusting (attended plan engine) := by
  refine Trusting.bind (Program.Avoids.start (I := scene) (fun _ => h) fun _ => trivial) fun t => ?_
  refine Trusting.bind (Program.Avoids.join (I := scene) (fun _ => trivial) fun _ => trivial)
    fun y => ?_
  dsimp only
  split
  · refine Trusting.bind (trusting_ask fun _ => trivial) fun _ => ?_
    refine Trusting.bind (p := attendClose _) ?_ fun _ => trusting_pure _
    refine Program.Avoids.attempt (trusting_awaitClose _) fun r hr _ => ?_
    split
    · exact trusting_pure ()
    · exact trusting_ending hr
  · exact trusting_pure _

theorem trusting_commanded {plan : Plan} (h : Step.AllSound plan.steps) (engine : String) :
    Trusting (commanded plan engine) := by
  refine Trusting.bind (trusting_automation h engine) fun closing => ?_
  refine Trusting.bind (p := mentionFailures) ?_ fun _ => ?_
  · exact Trusting.bind (trusting_ask fun _ => trivial) fun r =>
      Program.Avoids.each (fun _ => trivial) fun f _ => trusting_say (by decide) _
  · exact Trusting.bind (trusting_awaitClose closing) fun _ => trusting_pure _

/-- No task with a sound job blames the plan, and it starts only tasks with sound jobs. -/
theorem avoids_program {job : Job} (h : Job.IsSound job) : Trusting (program job) := by
  cases job with
  | automation plan engine => exact Trusting.bind (trusting_automation h engine) fun _ => trusting_pure _
  | attended plan engine => exact trusting_attended plan h engine
  | commanded plan engine => exact trusting_commanded h engine
  | steps page steps index => exact Trusting.bind (trusting_runSteps page index h) fun _ => trusting_pure _
  | branch link index steps => exact Trusting.bind (trusting_branch link index h) fun _ => trusting_pure _
  | wait page condition => exact Trusting.bind (trusting_waitFor page h) fun _ => trusting_pure _
  | click page target => exact Trusting.bind (trusting_invoke _ _) fun _ => trusting_pure _
  | defer d => exact Trusting.bind (trusting_scheduleClose d) fun _ => trusting_pure _
  | close d => exact trusting_closeLater d
  | session deed => exact trusting_session deed
  | extract root spec => exact Trusting.bind (trusting_extract root h) fun _ => trusting_pure _
  | look root l => exact trusting_look root l

end

/-! ## Runs -/

/-- The plan that a job carries out. -/
def Job.plan? : Job → Option Plan
  | .automation plan _ | .attended plan _ | .commanded plan _ => some plan
  | _ => none

theorem Job.isSound_of_plan? {job : Job} {plan : Plan} (h : Job.plan? job = some plan)
    (hplan : Step.AllSound plan.steps) : Job.IsSound job := by
  cases job with
  | automation | attended | commanded =>
    cases h
    exact hplan
  | _ => cases h

/-- Every step of an accepted plan is sound, at any depth. So whatever the browser does and in whatever
order the tasks go on, no key of a specification is skipped in a run of the plan; and neither a step
that is carried out nor a task ends with a fault that the plan is to blame for. -/
theorem accepted_plan_trusted {settings : Settings} {source : Option String} {v : Json} {plan : Plan}
    (hplan : Plan.ofJson settings source v = .ok plan) :
    (∀ s, plan.Has s → s.IsSound) ∧
      ∀ {W : Type} (m : Machine scene W), m.program = program →
        (∀ now w q, ∀ x ∈ (m.perform now w q).2.2, Blameless (I := scene) Fault.BlamesPlan x.2) →
        ∀ (outside : Call → Prop) (w : W) (job : Job), Job.plan? job = some plan →
          ∀ h c, Crew.Reaches m outside (Crew.single m w job) h c →
            (∀ t key a, .act t (.ask (.log (skipRecord key)) a) ∉ h) ∧
            (∀ t ds s page index fault, ds <:+: deedsOf h t → plan.Has s →
              Program.Path (runStep page index s) ds (.done (.error (.failed fault))) →
              ¬ Fault.BlamesPlan fault) ∧
            ∀ t fault, c.result? t = some (.error (.failed fault)) → ¬ Fault.BlamesPlan fault := by
  have hsound : ∀ s, plan.Has s → s.IsSound := fun s hs => Plan.isSound_of_ofJson hplan hs
  refine ⟨hsound, fun m hprogram hsignals outside w job hjob h c hr => ?_⟩
  obtain ⟨hdeeds, hends⟩ := hr.spared (B := Fault.BlamesPlan) (D := Deed.TrustsPlan) (J := Job.IsSound)
    hsignals (fun job hjob => hprogram ▸ avoids_program hjob) (fun _ _ hd => hd)
    (Job.isSound_of_plan? hjob hsound)
  refine ⟨fun t key a hin => ?_, fun t ds s page index fault hds hs hpath => ?_, fun t fault hf => ?_⟩
  · exact (hdeeds t _ hin).1 key rfl
  · have hsub : Step.AllSound s.subSteps := fun c hc => hsound c (hs.trans hc)
    refine blameless_failed.1 ((trusting_runStep page index (hsound s hs) hsub).blameless_of_path hpath ?_)
    exact fun d hd => (hdeeds t d (mem_deedsOf.1 (hds.subset hd))).2
  · exact blameless_failed.1 (hends t _ hf)

/-- No signal that a world gives says that something has failed. -/
theorem World.blameless_signals {B : Fault → Prop} (now : Nat) (w : World) (q : Call) :
    ∀ x ∈ (w.perform now q).2.2, Blameless (I := scene) B x.2 := by
  have hraised : ∀ signals : List Signal, ∀ x ∈ raised signals, Blameless (I := scene) B x.2 := by
    intro signals x hx
    obtain ⟨_, -, rfl⟩ := List.mem_map.1 hx
    exact blameless_ok ()
  cases q with
  | goAway | pool => exact hraised _
  | openPool | ensureParent | writeRecords =>
    rw [perform]
    split <;> exact fun _ hx => absurd hx List.not_mem_nil
  | _ => exact fun _ hx => absurd hx List.not_mem_nil

/-- A plan that clicks on something and looks for a number, as a document. -/
def priceDocument : Json :=
  .obj [("url", .str "http://a/"), ("steps", .arr [
    .obj [("action", .str "click"), ("xpath", .str "//b")],
    .obj [("action", .str "scrape"), ("path", .str "prices.json"), ("data", .obj [
      ("price", .obj [("regex", .str "[0-9]+"), ("source", .str "text")])])]])]

/-- A run that has ended well with its session closed. -/
def hasClosed : Option (Outcome Fault Yield) → Bool
  | some (.ok (.closing none)) => true
  | _ => false

/-- The plan is carried out to its end, and no key is skipped. -/
theorem accepted_plan_trusted_price : ∃ plan h c, Plan.ofJson {} none priceDocument = .ok plan ∧
    Crew.Reaches machine (· = .goAway) (Crew.single machine (World.ofSite {} ⟨[]⟩)
      (.automation plan "chromium")) h c ∧
    c.result? 0 = some (.ok (.closing none)) ∧
    (∀ s ∈ plan.steps, s.IsSound) ∧ ∀ t key a, .act t (.ask (.log (skipRecord key)) a) ∉ h := by
  have hplay : (Plan.ofJson {} none priceDocument).toOption.any (fun plan =>
      (Crew.rehearse machine (List.replicate 57 0) (Crew.single machine (World.ofSite {} ⟨[]⟩)
        (.automation plan "chromium"))).any fun x =>
          hasClosed (x.2.result? 0)) = true := by
    decide +kernel
  cases hok : Plan.ofJson {} none priceDocument with
  | error =>
    rw [hok] at hplay
    cases hplay
  | ok plan =>
  rw [hok] at hplay
  obtain ⟨_, ⟨⟩, hplay⟩ := (Option.any_eq_true _ _).1 hplay
  obtain ⟨⟨h, c⟩, hrun, hended⟩ := (Option.any_eq_true _ _).1 hplay
  have hr : Crew.Reaches machine (· = .goAway) (Crew.single machine (World.ofSite {} ⟨[]⟩)
      (.automation plan "chromium")) h c := Crew.reaches_of_rehearse .refl hrun
  have hend : c.result? 0 = some (.ok (.closing none)) := by
    revert hended
    dsimp only
    unfold hasClosed
    split
    · exact fun _ => ‹_›
    · rintro ⟨⟩
  obtain ⟨hsound, htrusted⟩ := accepted_plan_trusted hok
  refine ⟨plan, h, c, rfl, hr, hend, fun s hs => hsound s (.root hs), ?_⟩
  exact (htrusted machine rfl World.blameless_signals (· = .goAway) (World.ofSite {} ⟨[]⟩)
    (.automation plan "chromium") rfl h c hr).1

end Run
end BrowserPlan
