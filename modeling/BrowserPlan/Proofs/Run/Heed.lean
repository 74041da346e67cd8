import BrowserPlan.Proofs.Run.Parts

/-!
# Programs that heed an interruption

`Heeds p`: where the program `p` ends well, it has met no interruption on its way, neither by the user nor
by being told to give up. Starting up a run and carrying out steps are such programs (`heeds_openUp`,
`heeds_perform`): whatever they look at the end of and go on from, they end badly if it has ended badly.
-/
namespace BrowserPlan.Run

open BrowserPlan.Task BrowserPlan.Browser

/-- Where the program ends well, all its steps were calm. -/
def Heeds {α : Type} (p : Program scene α) : Prop :=
  ∀ ds a, Program.Path p ds (.done (.ok a)) → ∀ d ∈ ds, Deed.IsCalm d

/-- The program does not end well. -/
def EndsBadly {α : Type} (p : Program scene α) : Prop := ∀ ds a, ¬ Program.Path p ds (.done (.ok a))

section
variable {α β : Type} {p : Program scene α} {f : α → Program scene β}

theorem endsBadly_error (e : Stop Fault) : EndsBadly (.done (.error e) : Program scene α) := by
  intro ds a h
  obtain ⟨-, heq⟩ := h.of_done
  cases heq

/-- What comes after a program that ends badly does not matter. -/
theorem EndsBadly.bind (h : EndsBadly p) : EndsBadly (p >>= f) := by
  intro ds b hb
  obtain ⟨ds₁, ds₂, a, -, hp, -⟩ := Program.Path.bind_done hb
  exact h ds₁ a hp

theorem EndsBadly.after (h : ∀ a, EndsBadly (f a)) : EndsBadly (p >>= f) := by
  intro ds b hb
  obtain ⟨_, ds₂, a, -, -, hf⟩ := Program.Path.bind_done hb
  exact h a ds₂ b hf

namespace Heeds

/-- A program that is done has taken no steps. -/
theorem done (r : Outcome Fault α) : Heeds (.done r : Program scene α) := by
  intro _ _ h d hd
  obtain ⟨rfl, -⟩ := h.of_done
  cases hd

theorem pure (a : α) : Heeds (pure a : Program scene α) := done (.ok a)

theorem fail (fault : Fault) : Heeds (Run.fail (α := α) fault) := done _

theorem bind (hp : Heeds p) (hf : ∀ a, Heeds (f a)) : Heeds (p >>= f) := by
  intro ds b h d hd
  obtain ⟨ds₁, ds₂, a, rfl, hfirst, hlater⟩ := Program.Path.bind_done h
  rcases List.mem_append.1 hd with hd | hd
  · exact hp ds₁ a hfirst d hd
  · exact hf a ds₂ b hlater d hd

theorem map {f : α → β} (hp : Heeds p) : Heeds (f <$> p) := hp.bind fun a => .pure (f a)

/-- A program whose end is looked at: who looks at a bad end ends badly. -/
theorem attempt {f : Outcome Fault α → Program scene β} (hp : Heeds p) (hok : ∀ a, Heeds (f (.ok a)))
    (herror : ∀ e, EndsBadly (f (.error e))) : Heeds (p.attempt >>= f) := by
  intro ds b h d hd
  obtain ⟨ds₁, ds₂, r, rfl, hattempt, hlater⟩ := Program.Path.bind_done h
  have hfirst := hattempt.attempt_done
  cases r with
  | error e => exact absurd hlater (herror e ds₂ b)
  | ok a =>
    rcases List.mem_append.1 hd with hd | hd
    · exact hp ds₁ a hfirst d hd
    · exact hok a ds₂ b hlater d hd

theorem ensuring {after : Outcome Fault α → Program scene Unit} (hp : Heeds p)
    (hafter : ∀ r, Heeds (after r)) : Heeds (Program.ensuring (I := scene) p after) :=
  hp.attempt (fun _ => (hafter _).bind fun _ => done _) fun e => .after fun _ => endsBadly_error e

theorem failIf (fault : Option Fault) : Heeds (Run.failIf fault) := by
  cases fault with
  | none => exact .pure ()
  | some fault => exact .fail fault

theorem settleFor {ε : Type} (toFault : ε → Fault) (r : Except ε α) : Heeds (Run.settleFor toFault r) := by
  cases r <;> exact done _

/-- In its next step the program is calm and heeds what comes later, or it ends badly. -/
theorem step (h : ∀ d q, p.Does d q → Deed.IsCalm d ∧ Heeds q ∨ EndsBadly q) : Heeds p := by
  intro ds a hpath d hd
  cases ds with
  | nil => cases hd
  | cons d' es =>
    obtain ⟨q, hfirst, hlater⟩ := Program.Path.split (List.singleton_append ▸ hpath)
    rcases h d' q hfirst.does with ⟨hcalm, hq⟩ | hbad
    · rcases List.mem_cons.1 hd with rfl | hd
      · exact hcalm
      · exact hq es a hlater d hd
    · exact absurd hlater (hbad es a)

theorem ask {q : Call} (h : ∀ a, Deed.IsCalm (.ask q a)) : Heeds (Run.ask q) := by
  apply step
  rintro d p ⟨⟩
  exact .inl ⟨h _, done _⟩

/-- An outcome that is good is calm. -/
theorem of_outcome {d : Deed scene} {r : Outcome Fault α} (h : IsCalm r → Deed.IsCalm d) :
    Deed.IsCalm d ∧ Heeds (.done r : Program scene α) ∨ EndsBadly (.done r : Program scene α) := by
  cases r with
  | ok a => exact .inl ⟨h trivial, done _⟩
  | error e => exact .inr (endsBadly_error e)

theorem wait (on : Pause Signal) : Heeds (Run.wait on) := by
  apply step
  rintro d p ⟨⟩
  exact of_outcome id

theorem start (job : Job) : Heeds (Program.start (I := scene) job) := by
  apply step
  rintro d p ⟨⟩
  exact .inl ⟨trivial, done _⟩

theorem joinAll (ts : List TaskId) (patient : Bool) : Heeds (Program.joinAll (I := scene) ts patient) := by
  apply step
  rintro d p ⟨⟩
  exact of_outcome id

theorem count {f : Nat → Program scene Unit} (hf : ∀ n, Heeds (f n)) (times : Nat) :
    ∀ first, Heeds (Program.count f first times) := by
  induction times with
  | zero => exact fun _ => .pure ()
  | succ n ih => exact fun first => (hf first).bind fun _ => ih (first + 1)

theorem mapM {f : α → Program scene β} (hf : ∀ a, Heeds (f a)) (as : List α) : Heeds (as.mapM f) := by
  induction as with
  | nil => exact .pure []
  | cons a as ih =>
    rw [List.mapM_cons]
    exact (hf a).bind fun b => ih.bind fun bs => .pure _

theorem together (jobs : List Job) : Heeds (Program.together (I := scene) jobs) := by
  refine (mapM start jobs).bind fun ts => (joinAll ts false).attempt (fun _ => .pure ()) fun e => ?_
  exact .after fun _ => .after fun _ => endsBadly_error e

end Heeds
end

/-! ## Calls, reading, waiting -/

theorem heeds_say (level : Log.Level) (speaker : Log.Speaker) (message : String) :
    Heeds (say level speaker message) := .ask fun _ => trivial

theorem heeds_sitOut (who : Party) (op : Operation) (course : Course) : Heeds (sitOut who op course) := by
  rw [sitOut.eq_def]
  split
  · exact .pure ()
  · refine (Heeds.wait _).attempt (fun _ => .done _) fun e => ?_
    cases e with
    | cancelled => exact .after fun _ => endsBadly_error _
    | failed | interrupted => exact endsBadly_error _

/-- A call that is interrupted ends badly. -/
theorem heeds_invoke (who : Party) (op : Operation) : Heeds (invoke who op) := by
  apply Heeds.step
  rintro _ _ ⟨_, _, course⟩
  change Deed.IsCalm _ ∧ Heeds (proceed who op course) ∨ EndsBadly (proceed who op course)
  have hend : Heeds (do
      failIf (course.fault.map .call)
      settleFor .call (← ask (.complete who course.landing op))) :=
    (Heeds.failIf _).bind fun _ => Heeds.bind (.ask fun _ => trivial) fun _ => .settleFor _ _
  cases hcourse : course.interrupts with
  | false =>
    refine .inl ⟨hcourse, (heeds_sitOut who op course).bind fun _ => ?_⟩
    rw [hcourse]
    exact hend
  | true =>
    refine .inr (.after fun _ => ?_)
    rw [hcourse]
    exact .bind (endsBadly_error _)

theorem heeds_spanned {action : Action} {index : IterationIndex} {p : Program scene Unit} (hp : Heeds p) :
    Heeds (spanned action index p) :=
  Heeds.bind (.ask fun _ => trivial) fun _ => hp.ensuring fun _ => .ask fun _ => trivial

theorem heeds_readAll (root : Party) (target : Option String) (attributeName : String) :
    Heeds (readAll root target attributeName) := by
  rw [readAll.eq_def]
  split
  · exact heeds_invoke root _
  · exact .pure _

theorem heeds_contentOf (root : Party) (source : String) : Heeds (contentOf root source) := by
  rw [contentOf.eq_def]
  split
  · exact heeds_invoke _ _
  · split
    · exact heeds_invoke _ _
    · exact heeds_invoke _ _

theorem heeds_leafValues (root : Party) (f : FieldSpec) : Heeds (Extraction.leafValues documents root f) := by
  rw [Extraction.leafValues]
  split
  · refine (heeds_contentOf root f.source).bind fun content => ?_
    refine Heeds.bind ?_ fun p => .pure _
    rw [Extraction.compile]
    split
    · exact .pure _
    · exact .fail _
  · split
    · exact heeds_readAll root _ f.attributeName
    · exact .pure _

theorem heeds_resolve (a : Extraction.Arena) (w : Extraction.Work Party) :
    Heeds (Extraction.resolve documents a w) := by
  rw [Extraction.resolve]
  split
  · exact (heeds_say _ _ _).bind fun _ => .pure _
  · split
    · refine Heeds.bind ?_ fun es => .pure _
      rw [Extraction.matchesOf]
      split
      · exact (heeds_invoke w.element _).map
      · exact .pure _
    · exact (heeds_leafValues w.element w.field).bind fun vs => .pure _

theorem heeds_resolveLevel (works : List (Extraction.Work Party)) :
    ∀ a : Extraction.Arena, Heeds (Extraction.resolveLevel documents a works) := by
  induction works with
  | nil => exact fun a => .pure _
  | cons w works ih =>
    intro a
    rw [Extraction.resolveLevel]
    exact (heeds_resolve a w).bind fun x => (ih x.1).bind fun y => .pure _

theorem heeds_extract (root : Party) (spec : Spec) : Heeds (extract root spec) := by
  have hlevels : ∀ levels works a, Heeds (Extraction.resolveLevels documents levels a works) := by
    intro levels
    induction levels with
    | zero => exact fun works a => .pure a
    | succ n ih =>
      intro works a
      rw [Extraction.resolveLevels]
      exact (heeds_resolveLevel works a).bind fun x => ih x.2 x.1
  rw [extract, Extraction.extract]
  exact (hlevels _ _ _).bind fun a => .pure _

theorem heeds_waitFor (page : PageId) (c : WaitCondition) : Heeds (waitFor page c) := by
  have hload : ∀ state : String, Heeds (if loadStates.contains state then
      invoke (.page page) (.waitForLoadState state c.timeout) else pure ()) := by
    intro state
    split
    · exact heeds_invoke _ (.waitForLoadState state c.timeout)
    · exact .pure ()
  have hpass : Heeds (passTime c.timeout) := by
    rw [passTime.eq_def]
    split
    · exact .fail _
    · split
      · split <;> exact .wait _
      · exact .pure ()
  have hhalf : ∀ half, Heeds (waitForHalf page half c) := by
    intro half
    rw [waitForHalf]
    exact (Heeds.settleFor _ _).bind fun matcher => (heeds_invoke _ _).bind fun _ => heeds_invoke _ _
  rw [waitFor.eq_def]
  split
  · refine Heeds.bind (p := waitForNavigation page c) ?_ fun _ => .pure _
    exact (heeds_invoke _ _).bind fun _ => hload _
  · exact (heeds_invoke _ _).bind fun _ => .pure _
  · exact (heeds_invoke _ _).bind fun _ => .pure _
  · exact (heeds_invoke _ _).bind fun _ => .pure _
  · exact (heeds_invoke _ _).bind fun _ => hpass.bind fun _ => .pure _
  · exact (hhalf .request).bind fun _ => .pure _
  · exact (hhalf .response).bind fun _ => .pure _
  · exact (heeds_invoke _ _).bind fun _ => .pure _

/-! ## Steps -/

theorem heeds_targetOf (selector xpath : Option String) : Heeds (targetOf selector xpath) := by
  rw [targetOf.eq_def]
  split
  · exact .pure _
  · exact .fail _

theorem heeds_clickOn (page : PageId) (target : String) (condition : Option WaitCondition) :
    Heeds (clickOn page target condition) := by
  cases condition with
  | none => exact heeds_invoke _ _
  | some c => exact .together _

theorem heeds_goTo (page : PageId) (place : String) (waitUntil : Option String) (timeout : Option Number) :
    Heeds (goTo page place waitUntil timeout) := by
  rw [goTo]
  split
  · exact heeds_invoke _ _
  · split
    · exact heeds_invoke _ _
    · exact Heeds.bind (.ask fun _ => trivial) fun base => (Heeds.settleFor _ _).bind fun url =>
        heeds_invoke _ _

theorem heeds_scrape (page : PageId) (index : IterationIndex) (data : Spec) (template : String) :
    Heeds (scrape page index data template) := by
  rw [scrape]
  refine (heeds_extract _ data).bind fun records => ?_
  refine Heeds.bind (p := writeRecords _ _) (Heeds.bind (.ask fun _ => trivial) fun _ => .failIf _) fun _ => ?_
  exact Heeds.bind (.ask fun _ => trivial) fun _ => heeds_say _ _ _

theorem heeds_takeScreenshot (page : PageId) (index : IterationIndex) (template : String)
    (fullPage : Bool) : Heeds (takeScreenshot page index template fullPage) := by
  rw [takeScreenshot]
  refine Heeds.bind (p := ensureParent _) (Heeds.bind (.ask fun _ => trivial) fun _ => .failIf _) fun _ => ?_
  refine (heeds_invoke _ _).bind fun _ => ?_
  exact Heeds.bind (.ask fun _ => trivial) fun _ => heeds_say _ _ _

theorem heeds_named {action : Action} {index : IterationIndex} {p : Program scene Unit} (hp : Heeds p) :
    Heeds (named action index p) := by
  refine hp.attempt (fun a => .done _) fun e => ?_
  cases e <;> exact endsBadly_error _

theorem heeds_branchesOf (base : String) (index : IterationIndex) (vs : List Json) :
    ∀ position, Heeds (branchesOf base index position vs) := by
  induction vs with
  | nil => exact fun _ => .pure _
  | cons v vs ih =>
    intro position
    rw [branchesOf]
    split
    · exact ih _
    · refine (Heeds.settleFor _ _).bind fun link => ?_
      split
      · exact (ih _).bind fun later => .pure _
      · exact (heeds_say _ _ _).bind fun _ => ih _

theorem heeds_crawl (page : PageId) (index : IterationIndex) (selector xpath : Option String)
    (attributeName : String) (steps : List Step) :
    Heeds (crawl page index selector xpath attributeName steps) := by
  have hfind : Heeds (findLinks page index selector xpath attributeName) := by
    refine (heeds_extract _ _).attempt (fun records => .pure _) fun e => ?_
    cases e <;> exact endsBadly_error _
  refine hfind.bind fun found => Heeds.bind (.ask fun _ => trivial) fun base => ?_
  refine (heeds_branchesOf base index found 1).bind fun branches => (heeds_say _ _ _).bind fun _ => ?_
  exact (Heeds.mapM (fun _ => .start _) branches).bind fun ts => .joinAll ts false

mutual

theorem heeds_runSteps (page : PageId) (index : IterationIndex) (steps : List Step) :
    Heeds (runSteps page index steps) := by
  match steps with
  | [] =>
    rw [runSteps]
    exact .pure ()
  | step :: rest =>
    rw [runSteps]
    exact (heeds_runStep page index step).bind fun _ => heeds_runSteps page index rest

theorem heeds_runStep (page : PageId) (index : IterationIndex) (step : Step) :
    Heeds (runStep page index step) := by
  rw [runStep_eq]
  refine Heeds.bind (.ask fun _ => trivial) fun _ => (heeds_say _ _ _).bind fun _ => heeds_spanned ?_
  match step with
  | .click selector xpath condition =>
    exact heeds_named ((heeds_targetOf _ _).bind fun target => heeds_clickOn page target condition)
  | .type text selector xpath delay =>
    exact heeds_named ((heeds_targetOf _ _).bind fun target => heeds_invoke _ _)
  | .go place waitUntil timeout => exact heeds_named (heeds_goTo page place waitUntil timeout)
  | .wait condition => exact heeds_named ((heeds_waitFor page condition).bind fun _ => .pure ())
  | .scrape data path => exact heeds_named (heeds_scrape page index data path)
  | .screenshot path fullPage => exact heeds_named (heeds_takeScreenshot page index path fullPage)
  | .repeat steps times => exact .count (fun n => heeds_runSteps page (index.child n) steps) times 1
  | .crawl selector xpath attributeName steps =>
    exact heeds_crawl page index selector xpath attributeName steps

end

/-- The steps of a plan. -/
theorem heeds_perform (plan : Plan) (page : PageId) : Heeds (perform plan page) :=
  (heeds_say _ _ _).bind fun _ => (heeds_invoke _ _).bind fun _ => heeds_runSteps page .root plan.steps

/-! ## Starting up -/

theorem heeds_update (f : Session → Session) : Heeds (Session.update f) :=
  Heeds.bind (p := Session.current) (.ask fun _ => trivial) fun _ => .ask fun _ => trivial

theorem heeds_applyTimeouts (who : Party) : Heeds (Session.applyTimeouts who) := by
  have hlater : ∀ s : Session, Heeds (Session.limitNavigation who s) := by
    intro s
    unfold Session.limitNavigation
    split
    · exact heeds_invoke _ _
    · exact .pure ()
  rw [Session.applyTimeouts_eq]
  refine Heeds.bind (p := Session.current) (.ask fun _ => trivial) fun s => ?_
  split
  · exact (heeds_invoke _ _).bind fun _ => hlater s
  · exact hlater s

theorem heeds_start : Heeds Session.start := by
  refine Heeds.bind (p := Session.current) (.ask fun _ => trivial) fun s => ?_
  refine (heeds_say _ _ _).bind fun _ => (heeds_invoke _ _).bind fun _ => ?_
  refine (heeds_update _).bind fun _ => (heeds_invoke _ _).bind fun b => ?_
  refine (heeds_update _).bind fun _ => (heeds_invoke _ _).bind fun _ => ?_
  exact (heeds_update _).bind fun _ => heeds_applyTimeouts _

theorem heeds_openUp (plan : Plan) : Heeds (openUp plan) := by
  have hpage : Heeds Session.newPage := by
    rw [Session.newPage]
    refine Heeds.bind (p := Session.current) (.ask fun _ => trivial) fun s => ?_
    split
    · exact .fail _
    · exact (heeds_invoke _ _).bind fun p => (heeds_applyTimeouts _).bind fun _ => .pure p
  refine heeds_start.bind fun _ => hpage.bind fun page => ?_
  exact Heeds.bind (.ask fun _ => trivial) fun r => (Heeds.failIf _).bind fun _ => .pure page

end BrowserPlan.Run
