import BrowserPlan.Proofs.Run.Errand

/-!
# Calls keep to the rules

`Stays`: a program takes only steps that the rules allow and that lead nowhere else, and it ends
calmly as long as it meets nothing but calm steps. Calls to the browser stay where they are made
(`Stays.invoke`), and so does everything that is made of them: extraction, waits, files.
-/
namespace BrowserPlan.Run

open BrowserPlan.Task BrowserPlan.Browser

/-! ## Calm -/

/-- The program ends well or fails; nobody tells it to give up, and the user does not interrupt. -/
def IsCalm {φ α : Type} : Outcome φ α → Prop
  | .ok _ | .error (.failed _) => True
  | .error .cancelled | .error .interrupted => False

/-- The user does not interrupt with what a call is answered. -/
def Call.answersCalmly : (q : Call) → q.Answer → Prop
  | .begin .., course => course.interrupts = false
  | _, _ => True

/-- A step in which the user does not interrupt and nobody learns that it is to give up. -/
def Deed.IsCalm : Deed scene → Prop
  | .ask q a => Call.answersCalmly q a
  | .wake _ r | .meet _ _ r => Run.IsCalm r
  | .learn _ r => Run.IsCalm r
  | .start .. | .stop _ => True

/-- The program ends calmly if it meets only calm steps. -/
def Sound {α : Type} (R : Deed scene → Prop) (r : Outcome Fault α) : Prop :=
  (∀ d, R d → Deed.IsCalm d) → IsCalm r

theorem Sound.ok {α : Type} (R : Deed scene → Prop) (a : α) : Sound R (.ok a) := fun _ => trivial

theorem Sound.failed {α : Type} (R : Deed scene → Prop) (fault : Fault) :
    Sound (α := α) R (.error (.failed fault)) := fun _ => trivial

theorem Sound.error {α β : Type} {R : Deed scene → Prop} {e : Stop Fault}
    (h : Sound (α := α) R (.error e)) : Sound (α := β) R (.error e) := by
  intro hR
  have := h hR
  cases e with
  | failed => trivial
  | cancelled | interrupted => exact this

theorem Sound.of_deed {α : Type} {R : Deed scene → Prop} {d : Deed scene} {r : Outcome Fault α}
    (hd : R d) (h : Deed.IsCalm d → IsCalm r) : Sound R r := fun hR => h (hR d hd)

/-! ## Programs that stay where they are -/

variable {R : Deed scene → Prop} {σ α β : Type} {μ : Rules scene σ} {s : σ}

/-- From `s`, the program keeps to the rules and stays at `s`; it ends soundly, and with a value that
`V` holds of if it ends well. -/
def Stays (R : Deed scene → Prop) (μ : Rules scene σ) (s : σ) (V : α → Prop) (p : Program scene α) :
    Prop :=
  p.Obeys R μ (fun s' r => s' = s ∧ Sound R r ∧ ∀ a, r = .ok a → V a) s

/-- Of the value nothing is promised. -/
abbrev Anything (α : Type) : α → Prop := fun _ => True

namespace Stays

variable {V : α → Prop} {U : β → Prop} {p : Program scene α}

theorem pure {a : α} (h : V a) : Stays R μ s V (pure a) :=
  ⟨rfl, .ok R a, fun b hb => by cases hb; exact h⟩

theorem ending {r : Outcome Fault α} (hr : Sound R r) (h : ∀ a, r = .ok a → V a) :
    Stays R μ s V (Program.ending (I := scene) r) := ⟨rfl, hr, h⟩

theorem fail (fault : Fault) : Stays R μ s V (Run.fail fault) := ⟨rfl, .failed R fault, nofun⟩

theorem ask {q : Call} (h : ∀ a, μ s (.ask q a) s) : Stays R μ s (Anything q.Answer) (Run.ask q) :=
  fun a _ => ⟨s, h a, rfl, .ok R a, fun _ _ => trivial⟩

theorem bind {f : α → Program scene β} (hp : Stays R μ s V p) (hf : ∀ a, V a → Stays R μ s U (f a)) :
    Stays R μ s U (p >>= f) := by
  refine Program.Obeys.bind (hp.weaken ?_)
  rintro s' r ⟨rfl, hr, hV⟩
  cases r with
  | ok a => exact hf a (hV a rfl)
  | error e => exact ⟨rfl, hr.error, nofun⟩

theorem map {f : α → β} (hp : Stays R μ s V p) (hf : ∀ a, V a → U (f a)) : Stays R μ s U (f <$> p) :=
  hp.bind fun a ha => .pure (hf a ha)

/-- A program whose end is looked at. -/
theorem attempt {f : Outcome Fault α → Program scene β} (hp : Stays R μ s V p)
    (hf : ∀ r, Sound R r → (∀ a, r = .ok a → V a) → Stays R μ s U (f r)) :
    Stays R μ s U (p.attempt >>= f) := by
  refine Program.Obeys.bind (Program.Obeys.attempt (hp.weaken ?_))
  rintro s' r ⟨rfl, hr, hV⟩
  exact hf r hr hV

theorem failIf (fault : Option Fault) : Stays R μ s (Anything Unit) (Run.failIf fault) := by
  cases fault with
  | none => exact .pure trivial
  | some fault => exact .fail fault

theorem settleFor {ε : Type} (toFault : ε → Fault) (r : Except ε α) :
    Stays R μ s (Anything α) (Run.settleFor toFault r) := by
  cases r with
  | ok a => exact .pure trivial
  | error e => exact .fail _

end Stays

/-! ## Calls to the browser -/

/-- What is left of a call to the browser when it has begun. -/
def proceed (who : Party) (op : Operation) (course : Course) : Program scene op.Answer := do
  sitOut who op course
  if course.interrupts then Program.ending (I := scene) (.error .interrupted)
  failIf (course.fault.map .call)
  settleFor .call (← ask (.complete who course.landing op))

/-- Sets the limit on navigations, if the session has one. -/
def Session.limitNavigation (who : Party) (s : Session) : Program scene Unit :=
  match s.defaultNavigationTimeout with
  | some millis => invoke who (.setDefaultNavigationTimeout millis)
  | none => pure ()

theorem Session.applyTimeouts_eq (who : Party) : Session.applyTimeouts who =
    Program.bind (I := scene) Session.current fun s => match s.defaultTimeout with
      | some millis => (invoke who (.setDefaultTimeout millis)).bind fun _ => limitNavigation who s
      | none => limitNavigation who s := rfl

section
variable {who : Party} {op : Operation} {course : Course}

/-- A call that takes its time stays where it is. -/
theorem stays_sitOut (hpause : ∀ d, IsPause d → μ s d s)
    (hbreak : ∀ a, μ s (.ask (.breakOff who op) a) s) :
    Stays R μ s (Anything Unit) (sitOut who op course) := by
  cases hh : holdUp course with
  | none =>
    rw [sitOut, hh]
    exact .pure trivial
  | some on =>
    have hon : ∀ r, IsPause (.wake on r) := by
      intro r
      rw [holdUp] at hh
      split at hh
      · cases hh
        exact .forever r
      · split at hh
        · cases hh
        · cases hh
          exact .timer _ r
    rw [sitOut, hh]
    intro r hr
    refine ⟨s, hpause _ (hon r), ?_⟩
    have hsound : Sound R r := .of_deed hr id
    cases r with
    | ok u => exact Stays.ending hsound fun _ _ => trivial
    | error e =>
      cases e with
      | cancelled => exact (Stays.ask hbreak).bind fun _ _ => .ending hsound fun _ _ => trivial
      | failed | interrupted => exact Stays.ending hsound fun _ _ => trivial

/-- A call that has begun ends where its completion leads, unless it is stopped on the way. -/
theorem obeys_proceed {Q : σ → Outcome Fault op.Answer → Prop} (hcourse : R (.ask (.begin who op) course))
    (hpause : ∀ d, IsPause d → μ s d s) (hbreak : ∀ a, μ s (.ask (.breakOff who op) a) s)
    (hstop : ∀ e, Sound (α := op.Answer) R (.error e) → Q s (.error e))
    (hend : ∀ a, R (.ask (.complete who course.landing op) a) →
      ∃ s', μ s (.ask (.complete who course.landing op) a) s' ∧
        Q s' (a.mapError fun f => .failed (.call f))) :
    (proceed who op course).Obeys R μ Q s := by
  refine Program.Obeys.bind ((stays_sitOut hpause hbreak).weaken ?_)
  rintro s' r ⟨rfl, hr, -⟩
  cases r with
  | error e => exact hstop e hr.error
  | ok u =>
    cases hi : course.interrupts with
    | true =>
      refine hstop .interrupted (.of_deed hcourse fun h => ?_)
      simp [Deed.IsCalm, Call.answersCalmly, hi] at h
    | false =>
      cases hf : course.fault with
      | some fault => exact hstop _ (.failed R _)
      | none =>
        intro a ha
        obtain ⟨s', hs, hQ⟩ := hend a ha
        refine ⟨s', hs, ?_⟩
        cases a with
        | ok v => exact hQ
        | error f => exact hQ

/-- A call to the browser stays where it is made, and is answered as it is met. -/
theorem Stays.invoke_of {V : op.Answer → Prop} (hpause : ∀ d, IsPause d → μ s d s)
    (hcall : ∀ d, IsCall who op d → μ s d s)
    (hV : ∀ landing a, R (.ask (.complete who landing op) (.ok a)) → V a) :
    Stays R μ s V (Run.invoke who op) := by
  intro course hcourse
  refine ⟨s, hcall _ (.begin course), obeys_proceed hcourse hpause (fun a => hcall _ (.breakOff a))
    (fun e he => ⟨rfl, he, nofun⟩) fun a ha => ⟨s, hcall _ (.complete _ a), rfl, ?_⟩⟩
  cases a with
  | ok v =>
    refine ⟨.ok R v, ?_⟩
    rintro a ⟨⟩
    exact hV _ v ha
  | error f => exact ⟨.failed R _, nofun⟩

theorem Stays.invoke (hpause : ∀ d, IsPause d → μ s d s) (hcall : ∀ d, IsCall who op d → μ s d s) :
    Stays R μ s (Anything op.Answer) (Run.invoke who op) :=
  .invoke_of hpause hcall fun _ _ _ => trivial

end

/-! ## Programs on a page -/

section
variable {F : Findings} {page : PageId} {root : Party}
  (hq : ∀ d, IsQuiet F page d → ¬ IsSpan d → μ s d s)
include hq

theorem Stays.call (hroot : IsOn F page root) (op : Operation)
    (hop : op.closes = false := by rfl) :
    Stays R μ s (Anything op.Answer) (Run.invoke root op) :=
  .invoke (fun d hd => hq d (.pause hd) hd.not_span) fun d hd => hq d (.call hroot hop hd) hd.not_span

theorem Stays.onPage (op : Operation) (hop : op.closes = false := by rfl) :
    Stays R μ s (Anything op.Answer) (Run.invoke (.page page) op) := .call hq .page op hop

theorem Stays.say (level : Log.Level) (speaker : Log.Speaker) (message : String) :
    Stays R μ s (Anything Unit) (Run.say level speaker message) :=
  .ask fun a => hq _ (.aside (.log _ a)) nofun

/-! ### Extraction -/

section
variable (hF : ∀ d, R d → F.Cover d)
include hF

theorem stays_query (hroot : IsOn F page root) (target : String) :
    Stays R μ s (fun es => ∀ e ∈ es, IsOn F page e) (documents.query root target) := by
  have hfound : Stays R μ s (fun es => ∀ e ∈ es, F page e) (queryAll root target) :=
    .invoke_of (fun d hd => hq d (.pause hd) hd.not_span)
      (fun d hd => hq d (.call hroot rfl hd) hd.not_span) fun _ es hes => hF _ hes page hroot
  refine Stays.map hfound fun es hes e he => ?_
  obtain ⟨x, hx, rfl⟩ := List.mem_map.1 he
  exact .element (hes x hx)

omit hF in
theorem stays_readAll (hroot : IsOn F page root) (target : Option String) (attributeName : String) :
    Stays R μ s (Anything (List Json)) (readAll root target attributeName) := by
  rw [readAll.eq_def]
  split
  · exact .call hq hroot (.read _ attributeName)
  · exact .pure trivial

omit hF in
theorem stays_contentOf (hroot : IsOn F page root) (source : String) :
    Stays R μ s (Anything (Option String)) (contentOf root source) := by
  cases hroot with
  | page =>
    change Stays R μ s _ (if source == "text" then invoke (.page page) (.evaluate .pageText)
      else invoke (.page page) .content)
    split
    · exact .onPage hq (.evaluate .pageText)
    · exact .onPage hq .content
  | element he => exact .call hq (.element he) (.evaluate _)

omit hF in
theorem stays_leafValues (hroot : IsOn F page root) (f : FieldSpec) :
    Stays R μ s (Anything (List Json)) (Extraction.leafValues documents root f) := by
  rw [Extraction.leafValues]
  split
  · refine (stays_contentOf hq hroot f.source).bind fun content _ => ?_
    refine Stays.bind (V := Anything Pattern) ?_ fun p _ => .pure trivial
    rw [Extraction.compile]
    split
    · exact .pure trivial
    · exact .fail _
  · split
    · exact stays_readAll hq hroot _ f.attributeName
    · exact .pure trivial

theorem stays_matchesOf (hroot : IsOn F page root) (f : FieldSpec) :
    Stays R μ s (fun es => ∀ e ∈ es, IsOn F page e) (Extraction.matchesOf documents root f) := by
  rw [Extraction.matchesOf]
  split
  · exact stays_query hq hF hroot _
  · exact .pure fun e he => by rwa [List.mem_singleton.1 he]

omit hq hF in
/-- The work that follows from a field is on the elements that the field selects. -/
theorem onPage_assignElements {w : Extraction.Work Party} {es : List Party}
    (hes : ∀ e ∈ es, IsOn F page e) : ∀ (position : Nat) (a : Extraction.Arena),
    ∀ w' ∈ (Extraction.assignElements w position a es).2, IsOn F page w'.element := by
  induction es with
  | nil => exact fun _ _ => nofun
  | cons e es ih =>
    intro position a w' hw'
    rcases List.mem_append.1 hw' with hw' | hw'
    · obtain ⟨c, -, rfl⟩ := List.mem_map.1 hw'
      exact hes e List.mem_cons_self
    · exact ih (fun e he => hes e (List.mem_cons_of_mem _ he)) _ _ w' hw'

theorem stays_resolve (a : Extraction.Arena) {w : Extraction.Work Party} (hw : IsOn F page w.element) :
    Stays R μ s (fun x => ∀ w' ∈ x.2, IsOn F page w'.element) (Extraction.resolve documents a w) := by
  rw [Extraction.resolve]
  split
  · exact Stays.bind (.say hq _ _ _) fun _ _ => .pure nofun
  · split
    · exact Stays.bind (stays_matchesOf hq hF hw w.field) fun es hes =>
        .pure (onPage_assignElements hes 0 a)
    · exact Stays.bind (stays_leafValues hq hw w.field) fun vs _ => .pure nofun

theorem stays_resolveLevel {works : List (Extraction.Work Party)}
    (hw : ∀ w ∈ works, IsOn F page w.element) : ∀ a : Extraction.Arena,
    Stays R μ s (fun x => ∀ w' ∈ x.2, IsOn F page w'.element)
      (Extraction.resolveLevel documents a works) := by
  induction works with
  | nil => exact fun a => .pure nofun
  | cons w works ih =>
    intro a
    rw [Extraction.resolveLevel]
    refine (stays_resolve hq hF a (hw w List.mem_cons_self)).bind fun x hx => ?_
    refine (ih (fun w hmem => hw w (List.mem_cons_of_mem _ hmem)) x.1).bind fun y hy => ?_
    refine .pure fun w' hw' => ?_
    rcases List.mem_append.1 hw' with hw' | hw'
    · exact hx w' hw'
    · exact hy w' hw'

theorem stays_resolveLevels (levels : Nat) : ∀ {works : List (Extraction.Work Party)},
    (∀ w ∈ works, IsOn F page w.element) → ∀ a : Extraction.Arena,
    Stays R μ s (Anything Extraction.Arena)
      (Extraction.resolveLevels documents levels a works) := by
  induction levels with
  | zero => exact fun _ a => .pure trivial
  | succ n ih =>
    intro works hw a
    rw [Extraction.resolveLevels]
    exact (stays_resolveLevel hq hF hw a).bind fun x hx => ih hx x.1

/-- Extraction stays on the page. -/
theorem stays_extract (hroot : IsOn F page root) (spec : Spec) :
    Stays R μ s (Anything (List Json)) (extract root spec) := by
  rw [extract, Extraction.extract]
  refine Stays.bind (stays_resolveLevels hq hF _ (fun w hw => ?_) _) fun a _ => .pure trivial
  obtain ⟨c, -, rfl⟩ := List.mem_map.1 hw
  exact hroot

end

/-! ### Waits -/

theorem stays_passTime (millis : Option Number) :
    Stays R μ s (Anything Unit) (passTime millis) := by
  have hwait : ∀ on, (∀ r, IsPause (.wake on r)) → Stays R μ s (Anything Unit) (wait on) :=
    fun on hon r hr => ⟨s, hq _ (.pause (hon r)) nofun, rfl, .of_deed hr id, fun _ _ => trivial⟩
  cases millis with
  | none => exact .fail _
  | some millis =>
    rw [passTime]
    split
    · split
      · exact hwait _ fun r => .timer _ r
      · exact hwait _ fun r => .forever r
    · exact .pure trivial

theorem stays_waitForHalf (half : Half) (c : WaitCondition) :
    Stays R μ s (Anything String) (waitForHalf page half c) := by
  rw [waitForHalf]
  refine Stays.bind (.settleFor _ _) fun matcher _ => ?_
  refine Stays.bind (.onPage hq (.expect half matcher c.timeout)) fun _ _ => ?_
  exact .onPage hq (.awaitHalf half)

/-- A wait stays on the page. -/
theorem stays_waitFor (c : WaitCondition) :
    Stays R μ s (Anything (Option String)) (waitFor page c) := by
  have hload : ∀ state : String, Stays R μ s (Anything Unit) (if loadStates.contains state then
      invoke (.page page) (.waitForLoadState state c.timeout) else pure ()) := by
    intro state
    split
    · exact .onPage hq (.waitForLoadState state c.timeout)
    · exact .pure trivial
  rw [waitFor.eq_def]
  split
  · refine Stays.bind (V := Anything Unit) ?_ fun _ _ => .pure trivial
    rw [waitForNavigation]
    exact Stays.bind (.onPage hq _) fun _ _ => hload _
  · exact Stays.bind (.onPage hq _) fun _ _ => .pure trivial
  · exact Stays.bind (.onPage hq (.waitForSelector _ _ _)) fun _ _ => .pure trivial
  · exact Stays.bind (.onPage hq (.waitForSelector _ _ _)) fun _ _ => .pure trivial
  · refine Stays.bind (.onPage hq _) fun _ _ => ?_
    exact Stays.bind (stays_passTime hq c.timeout) fun _ _ => .pure trivial
  · exact Stays.bind (stays_waitForHalf hq .request c) fun _ _ => .pure trivial
  · exact Stays.bind (stays_waitForHalf hq .response c) fun _ _ => .pure trivial
  · exact Stays.bind (.onPage hq (.waitForFunction _ _ _ _)) fun _ _ => .pure trivial

/-! ### Steps that repeat nothing -/

omit hq in
theorem stays_targetOf (selector xpath : Option String) :
    Stays R μ s (Anything String) (targetOf selector xpath) := by
  rw [targetOf.eq_def]
  split
  · exact .pure trivial
  · exact .fail _

theorem stays_goTo (place : String) (waitUntil : Option String) (timeout : Option Number) :
    Stays R μ s (Anything Unit) (goTo page place waitUntil timeout) := by
  rw [goTo]
  split
  · exact .onPage hq (.back waitUntil timeout)
  · split
    · exact .onPage hq (.forward waitUntil timeout)
    · refine Stays.bind (.ask fun a => hq _ (.urlOf a) nofun) fun base _ => ?_
      exact Stays.bind (.settleFor _ _) fun url _ => .onPage hq (.goto url waitUntil timeout)

theorem stays_scrape (hF : ∀ d, R d → F.Cover d) (index : IterationIndex) (data : Spec) (template : String) :
    Stays R μ s (Anything Unit) (scrape page index data template) := by
  rw [scrape]
  refine Stays.bind (stays_extract hq hF .page data) fun records _ => ?_
  refine Stays.bind (V := Anything Unit) ?_ fun _ _ => ?_
  · exact Stays.bind (.ask fun a => hq _ (.writeRecords _ _ a) nofun) fun _ _ => .failIf _
  · exact Stays.bind (.ask fun a => hq _ (.produced _ a) nofun) fun _ _ => .say hq _ _ _

theorem stays_takeScreenshot (index : IterationIndex) (template : String) (fullPage : Bool) :
    Stays R μ s (Anything Unit) (takeScreenshot page index template fullPage) := by
  rw [takeScreenshot]
  refine Stays.bind (V := Anything Unit) ?_ fun _ _ => ?_
  · exact Stays.bind (.ask fun a => hq _ (.ensureParent _ a) nofun) fun _ _ => .failIf _
  · refine Stays.bind (.onPage hq (.screenshot _ fullPage)) fun _ _ => ?_
    exact Stays.bind (.ask fun a => hq _ (.produced _ a) nofun) fun _ _ => .say hq _ _ _

theorem stays_findLinks (hF : ∀ d, R d → F.Cover d) (index : IterationIndex) (selector xpath : Option String)
    (attributeName : String) :
    Stays R μ s (Anything (List Json)) (findLinks page index selector xpath attributeName) := by
  rw [findLinks]
  refine (stays_extract hq hF .page _).attempt fun r hr _ => ?_
  match r with
  | .ok records => exact .pure trivial
  | .error (.failed fault) => exact .fail _
  | .error .cancelled => exact .ending hr.error nofun
  | .error .interrupted => exact .ending hr.error nofun

theorem stays_branchesOf (base : String) (index : IterationIndex) (vs : List Json) :
    ∀ position, Stays R μ s (Anything (List (String × IterationIndex)))
      (branchesOf base index position vs) := by
  induction vs with
  | nil => exact fun _ => .pure trivial
  | cons v vs ih =>
    intro position
    rw [branchesOf]
    split
    · exact ih _
    · refine Stays.bind (.settleFor _ _) fun link _ => ?_
      split
      · exact Stays.bind (ih _) fun _ _ => .pure trivial
      · exact Stays.bind (.say hq _ _ _) fun _ _ => ih _

end

end BrowserPlan.Run
