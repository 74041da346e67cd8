import BrowserPlan.Proofs.Plan.Refusals
import BrowserPlan.Proofs.Run.Answers
import BrowserPlan.Proofs.Run.Solo

/-!
# Waits for navigations

A document names the state of loading that a navigation has to come to, and the name goes through four hands before
the browser is asked: the reader takes any text (`waitUntil_of_read`), the builder and the check of the condition
pass it on (`awaited_of_builds`), and the wait itself asks for it only if it is one of `loadStates`
(`navigation_path`). So a state that the browser knows is waited for, with the document's own timeout, and any
other one is passed over without a word: the wait is over with the navigation
(`navigation_waits_for_known_states`).
-/
namespace BrowserPlan

open Schema

/-! ## Waits in documents and plans -/

namespace WaitDocument

/-- What a mere word for the kind of a wait says. -/
def ofWord (word : String) : WaitDocument where
  «for» := word
  selector := none
  xpath := none
  state := none
  visible := none
  hidden := none
  timeout := none
  waitUntil := none
  url := none
  function := none
  args := []
  polling := none

/-- The state of loading that a navigation has to come to: `load` where the document names none. -/
def loadState (d : WaitDocument) : String := (d.waitUntil.filter (· != "")).getD "load"

end WaitDocument

namespace StepDocument

/-- The wait that a step describes: itself, or what a click waits for, in one way or the other. -/
def awaited? : StepDocument → Option WaitDocument
  | .wait d => some d
  | .click _ _ (some d) _ => some d
  | .click _ _ none word => (word.filter (· != "")).map WaitDocument.ofWord
  | _ => none

end StepDocument

namespace Step

/-- The condition that a step waits for. -/
def awaited? : Step → Option WaitCondition
  | .wait c => some c
  | .click _ _ c => c
  | _ => none

end Step

namespace Json

/-- The text under a field. -/
def textUnder (f : Field) (v : Json) : Option String := (f.find? v.members).bind fun m => m.2.text?

/-- The value that describes what a step waits for: the step itself, or the wait of a click. -/
def awaited (v : Json) : Json :=
  match (v.member? StepDocument.tagKey).bind text? with
  | some "click" => ((StepDocument.waitField.find? v.members).map Prod.snd).getD .null
  | _ => v

end Json

/-! ## Reading -/

section
variable {ms : Json.Members} {w : WaitDocument} {d : StepDocument} {v : Json}

theorem Schema.Field.optional_text_eq_ok {f : Field} {o : Option String}
    (h : f.optional none (nullable text) ms = Checked.ok o) : o = (Json.obj ms).textUnder f := by
  rw [Field.optional] at h
  rw [Json.textUnder, Json.members]
  cases hf : f.find? ms with
  | none =>
    rw [hf] at h
    cases h
    rfl
  | some m =>
    rw [hf] at h
    replace h := Checked.within_eq_ok h
    rw [Option.bind_some]
    cases hm : m.2 with
    | null | str =>
      rw [hm] at h
      cases h
      rfl
    | _ =>
      rw [hm] at h
      cases h

theorem WaitDocument.ReadFrom.waitUntil_eq (h : ReadFrom ms w) :
    w.waitUntil = (Json.obj ms).textUnder waitUntilField :=
  Field.optional_text_eq_ok h.waitUntil

namespace StepDocument

/-- The inline wait of a click is read from its member, and where there is none, the member is null if it is there. -/
theorem awaited_of_waitField {o : Option WaitDocument}
    (h : waitField.optional none (nullable WaitDocument.read) ms = Checked.ok o) :
    (o.bind WaitDocument.waitUntil) =
      (((waitField.find? ms).map Prod.snd).getD Json.null).textUnder WaitDocument.waitUntilField := by
  rw [Field.optional] at h
  cases hf : waitField.find? ms with
  | none =>
    rw [hf] at h
    cases h
    rfl
  | some m =>
    rw [hf] at h
    replace h := Checked.within_eq_ok h
    rw [Option.map_some, Option.getD_some]
    cases hm : m.2 with
    | null =>
      rw [hm] at h
      cases h
      rfl
    | obj ms' =>
      rw [hm] at h
      obtain ⟨w, hw, rfl⟩ := Checked.map_eq_ok h
      exact (WaitDocument.readFrom_of_ofMembers hw).waitUntil_eq
    | _ =>
      rw [hm] at h
      cases h

theorem ReadFrom.waitUntil_eq {a : Action} {nested : List (String × Checked (List StepDocument))}
    (h : ReadFrom ms nested a d) (hname : ((Json.obj ms).member? tagKey).bind Json.text? = some a.name)
    (hw : d.awaited? = some w) : w.waitUntil = (Json.obj ms).awaited.textUnder WaitDocument.waitUntilField := by
  rw [Json.awaited, hname]
  cases h with
  | @click _ _ inline word _ _ hread =>
    refine Eq.trans ?_ (awaited_of_waitField hread)
    cases inline with
    | some w' =>
      cases hw
      rfl
    | none =>
      obtain ⟨word', -, rfl⟩ := Option.map_eq_some_iff.1 hw
      rfl
  | wait hwhat =>
    cases hw
    exact hwhat.waitUntil_eq
  -- only clicks and waits wait for something
  | type | go | scrape | screenshot | «repeat» | crawl => cases hw

/-- The state that a wait names is the text that stands in the document. -/
theorem waitUntil_of_read (h : read v = Checked.ok d) (hw : d.awaited? = some w) :
    w.waitUntil = v.awaited.textUnder WaitDocument.waitUntilField := by
  obtain ⟨ms, a, rfl, hname, hfrom, -⟩ := read_eq_ok h
  exact hfrom.waitUntil_eq hname hw

end StepDocument
end

/-! ## Building -/

namespace Plan

variable {b : Bool} {place : String} {d : StepDocument} {s : Step}

theorem eq_of_placed {c c' : WaitCondition} (h : placed place c.check = .ok c') : c' = c := by
  cases hc : c.check with
  | error fault =>
    rw [hc] at h
    cases h
  | ok c₁ =>
    rw [hc] at h
    cases h
    exact WaitCondition.eq_of_check hc

theorem read_of_placed {word : String} {kind : WaitKind} (h : placed place (WaitKind.read (.str word)) = .ok kind) :
    WaitKind.ofString? word = some kind := by
  rw [WaitKind.read] at h
  cases hk : WaitKind.ofString? word with
  | some k =>
    rw [hk] at h
    cases h
    rfl
  | none =>
    rw [hk] at h
    cases h

theorem buildWait_eq_ok {w : WaitDocument} {c : WaitCondition} (h : buildWait place w = .ok c) :
    ∃ kind, WaitKind.ofString? w.for = some kind ∧ c = w.condition kind := by
  obtain ⟨kind, hkind, h⟩ := exists_of_bind_eq_ok h
  exact ⟨kind, read_of_placed hkind, eq_of_placed h⟩

theorem buildWaitFor_eq_ok {word : String} {c : WaitCondition} (h : buildWaitFor place word = .ok c) :
    ∃ kind, WaitKind.ofString? word = some kind ∧ c = (WaitDocument.ofWord word).condition kind := by
  obtain ⟨kind, hkind, h⟩ := exists_of_bind_eq_ok h
  exact ⟨kind, read_of_placed hkind, eq_of_placed h⟩

theorem map_eq_ok {r : Except PlanFault WaitCondition} {o : Option WaitCondition} (h : some <$> r = .ok o) :
    ∃ c, r = .ok c ∧ o = some c := by
  cases r with
  | error fault => cases h
  | ok c =>
    cases h
    exact ⟨c, rfl, rfl⟩

/-- A step that is built waits for what its document describes. -/
theorem awaited_of_builds {w : WaitDocument} (h : Builds b d s) (hw : d.awaited? = some w) :
    ∃ kind, WaitKind.ofString? w.for = some kind ∧ s.awaited? = some (w.condition kind) := by
  obtain ⟨place, h⟩ := h
  cases d with
  | wait what =>
    rw [buildStep] at h
    cases hw
    cases hc : buildWait place w with
    | error fault =>
      rw [hc] at h
      cases h
    | ok c =>
      rw [hc] at h
      cases h
      obtain ⟨kind, hkind, rfl⟩ := buildWait_eq_ok hc
      exact ⟨kind, hkind, rfl⟩
  | click selector xpath inline word =>
    rw [buildStep] at h
    obtain ⟨o, ho, h⟩ := exists_of_bind_eq_ok h
    cases h
    cases inline with
    | some d =>
      cases hw
      obtain ⟨c, hc, rfl⟩ := map_eq_ok ho
      obtain ⟨kind, hkind, rfl⟩ := buildWait_eq_ok hc
      exact ⟨kind, hkind, rfl⟩
    | none =>
      obtain ⟨word, hword, rfl⟩ := Option.map_eq_some_iff.1 hw
      obtain ⟨rfl, hne⟩ := Option.filter_eq_some_iff.1 hword
      rw [buildClickWait, if_neg (by simpa using hne)] at ho
      obtain ⟨c, hc, rfl⟩ := map_eq_ok ho
      obtain ⟨kind, hkind, rfl⟩ := buildWaitFor_eq_ok hc
      exact ⟨kind, hkind, rfl⟩
  | _ => cases hw

end Plan

namespace Run

open BrowserPlan.Task BrowserPlan.Browser

/-! ## Waiting -/

section
variable {page : PageId} {ds : List (Deed scene)}

/-- The calls that a wait for a navigation makes: one for the navigation, and one for the state of loading if it is
one that can be waited for. -/
def navigationCalls (page : PageId) (state : String) (timeout : Option Number) : List (Party × Operation) :=
  (.page page, .waitForEvent "framenavigated" (· == .main) timeout) ::
    if state ∈ loadStates then [(.page page, .waitForLoadState state timeout)] else []

theorem invoke_answered {who : Party} {op : Operation} {a : op.Answer}
    (h : Program.Path (invoke who op) ds (.done (.ok a))) : askedIn ds = [(who, op)] ∧ answeredIn ds = [(who, op)] :=
  have hanswered := (invoke_asks h).of_answered
  ⟨hanswered.1, hanswered.2.1⟩

theorem loadState_eq (w : WaitDocument) :
    (if given w.waitUntil then w.waitUntil.getD "load" else "load") = w.loadState := by
  rw [WaitDocument.loadState]
  cases w.waitUntil with
  | none => rfl
  | some s => by_cases hs : s = "" <;> simp [given, Option.filter, hs]

/-- The wait for a navigation, by what its document says. -/
theorem waitForNavigation_eq (w : WaitDocument) : waitForNavigation page (w.condition .navigation) = (do
    invoke (.page page) (.waitForEvent "framenavigated" (· == .main) (w.timeout.map .float))
    if loadStates.contains w.loadState then
      invoke (.page page) (.waitForLoadState w.loadState (w.timeout.map .float))) := by
  rw [← loadState_eq]
  rfl

/-- The wait for a state of loading, where it is one that can be waited for. -/
theorem loadState_path {state : String} {timeout : Option Number} {u : Unit}
    (h : Program.Path (if loadStates.contains state then invoke (.page page) (.waitForLoadState state timeout)
      else pure ()) ds (.done (.ok u))) :
    askedIn ds = (if state ∈ loadStates then [(.page page, .waitForLoadState state timeout)] else []) ∧
      answeredIn ds = askedIn ds := by
  by_cases hstate : state ∈ loadStates
  · rw [if_pos (List.contains_iff_mem.2 hstate)] at h
    obtain ⟨hasked, hanswered⟩ := invoke_answered h
    rw [if_pos hstate, hasked]
    exact ⟨rfl, hanswered⟩
  · rw [if_neg fun hin => hstate (List.contains_iff_mem.1 hin)] at h
    obtain ⟨rfl, -⟩ := h.of_done
    rw [if_neg hstate]
    exact ⟨rfl, rfl⟩

/-- A wait for a navigation that ends well has asked for the navigation and for the state, and was answered. -/
theorem navigation_path {w : WaitDocument} {r : Option String}
    (h : Program.Path (waitFor page (w.condition .navigation)) ds (.done (.ok r))) :
    askedIn ds = navigationCalls page w.loadState (w.timeout.map .float) ∧ answeredIn ds = askedIn ds := by
  obtain ⟨ds₁, ds₂, _, rfl, hwait, hend⟩ := Program.Path.bind_done h
  obtain ⟨rfl, -⟩ := hend.of_done
  rw [waitForNavigation_eq] at hwait
  obtain ⟨es, fs, _, rfl, hevent, hload⟩ := Program.Path.bind_done hwait
  obtain ⟨hasked, hanswered⟩ := invoke_answered hevent
  obtain ⟨hasked', hanswered'⟩ := loadState_path hload
  rw [List.append_nil, askedIn_append, answeredIn_append, hanswered', hanswered, hasked, hasked']
  exact ⟨rfl, rfl⟩

/-- A step that waits makes no calls but those of its wait. -/
theorem waitStep_path {index : IterationIndex} {c : WaitCondition}
    (h : Program.Path (runStep page index (.wait c)) ds (.done (.ok ()))) :
    ∃ es r, Program.Path (waitFor page c) es (.done (.ok r)) ∧ askedIn ds = askedIn es ∧
      answeredIn ds = answeredIn es := by
  obtain ⟨span, body, rfl, hbody⟩ := runStep_path h
  obtain ⟨o, hwork, ho⟩ := named_path hbody
  obtain rfl : o = .ok () := by
    match o with
    | .ok () => rfl
    | .error (.failed _) | .error .cancelled | .error .interrupted => cases ho
  obtain ⟨es, _, r, rfl, hwait, hend⟩ := Program.Path.bind_done hwork
  obtain ⟨rfl, -⟩ := hend.of_done
  refine ⟨es, r, hwait, ?_, ?_⟩
  · rw [askedIn_append, askedIn_append, List.append_nil]
    exact List.append_nil _
  · rw [answeredIn_append, answeredIn_append, List.append_nil]
    exact List.append_nil _

/-- The steps `ds` carry out the wait of a step, and it ends well: the step is the wait, or a click has a task for
it. -/
inductive Awaits (page : PageId) : Step → List (Deed scene) → Prop where
  | step {c index ds} (h : Program.Path (runStep page index (.wait c)) ds (.done (.ok ()))) : Awaits page (.wait c) ds
  | click {selector xpath c y ds} (h : Program.Path (program (.wait page c)) ds (.done (.ok y))) :
    Awaits page (.click selector xpath (some c)) ds

theorem Awaits.waitFor {s : Step} {c : WaitCondition} (h : Awaits page s ds) (hc : s.awaited? = some c) :
    ∃ es r, Program.Path (waitFor page c) es (.done (.ok r)) ∧ askedIn ds = askedIn es ∧
      answeredIn ds = answeredIn es := by
  cases h with
  | step h =>
    cases hc
    exact waitStep_path h
  | click h =>
    cases hc
    obtain ⟨es, _, r, rfl, hwait, hend⟩ := Program.Path.bind_done h
    obtain ⟨rfl, -⟩ := hend.of_done
    exact ⟨es, r, hwait, by rw [List.append_nil], by rw [List.append_nil]⟩

end

/-- The waits of an accepted document. Each one, at any depth and however it is written, is a wait of the plan, for
what it says in the document. Where it is for a navigation and ends well, the browser has been asked for the
navigation and then for the state of loading that the document names, `load` if it names none, with the timeout of
the document; and nothing else was asked. The exception are names that are no state the browser can be asked for:
the document is accepted with them, but they count for nothing, and only the navigation was asked for. -/
theorem navigation_waits_for_known_states {settings : Settings} {source : Option String} {v j : Json} {plan : Plan}
    (h : Plan.ofJson settings source v = .ok plan) (hj : Within Json.subSteps v.planSteps j) :
    ∃ d s, StepDocument.read j = Checked.ok d ∧ plan.Has s ∧ (∃ b, Plan.Builds b d s) ∧
      ∀ w, d.awaited? = some w → w.waitUntil = j.awaited.textUnder WaitDocument.waitUntilField ∧
        ∃ kind, WaitKind.ofString? w.for = some kind ∧ s.awaited? = some (w.condition kind) ∧
          (kind = .navigation → ∀ page ds, Awaits page s ds →
            askedIn ds = navigationCalls page w.loadState (w.timeout.map .float) ∧ answeredIn ds = askedIn ds) := by
  obtain ⟨ds, hread, hbuilt⟩ := Plan.steps_of_ofJson h
  obtain ⟨d, hd, hjd⟩ := StepDocument.read_shape.exists_within hread hj
  obtain ⟨s, hs, b, hds⟩ := Plan.build_shape.exists_within (hbuilt.imp fun _ _ h => ⟨false, h⟩) hd
  refine ⟨d, s, hjd, hs, ⟨b, hds⟩, fun w hw => ⟨StepDocument.waitUntil_of_read hjd hw, ?_⟩⟩
  obtain ⟨kind, hkind, hc⟩ := Plan.awaited_of_builds hds hw
  refine ⟨kind, hkind, hc, ?_⟩
  rintro rfl page ds hawaits
  obtain ⟨es, r, hwait, hasked, hanswered⟩ := hawaits.waitFor hc
  rw [hasked, hanswered]
  exact navigation_path hwait

/-- A click that waits for a navigation until the page is parsed. -/
def parsingClick : Json :=
  .obj [("action", .str "click"), ("selector", .str "a"),
    ("wait", .obj [("for", .str "navigation"), ("waitUntil", .str "domcontentloaded")])]

/-- A document with this click in a round. -/
def parsingDocument : Json :=
  .obj [("url", .str "http://a/"), ("steps", .arr [.obj [("action", .str "repeat"), ("times", .int 1),
    ("subSteps", .arr [parsingClick])]])]

theorem navigation_waits_for_known_states_parsingDocument :
    ∃ (plan : Plan) (s : Step) (w : WaitDocument) (ds : List (Deed scene)),
    Plan.ofJson {} none parsingDocument = .ok plan ∧ Within Json.subSteps parsingDocument.planSteps parsingClick ∧
    plan.Has s ∧ s.awaited? = some (w.condition .navigation) ∧
    w.waitUntil = parsingClick.awaited.textUnder WaitDocument.waitUntilField ∧ Awaits 0 s ds ∧
    askedIn ds = [(.page 0, .waitForEvent "framenavigated" (· == .main) none),
      (.page 0, .waitForLoadState "domcontentloaded" none)] ∧
    answeredIn ds = askedIn ds := by
  let w : WaitDocument := { WaitDocument.ofWord "navigation" with waitUntil := some "domcontentloaded" }
  let click : Step := .click (some "a") none (some (w.condition .navigation))
  let plan : Plan := ⟨"http://a/", [.repeat [click] 1], true, none, none, 1, .flag false, none⟩
  have hplan : Plan.ofJson {} none parsingDocument = .ok plan := rfl
  have hwithin : Within Json.subSteps parsingDocument.planSteps parsingClick :=
    ⟨_, List.mem_singleton.2 rfl, .inr (.child (List.mem_singleton.2 rfl))⟩
  have hread : StepDocument.read parsingClick = Checked.ok (.click (some "a") none (some w) none) := rfl
  obtain ⟨d, s, hd, hs, ⟨b, place, hbuilds⟩, hwaits⟩ := navigation_waits_for_known_states hplan hwithin
  obtain rfl : .click (some "a") none (some w) none = d := Except.ok.inj (hread.symm.trans hd)
  obtain rfl : s = click := Except.ok.inj (hbuilds.symm.trans rfl)
  obtain ⟨hstate, kind, hkind, hc, hcalls⟩ := hwaits w rfl
  obtain rfl : WaitKind.navigation = kind := Option.some.inj hkind
  have hplay : Program.play (I := scene) (promptly twins) (program (.wait 0 (w.condition .navigation))) =
      some (.text none) := rfl
  have hawaits : Awaits 0 click _ := .click (Program.path_of_play hplay)
  obtain ⟨hasked, hanswered⟩ := hcalls rfl 0 _ hawaits
  exact ⟨plan, click, w, _, hplan, hwithin, hs, hc, hstate, hawaits, hasked, hanswered⟩

end Run
end BrowserPlan
