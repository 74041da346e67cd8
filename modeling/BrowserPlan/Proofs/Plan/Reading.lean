import BrowserPlan.Plan.Builder

/-!
# Documents that could be read

A reader that answers has read each member it asks for and met no stranger, so what it answers can be taken apart
again. The combinators of `Checked` invert one at a time (`seq_eq_ok` and its companions); `ReadFrom` says, of a wait
and of a step, which member each of its parts was read from, and `StepDocument.read_eq_ok` how a value came to be
read as a step: by the action it names, from its members, with the rules over several members kept. From a document
that could be read the builder makes a plan unless it refuses a step (`Plan.ofJson_eq_ok`, `Plan.ofJson_eq_error`).
-/
namespace BrowserPlan

open Schema

namespace Schema.Checked

variable {α β : Type}

theorem seq_eq_ok {f : Checked (α → β)} {a : Checked α} {b : β} (h : f <*> a = ok b) :
    ∃ g x, f = ok g ∧ a = ok x ∧ g x = b := by
  cases f with
  | error cs => cases a <;> cases h
  | ok g =>
    cases a with
    | error cs => cases h
    | ok x =>
      cases h
      exact ⟨g, x, rfl, rfl, rfl⟩

theorem map_eq_ok {f : α → β} {a : Checked α} {b : β} (h : f <$> a = ok b) :
    ∃ x, a = ok x ∧ f x = b := by
  obtain ⟨g, x, hg, hx, rfl⟩ := seq_eq_ok (f := ok f) h
  cases hg
  exact ⟨x, hx, rfl⟩

theorem seqLeft_eq_ok {a : Checked α} {c : Checked β} {x : α} (h : a <* c = ok x) :
    a = ok x ∧ ∃ y, c = ok y := by
  obtain ⟨g, y, hg, hy, rfl⟩ := seq_eq_ok (f := Function.const β <$> a) h
  obtain ⟨x, hx, rfl⟩ := map_eq_ok hg
  exact ⟨hx, y, hy⟩

theorem within_eq_ok {part : Part} {a : Checked α} {x : α} (h : a.within part = ok x) : a = ok x := by
  cases a with
  | error cs => cases h
  | ok y => exact h

theorem keeping_eq_ok {a : Checked α} {rule : String} {kept : α → Bool} {x : α}
    (h : a.keeping rule kept = ok x) : a = ok x ∧ kept x = true := by
  cases a with
  | error cs => cases h
  | ok y =>
    change (if kept y = true then ok y else fail (.broken rule)) = ok x at h
    split at h
    · rename_i hkept
      cases h
      exact ⟨rfl, hkept⟩
    · cases h

end Schema.Checked

/-! ## Waits -/

namespace WaitDocument

variable {ms : Json.Members} {w : WaitDocument}

/-- The parts of a wait are read from these members, and there are no others. -/
structure ReadFrom (ms : Json.Members) (w : WaitDocument) : Prop where
  action : ∃ name, actionField.optional none (nullable (oneOf ["wait"])) ms = Checked.ok name
  «for» : forField.required text ms = Checked.ok w.for
  selector : selectorField.optional none (nullable text) ms = Checked.ok w.selector
  xpath : xpathField.optional none (nullable text) ms = Checked.ok w.xpath
  state : stateField.optional none (nullable text) ms = Checked.ok w.state
  visible : visibleField.optional none (nullable bool) ms = Checked.ok w.visible
  hidden : hiddenField.optional none (nullable bool) ms = Checked.ok w.hidden
  timeout : timeoutField.optional none (nullable nonNegative) ms = Checked.ok w.timeout
  waitUntil : waitUntilField.optional none (nullable text) ms = Checked.ok w.waitUntil
  url : urlField.optional none (nullable text) ms = Checked.ok w.url
  function : functionField.optional none (nullable text) ms = Checked.ok w.function
  args : argsField.optional [] list ms = Checked.ok w.args
  polling : pollingField.optional none (nullable readPolling) ms = Checked.ok w.polling
  strangers : noStrangers fields ms = Checked.ok ()

theorem readFrom_of_ofMembers (h : ofMembers ms = Checked.ok w) : ReadFrom ms w := by
  obtain ⟨h1, _, hstrangers⟩ := Checked.seqLeft_eq_ok h
  obtain ⟨g, polling, h2, hpolling, rfl⟩ := Checked.seq_eq_ok h1
  obtain ⟨g, args, h3, hargs, rfl⟩ := Checked.seq_eq_ok h2
  obtain ⟨g, function, h4, hfunction, rfl⟩ := Checked.seq_eq_ok h3
  obtain ⟨g, url, h5, hurl, rfl⟩ := Checked.seq_eq_ok h4
  obtain ⟨g, waitUntil, h6, hwaitUntil, rfl⟩ := Checked.seq_eq_ok h5
  obtain ⟨g, timeout, h7, htimeout, rfl⟩ := Checked.seq_eq_ok h6
  obtain ⟨g, hidden, h8, hhidden, rfl⟩ := Checked.seq_eq_ok h7
  obtain ⟨g, visible, h9, hvisible, rfl⟩ := Checked.seq_eq_ok h8
  obtain ⟨g, state, h10, hstate, rfl⟩ := Checked.seq_eq_ok h9
  obtain ⟨g, xpath, h11, hxpath, rfl⟩ := Checked.seq_eq_ok h10
  obtain ⟨g, selector, h12, hselector, rfl⟩ := Checked.seq_eq_ok h11
  obtain ⟨g, word, h13, hword, rfl⟩ := Checked.seq_eq_ok h12
  obtain ⟨name, hname, rfl⟩ := Checked.map_eq_ok h13
  exact ⟨⟨name, hname⟩, hword, hselector, hxpath, hstate, hvisible, hhidden, htimeout, hwaitUntil, hurl,
    hfunction, hargs, hpolling, hstrangers⟩

theorem read_eq_ok {v : Json} (h : read v = Checked.ok w) : ∃ ms, v = .obj ms ∧ ReadFrom ms w := by
  cases v with
  | obj ms => exact ⟨ms, rfl, readFrom_of_ofMembers h⟩
  | _ => cases h

end WaitDocument

/-! ## Steps -/

namespace StepDocument

variable {a : Action} {ms : Json.Members} {nested : List (String × Checked (List StepDocument))} {d : StepDocument}

/-- The parts of a step of this action are read from these members, and there are no others. -/
inductive ReadFrom (ms : Json.Members) (nested : List (String × Checked (List StepDocument))) :
    Action → StepDocument → Prop where
  | click {selector xpath inner word}
      (hselector : selectorField.optional none (nullable text) ms = Checked.ok selector)
      (hxpath : xpathField.optional none (nullable text) ms = Checked.ok xpath)
      (hwait : waitField.optional none (nullable WaitDocument.read) ms = Checked.ok inner)
      (hword : waitForField.optional none (nullable text) ms = Checked.ok word)
      (hstrangers : noStrangers (fields .click) ms = Checked.ok ()) :
      ReadFrom ms nested .click (.click selector xpath inner word)
  | type {words selector xpath delay}
      (hwords : textField.required text ms = Checked.ok words)
      (hselector : selectorField.optional none (nullable text) ms = Checked.ok selector)
      (hxpath : xpathField.optional none (nullable text) ms = Checked.ok xpath)
      (hdelay : delayField.optional (.int 0) (fun v => Number.float <$> nonNegative v) ms = Checked.ok delay)
      (hstrangers : noStrangers (fields .type) ms = Checked.ok ()) :
      ReadFrom ms nested .type (.type words selector xpath delay)
  | go {place waitUntil timeout}
      (hplace : toField.required someText ms = Checked.ok place)
      (hwaitUntil : waitUntilField.optional none (nullable (oneOf loadStates)) ms = Checked.ok waitUntil)
      (htimeout : timeoutField.optional none (nullable nonNegative) ms = Checked.ok timeout)
      (hstrangers : noStrangers (fields .go) ms = Checked.ok ()) :
      ReadFrom ms nested .go (.go place waitUntil timeout)
  | wait {what} (hwhat : WaitDocument.ReadFrom ms what) : ReadFrom ms nested .wait (.wait what)
  | scrape {data path}
      (hdata : dataField.required dictionary ms = Checked.ok data)
      (hpath : pathField.required someText ms = Checked.ok path)
      (hstrangers : noStrangers (fields .scrape) ms = Checked.ok ()) :
      ReadFrom ms nested .scrape (.scrape data path)
  | screenshot {path fullPage}
      (hpath : pathField.required someText ms = Checked.ok path)
      (hfullPage : fullPageField.optional false bool ms = Checked.ok fullPage)
      (hstrangers : noStrangers (fields .screenshot) ms = Checked.ok ()) :
      ReadFrom ms nested .screenshot (.screenshot path fullPage)
  | «repeat» {times steps}
      (htimes : timesField.optional 0 int ms = Checked.ok times)
      (hsteps : stepsField.optional [] id nested = Checked.ok steps)
      (hstrangers : noStrangers (fields .repeat) ms = Checked.ok ()) :
      ReadFrom ms nested .repeat (.repeat times steps)
  | crawl {selector xpath attributeName steps}
      (hselector : selectorField.optional none (nullable text) ms = Checked.ok selector)
      (hxpath : xpathField.optional none (nullable text) ms = Checked.ok xpath)
      (hattribute : attributeField.optional "href" text ms = Checked.ok attributeName)
      (hsteps : stepsField.optional [] id nested = Checked.ok steps)
      (hstrangers : noStrangers (fields .crawl) ms = Checked.ok ()) :
      ReadFrom ms nested .crawl (.crawl selector xpath attributeName steps)

theorem readFrom_of_ofMembers (h : ofMembers a ms nested = Checked.ok d) : ReadFrom ms nested a d := by
  cases a with
  | click =>
    obtain ⟨h1, _, hstrangers⟩ := Checked.seqLeft_eq_ok h
    obtain ⟨g, word, h2, hword, rfl⟩ := Checked.seq_eq_ok h1
    obtain ⟨g, inner, h3, hwait, rfl⟩ := Checked.seq_eq_ok h2
    obtain ⟨g, xpath, h4, hxpath, rfl⟩ := Checked.seq_eq_ok h3
    obtain ⟨selector, hselector, rfl⟩ := Checked.map_eq_ok h4
    exact .click hselector hxpath hwait hword hstrangers
  | type =>
    obtain ⟨h1, _, hstrangers⟩ := Checked.seqLeft_eq_ok h
    obtain ⟨g, delay, h2, hdelay, rfl⟩ := Checked.seq_eq_ok h1
    obtain ⟨g, xpath, h3, hxpath, rfl⟩ := Checked.seq_eq_ok h2
    obtain ⟨g, selector, h4, hselector, rfl⟩ := Checked.seq_eq_ok h3
    obtain ⟨words, hwords, rfl⟩ := Checked.map_eq_ok h4
    exact .type hwords hselector hxpath hdelay hstrangers
  | go =>
    obtain ⟨h1, _, hstrangers⟩ := Checked.seqLeft_eq_ok h
    obtain ⟨g, timeout, h2, htimeout, rfl⟩ := Checked.seq_eq_ok h1
    obtain ⟨g, waitUntil, h3, hwaitUntil, rfl⟩ := Checked.seq_eq_ok h2
    obtain ⟨place, hplace, rfl⟩ := Checked.map_eq_ok h3
    exact .go hplace hwaitUntil htimeout hstrangers
  | wait =>
    obtain ⟨what, hwhat, rfl⟩ := Checked.map_eq_ok h
    exact .wait (WaitDocument.readFrom_of_ofMembers hwhat)
  | scrape =>
    obtain ⟨h1, _, hstrangers⟩ := Checked.seqLeft_eq_ok h
    obtain ⟨g, path, h2, hpath, rfl⟩ := Checked.seq_eq_ok h1
    obtain ⟨data, hdata, rfl⟩ := Checked.map_eq_ok h2
    exact .scrape hdata hpath hstrangers
  | screenshot =>
    obtain ⟨h1, _, hstrangers⟩ := Checked.seqLeft_eq_ok h
    obtain ⟨g, fullPage, h2, hfullPage, rfl⟩ := Checked.seq_eq_ok h1
    obtain ⟨path, hpath, rfl⟩ := Checked.map_eq_ok h2
    exact .screenshot hpath hfullPage hstrangers
  | «repeat» =>
    obtain ⟨h1, _, hstrangers⟩ := Checked.seqLeft_eq_ok h
    obtain ⟨g, steps, h2, hsteps, rfl⟩ := Checked.seq_eq_ok h1
    obtain ⟨times, htimes, rfl⟩ := Checked.map_eq_ok h2
    exact .repeat htimes hsteps hstrangers
  | crawl =>
    obtain ⟨h1, _, hstrangers⟩ := Checked.seqLeft_eq_ok h
    obtain ⟨g, steps, h2, hsteps, rfl⟩ := Checked.seq_eq_ok h1
    obtain ⟨g, attributeName, h3, hattribute, rfl⟩ := Checked.seq_eq_ok h2
    obtain ⟨g, xpath, h4, hxpath, rfl⟩ := Checked.seq_eq_ok h3
    obtain ⟨selector, hselector, rfl⟩ := Checked.map_eq_ok h4
    exact .crawl hselector hxpath hattribute hsteps hstrangers

/-- A name that an action goes by is its own. -/
theorem name_of_ofString? {name : String} (h : Action.ofString? name = some a) : a.name = name := by
  simpa using List.find?_some h

/-- A value that is read as a step names its action, and the step keeps the rules over several members. -/
theorem read_eq_ok {v : Json} (h : read v = Checked.ok d) :
    ∃ ms a, v = .obj ms ∧ (v.member? tagKey).bind Json.text? = some a.name ∧ ReadFrom ms (readNested ms) a d ∧
      d.keepsTargetRule = true ∧ d.keepsWaitRule = true := by
  cases v with
  | obj ms =>
    rw [read] at h
    cases htag : Json.Members.get? ms tagKey with
    | none =>
      rw [htag] at h
      cases h
    | some tag =>
      cases ha : tag.text?.bind Action.ofString? with
      | none =>
        simp only [htag, ha] at h
        cases h
      | some a =>
        simp only [htag, ha, checked] at h
        obtain ⟨h, hwait⟩ := Checked.keeping_eq_ok (Checked.within_eq_ok h)
        obtain ⟨hof, htarget⟩ := Checked.keeping_eq_ok h
        obtain ⟨name, hname, hact⟩ := Option.bind_eq_some_iff.1 ha
        refine ⟨ms, a, rfl, ?_, readFrom_of_ofMembers hof, htarget, hwait⟩
        rw [Json.member?, htag, name_of_ofString? hact]
        exact hname
  | _ => cases h

end StepDocument

/-! ## Plans -/

namespace Plan

variable {settings : Settings} {source : Option String} {v : Json} {plan : Plan} {fault : PlanFault}

theorem build_eq_ok {d : Document} (h : build settings source d = .ok plan) :
    buildSteps false "steps" 0 d.steps = .ok plan.steps ∧ plan.source = source := by
  rw [build] at h
  cases hsteps : buildSteps false "steps" 0 d.steps with
  | error fault =>
    rw [hsteps] at h
    cases h
  | ok steps =>
    rw [hsteps] at h
    cases h
    exact ⟨rfl, rfl⟩

theorem build_eq_error {d : Document} (h : build settings source d = .error fault) :
    buildSteps false "steps" 0 d.steps = .error fault := by
  rw [build] at h
  cases hsteps : buildSteps false "steps" 0 d.steps with
  | error fault =>
    rw [hsteps] at h
    cases h
    rfl
  | ok steps =>
    rw [hsteps] at h
    cases h

/-- A plan comes of a document that could be read and whose steps could be built. -/
theorem ofJson_eq_ok (h : ofJson settings source v = .ok plan) :
    ∃ ms d, v = .obj ms ∧ Document.ofMembers ms = Checked.ok d ∧
      buildSteps false "steps" 0 d.steps = .ok plan.steps ∧ plan.source = source := by
  cases v with
  | obj ms =>
    rw [ofJson] at h
    cases hd : Document.ofMembers ms with
    | error complaints =>
      rw [hd] at h
      cases h
    | ok d =>
      rw [hd] at h
      exact ⟨ms, d, rfl, hd, build_eq_ok h⟩
  | _ => cases h

/-- A value is refused since it is no mapping, for what is wrong with its members, or for one of its steps. -/
theorem ofJson_eq_error (h : ofJson settings source v = .error fault) :
    fault = .notObject v.kindName ∨ (∃ complaints, fault = .invalid complaints) ∨
      ∃ ms d, v = .obj ms ∧ Document.ofMembers ms = Checked.ok d ∧
        buildSteps false "steps" 0 d.steps = .error fault := by
  cases v with
  | obj ms =>
    rw [ofJson] at h
    cases hd : Document.ofMembers ms with
    | error complaints =>
      rw [hd] at h
      cases h
      exact .inr (.inl ⟨complaints, rfl⟩)
    | ok d =>
      rw [hd] at h
      exact .inr (.inr ⟨ms, d, rfl, hd, build_eq_error h⟩)
  | _ =>
    cases h
    exact .inl rfl

end Plan
end BrowserPlan
