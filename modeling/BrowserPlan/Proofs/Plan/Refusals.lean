import BrowserPlan.Proofs.Plan.WellFormed

/-!
# Why a document is refused

Every JSON value either describes a plan or is refused. A refusal tells the place of the fault in
the document, with one exception: a pattern may hold a number or flags that no pattern can have, and
then the refusal says no more than that. `Spoils` says of a text that it is such a pattern, or an
address that introduces one. The exception is traced to the document from the inside out: to the
members of a specification (`spoiled_of_read`), to a step of its own (`spoiled_of_refused`), and to a
text that the value holds (`StepDocument.spoiled_of_read`). `refused_with_place` is the whole.
-/
namespace BrowserPlan

open Schema

/-- A text stands somewhere in a value. -/
inductive Json.Holds : Json → String → Prop where
  | str (s) : Holds (.str s) s
  | unpaired (s) : Holds (.unpaired s) s
  | item {v vs s} (hv : v ∈ vs) (h : Holds v s) : Holds (.arr vs) s
  | member {m ms s} (hm : m ∈ ms) (h : Holds m.2 s) : Holds (.obj ms) s

/-- A pattern at fault with a number or with flags that no pattern can have. -/
def Pattern.Fault.Spoils (fault : Pattern.Fault) (text : String) (flags : Pattern.Flags) : Prop :=
  fault.isPatternError = false ∧ Pattern.compile text flags = .error fault

namespace Json

variable {v : Json} {ms : Json.Members} {s : String}

theorem Holds.of_text? (h : v.text? = some s) : v.Holds s := by
  cases v with
  | str t =>
    cases h
    exact .str s
  | unpaired t =>
    cases h
    exact .unpaired s
  | _ => cases h

theorem Holds.of_get? {key : String} (h : Members.get? ms key = some v) (hv : v.Holds s) :
    Holds (.obj ms) s := by
  obtain ⟨m, hm, rfl⟩ := Option.map_eq_some_iff.1 h
  exact .member (List.mem_of_find?_eq_some hm) hv

theorem Holds.of_find? {f : Field} {m : String × Json} (h : f.find? ms = some m)
    (hm : m.2.Holds s) : Holds (.obj ms) s := by
  rw [Field.find?] at h
  split at h
  · rename_i hfind
    cases h
    exact .member (List.mem_of_find?_eq_some hfind) hm
  · obtain ⟨name, -, hfind⟩ := Option.bind_eq_some_iff.1 h
    exact .member (List.mem_of_find?_eq_some hfind) hm

/-- A value holds what its steps hold. -/
theorem Holds.of_stepsAt {f : Field} {c : Json} (hc : c ∈ v.stepsAt f) (h : c.Holds s) :
    v.Holds s := by
  rw [stepsAt] at hc
  cases hm : f.find? v.members with
  | none =>
    rw [hm] at hc
    cases hc
  | some m =>
    rw [hm] at hc
    change c ∈ m.2.items at hc
    cases v with
    | obj ms =>
      refine .of_find? hm ?_
      cases hv : m.2 with
      | arr vs =>
        rw [hv] at hc
        exact .item hc h
      | _ =>
        rw [hv] at hc
        cases hc
    | _ =>
      rw [Field.find?] at hm
      cases hn : f.otherName <;> simp [members, hn] at hm

theorem Holds.of_within {c : Json} (hc : Within Json.subSteps v.planSteps c) (h : c.Holds s) :
    v.Holds s := by
  obtain ⟨r, hr, hc⟩ := hc
  refine .of_stepsAt hr ?_
  rcases hc with rfl | hc
  · exact h
  · induction hc with
    | child hb => exact .of_stepsAt hb h
    | deeper _ hc ih => exact ih (.of_stepsAt hc h)

end Json

/-! ## Specifications -/

namespace Spec

variable {path : String} {ms : Json.Members} {fault : Pattern.Fault}

theorem holds_of_optionalText {name s : String} (h : optionalText path ms name = .ok (some s)) :
    (Json.obj ms).Holds s := by
  rw [optionalText] at h
  split at h
  · cases h
  · cases h
  · rename_i v _ hv
    split at h
    · rename_i t ht
      have hs : t = s := by
        split at h
        · cases h
        · exact Option.some.inj (Except.ok.inj h)
      exact .of_get? hv (hs ▸ .of_text? ht)
    · cases h

theorem optionalText_ne_unreadable {name : String} :
    optionalText path ms name ≠ .error (.unreadable fault) := by
  unfold optionalText
  split
  · rintro ⟨⟩
  · rintro ⟨⟩
  · split <;> rintro ⟨⟩

theorem spoils_of_checkPattern {regex : String}
    (h : checkPattern path regex = .error (.unreadable fault)) : fault.Spoils regex .caseless := by
  rw [checkPattern] at h
  split at h
  · cases h
  · rename_i f hf
    split at h
    · cases h
    · rename_i herror
      cases h
      exact ⟨by simpa using herror, hf⟩

theorem readTexts_ne_unreadable : readTexts path ms ≠ .error (.unreadable fault) := by
  intro h
  have hne : ∀ {name}, optionalText path ms name ≠ .error (.unreadable fault) :=
    optionalText_ne_unreadable
  rw [readTexts] at h
  simp only at h
  split at h
  · cases h
  · obtain ⟨selector, -, h⟩ := (of_bind_eq_error h).resolve_left hne
    obtain ⟨xpath, -, h⟩ := (of_bind_eq_error h).resolve_left hne
    obtain ⟨regex, -, h⟩ := (of_bind_eq_error h).resolve_left hne
    obtain ⟨attributeName, -, h⟩ := (of_bind_eq_error h).resolve_left hne
    obtain ⟨source, -, h⟩ := (of_bind_eq_error h).resolve_left hne
    cases h

/-- The pattern of a field is among its members. -/
theorem holds_of_readTexts {f : FieldSpec} {regex : String} (h : readTexts path ms = .ok f)
    (hr : f.regex = some regex) : (Json.obj ms).Holds regex := by
  rw [readTexts] at h
  simp only at h
  split at h
  · cases h
  · obtain ⟨selector, -, h⟩ := exists_of_bind_eq_ok h
    obtain ⟨xpath, -, h⟩ := exists_of_bind_eq_ok h
    obtain ⟨o, hregex, h⟩ := exists_of_bind_eq_ok h
    obtain ⟨attributeName, -, h⟩ := exists_of_bind_eq_ok h
    obtain ⟨source, -, h⟩ := exists_of_bind_eq_ok h
    cases h
    obtain rfl : o = some regex := hr
    exact holds_of_optionalText hregex

theorem spoils_of_leaf {f : FieldSpec} (h : leaf path f = .error (.unreadable fault)) :
    ∃ regex, f.regex = some regex ∧ fault.Spoils regex .caseless := by
  rw [leaf] at h
  simp only at h
  split at h
  · cases h
  · cases hr : f.regex with
    | none =>
      rw [hr] at h
      cases h
    | some regex =>
      rw [hr] at h
      simp only at h
      split at h
      · cases h
      · rcases of_bind_eq_error h with hp | ⟨u, -, h⟩
        · exact ⟨regex, rfl, spoils_of_checkPattern hp⟩
        · cases h

/-- A value holds a pattern that is at fault with a number or with flags. -/
def Spoiled (fault : Pattern.Fault) (v : Json) : Prop := ∃ s, v.Holds s ∧ fault.Spoils s .caseless

theorem Spoiled.member {m : String × Json} (h : Spoiled fault m.2) (hm : m ∈ ms) :
    Spoiled fault (.obj ms) := by
  obtain ⟨s, hs, hspoils⟩ := h
  exact ⟨s, .member hm hs, hspoils⟩

mutual

theorem spoiled_of_read : ∀ (path : String) (v : Json),
    read path v = .error (.unreadable fault) → Spoiled fault v
  | path, .obj ms, h => by
    rw [read] at h
    obtain ⟨m, hm, hspoiled⟩ := spoiled_of_readMembers path ms h
    exact hspoiled.member hm
  | _, .null, h | _, .bool _, h | _, .int _, h | _, .float _, h | _, .str _, h
  | _, .unpaired _, h | _, .arr _, h => by
    rw [read] at h
    · cases h
    · nofun

theorem spoiled_of_readMembers : ∀ (path : String) (ms : List (String × Json)),
    readMembers path ms = .error (.unreadable fault) → ∃ m ∈ ms, Spoiled fault m.2
  | _, [], h => by
    rw [readMembers] at h
    cases h
  | path, (key, v) :: rest, h => by
    rw [readMembers] at h
    split at h
    · cases h
    rcases of_bind_eq_error h with hf | ⟨f, -, h⟩
    · exact ⟨_, List.mem_cons_self, spoiled_of_readField _ v hf⟩
    · rcases of_bind_eq_error h with hrest | ⟨fs, -, h⟩
      · obtain ⟨m, hm, hspoiled⟩ := spoiled_of_readMembers path rest hrest
        exact ⟨m, List.mem_cons_of_mem _ hm, hspoiled⟩
      · cases h

theorem spoiled_of_readField : ∀ (path : String) (v : Json),
    readField path v = .error (.unreadable fault) → Spoiled fault v
  | path, .obj ms, h => by
    rw [readField] at h
    obtain ⟨texts, ht, h⟩ := (of_bind_eq_error h).resolve_left readTexts_ne_unreadable
    split at h
    · obtain ⟨regex, hregex, hspoils⟩ := spoils_of_leaf h
      exact ⟨regex, holds_of_readTexts ht hregex, hspoils⟩
    · rename_i children hc
      rcases of_bind_eq_error h with rfl | ⟨cs, -, h⟩
      · obtain ⟨m, hm, hspoiled⟩ := spoiled_of_readChildren path _ ms hc
        exact hspoiled.member hm
      · cases h
  | _, .str _, h | _, .unpaired _, h => by
    rw [readField] at h
    split at h <;> cases h
  | _, .null, h | _, .bool _, h | _, .int _, h | _, .float _, h | _, .arr _, h => by
    rw [readField] at h
    · cases h
    all_goals nofun

theorem spoiled_of_readChildren : ∀ (path : String) (twoTargets : Bool)
    (ms : List (String × Json)),
    readChildren path twoTargets ms = some (.error (.unreadable fault)) → ∃ m ∈ ms, Spoiled fault m.2
  | _, _, [], h => by
    rw [readChildren] at h
    cases h
  | path, twoTargets, (key, v) :: rest, h => by
    rw [readChildren] at h
    split at h
    · split at h
      · cases h
      · split at h
        · cases h
        · exact ⟨_, List.mem_cons_self, spoiled_of_read _ v (Option.some.inj h)⟩
    · obtain ⟨m, hm, hspoiled⟩ := spoiled_of_readChildren path twoTargets rest h
      exact ⟨m, List.mem_cons_of_mem _ hm, hspoiled⟩

end

end Spec

/-! ## Waits -/

/-- The pattern that an address introduces is at fault with a number or with flags. -/
def Pattern.Fault.SpoilsAddress (fault : Pattern.Fault) (url : String) : Prop :=
  ∃ pattern, patternText? url = some pattern ∧ fault.Spoils pattern .none

theorem WaitCondition.spoils_of_check {c : WaitCondition} {fault : Pattern.Fault}
    (h : c.check = .error (.unreadable fault)) : ∃ url, c.url = some url ∧ fault.SpoilsAddress url := by
  unfold check at h
  split at h
  · cases h
  · split at h
    · cases h
    · split at h
      · cases h
      · split at h
        · cases h
        · rename_i url hurl
          refine ⟨url, hurl, ?_⟩
          have hcheck : checkUrl url = .error (.unreadable fault) :=
            (of_bind_eq_error h).resolve_right (by rintro ⟨_, _, h⟩; cases h)
          unfold checkUrl UrlMatcher.read at hcheck
          cases hp : patternText? url with
          | none =>
            rw [hp] at hcheck
            cases hcheck
          | some pattern =>
            rw [hp] at hcheck
            refine ⟨pattern, hp, ?_⟩
            cases hcompile : Pattern.compile pattern .none with
            | ok p =>
              simp only [hcompile] at hcheck
              cases hcheck
            | error f =>
              simp only [hcompile, Except.map] at hcheck
              split at hcheck
              · cases hcheck
              · rename_i herror
                cases hcheck
                exact ⟨by simpa using herror, hcompile⟩

/-! ## Steps -/

namespace PlanFault

/-- The fault of a pattern that a refusal passes on, without a place. -/
def unreadable? : PlanFault → Option Pattern.Fault
  | badWait _ (.unreadable fault) | badSpec (.unreadable fault) => some fault
  | _ => none

theorem isPlaced_eq_false_iff {fault : PlanFault} :
    fault.isPlaced = false ↔ ∃ f, fault.unreadable? = some f := by
  constructor
  · intro h
    rcases Plan.unreadable_of_not_isPlaced h with ⟨place, f, rfl⟩ | ⟨f, rfl⟩
    · exact ⟨f, rfl⟩
    · exact ⟨f, rfl⟩
  · rintro ⟨f, h⟩
    rw [unreadable?.eq_def] at h
    split at h
    · rfl
    · rfl
    · cases h

end PlanFault

namespace StepDocument

/-- The wait of a click or of a step that waits. -/
def wait? : StepDocument → Option WaitDocument
  | click _ _ w _ => w
  | wait w => some w
  | _ => none

/-- What a step extracts. -/
def data? : StepDocument → Option Json.Members
  | scrape data _ => some data
  | _ => none

/-- A step holds a pattern at fault with a number or with flags. -/
def Spoiled (fault : Pattern.Fault) (d : StepDocument) : Prop :=
  (∃ w ∈ d.wait?, ∃ url ∈ w.url, fault.SpoilsAddress url) ∨
    ∃ data ∈ d.data?, Spec.Spoiled fault (.obj data)

end StepDocument

namespace Plan

variable {b : Bool} {place : String} {n : Nat} {d : StepDocument} {ds : List StepDocument}
  {fault : PlanFault} {f : Pattern.Fault}

/-- A wait that is refused without a place has an address with a pattern at fault. -/
theorem spoils_of_placed {c : WaitCondition} (h : placed place c.check = .error fault)
    (hf : fault.unreadable? = some f) : ∃ url, c.url = some url ∧ f.SpoilsAddress url := by
  cases hc : c.check with
  | ok c' =>
    rw [hc] at h
    cases h
  | error e =>
    rw [hc] at h
    cases h
    cases e with
    | unreadable g =>
      cases hf
      exact WaitCondition.spoils_of_check hc
    | _ => cases hf

theorem unreadable_of_read {word : String} (h : placed place (WaitKind.read (.str word)) = .error fault) :
    fault.unreadable? = none := by
  rw [WaitKind.read] at h
  cases hk : WaitKind.ofString? word with
  | some kind =>
    rw [hk] at h
    cases h
  | none =>
    rw [hk] at h
    cases h
    rfl

theorem spoils_of_buildWait {w : WaitDocument} (h : buildWait place w = .error fault)
    (hf : fault.unreadable? = some f) : ∃ url, w.url = some url ∧ f.SpoilsAddress url := by
  rcases of_bind_eq_error h with hk | ⟨kind, -, h⟩
  · rw [unreadable_of_read hk] at hf
    cases hf
  · exact spoils_of_placed h hf

/-- A mere word for a wait introduces no pattern. -/
theorem unreadable_of_buildWaitFor {word : String} (h : buildWaitFor place word = .error fault) :
    fault.unreadable? = none := by
  rcases of_bind_eq_error h with hk | ⟨kind, -, h⟩
  · exact unreadable_of_read hk
  · cases hf : fault.unreadable? with
    | none => rfl
    | some f =>
      obtain ⟨url, hurl, -⟩ := spoils_of_placed h hf
      cases hurl

theorem spoils_of_buildClickWait {w : Option WaitDocument} {word : Option String}
    (h : buildClickWait place w word = .error fault) (hf : fault.unreadable? = some f) :
    ∃ w' ∈ w, ∃ url ∈ w'.url, f.SpoilsAddress url := by
  have herror : ∀ {r : Except PlanFault WaitCondition}, some <$> r = .error fault →
      r = .error fault := by
    intro r hr
    cases r with
    | ok c => cases hr
    | error e =>
      cases hr
      rfl
  cases w with
  | some w => exact ⟨w, rfl, spoils_of_buildWait (herror h) hf⟩
  | none =>
    cases word with
    | none => cases h
    | some word =>
      rw [buildClickWait] at h
      split at h
      · cases h
      · rw [unreadable_of_buildWaitFor (herror h)] at hf
        cases hf

/-- A step that is refused without a place holds a pattern at fault, or a step below it is refused. -/
theorem spoiled_of_buildStep (h : buildStep b place d = .error fault)
    (hf : fault.unreadable? = some f) : d.Spoiled f ∨
      ∃ b', buildSteps b' (place ++ ".subSteps") 0 d.subSteps = .error fault := by
  cases d with
  | click selector xpath w word =>
    rw [buildStep] at h
    rcases of_bind_eq_error h with hw | ⟨c, -, h⟩
    · exact .inl (.inl (spoils_of_buildClickWait hw hf))
    · cases h
  | type | go | screenshot => cases h
  | wait what =>
    rw [buildStep] at h
    cases hw : buildWait place what <;> rw [hw] at h <;> cases h
    exact .inl (.inl ⟨what, rfl, spoils_of_buildWait hw hf⟩)
  | scrape data path =>
    rw [buildStep] at h
    cases hr : Spec.read (place ++ ".data") (.obj data) with
    | ok spec =>
      rw [hr] at h
      cases h
    | error e =>
      rw [hr] at h
      cases h
      cases e with
      | malformed => cases hf
      | unreadable g =>
        cases hf
        exact .inl (.inr ⟨data, rfl, Spec.spoiled_of_read _ _ hr⟩)
  | «repeat» times steps =>
    rw [buildStep] at h
    cases hs : buildSteps b (place ++ ".subSteps") 0 steps <;> rw [hs] at h <;> cases h
    exact .inr ⟨b, hs⟩
  | crawl selector xpath attributeName steps =>
    rw [buildStep] at h
    split at h
    · cases h
      cases hf
    · cases hs : buildSteps true (place ++ ".subSteps") 0 steps <;> rw [hs] at h <;> cases h
      exact .inr ⟨true, hs⟩

/-- Of a list that is refused, one document is. -/
theorem exists_refused (h : buildSteps b place n ds = .error fault) :
    ∃ d ∈ ds, ∃ place, buildStep b place d = .error fault := by
  induction ds generalizing n with
  | nil => cases h
  | cons d ds ih =>
    rcases buildSteps_cons_error h with h | h
    · exact ⟨d, List.mem_cons_self, _, h⟩
    · obtain ⟨e, he, hrefused⟩ := ih h
      exact ⟨e, List.mem_cons_of_mem _ he, hrefused⟩

/-- Where a step is refused without a place, it or a step below it holds a pattern at fault. -/
theorem spoiled_of_refused {b : Bool} {place : String} {d : StepDocument}
    (h : buildStep b place d = .error fault) (hf : fault.unreadable? = some f) :
    ∃ c, (c = d ∨ Below StepDocument.subSteps d c) ∧ c.Spoiled f := by
  rcases spoiled_of_buildStep h hf with hspoiled | ⟨b', hsub⟩
  · exact ⟨d, .inl rfl, hspoiled⟩
  · obtain ⟨e, he, place', hrefused⟩ := exists_refused hsub
    have := StepDocument.sizeOf_lt he
    obtain ⟨c, hc, hspoiled⟩ := spoiled_of_refused hrefused hf
    refine ⟨c, .inr ?_, hspoiled⟩
    rcases hc with rfl | hc
    · exact .child he
    · exact .head he hc
termination_by sizeOf d

/-- A value that is refused without a place was read as a document. -/
theorem refused_steps {settings : Settings} {source : Option String} {v : Json}
    (h : ofJson settings source v = .error fault) (hf : fault.unreadable? = some f) :
    ∃ ms d, v = .obj ms ∧ Document.ofMembers ms = Checked.ok d ∧
      buildSteps false "steps" 0 d.steps = .error fault := by
  obtain rfl | ⟨complaints, rfl⟩ | hrefused := ofJson_eq_error h
  · cases hf
  · cases hf
  · exact hrefused

end Plan

/-! ## Texts of a document -/

namespace Schema

variable {α : Type} {f : Field} {ms : Json.Members} {read : Reader α} {x : α}

/-- What is read from a member that must be there is read from its value. -/
theorem Field.exists_of_required (h : f.required read ms = Checked.ok x) :
    ∃ m, f.find? ms = some m ∧ read m.2 = Checked.ok x := by
  rw [Field.required] at h
  cases hm : f.find? ms with
  | none =>
    rw [hm] at h
    cases h
  | some m =>
    rw [hm] at h
    exact ⟨m, rfl, Checked.within_eq_ok h⟩

/-- What is read where null may stand is read from the value. -/
theorem nullable_eq_some {v : Json} (h : nullable read v = Checked.ok (some x)) :
    read v = Checked.ok x := by
  cases v with
  | null => cases h
  | _ =>
    obtain ⟨y, hy, heq⟩ := Checked.map_eq_ok h
    cases heq
    exact hy

/-- What is read from a member that may be left out is read from its value. -/
theorem Field.exists_of_optional (h : f.optional none (nullable read) ms = Checked.ok (some x)) :
    ∃ m, f.find? ms = some m ∧ read m.2 = Checked.ok x := by
  rw [Field.optional] at h
  cases hm : f.find? ms with
  | none =>
    rw [hm] at h
    cases h
  | some m =>
    rw [hm] at h
    exact ⟨m, rfl, nullable_eq_some (Checked.within_eq_ok h)⟩

theorem text_eq_ok {v : Json} {s : String} (h : text v = Checked.ok s) : v = .str s := by
  cases v <;> cases h
  rfl

theorem dictionary_eq_ok {v : Json} (h : dictionary v = Checked.ok ms) : v = .obj ms := by
  cases v <;> cases h
  rfl

theorem Field.holds_of_optional {s : String}
    (h : f.optional none (nullable text) ms = Checked.ok (some s)) : (Json.obj ms).Holds s := by
  obtain ⟨m, hm, hread⟩ := exists_of_optional h
  exact .of_find? hm (text_eq_ok hread ▸ .str s)

end Schema

theorem WaitDocument.ReadFrom.holds_url {ms : Json.Members} {w : WaitDocument} {url : String}
    (h : ReadFrom ms w) (hurl : w.url = some url) : (Json.obj ms).Holds url :=
  Field.holds_of_optional (hurl ▸ h.url)

/-- A text of a value is, as a pattern or as an address, at fault with a number or with flags. -/
def Json.Spoiled (fault : Pattern.Fault) (v : Json) : Prop :=
  ∃ s, v.Holds s ∧ (fault.Spoils s .caseless ∨ fault.SpoilsAddress s)

namespace StepDocument

variable {fault : Pattern.Fault} {ms : Json.Members} {d : StepDocument}

theorem not_spoiled (hw : d.wait? = none) (hdata : d.data? = none) : ¬ d.Spoiled fault := by
  rintro (⟨w, hw', -⟩ | ⟨data, hdata', -⟩)
  · cases hw.symm.trans hw'
  · cases hdata.symm.trans hdata'

/-- The wait of a click stands in the value that the step is read from. -/
theorem holds_waitField {w : WaitDocument} {url : String}
    (h : waitField.optional none (nullable WaitDocument.read) ms = Checked.ok (some w))
    (hurl : w.url = some url) : (Json.obj ms).Holds url := by
  obtain ⟨m, hm, hread⟩ := Field.exists_of_optional h
  obtain ⟨ms', hobj, hfrom⟩ := WaitDocument.read_eq_ok hread
  exact .of_find? hm (hobj ▸ hfrom.holds_url hurl)

/-- The specification of a scraping step stands in the value that the step is read from. -/
theorem holds_dataField {data : Json.Members} {s : String}
    (h : dataField.required dictionary ms = Checked.ok data) (hs : (Json.obj data).Holds s) :
    (Json.obj ms).Holds s := by
  obtain ⟨m, hm, hread⟩ := Field.exists_of_required h
  exact .of_find? hm (dictionary_eq_ok hread ▸ hs)

/-- What spoils a step stands in the value that the step is read from. -/
theorem ReadFrom.spoiled {a : Action} {nested : List (String × Checked (List StepDocument))}
    (h : ReadFrom ms nested a d) (hd : d.Spoiled fault) : (Json.obj ms).Spoiled fault := by
  cases h with
  | click _ _ hwait =>
    rcases hd with ⟨w, hw, url, hurl, hspoils⟩ | ⟨data, hdata, -⟩
    · cases hw
      exact ⟨url, holds_waitField hwait hurl, .inr hspoils⟩
    · cases hdata
  | wait hwhat =>
    rcases hd with ⟨w, hw, url, hurl, hspoils⟩ | ⟨data, hdata, -⟩
    · cases hw
      exact ⟨url, hwhat.holds_url hurl, .inr hspoils⟩
    · cases hdata
  | scrape hread =>
    rcases hd with ⟨w, hw, -⟩ | ⟨data, hdata, s, hs, hspoils⟩
    · cases hw
    · cases hdata
      exact ⟨s, holds_dataField hread hs, .inl hspoils⟩
  | type | go | screenshot | «repeat» | crawl => exact absurd hd (not_spoiled rfl rfl)

/-- What spoils a step stands in the value of the step. -/
theorem spoiled_of_read {v : Json} (h : read v = Checked.ok d) (hd : d.Spoiled fault) :
    v.Spoiled fault := by
  obtain ⟨ms, a, rfl, -, hfrom, -⟩ := read_eq_ok h
  exact hfrom.spoiled hd

end StepDocument

/-! ## Whole documents -/

namespace Plan

/-- Every value describes a plan or is refused. The refusal tells the place of the fault, unless
some text of the value is, as a pattern or as an address, at fault with a number or with flags that
no pattern can have; then it passes on that fault. -/
theorem refused_with_place (settings : Settings) (source : Option String) (v : Json) :
    (∃ plan, ofJson settings source v = .ok plan) ∨
      ∃ fault, ofJson settings source v = .error fault ∧
        (fault.isPlaced = true ∨ ∃ f, fault.unreadable? = some f ∧ v.Spoiled f) := by
  cases h : ofJson settings source v with
  | ok plan => exact .inl ⟨plan, rfl⟩
  | error fault =>
    refine .inr ⟨fault, rfl, ?_⟩
    cases hplaced : fault.isPlaced with
    | true => exact .inl rfl
    | false =>
      obtain ⟨f, hf⟩ := PlanFault.isPlaced_eq_false_iff.1 hplaced
      refine .inr ⟨f, hf, ?_⟩
      obtain ⟨ms, d, rfl, hd, hsteps⟩ := refused_steps h hf
      obtain ⟨e, he, place, hrefused⟩ := exists_refused hsteps
      obtain ⟨c, hc, hspoiled⟩ := spoiled_of_refused hrefused hf
      obtain ⟨v, hv, hread⟩ :=
        StepDocument.read_shape.flip.exists_within (document_of_ofMembers hd).flip ⟨e, he, hc⟩
      obtain ⟨s, hs, hspoils⟩ := StepDocument.spoiled_of_read hread hspoiled
      exact ⟨s, .of_within hv hs, hspoils⟩

end Plan
end BrowserPlan
