import BrowserPlan.Proofs.Plan.Reading
import Mathlib.Data.List.Forall2

/-!
# Crawls below crawls

`Nests` says of any kind of tree that a crawl lies somewhere below another one: of the JSON value of
a document, of the document read from it, and of the steps of a plan. Reading and building keep the
shape of the tree (`read_shape`, `build_shape`), so the three say the same where there is a plan.
`buildSteps` carries one flag downwards, that it is below a crawl; `blamed_of_refused` is what a
refusal for nesting means, and `kept_of_built` what the flag has kept out of a plan.
-/
namespace BrowserPlan

open Schema

/-! ## Trees -/

/-- `Below sub a b`: `b` lies below `a`, at any depth. -/
inductive Below {α : Type} (sub : α → List α) (a : α) : α → Prop where
  | child {b} (h : b ∈ sub a) : Below sub a b
  | deeper {b c} (h : Below sub a b) (hc : c ∈ sub b) : Below sub a c

/-- Among the trees with the given roots there is a crawl below another crawl. -/
def Nests {α : Type} (sub : α → List α) (isCrawl : α → Prop) (roots : List α) : Prop :=
  ∃ r ∈ roots, ∃ c, (c = r ∨ Below sub r c) ∧ isCrawl c ∧ ∃ d, Below sub c d ∧ isCrawl d

section
variable {α β : Type} {sub : α → List α} {isCrawl : α → Prop} {sub' : β → List β}
  {isCrawl' : β → Prop} {R : α → β → Prop} {a b : α} {roots : List α} {roots' : List β}

theorem Below.head (h : b ∈ sub a) {c : α} (hc : Below sub b c) : Below sub a c := by
  induction hc with
  | child hc => exact .deeper (.child h) hc
  | deeper _ hc ih => exact .deeper ih hc

theorem exists_of_forall₂ (h : List.Forall₂ R roots roots') (ha : a ∈ roots) :
    ∃ b ∈ roots', R a b := by
  induction h with
  | nil => cases ha
  | cons hR _ ih =>
    rcases List.mem_cons.1 ha with rfl | ha
    · exact ⟨_, List.mem_cons_self, hR⟩
    · obtain ⟨b, hb, hab⟩ := ih ha
      exact ⟨b, List.mem_cons_of_mem _ hb, hab⟩

/-- Two kinds of trees have the same shape where `R` holds, and the same crawls. -/
structure SameShape (sub : α → List α) (isCrawl : α → Prop) (sub' : β → List β)
    (isCrawl' : β → Prop) (R : α → β → Prop) : Prop where
  below : ∀ {a b}, R a b → List.Forall₂ R (sub a) (sub' b)
  crawl : ∀ {a b}, R a b → (isCrawl a ↔ isCrawl' b)

namespace SameShape

theorem flip (h : SameShape sub isCrawl sub' isCrawl' R) :
    SameShape sub' isCrawl' sub isCrawl fun b a => R a b where
  below hR := (h.below hR).flip
  crawl hR := (h.crawl hR).symm

theorem exists_below (h : SameShape sub isCrawl sub' isCrawl' R) {a c : α} {b : β} (hR : R a b)
    (hc : Below sub a c) : ∃ d, Below sub' b d ∧ R c d := by
  induction hc with
  | child hc =>
    obtain ⟨d, hd, hcd⟩ := exists_of_forall₂ (h.below hR) hc
    exact ⟨d, .child hd, hcd⟩
  | deeper _ hc ih =>
    obtain ⟨d, hd, hcd⟩ := ih
    obtain ⟨e, he, hce⟩ := exists_of_forall₂ (h.below hcd) hc
    exact ⟨e, .deeper hd he, hce⟩

theorem nests (h : SameShape sub isCrawl sub' isCrawl' R) (hR : List.Forall₂ R roots roots') :
    Nests sub isCrawl roots → Nests sub' isCrawl' roots' := by
  rintro ⟨r, hr, c, hc, hcrawl, d, hd, hdcrawl⟩
  obtain ⟨r', hr', hrr⟩ := exists_of_forall₂ hR hr
  obtain ⟨c', hc', hcc⟩ : ∃ c', (c' = r' ∨ Below sub' r' c') ∧ R c c' := by
    rcases hc with rfl | hc
    · exact ⟨r', .inl rfl, hrr⟩
    · obtain ⟨c', hc', hcc⟩ := h.exists_below hrr hc
      exact ⟨c', .inr hc', hcc⟩
  obtain ⟨d', hd', hdd⟩ := h.exists_below hcc hd
  exact ⟨r', hr', c', hc', (h.crawl hcc).1 hcrawl, d', hd', (h.crawl hdd).1 hdcrawl⟩

end SameShape
end

/-! ## Steps -/

namespace Step

def IsCrawl (s : Step) : Prop := s.action = .crawl

/-- A crawl lies below another crawl. -/
abbrev Nested (steps : List Step) : Prop := Nests Step.subSteps Step.IsCrawl steps

mutual

/-- No crawl lies below another one; if `inCrawl` says that the step is below a crawl itself, there
is none at all. -/
def keepsApart (inCrawl : Bool) : Step → Bool
  | .repeat steps _ => allKeepApart inCrawl steps
  | .crawl _ _ _ steps => !inCrawl && allKeepApart true steps
  | _ => true

/-- The same for each of the steps. -/
def allKeepApart (inCrawl : Bool) : List Step → Bool
  | [] => true
  | s :: rest => keepsApart inCrawl s && allKeepApart inCrawl rest

end

theorem allKeepApart_iff {b : Bool} {steps : List Step} :
    allKeepApart b steps = true ↔ ∀ s ∈ steps, keepsApart b s = true := by
  induction steps with
  | nil => simp [allKeepApart]
  | cons s rest ih => simp [allKeepApart, ih]

theorem keepsApart_of_true {s : Step} (h : keepsApart true s = true) : keepsApart false s = true := by
  cases s with
  | «repeat» steps times =>
    rw [keepsApart, allKeepApart_iff] at h ⊢
    exact fun c hc => keepsApart_of_true (h c hc)
  | crawl => exact absurd h (by simp [keepsApart])
  | _ => rfl
termination_by s

/-- What holds of a step holds of those right below it; below a crawl there is no other. -/
theorem keepsApart_sub {b : Bool} {s c : Step} (h : keepsApart b s = true) (hc : c ∈ s.subSteps) :
    keepsApart b c = true ∧ (s.IsCrawl → keepsApart true c = true) := by
  cases s with
  | «repeat» steps times =>
    rw [keepsApart, allKeepApart_iff] at h
    exact ⟨h c hc, fun hs => nomatch hs⟩
  | crawl selector xpath attributeName steps =>
    rw [keepsApart, Bool.and_eq_true, allKeepApart_iff] at h
    have hb : b = false := by simpa using h.1
    have htrue := h.2 c hc
    exact ⟨hb ▸ keepsApart_of_true htrue, fun _ => htrue⟩
  | _ => cases hc

theorem keepsApart_of_sub {b : Bool} {s : Step}
    (h : ¬ s.IsCrawl → ∀ c ∈ s.subSteps, keepsApart b c = true)
    (hcrawl : s.IsCrawl → b = false ∧ ∀ c ∈ s.subSteps, keepsApart true c = true) :
    keepsApart b s = true := by
  cases s with
  | «repeat» steps times =>
    rw [keepsApart, allKeepApart_iff]
    exact h nofun
  | crawl selector xpath attributeName steps =>
    obtain ⟨hb, hsub⟩ := hcrawl rfl
    have hall : allKeepApart true steps = true := allKeepApart_iff.2 hsub
    rw [keepsApart, hb, hall]
    rfl
  | _ => rfl

theorem keepsApart_below {b : Bool} {s c : Step} (h : keepsApart b s = true)
    (hc : Below Step.subSteps s c) : keepsApart b c = true := by
  induction hc with
  | child hc => exact (keepsApart_sub h hc).1
  | deeper _ hc ih => exact (keepsApart_sub ih hc).1

theorem keepsApart_below_crawl {b : Bool} {s c : Step} (h : keepsApart b s = true)
    (hs : s.IsCrawl) (hc : Below Step.subSteps s c) : keepsApart true c = true := by
  induction hc with
  | child hc => exact (keepsApart_sub h hc).2 hs
  | deeper _ hc ih => exact (keepsApart_sub ih hc).1

/-- Steps that keep crawls apart do not nest them. -/
theorem not_nested {b : Bool} {steps : List Step} (h : allKeepApart b steps = true) :
    ¬ Nested steps := by
  rintro ⟨r, hr, c, hc, hcrawl, d, hd, hdcrawl⟩
  have hcb : keepsApart b c = true := by
    have hrb := allKeepApart_iff.1 h r hr
    rcases hc with rfl | hc
    · exact hrb
    · exact keepsApart_below hrb hc
  have hdb := keepsApart_below_crawl hcb hcrawl hd
  cases d with
  | crawl => exact absurd hdb (by simp [keepsApart])
  | _ => cases hdcrawl

/-- A step without any crawl can stand below one. -/
theorem keepsApart_of_no_crawl {s : Step} (hs : ¬ s.IsCrawl)
    (hbelow : ∀ d, Below Step.subSteps s d → ¬ d.IsCrawl) : keepsApart true s = true := by
  cases s with
  | «repeat» steps times =>
    rw [keepsApart, allKeepApart_iff]
    exact fun c hc => keepsApart_of_no_crawl (hbelow c (.child hc)) fun d hd => hbelow d (.head hc hd)
  | crawl => exact absurd rfl hs
  | _ => rfl
termination_by s

/-- A step with no crawl below another one keeps crawls apart. -/
theorem keepsApart_of_apart {s : Step}
    (h : ∀ c, c = s ∨ Below Step.subSteps s c → c.IsCrawl →
      ∀ d, Below Step.subSteps c d → ¬ d.IsCrawl) : keepsApart false s = true := by
  cases s with
  | «repeat» steps times =>
    rw [keepsApart, allKeepApart_iff]
    refine fun c hc => keepsApart_of_apart fun c' hc' => h c' (.inr ?_)
    rcases hc' with rfl | hc'
    · exact .child hc
    · exact .head hc hc'
  | crawl selector xpath attributeName steps =>
    have hsub := h _ (.inl rfl) rfl
    have hall : allKeepApart true steps = true := allKeepApart_iff.2 fun c hc =>
      keepsApart_of_no_crawl (hsub c (.child hc)) fun d hd => hsub d (.head hc hd)
    rw [keepsApart, hall]
    rfl
  | _ => rfl
termination_by s

theorem allKeepApart_of_not_nested {steps : List Step} (h : ¬ Nested steps) :
    allKeepApart false steps = true :=
  allKeepApart_iff.2 fun r hr => keepsApart_of_apart fun c hc hcrawl d hd hdcrawl =>
    h ⟨r, hr, c, hc, hcrawl, d, hd, hdcrawl⟩

end Step

/-! ## Documents of steps -/

namespace StepDocument

/-- The documents right below a document. -/
def subSteps : StepDocument → List StepDocument
  | «repeat» _ steps | crawl _ _ _ steps => steps
  | _ => []

def IsCrawl : StepDocument → Prop
  | crawl .. => True
  | _ => False

theorem sizeOf_lt {c d : StepDocument} (h : c ∈ d.subSteps) : sizeOf c < sizeOf d := by
  cases d with
  | «repeat» times steps =>
    have := List.sizeOf_lt_of_mem (show c ∈ steps from h)
    simp only [repeat.sizeOf_spec]
    omega
  | crawl selector xpath attributeName steps =>
    have := List.sizeOf_lt_of_mem (show c ∈ steps from h)
    simp only [crawl.sizeOf_spec]
    omega
  | _ => cases h

/-- A crawl lies below another crawl. -/
abbrev Nested (ds : List StepDocument) : Prop := Nests StepDocument.subSteps StepDocument.IsCrawl ds

/-- There is a crawl among the documents or below them. -/
def HasCrawl (ds : List StepDocument) : Prop :=
  ∃ r ∈ ds, ∃ c, (c = r ∨ Below StepDocument.subSteps r c) ∧ c.IsCrawl

theorem Nested.mono {ds es : List StepDocument} (hsub : ds ⊆ es) (h : Nested ds) : Nested es := by
  obtain ⟨r, hr, h⟩ := h
  exact ⟨r, hsub hr, h⟩

theorem HasCrawl.mono {ds es : List StepDocument} (hsub : ds ⊆ es) (h : HasCrawl ds) :
    HasCrawl es := by
  obtain ⟨r, hr, h⟩ := h
  exact ⟨r, hsub hr, h⟩

theorem Nested.up {d : StepDocument} (h : Nested d.subSteps) : Nested [d] := by
  obtain ⟨r, hr, c, hc, h⟩ := h
  refine ⟨d, List.mem_singleton.2 rfl, c, .inr ?_, h⟩
  rcases hc with rfl | hc
  · exact .child hr
  · exact .head hr hc

theorem HasCrawl.below {d : StepDocument} (h : HasCrawl d.subSteps) :
    ∃ c, Below StepDocument.subSteps d c ∧ c.IsCrawl := by
  obtain ⟨r, hr, c, hc, h⟩ := h
  refine ⟨c, ?_, h⟩
  rcases hc with rfl | hc
  · exact .child hr
  · exact .head hr hc

end StepDocument

namespace Plan

open StepDocument (HasCrawl Nested)

/-! ## Building -/

/-- `s` is the step that `d` describes, wherever `d` stands; `b` says whether that is below a
crawl. -/
def Builds (b : Bool) (d : StepDocument) (s : Step) : Prop := ∃ place, buildStep b place d = .ok s

variable {b : Bool} {place : String} {n : Nat} {d : StepDocument} {ds : List StepDocument}
  {s : Step} {steps : List Step}

theorem buildWait_ne_nested {at' : String} {d : WaitDocument} :
    buildWait place d ≠ .error (.nestedCrawl at') := by
  intro h
  rw [buildWait] at h
  cases hk : WaitKind.read (.str d.for) with
  | error fault =>
    rw [hk] at h
    cases h
  | ok kind =>
    rw [hk] at h
    change placed place (d.condition kind).check = _ at h
    cases hc : (d.condition kind).check <;> rw [hc] at h <;> cases h

theorem buildWaitFor_ne_nested {at' word : String} :
    buildWaitFor place word ≠ .error (.nestedCrawl at') := by
  intro h
  rw [buildWaitFor] at h
  cases hk : WaitKind.read (.str word) with
  | error fault =>
    rw [hk] at h
    cases h
  | ok kind =>
    rw [hk] at h
    change placed (place ++ ".waitFor") { kind := kind : WaitCondition }.check = _ at h
    cases hc : { kind := kind : WaitCondition }.check <;> rw [hc] at h <;> cases h

theorem buildClickWait_ne_nested {at' : String} {d : Option WaitDocument} {word : Option String} :
    buildClickWait place d word ≠ .error (.nestedCrawl at') := by
  intro h
  match d, word with
  | some d, _ =>
    rw [buildClickWait] at h
    cases hw : buildWait (place ++ ".wait") d with
    | ok c =>
      rw [hw] at h
      cases h
    | error fault =>
      rw [hw] at h
      cases h
      exact buildWait_ne_nested hw
  | none, some word =>
    rw [buildClickWait] at h
    split at h
    · cases h
    · cases hw : buildWaitFor place word with
      | ok c =>
        rw [hw] at h
        cases h
      | error fault =>
        rw [hw] at h
        cases h
        exact buildWaitFor_ne_nested hw
  | none, none => cases h

/-- What a step is built from: the steps below it are built below a crawl if it is one. -/
theorem buildStep_ok (h : buildStep b place d = .ok s) :
    (d.IsCrawl ∧ s.IsCrawl ∧ b = false ∧
      buildSteps true (place ++ ".subSteps") 0 d.subSteps = .ok s.subSteps) ∨
    (¬ d.IsCrawl ∧ ¬ s.IsCrawl ∧
      buildSteps b (place ++ ".subSteps") 0 d.subSteps = .ok s.subSteps) := by
  cases d with
  | click selector xpath wait word =>
    rw [buildStep] at h
    cases hw : buildClickWait place wait word <;> rw [hw] at h <;> cases h
    exact .inr ⟨id, nofun, rfl⟩
  | type | go | screenshot =>
    cases h
    exact .inr ⟨id, nofun, rfl⟩
  | wait what =>
    rw [buildStep] at h
    cases hw : buildWait place what <;> rw [hw] at h <;> cases h
    exact .inr ⟨id, nofun, rfl⟩
  | scrape data path =>
    rw [buildStep] at h
    cases hw : Spec.read (place ++ ".data") (.obj data) <;> rw [hw] at h <;> cases h
    exact .inr ⟨id, nofun, rfl⟩
  | «repeat» times sub =>
    rw [buildStep] at h
    cases hw : buildSteps b (place ++ ".subSteps") 0 sub <;> rw [hw] at h <;> cases h
    exact .inr ⟨id, nofun, hw⟩
  | crawl selector xpath attributeName sub =>
    rw [buildStep] at h
    cases b with
    | true => cases h
    | false =>
      rw [if_neg Bool.false_ne_true] at h
      cases hw : buildSteps true (place ++ ".subSteps") 0 sub <;> rw [hw] at h <;> cases h
      exact .inl ⟨trivial, rfl, rfl, hw⟩

/-- Why a step is refused for nesting: it is a crawl below a crawl, or a step below it is refused. -/
theorem buildStep_nested {at' : String} (h : buildStep b place d = .error (.nestedCrawl at')) :
    (d.IsCrawl ∧ (b = true ∨
      buildSteps true (place ++ ".subSteps") 0 d.subSteps = .error (.nestedCrawl at'))) ∨
    buildSteps b (place ++ ".subSteps") 0 d.subSteps = .error (.nestedCrawl at') := by
  cases d with
  | click selector xpath wait word =>
    rw [buildStep] at h
    cases hw : buildClickWait place wait word with
    | ok c =>
      rw [hw] at h
      cases h
    | error fault =>
      rw [hw] at h
      cases h
      exact absurd hw buildClickWait_ne_nested
  | type | go | screenshot => cases h
  | wait what =>
    rw [buildStep] at h
    cases hw : buildWait place what with
    | ok c =>
      rw [hw] at h
      cases h
    | error fault =>
      rw [hw] at h
      cases h
      exact absurd hw buildWait_ne_nested
  | scrape data path =>
    rw [buildStep] at h
    cases hw : Spec.read (place ++ ".data") (.obj data) <;> rw [hw] at h <;> cases h
  | «repeat» times sub =>
    rw [buildStep] at h
    cases hw : buildSteps b (place ++ ".subSteps") 0 sub with
    | ok steps =>
      rw [hw] at h
      cases h
    | error fault =>
      rw [hw] at h
      cases h
      exact .inr hw
  | crawl selector xpath attributeName sub =>
    rw [buildStep] at h
    cases b with
    | true => exact .inl ⟨trivial, .inl rfl⟩
    | false =>
      rw [if_neg Bool.false_ne_true] at h
      cases hw : buildSteps true (place ++ ".subSteps") 0 sub with
      | ok steps =>
        rw [hw] at h
        cases h
      | error fault =>
        rw [hw] at h
        cases h
        exact .inl ⟨trivial, .inr hw⟩

theorem buildSteps_cons_ok {s : List Step} (h : buildSteps b place n (d :: ds) = .ok s) :
    ∃ step steps, buildStep b (itemPlace place n) d = .ok step ∧
      buildSteps b place (n + 1) ds = .ok steps ∧ s = step :: steps := by
  rw [buildSteps] at h
  cases hd : buildStep b (itemPlace place n) d with
  | error fault =>
    rw [hd] at h
    cases h
  | ok step =>
    cases hds : buildSteps b place (n + 1) ds with
    | error fault =>
      rw [hd, hds] at h
      cases h
    | ok steps =>
      rw [hd, hds] at h
      cases h
      exact ⟨step, steps, rfl, rfl, rfl⟩

theorem buildSteps_cons_error {fault : PlanFault}
    (h : buildSteps b place n (d :: ds) = .error fault) :
    buildStep b (itemPlace place n) d = .error fault ∨
      buildSteps b place (n + 1) ds = .error fault := by
  rw [buildSteps] at h
  cases hd : buildStep b (itemPlace place n) d with
  | error fault' =>
    rw [hd] at h
    cases h
    exact .inl rfl
  | ok step =>
    rw [hd] at h
    cases hds : buildSteps b place (n + 1) ds with
    | error fault' =>
      rw [hds] at h
      cases h
      exact .inr rfl
    | ok steps =>
      rw [hds] at h
      cases h

theorem builds_all (h : buildSteps b place n ds = .ok steps) :
    List.Forall₂ (Builds b) ds steps := by
  induction ds generalizing n steps with
  | nil =>
    cases h
    exact .nil
  | cons d ds ih =>
    obtain ⟨step, rest, hd, hds, rfl⟩ := buildSteps_cons_ok h
    exact .cons ⟨_, hd⟩ (ih hds)

/-- Building keeps the shape of a document. -/
theorem build_shape : SameShape StepDocument.subSteps StepDocument.IsCrawl Step.subSteps
    Step.IsCrawl fun d s => ∃ b, Builds b d s where
  below := by
    rintro d s ⟨b, place, h⟩
    rcases buildStep_ok h with ⟨-, -, -, hsub⟩ | ⟨-, -, hsub⟩
    · exact (builds_all hsub).imp fun _ _ h => ⟨true, h⟩
    · exact (builds_all hsub).imp fun _ _ h => ⟨b, h⟩
  crawl := by
    rintro d s ⟨b, place, h⟩
    rcases buildStep_ok h with ⟨hd, hs, -, -⟩ | ⟨hd, hs, -⟩
    · exact iff_of_true hd hs
    · exact iff_of_false hd hs

/-- A step that was built keeps crawls apart. -/
theorem kept_of_built {b : Bool} {d : StepDocument} {s : Step} (h : Builds b d s) : s.keepsApart b = true := by
  have hbelow : ∀ {b'}, List.Forall₂ (Builds b') d.subSteps s.subSteps →
      ∀ c ∈ s.subSteps, c.keepsApart b' = true := by
    intro b' hall c hc
    obtain ⟨e, he, hbuilds⟩ := exists_of_forall₂ hall.flip hc
    have := StepDocument.sizeOf_lt he
    exact kept_of_built hbuilds
  obtain ⟨place, h⟩ := h
  rcases buildStep_ok h with ⟨-, hs, hb, hsub⟩ | ⟨-, hs, hsub⟩
  · exact Step.keepsApart_of_sub (fun h => absurd hs h) fun _ => ⟨hb, hbelow (builds_all hsub)⟩
  · exact Step.keepsApart_of_sub (fun _ => hbelow (builds_all hsub)) fun h => absurd h hs
termination_by sizeOf d

/-- A crawl below a crawl: the documents hold one, or they stand below a crawl and hold a crawl. -/
def Blamed (b : Bool) (ds : List StepDocument) : Prop := (b = true ∧ HasCrawl ds) ∨ Nested ds

theorem Blamed.mono {ds es : List StepDocument} (hsub : ds ⊆ es) (h : Blamed b ds) :
    Blamed b es := by
  rcases h with ⟨hb, h⟩ | h
  · exact .inl ⟨hb, h.mono hsub⟩
  · exact .inr (h.mono hsub)

/-- Of a list that is refused for nesting one document is. -/
theorem blamed_of_each {at' : String}
    (hd : ∀ d ∈ ds, ∀ place, buildStep b place d = .error (.nestedCrawl at') → Blamed b [d])
    (h : buildSteps b place n ds = .error (.nestedCrawl at')) : Blamed b ds := by
  induction ds generalizing n with
  | nil => cases h
  | cons d ds ih =>
    rcases buildSteps_cons_error h with h | h
    · exact (hd d List.mem_cons_self _ h).mono (by simp)
    · exact (ih (fun d hmem => hd d (List.mem_cons_of_mem _ hmem)) h).mono (by simp)

/-- Who is refused for nesting is to blame. -/
theorem blamed_of_refused {b : Bool} {place at' : String} {d : StepDocument}
    (h : buildStep b place d = .error (.nestedCrawl at')) : Blamed b [d] := by
  have hbelow : ∀ {b'}, buildSteps b' (place ++ ".subSteps") 0 d.subSteps =
      .error (.nestedCrawl at') → Blamed b' d.subSteps :=
    blamed_of_each fun c hc place h => by
      have := StepDocument.sizeOf_lt hc
      exact blamed_of_refused h
  rcases buildStep_nested h with ⟨hd, hb | hsub⟩ | hsub
  · exact .inl ⟨hb, d, by simp, d, .inl rfl, hd⟩
  · rcases hbelow hsub with ⟨-, hcrawl⟩ | hnested
    · obtain ⟨c, hc, hcrawl⟩ := hcrawl.below
      exact .inr ⟨d, by simp, d, .inl rfl, hd, c, hc, hcrawl⟩
    · exact .inr hnested.up
  · rcases hbelow hsub with ⟨hb, hcrawl⟩ | hnested
    · obtain ⟨c, hc, hcrawl⟩ := hcrawl.below
      exact .inl ⟨hb, d, by simp, c, .inr hc, hcrawl⟩
    · exact .inr hnested.up
termination_by sizeOf d

end Plan

/-! ## Reading -/

namespace Schema

variable {α β : Type} {ms : List (String × β)} {f : Field} {key : String}

theorem Field.find?_map (g : β → α) :
    f.find? (ms.map fun m => (m.1, g m.2)) = (f.find? ms).map fun m => (m.1, g m.2) := by
  have hname : ∀ name, (ms.map fun m => (m.1, g m.2)).find? (fun m => m.1 == name) =
      (ms.find? fun m => m.1 == name).map fun m => (m.1, g m.2) := fun name => List.find?_map ..
  rw [Field.find?, Field.find?, hname]
  cases ms.find? fun m => m.1 == f.name with
  | some m => rfl
  | none =>
    cases f.otherName with
    | none => rfl
    | some name => exact hname name

theorem Field.spelled {v : β} (h : f.find? ms = some (key, v)) :
    key = f.name ∨ f.otherName = some key := by
  rw [Field.find?] at h
  split at h
  · rename_i m hm
    cases h
    exact .inl (by simpa using List.find?_some hm)
  · obtain ⟨name, hname, hfind⟩ := Option.bind_eq_some_iff.1 h
    have : key = name := by simpa using List.find?_some hfind
    exact .inr (this ▸ hname)

/-- A member that was let pass is one of the fields. -/
theorem spelled_of_noStrangers {fields : List Field} {ms : Json.Members}
    (h : noStrangers fields ms = Checked.ok ()) {m : String × Json} (hm : m ∈ ms) :
    ∃ f ∈ fields, m.1 = f.name ∨ f.otherName = some m.1 := by
  have hnil : strangers fields ms = [] := by
    rw [noStrangers] at h
    split at h
    · assumption
    · cases h
  simp only [strangers, List.map_eq_nil_iff, List.filter_eq_nil_iff] at hnil
  have hused := hnil m hm
  simp only [Bool.not_eq_true', List.contains_eq_mem, decide_eq_false_iff_not, Classical.not_not,
    List.mem_filterMap, Option.map_eq_some_iff, Prod.exists] at hused
  obtain ⟨f, hf, key, v, hfind, hkey⟩ := hused
  exact ⟨f, hf, hkey ▸ Field.spelled hfind⟩

end Schema

namespace Json

/-- The steps that a document holds under a field. -/
def stepsAt (f : Field) (v : Json) : List Json := ((f.find? v.members).map (·.2.items)).getD []

/-- The steps right below the JSON value of a step. -/
def subSteps (v : Json) : List Json := v.stepsAt StepDocument.stepsField

/-- The steps of the JSON value of a document. -/
def planSteps (v : Json) : List Json := v.stepsAt Document.stepsField

def IsCrawl (v : Json) : Prop := (v.member? StepDocument.tagKey).bind Json.text? = some "crawl"

/-- A crawl lies below another crawl. -/
abbrev Nested (vs : List Json) : Prop := Nests Json.subSteps Json.IsCrawl vs

end Json

namespace StepDocument

theorem readNested_eq (ms : Json.Members) : readNested ms = ms.map fun m => (m.1, readList m.2) := by
  induction ms with
  | nil => rfl
  | cons m ms ih =>
    rw [readNested, ih]
    rfl

theorem read_items {n : Nat} {vs : List Json} {ds : List StepDocument}
    (h : itemsFrom n (readItems vs) = Checked.ok ds) :
    List.Forall₂ (fun v d => read v = Checked.ok d) vs ds := by
  induction vs generalizing n ds with
  | nil =>
    cases h
    exact .nil
  | cons v vs ih =>
    obtain ⟨g, rest, hg, hrest, rfl⟩ := Checked.seq_eq_ok h
    obtain ⟨d, hd, rfl⟩ := Checked.map_eq_ok hg
    exact .cons (Checked.within_eq_ok hd) (ih hrest)

theorem read_list {v : Json} {ds : List StepDocument} (h : readList v = Checked.ok ds) :
    List.Forall₂ (fun v d => read v = Checked.ok d) v.items ds := by
  cases v with
  | arr vs => exact read_items h
  | _ => cases h

theorem read_stepsAt {f : Field} {ms : Json.Members} {ds : List StepDocument}
    (h : f.optional [] readList ms = Checked.ok ds) :
    List.Forall₂ (fun v d => read v = Checked.ok d) (Json.stepsAt f (.obj ms)) ds := by
  rw [Field.optional] at h
  rw [Json.stepsAt, Json.members]
  cases hf : f.find? ms with
  | none =>
    rw [hf] at h
    cases h
    exact .nil
  | some m =>
    rw [hf] at h
    exact read_list (Checked.within_eq_ok h)

theorem optional_readNested {f : Field} {ms : Json.Members} :
    f.optional [] id (readNested ms) = f.optional [] readList ms := by
  rw [Field.optional, Field.optional, readNested_eq, Field.find?_map]
  cases f.find? ms <;> rfl

/-- Where the members of a step are only those of `fields`, none of which holds steps, there are no
steps below. -/
theorem subSteps_eq_nil {fields : List Field} {ms : Json.Members}
    (hfields : fields.all (fun f => f.name != "subSteps" && f.name != "sub_steps" &&
      f.otherName != some "subSteps" && f.otherName != some "sub_steps") = true)
    (h : noStrangers fields ms = Checked.ok ()) : Json.subSteps (.obj ms) = [] := by
  have hkey : ∀ key, key = "subSteps" ∨ key = "sub_steps" → ∀ m ∈ ms, m.1 ≠ key := by
    intro key hkey m hm heq
    obtain ⟨f, hf, hspelled⟩ := spelled_of_noStrangers h hm
    have hplain := List.all_eq_true.1 hfields f hf
    simp only [Bool.and_eq_true, bne_iff_ne] at hplain
    rcases hkey with rfl | rfl <;> rcases hspelled with hs | hs <;> simp_all
  have hnone : stepsField.find? ms = none := by
    cases hf : stepsField.find? ms with
    | none => rfl
    | some m =>
      have hm : m ∈ ms := by
        rw [Field.find?] at hf
        split at hf
        · rename_i m' hm'
          cases hf
          exact List.mem_of_find?_eq_some hm'
        · obtain ⟨name, -, hfind⟩ := Option.bind_eq_some_iff.1 hf
          exact List.mem_of_find?_eq_some hfind
      rcases Field.spelled (show stepsField.find? ms = some (m.1, m.2) from hf) with hs | hs
      · exact absurd hs (hkey _ (.inl rfl) m hm)
      · exact absurd (Option.some.inj hs).symm (hkey _ (.inr rfl) m hm)
  rw [Json.subSteps, Json.stepsAt, Json.members, hnone]
  rfl

/-- What is read from the members of a step. -/
theorem shape_of_readFrom {a : Action} {ms : Json.Members} {d : StepDocument} (h : ReadFrom ms (readNested ms) a d) :
    (a = .crawl ↔ d.IsCrawl) ∧
      List.Forall₂ (fun v d => read v = Checked.ok d) (Json.subSteps (.obj ms)) d.subSteps := by
  have hnil : ∀ {fields : List Field} {d : StepDocument}, d.subSteps = [] →
      fields.all (fun f => f.name != "subSteps" && f.name != "sub_steps" &&
        f.otherName != some "subSteps" && f.otherName != some "sub_steps") = true →
      noStrangers fields ms = Checked.ok () →
      List.Forall₂ (fun v d => read v = Checked.ok d) (Json.subSteps (.obj ms)) d.subSteps := by
    intro fields d hd hfields hms
    rw [hd, subSteps_eq_nil hfields hms]
    exact .nil
  cases h with
  | click _ _ _ _ hms | type _ _ _ _ hms | go _ _ _ hms | scrape _ _ hms | screenshot _ _ hms =>
    exact ⟨iff_of_false nofun id, hnil rfl (by decide) hms⟩
  | wait hwhat => exact ⟨iff_of_false nofun id, hnil rfl (by decide) hwhat.strangers⟩
  | «repeat» _ hsteps => exact ⟨iff_of_false nofun id, read_stepsAt (optional_readNested.symm.trans hsteps)⟩
  | crawl _ _ _ hsteps => exact ⟨iff_of_true rfl trivial, read_stepsAt (optional_readNested.symm.trans hsteps)⟩

/-- Reading keeps the shape of a document. -/
theorem read_shape : SameShape Json.subSteps Json.IsCrawl StepDocument.subSteps
    StepDocument.IsCrawl fun v d => read v = Checked.ok d := by
  have hread : ∀ {v : Json} {d : StepDocument}, read v = Checked.ok d →
      (v.IsCrawl ↔ d.IsCrawl) ∧
        List.Forall₂ (fun v d => read v = Checked.ok d) v.subSteps d.subSteps := by
    intro v d h
    obtain ⟨ms, a, rfl, hname, hfrom, -⟩ := read_eq_ok h
    obtain ⟨hcrawl, hsub⟩ := shape_of_readFrom hfrom
    refine ⟨Iff.trans ?_ hcrawl, hsub⟩
    rw [Json.IsCrawl, hname]
    cases a <;> decide
  exact ⟨fun h => (hread h).2, fun h => (hread h).1⟩

end StepDocument

/-! ## Whole documents -/

namespace Plan

variable {settings : Settings} {source : Option String} {v : Json} {plan : Plan}

/-- The document that a JSON value is read as. -/
theorem document_of_ofMembers {ms : Json.Members} {d : Document}
    (h : Document.ofMembers ms = Checked.ok d) :
    List.Forall₂ (fun v d => StepDocument.read v = Checked.ok d) (Json.obj ms).planSteps d.steps := by
  obtain ⟨g, steps, h1, hsteps, rfl⟩ := Checked.seq_eq_ok (Checked.keeping_eq_ok h).1
  obtain ⟨g, keepOpenAfter, h2, -, rfl⟩ := Checked.seq_eq_ok h1
  obtain ⟨g, maxPages, h3, -, rfl⟩ := Checked.seq_eq_ok h2
  obtain ⟨g, navigationTimeout, h4, -, rfl⟩ := Checked.seq_eq_ok h3
  obtain ⟨g, timeout, h5, -, rfl⟩ := Checked.seq_eq_ok h4
  obtain ⟨g, headless, h6, -, rfl⟩ := Checked.seq_eq_ok h5
  obtain ⟨url, -, rfl⟩ := Checked.map_eq_ok h6
  exact StepDocument.read_stepsAt hsteps

/-- The steps of a plan are built from those of its document. -/
theorem steps_of_ofJson (h : ofJson settings source v = .ok plan) :
    ∃ ds, List.Forall₂ (fun v d => StepDocument.read v = Checked.ok d) v.planSteps ds ∧
      List.Forall₂ (Builds false) ds plan.steps := by
  obtain ⟨ms, d, rfl, hd, hsteps, -⟩ := ofJson_eq_ok h
  exact ⟨d.steps, document_of_ofMembers hd, builds_all hsteps⟩

/-- A plan keeps crawls apart, and so does the document it was built from. -/
theorem kept_of_ofJson (h : ofJson settings source v = .ok plan) :
    Step.allKeepApart false plan.steps = true ∧ ¬ Json.Nested v.planSteps := by
  obtain ⟨ds, hread, hbuilt⟩ := steps_of_ofJson h
  have hkept : Step.allKeepApart false plan.steps = true := by
    refine Step.allKeepApart_iff.2 fun s hs => ?_
    obtain ⟨d, -, hd⟩ := exists_of_forall₂ hbuilt.flip hs
    exact kept_of_built hd
  refine ⟨hkept, fun hnested => Step.not_nested hkept ?_⟩
  exact build_shape.nests (hbuilt.imp fun _ _ h => ⟨false, h⟩)
    (StepDocument.read_shape.nests hread hnested)

/-- Only documents with a crawl below a crawl are refused for nesting. -/
theorem nested_of_refused {place : String}
    (h : ofJson settings source v = .error (.nestedCrawl place)) : Json.Nested v.planSteps := by
  obtain hfault | ⟨complaints, hfault⟩ | ⟨ms, d, rfl, hd, hsteps⟩ := ofJson_eq_error h
  · cases hfault
  · cases hfault
  · rcases blamed_of_each (fun d _ _ h => blamed_of_refused h) hsteps with ⟨hb, -⟩ | hnested
    · cases hb
    · exact StepDocument.read_shape.flip.nests (document_of_ofMembers hd).flip hnested

/-- A fault that is not one of the document is about a number that no pattern can have. -/
theorem unreadable_of_not_isPlaced {fault : PlanFault} (h : fault.isPlaced = false) :
    (∃ place f, fault = .badWait place (.unreadable f)) ∨ ∃ f, fault = .badSpec (.unreadable f) := by
  rw [PlanFault.isPlaced.eq_def] at h
  split at h
  · exact .inl ⟨_, _, rfl⟩
  · exact .inr ⟨_, rfl⟩
  · cases h

end Plan
end BrowserPlan
