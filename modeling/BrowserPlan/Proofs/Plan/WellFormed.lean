import BrowserPlan.Proofs.Plan.Nesting
import Mathlib.Data.List.ReduceOption

/-!
# Accepted plans are well formed

`Step.IsSound` is what carrying out a step relies on: a target where one is needed, a condition that
can be waited for, a specification whose leaves each say in exactly one way what they read. Reading
a document checks the rules over several members, building a step checks the rest;
`sound_of_builds` puts the two together for one step, and since reading and building keep the shape
of the tree (`read_shape`, `build_shape`), `isSound_of_ofJson` says it of every step of a plan.
-/
namespace BrowserPlan

open Schema

/-- `b` is one of the trees with the given roots, or it lies below one of them. -/
def Within {α : Type} (sub : α → List α) (roots : List α) (b : α) : Prop :=
  ∃ r ∈ roots, b = r ∨ Below sub r b

section
variable {α β : Type} {sub : α → List α} {isCrawl : α → Prop} {sub' : β → List β}
  {isCrawl' : β → Prop} {R : α → β → Prop} {a : α} {roots : List α} {roots' : List β}

theorem Below.trans {b c : α} (h : Below sub a b) (hc : Below sub b c) : Below sub a c := by
  induction hc with
  | child hc => exact .deeper h hc
  | deeper _ hc ih => exact .deeper ih hc

theorem Within.root (h : a ∈ roots) : Within sub roots a := ⟨a, h, .inl rfl⟩

/-- What lies below what lies below the roots. -/
theorem Within.trans {b : α} (h : Within sub roots a) (hb : Within sub (sub a) b) :
    Within sub roots b := by
  obtain ⟨c, hc, hb⟩ := hb
  have hcb : Below sub a b := by
    rcases hb with rfl | hb
    · exact .child hc
    · exact .head hc hb
  obtain ⟨r, hr, rfl | ha⟩ := h
  · exact ⟨a, hr, .inr hcb⟩
  · exact ⟨r, hr, .inr (ha.trans hcb)⟩

theorem Within.of_handed_down {P : α → Prop} {b : α} (h : Within sub roots b) (hroots : ∀ r ∈ roots, P r)
    (hsub : ∀ a, P a → ∀ c ∈ sub a, P c) : P b := by
  obtain ⟨r, hr, rfl | hb⟩ := h
  · exact hroots _ hr
  · induction hb with
    | child hc => exact hsub r (hroots r hr) _ hc
    | deeper _ hc ih => exact hsub _ ih _ hc

theorem SameShape.exists_within (h : SameShape sub isCrawl sub' isCrawl' R)
    (hR : List.Forall₂ R roots roots') (ha : Within sub roots a) :
    ∃ b, Within sub' roots' b ∧ R a b := by
  obtain ⟨r, hr, ha⟩ := ha
  obtain ⟨r', hr', hrr⟩ := exists_of_forall₂ hR hr
  rcases ha with rfl | ha
  · exact ⟨r', .root hr', hrr⟩
  · obtain ⟨b, hb, hab⟩ := h.exists_below hrr ha
    exact ⟨b, ⟨r', hr', .inr hb⟩, hab⟩

end

/-! ## Readings that fail at the first fault -/

section
variable {ε α β : Type} {x : Except ε α} {f : α → Except ε β}

theorem exists_of_bind_eq_ok {b : β} (h : x >>= f = .ok b) : ∃ a, x = .ok a ∧ f a = .ok b := by
  cases x with
  | error e => cases h
  | ok a => exact ⟨a, rfl, h⟩

theorem of_bind_eq_error {e : ε} (h : x >>= f = .error e) :
    x = .error e ∨ ∃ a, x = .ok a ∧ f a = .error e := by
  cases x with
  | error e' =>
    cases h
    exact .inl rfl
  | ok a => exact .inr ⟨a, rfl, h⟩

end

/-! ## Specifications -/

namespace FieldSpec

/-- A leaf says in exactly one way what it reads. If that is a pattern, it is one, and there is
something to match it against. -/
structure IsLeaf (f : FieldSpec) : Prop where
  children : f.children = []
  target : ∃ t, t ≠ "" ∧ [f.selector, f.xpath, f.regex].reduceOption = [t]
  source : f.regex.isSome = true → f.source ∈ regexSources
  pattern : ∀ regex ∈ f.regex, ∃ p, Pattern.compile regex .caseless = .ok p

/-- A structural field has children, no pattern, and at most one way to select elements. -/
structure IsNode (f : FieldSpec) : Prop where
  children : f.children ≠ []
  regex : f.regex = none
  target : ¬ (f.selector.isSome = true ∧ f.xpath.isSome = true)

/-- A field is a leaf or a structural one, and so are the fields below it, at every level. -/
inductive WellFormed : FieldSpec → Prop where
  | leaf {f} (h : IsLeaf f) : WellFormed f
  | node {f} (h : IsNode f) (hc : ∀ m ∈ f.children, WellFormed m.2) : WellFormed f

end FieldSpec

/-- All fields of a specification are well formed, at every level. -/
def Spec.WellFormed (spec : Spec) : Prop := ∀ m ∈ spec, m.2.WellFormed

/-- A field of a specification, at any level. -/
abbrev Spec.Has (spec : Spec) (f : FieldSpec) : Prop :=
  Within (fun g : FieldSpec => g.children.map Prod.snd) (spec.map Prod.snd) f

theorem Spec.WellFormed.of_has {spec : Spec} {f : FieldSpec} (h : spec.WellFormed) (hf : spec.Has f) :
    f.WellFormed := by
  refine hf.of_handed_down (fun g hg => ?_) fun g hg c hc => ?_
  · obtain ⟨m, hm, rfl⟩ := List.mem_map.1 hg
    exact h m hm
  · obtain ⟨m, hm, rfl⟩ := List.mem_map.1 hc
    cases hg with
    | leaf hleaf =>
      rw [hleaf.children] at hm
      cases hm
    | node _ hchildren => exact hchildren m hm

namespace Spec

variable {path : String} {ms : Json.Members}

theorem ne_empty_of_optionalText {name s : String}
    (h : optionalText path ms name = .ok (some s)) : s ≠ "" := by
  rw [optionalText] at h
  split at h
  · cases h
  · cases h
  · split at h
    · rintro rfl
      simp at h
    · cases h

theorem compile_of_checkPattern {regex : String} (h : checkPattern path regex = .ok ()) :
    ∃ p, Pattern.compile regex .caseless = .ok p := by
  rw [checkPattern] at h
  split at h
  · exact ⟨_, ‹_›⟩
  · split at h <;> cases h

/-- What is read of the texts of a field. -/
structure TextsRead (f : FieldSpec) : Prop where
  selector : f.selector ≠ some ""
  xpath : f.xpath ≠ some ""
  regex : f.regex ≠ some ""
  children : f.children = []

theorem textsRead {f : FieldSpec} (h : readTexts path ms = .ok f) : TextsRead f := by
  have hne : ∀ {name : String} {o : Option String}, optionalText path ms name = .ok o →
      o ≠ some "" := by
    rintro name o ho rfl
    exact ne_empty_of_optionalText ho rfl
  rw [readTexts] at h
  simp only at h
  split at h
  · cases h
  · obtain ⟨selector, hs, h⟩ := exists_of_bind_eq_ok h
    obtain ⟨xpath, hx, h⟩ := exists_of_bind_eq_ok h
    obtain ⟨regex, hr, h⟩ := exists_of_bind_eq_ok h
    obtain ⟨attributeName, -, h⟩ := exists_of_bind_eq_ok h
    obtain ⟨source, -, h⟩ := exists_of_bind_eq_ok h
    cases h
    exact ⟨hne hs, hne hx, hne hr, rfl⟩

/-- A field that passes as a leaf is one. -/
theorem isLeaf_of_leaf {f g : FieldSpec} (hf : TextsRead f) (h : leaf path f = .ok g) :
    g = f ∧ f.IsLeaf := by
  unfold leaf at h
  simp only at h
  split at h
  · cases h
  rename_i hcount
  have htarget : ∃ t, t ≠ "" ∧ [f.selector, f.xpath, f.regex].reduceOption = [t] := by
    have hs := hf.selector
    have hx := hf.xpath
    have hr := hf.regex
    cases hsel : f.selector <;> cases hxp : f.xpath <;> cases hre : f.regex <;>
      simp_all
  cases hr : f.regex with
  | none =>
    rw [hr] at h
    cases h
    refine ⟨rfl, hf.children, htarget, ?_, ?_⟩
    · rw [hr]
      rintro ⟨⟩
    · rw [hr]
      rintro _ ⟨⟩
  | some regex =>
    rw [hr] at h
    simp only at h
    split at h
    · cases h
    rename_i hsource
    obtain ⟨⟨⟩, hp, h⟩ := exists_of_bind_eq_ok h
    cases h
    refine ⟨rfl, hf.children, htarget, fun _ => by simpa using hsource, ?_⟩
    rw [hr]
    rintro _ ⟨⟩
    exact compile_of_checkPattern hp

mutual

theorem wellFormed_of_read : ∀ (path : String) (v : Json) (spec : Spec),
    read path v = .ok spec → spec.WellFormed
  | path, .obj ms, spec, h => (wellFormed_of_readMembers path ms spec (by rwa [read] at h)).1
  | _, .null, _, h | _, .bool _, _, h | _, .int _, _, h | _, .float _, _, h | _, .str _, _, h
  | _, .unpaired _, _, h | _, .arr _, _, h => by
    rw [read] at h
    · cases h
    · nofun

theorem wellFormed_of_readMembers : ∀ (path : String) (ms : List (String × Json)) (spec : Spec),
    readMembers path ms = .ok spec → spec.WellFormed ∧ (ms ≠ [] → spec ≠ [])
  | _, [], spec, h => by
    rw [readMembers] at h
    cases h
    exact ⟨nofun, absurd rfl⟩
  | path, (key, v) :: rest, spec, h => by
    rw [readMembers] at h
    split at h
    · cases h
    obtain ⟨f, hf, h⟩ := exists_of_bind_eq_ok h
    obtain ⟨fs, hrest, h⟩ := exists_of_bind_eq_ok h
    cases h
    refine ⟨fun m hm => ?_, nofun⟩
    rcases List.mem_cons.1 hm with rfl | hm
    · exact wellFormed_of_readField _ v f hf
    · exact (wellFormed_of_readMembers path rest fs hrest).1 m hm

theorem wellFormed_of_readField : ∀ (path : String) (v : Json) (f : FieldSpec),
    readField path v = .ok f → f.WellFormed
  | path, .obj ms, f, h => by
    rw [readField] at h
    obtain ⟨texts, ht, h⟩ := exists_of_bind_eq_ok h
    split at h
    · obtain ⟨rfl, hleaf⟩ := isLeaf_of_leaf (textsRead ht) h
      exact .leaf hleaf
    · rename_i children hc
      obtain ⟨cs, rfl, h⟩ := exists_of_bind_eq_ok h
      cases h
      obtain ⟨hcs, hne, htwo⟩ := wellFormed_of_readChildren path _ ms cs hc
      exact .node ⟨hne, rfl, by simpa using htwo⟩ hcs
  | path, .str s, f, h | path, .unpaired s, f, h => by
    rw [readField] at h
    split at h
    · cases h
    · rename_i hblank
      cases h
      refine .leaf ⟨rfl, ⟨s, ?_, rfl⟩, nofun, nofun⟩
      rintro rfl
      exact hblank rfl
  | _, .null, _, h | _, .bool _, _, h | _, .int _, _, h | _, .float _, _, h | _, .arr _, _, h => by
    rw [readField] at h
    · cases h
    all_goals nofun

/-- What is read as children is well formed, there is some of it, and the field has not two targets. -/
theorem wellFormed_of_readChildren : ∀ (path : String) (twoTargets : Bool)
    (ms : List (String × Json)) (spec : Spec),
    readChildren path twoTargets ms = some (.ok spec) →
      spec.WellFormed ∧ spec ≠ [] ∧ twoTargets = false
  | _, _, [], _, h => by
    rw [readChildren] at h
    cases h
  | path, twoTargets, (key, v) :: rest, spec, h => by
    rw [readChildren] at h
    split at h
    · split at h
      · cases h
      · rename_i htruthy
        split at h
        · cases h
        · rename_i htwo
          have hread : read (path ++ ".children") v = .ok spec := Option.some.inj h
          refine ⟨wellFormed_of_read _ v spec hread, ?_, by simpa using htwo⟩
          cases v with
          | obj ms' =>
            rw [read] at hread
            refine (wellFormed_of_readMembers _ ms' spec hread).2 ?_
            rintro rfl
            exact htruthy rfl
          | _ =>
            rw [read] at hread
            · cases hread
            · nofun
    · exact wellFormed_of_readChildren path twoTargets rest spec h

end

end Spec

/-! ## Conditions and steps -/

namespace WaitCondition

/-- A condition that passes is passed on as it is. -/
theorem eq_of_check {c c' : WaitCondition} (h : c.check = .ok c') : c' = c := by
  rw [check] at h
  split at h
  · cases h
  · split at h
    · cases h
    · split at h
      · cases h
      · split at h
        · cases h
          rfl
        · obtain ⟨⟨⟩, -, h⟩ := exists_of_bind_eq_ok h
          cases h
          rfl

end WaitCondition

namespace Step

/-- Of a selector and a path expression, exactly one is there and says something. -/
def HasOneTarget (selector xpath : Option String) : Prop :=
  Xor (given selector = true) (given xpath = true)

/-- What carrying out a step relies on, apart from the steps below it. -/
def IsSound : Step → Prop
  | .click selector xpath condition =>
    HasOneTarget selector xpath ∧ ∀ c ∈ condition, c.check = .ok c
  | .type _ selector xpath _ => HasOneTarget selector xpath
  | .wait c => c.check = .ok c
  | .scrape data _ => data.WellFormed
  | .repeat _ times => 1 ≤ times
  | .crawl selector xpath _ _ => HasOneTarget selector xpath
  | .go .. | .screenshot .. => True

end Step

namespace Plan

variable {b : Bool} {place : String} {d : StepDocument} {s : Step}

theorem checked_of_placed {c c' : WaitCondition}
    (h : placed place c.check = .ok c') : c'.check = .ok c' := by
  cases hc : c.check with
  | error fault =>
    rw [hc] at h
    cases h
  | ok c₁ =>
    rw [hc] at h
    cases h
    obtain rfl := WaitCondition.eq_of_check hc
    exact hc

theorem checked_of_buildWait {w : WaitDocument} {c : WaitCondition}
    (h : buildWait place w = .ok c) : c.check = .ok c := by
  obtain ⟨kind, -, h⟩ := exists_of_bind_eq_ok h
  exact checked_of_placed h

theorem checked_of_buildWaitFor {word : String} {c : WaitCondition}
    (h : buildWaitFor place word = .ok c) : c.check = .ok c := by
  obtain ⟨kind, -, h⟩ := exists_of_bind_eq_ok h
  exact checked_of_placed h

/-- However the wait of a click is written, it can be waited for. -/
theorem checked_of_buildClickWait {w : Option WaitDocument} {word : Option String}
    {o : Option WaitCondition} (h : buildClickWait place w word = .ok o) :
    ∀ c ∈ o, c.check = .ok c := by
  have hsome : ∀ {r : Except PlanFault WaitCondition}, some <$> r = .ok o →
      (∀ c, r = .ok c → c.check = .ok c) → ∀ c ∈ o, c.check = .ok c := by
    intro r hr hcheck
    cases r with
    | error fault => cases hr
    | ok c =>
      cases hr
      rintro _ ⟨⟩
      exact hcheck c rfl
  cases w with
  | some w => exact hsome h fun _ => checked_of_buildWait
  | none =>
    cases word with
    | none =>
      cases h
      exact fun _ hc => nomatch hc
    | some word =>
      rw [buildClickWait] at h
      split at h
      · cases h
        exact fun _ hc => nomatch hc
      · exact hsome h fun _ => checked_of_buildWaitFor

theorem one_le_timesOf (n : Int) : 1 ≤ timesOf n := by
  rw [timesOf]
  split
  · decide
  · omega

/-- A document that names its targets as it should describes a sound step. -/
theorem sound_of_builds (htarget : d.keepsTargetRule = true) (h : Builds b d s) : s.IsSound := by
  obtain ⟨place, h⟩ := h
  have hone : ∀ {selector xpath : Option String},
      StepDocument.hasOneTarget selector xpath = true → Step.HasOneTarget selector xpath := by
    intro selector xpath hrule
    rw [Step.HasOneTarget, xor_iff_not_iff]
    intro hiff
    simp only [StepDocument.hasOneTarget, bne_iff_ne] at hrule
    exact hrule (Bool.eq_iff_iff.2 hiff)
  cases d with
  | click selector xpath w word =>
    rw [buildStep] at h
    cases hw : buildClickWait place w word <;> rw [hw] at h <;> cases h
    exact ⟨hone htarget, checked_of_buildClickWait hw⟩
  | type =>
    cases h
    exact hone htarget
  | go | screenshot =>
    cases h
    trivial
  | wait what =>
    rw [buildStep] at h
    cases hw : buildWait place what <;> rw [hw] at h <;> cases h
    exact checked_of_buildWait hw
  | scrape data path =>
    rw [buildStep] at h
    cases hr : Spec.read (place ++ ".data") (.obj data) <;> rw [hr] at h <;> cases h
    exact Spec.wellFormed_of_read _ _ _ hr
  | «repeat» times steps =>
    rw [buildStep] at h
    cases hs : buildSteps b (place ++ ".subSteps") 0 steps <;> rw [hs] at h <;> cases h
    exact one_le_timesOf times
  | crawl selector xpath attributeName steps =>
    rw [buildStep] at h
    split at h
    · cases h
    · cases hs : buildSteps true (place ++ ".subSteps") 0 steps <;> rw [hs] at h <;> cases h
      exact hone htarget

end Plan

/-! ## Whole plans -/

namespace Plan

/-- A step of a plan, at any depth. -/
abbrev Has (plan : Plan) (s : Step) : Prop := Within Step.subSteps plan.steps s

/-- Every step of a plan that is accepted is sound, at any depth. -/
theorem isSound_of_ofJson {settings : Settings} {source : Option String} {v : Json} {plan : Plan}
    (h : ofJson settings source v = .ok plan) {s : Step} (hs : plan.Has s) : s.IsSound := by
  obtain ⟨ds, hread, hbuilt⟩ := steps_of_ofJson h
  obtain ⟨d, hd, b, hbuilds⟩ :=
    build_shape.flip.exists_within (hbuilt.imp fun _ _ h => ⟨false, h⟩).flip hs
  obtain ⟨v, -, hv⟩ := StepDocument.read_shape.flip.exists_within hread.flip hd
  obtain ⟨-, -, -, -, -, htarget, -⟩ := StepDocument.read_eq_ok hv
  exact sound_of_builds htarget hbuilds

end Plan
end BrowserPlan
