import BrowserPlan.Proofs.Run.Branch

/-!
# What branches leave in the report

A branch that ends well has either followed its link to the end, and then it has begun all its steps in
their order and noted no failure; or it has failed on the way, and then it has begun the first ones of
its steps and noted this one failure (`branch_outcome`).
-/
namespace BrowserPlan.Run

open BrowserPlan.Task BrowserPlan.Browser

/-- The action that is begun in a step. -/
def Deed.executed? : Deed scene → Option Action
  | .ask (.executed action) _ => some action
  | _ => none

/-- The failure that is noted in a step. -/
def Deed.failure? : Deed scene → Option BranchFailure
  | .ask (.branchFailed failure) _ => some failure
  | _ => none

/-- A branch that takes the steps `ds` fails while it follows its link. -/
def Raises (link : String) (index : IterationIndex) (steps : List Step) (ds : List (Deed scene))
    (fault : Fault) : Prop :=
  ∃ ds₁, ds₁ <+: ds ∧
    Program.Path (followLink link index steps) ds₁ (.done (.error (.failed fault)))

section
variable {F : Findings} {job : Job} {s s' : Stage} {d : Deed scene} {ds : List (Deed scene)}

/-- The steps that a branch has still to begin, of all that it has. -/
def Stage.remaining (all : List Action) : Stage → List Action
  | working w | through (.worked w) | noted (.worked w) => w.remaining
  | _ => all

theorem IsQuiet.executed? {p : PageId} (h : IsQuiet F p d) : Deed.executed? d = none := by
  cases h with
  | aside h | pause h => cases h <;> rfl
  | call hw hop h => cases h <;> rfl
  | _ => rfl

theorem IsQuiet.failure? {p : PageId} (h : IsQuiet F p d) : Deed.failure? d = none := by
  cases h with
  | aside h | pause h => cases h <;> rfl
  | call hw hop h => cases h <;> rfl
  | _ => rfl

/-- A branch begins its steps in their order. -/
theorem Next.remaining {link : String} {index : IterationIndex} {steps : List Step}
    (h : Next F (.branch link index steps) s d s') :
    s.remaining (Step.walkAll steps) =
      (Deed.executed? d).toList ++ s'.remaining (Step.walkAll steps) := by
  cases h with
  | aside h | make h | prepare h => cases h <;> rfl
  | deal h =>
    cases h with
    | acquire a | redeem k a => cases a <;> rfl
    | _ => rfl
  | limit hop h => cases h <;> rfl
  | enter p a h => cases h; rfl
  | quiet h | help h => rw [h.executed?]; rfl
  | executed action a hh hb hr => exact hr
  | share h => cases h <;> rfl
  | note past => cases past <;> rfl
  | _ => rfl

theorem Along.executed {link : String} {index : IterationIndex} {steps : List Step}
    (h : Along (Next F (.branch link index steps)) s ds s') :
    ds.filterMap Deed.executed? ++ s'.remaining (Step.walkAll steps) =
      s.remaining (Step.walkAll steps) := by
  induction h with
  | nil => rfl
  | @snoc ds s' d s'' h hnext ih =>
    have hlast : [d].filterMap Deed.executed? = (Deed.executed? d).toList := by
      cases hd : Deed.executed? d <;> simp [hd]
    rw [List.filterMap_append, hlast, List.append_assoc, ← hnext.remaining, ih]

/-- Who has noted a failure is done. -/
theorem Next.noted (h : Next F job s d s') (hd : (Deed.failure? d).isSome = true) :
    ∃ past, s' = .noted past := by
  cases h with
  | note past => exact ⟨past, rfl⟩
  | aside h | make h | prepare h | share h | deal h => cases h <;> cases hd
  | limit hop h => cases h <;> cases hd
  | quiet h | help h => rw [h.failure?] at hd; cases hd
  | _ => cases hd

theorem Next.still_noted {past : Past} (h : Next F job (.noted past) d s') : s' = .noted past := by
  cases h with
  | aside => rfl
  | deal h => cases h

theorem Along.not_failed (h : Along (Next F job) s ds s') (hs : ∀ past, s' ≠ .noted past) :
    ds.filterMap Deed.failure? = [] := by
  induction h with
  | nil => rfl
  | @snoc ds s' d s'' h hnext ih =>
    have hnone : Deed.failure? d = none := by
      by_contra hne
      obtain ⟨past, rfl⟩ := hnext.noted (Option.isSome_iff_ne_none.2 hne)
      exact hs past rfl
    rw [List.filterMap_append, ih fun past heq => ?_]
    · simp [hnone]
    · subst heq
      exact hs past hnext.still_noted

end

section
variable {link : String} {index : IterationIndex} {steps : List Step} {ds : List (Deed scene)}

/-- What a branch has done when it has followed its link, to the end or not. -/
theorem followed (hsteps : Step.allKeepApart true steps = true) {r : Outcome Fault Unit}
    (h : Program.Path (followLink link index steps) ds (.done r)) :
    ds.filterMap Deed.failure? = [] ∧ ds.filterMap Deed.executed? <+: Step.walkAll steps ∧
      (∀ a, r = .ok a → ds.filterMap Deed.executed? = Step.walkAll steps) := by
  have hobeys : (followLink link index steps).Obeys (fun _ => True)
      (Next (fun _ _ => True) (.branch link index steps)) (Followed fun _ => True) .fresh :=
    obeys_followLink (fun d _ => cover_anything d) hsteps
  obtain ⟨s, halong, past, rfl, hok, -⟩ := hobeys.path h fun _ _ => trivial
  have hexecuted := Along.executed halong
  refine ⟨Along.not_failed halong nofun, ⟨_, hexecuted⟩, fun a ha => ?_⟩
  obtain ⟨w, rfl, hw⟩ := hok a ha
  rw [← List.append_nil (ds.filterMap _), ← hw]
  exact hexecuted

/-- What noting a failure consists of. -/
theorem noteFailure_path {fault : Fault} {r : Outcome Fault Unit}
    (h : Program.Path (noteFailure link index fault) ds (.done r)) :
    ds.filterMap Deed.failure? = [⟨link, index, fault.message⟩] ∧
      ds.filterMap Deed.executed? = [] := by
  obtain ⟨a, es, rfl, htraced⟩ := Program.Path.of_call h
  obtain ⟨a, es, rfl, hnoted⟩ := Program.Path.of_call htraced
  obtain ⟨a, es, rfl, hend⟩ := Program.Path.of_call hnoted
  obtain ⟨rfl, -⟩ := Program.Path.of_done hend
  exact ⟨rfl, rfl⟩

/-- What a branch that has ended well leaves in the report: if it has failed on the way, its failure
and the first of its actions; else all its actions. -/
theorem branch_outcome (hsteps : Step.allKeepApart true steps = true) {v : Yield}
    (h : Program.Path (program (.branch link index steps)) ds (.done (.ok v))) :
    (∃ fault, (∀ f, Raises link index steps ds f ↔ f = fault) ∧
      ds.filterMap Deed.failure? = [⟨link, index, fault.message⟩] ∧
      ds.filterMap Deed.executed? <+: Step.walkAll steps) ∨
    (∀ f, ¬ Raises link index steps ds f) ∧ ds.filterMap Deed.failure? = [] ∧
      ds.filterMap Deed.executed? = Step.walkAll steps := by
  obtain ⟨ds, es, u, rfl, hbranch, hrest⟩ := Program.Path.bind_done h
  obtain ⟨rfl, -⟩ := hrest.of_done
  rw [List.append_nil]
  obtain ⟨ds, es, r, rfl, hattempt, hrest⟩ := Program.Path.bind_done hbranch
  have hfollow := hattempt.attempt_done
  -- where following the link ends
  have hends : ∀ ds' r', ds' <+: ds ++ es →
      Program.Path (followLink link index steps) ds' (.done r') → r' = r := by
    intro ds' r' hinit h'
    rcases List.prefix_or_prefix_of_prefix hinit (List.prefix_append ds es) with hle | hle
    · exact (h'.done_unique hfollow hle).2
    · exact (hfollow.done_unique h' hle).2.symm
  obtain ⟨hnone, hfirst, hall⟩ := followed hsteps hfollow
  match r with
  | .ok u =>
    obtain ⟨rfl, -⟩ := hrest.of_done
    rw [List.append_nil] at hends ⊢
    refine .inr ⟨?_, hnone, hall u rfl⟩
    rintro f ⟨ds', hinit, h'⟩
    cases hends ds' _ hinit h'
  | .error (.failed fault) =>
    obtain ⟨hnoted, hidle⟩ := noteFailure_path hrest
    refine .inl ⟨fault, fun f => ⟨?_, ?_⟩, ?_, ?_⟩
    · rintro ⟨ds', hinit, h'⟩
      cases hends ds' _ hinit h'
      rfl
    · rintro rfl
      exact ⟨ds, List.prefix_append .., hfollow⟩
    · rw [List.filterMap_append, hnone, hnoted]
      rfl
    · rw [List.filterMap_append, hidle, List.append_nil]
      exact hfirst
  | .error .cancelled | .error .interrupted =>
    obtain ⟨-, heq⟩ := hrest.of_done
    cases heq

end

end BrowserPlan.Run
