import BrowserPlan.Proofs.Task.Crew

/-!
# Rehearsals

One of the ways in which a crew can go on, given who takes the steps: every call is made at time 0, every
pause for a time ends well, and a wait ends as soon as it can. It can be computed, so that single
histories can be looked at.
-/
namespace BrowserPlan.Task.Crew

variable {I : Interface} {W : Type} [DecidableEq I.Signal] {m : Machine I W} {outside : I.Call → Prop}
  {c d : Crew I W} {e : Event I} {t : TaskId}

/-- How a task has ended badly, if it has. -/
def fault? (c : Crew I W) (t : TaskId) : Option (Stop I.Fault) :=
  match c.result? t with
  | some (.error s) => some s
  | _ => none

/-- What a wait for several tasks ends with, if it is over. -/
def meet? (c : Crew I W) (ts : List TaskId) : Bool → Option (Outcome I.Fault Unit)
  | true => if ts.all fun t => (c.result? t).isSome then some (.ok ()) else none
  | false =>
    match ts.findSome? c.fault? with
    | some s => some (.error s)
    | none => if ts.all fun t => (c.result? t).isSome then some (.ok ()) else none

/-- The next step of a task. -/
def next? (m : Machine I W) (c : Crew I W) (t : TaskId) : Option (Event I × Crew I W) :=
  match c.members[t]? with
  | some ⟨_, .done r, _, _, none⟩ => some (.finish t r, c.finish t r)
  | some ⟨_, .call q next, _, _, none⟩ =>
    let a := (m.perform 0 c.world q).2.1
    some (.act t (.ask q a), (c.perform m 0 q).goOn t (next a))
  | some ⟨_, .pause (.timer micros) next, _, _, none⟩ =>
    some (.act t (.wake (.timer micros) (.ok ())), c.goOn t (next (.ok ())))
  | some ⟨_, .pause (.signal s) next, _, _, none⟩ =>
    match c.given.find? fun g => g.1 = s with
    | some g => some (.act t (.wake (.signal s) g.2), c.goOn t (next g.2))
    | none => none
  | some ⟨_, .fork job next, _, _, none⟩ =>
    let u := c.members.length
    some (.act t (.start job u), (c.start m job).goOn t (next u))
  | some ⟨_, .cancel u next, _, _, none⟩ => some (.act t (.stop u), (c.tell u).goOn t next)
  | some ⟨_, .await u next, _, _, none⟩ =>
    match c.result? u with
    | some r => some (.act t (.learn u r), c.goOn t (next r))
    | none => none
  | some ⟨_, .gather ts patient next, _, _, none⟩ =>
    match c.meet? ts patient with
    | some r => some (.act t (.meet ts patient r), c.goOn t (next r))
    | none => none
  | _ => none

omit [DecidableEq I.Signal] in
theorem offers_meet {ts : List TaskId} {patient : Bool} {r : Outcome I.Fault Unit}
    (h : c.meet? ts patient = some r) : c.Offers (.meet ts patient r) := by
  have hfault : ∀ {t s}, c.fault? t = some s → c.result? t = some (.error s) := by
    intro t s h
    rw [fault?] at h
    split at h
    · rename_i heq
      cases h
      exact heq
    · cases h
  cases patient with
  | true =>
    simp only [meet?, List.all_eq_true] at h
    split at h
    · rename_i hall
      cases h
      exact .all hall
    · cases h
  | false =>
    simp only [meet?, List.all_eq_true] at h
    split at h
    · rename_i s hs
      cases h
      obtain ⟨t, ht, hs⟩ := List.exists_of_findSome?_eq_some hs
      exact .bad ht (hfault hs)
    · rename_i hnone
      split at h
      · rename_i hall
        cases h
        refine .good fun t ht => ?_
        obtain ⟨r, hr⟩ := Option.isSome_iff_exists.1 (hall t ht)
        cases r with
        | ok a => exact ⟨a, hr⟩
        | error s =>
          have := List.findSome?_eq_none_iff.1 hnone t ht
          rw [fault?, hr] at this
          cases this
      · cases h

/-- A rehearsed step can be taken. -/
theorem step_of_next? (h : c.next? m t = some (e, d)) : Step m outside c e d := by
  unfold next? at h
  split at h
  · rename_i hx
    cases h
    exact .finish hx rfl rfl
  · rename_i q next _ _ hx
    cases h
    exact .act hx rfl (.ask q next _) (.ask 0 rfl)
  · rename_i micros next _ _ hx
    cases h
    exact .act hx rfl (.wake _ next _) (.wait (.timer micros))
  · rename_i s next _ _ hx
    split at h
    · rename_i g hg
      cases h
      have hs : g.1 = s := by simpa using List.find?_some hg
      exact .act hx rfl (.wake _ next _) (.wait (.signal (hs ▸ List.mem_of_find?_eq_some hg)))
    · cases h
  · rename_i job next _ _ hx
    cases h
    exact .act hx rfl (.start job next _) (.start job rfl)
  · rename_i u next _ _ hx
    cases h
    exact .act hx rfl (.stop u next) (.stop u)
  · rename_i u next _ _ hx
    split at h
    · rename_i r hr
      cases h
      exact .act hx rfl (.learn u next r) (.wait (.learn hr))
    · cases h
  · rename_i ts patient next _ _ hx
    split at h
    · rename_i r hr
      cases h
      exact .act hx rfl (.meet ts patient next r) (.wait (offers_meet hr))
    · cases h
  · cases h

/-- Lets tasks take their next steps, one after the other. -/
def rehearse (m : Machine I W) : List TaskId → Crew I W → Option (List (Event I) × Crew I W)
  | [], c => some ([], c)
  | t :: ts, c =>
    match c.next? m t with
    | some (e, d) => (rehearse m ts d).map fun (h, d') => (e :: h, d')
    | none => none

theorem reaches_of_rehearse {ts : List TaskId} {c₀ : Crew I W} {h₀ h : List (Event I)}
    (hc : Reaches m outside c₀ h₀ c) (hr : rehearse m ts c = some (h, d)) :
    Reaches m outside c₀ (h₀ ++ h) d := by
  induction ts generalizing c h₀ h with
  | nil =>
    cases hr
    rw [List.append_nil]
    exact hc
  | cons t ts ih =>
    rw [rehearse] at hr
    split at hr
    · rename_i e c₁ hnext
      obtain ⟨⟨h', d'⟩, hr', heq⟩ := Option.map_eq_some_iff.1 hr
      cases heq
      rw [← List.singleton_append, ← List.append_assoc]
      exact ih (hc.step (step_of_next? hnext)) hr'
    · cases hr

end BrowserPlan.Task.Crew
