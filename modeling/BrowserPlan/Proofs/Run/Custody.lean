import BrowserPlan.Proofs.Run.Sole
import BrowserPlan.Proofs.Run.Trek

/-!
# Who has the session

Only the task of the run itself, and later the task that closes the session in its place, set the session.
So until it has put off the close, what the task of the run reads is what it has set last (`Honest`,
`honest_of_reaches`), whatever all others do and whoever is interrupted.
-/
namespace BrowserPlan.Run

open BrowserPlan.Task BrowserPlan.Browser

/-! ## What is set and read -/

/-- The session that is set in a step. -/
def Deed.session? : Deed scene → Option Session
  | .ask (.setSession s) _ => some s
  | _ => none

/-- The session after some steps, if it was `s` before them and nobody else sets it. -/
def sessionAfter (s : Session) (ds : List (Deed scene)) : Session :=
  ds.foldl (fun s d => (Deed.session? d).getD s) s

theorem sessionAfter_append (s : Session) (ds es : List (Deed scene)) :
    sessionAfter s (ds ++ es) = sessionAfter (sessionAfter s ds) es := List.foldl_append

theorem sessionAfter_snoc (s : Session) (ds : List (Deed scene)) (d : Deed scene) :
    sessionAfter s (ds ++ [d]) = (Deed.session? d).getD (sessionAfter s ds) := sessionAfter_append s ds [d]

/-- Somebody is started who closes the session. -/
def Deed.IsRetiring : Deed scene → Prop
  | .start (.close _) _ => True
  | _ => False

/-- Until somebody is started who closes the session, what is read is what was set last, from `s` on. -/
def Honest (s : Session) (ds : List (Deed scene)) : Prop :=
  ∀ before s' after, ds = before ++ .ask .session s' :: after →
    (∀ d ∈ before, ¬ Deed.IsRetiring d) → s' = sessionAfter s before

namespace Honest

variable {s : Session} {ds es : List (Deed scene)} {d : Deed scene}

theorem nil : Honest s [] := by
  intro before s' after heq
  simp at heq

theorem left (h : Honest s (ds ++ es)) : Honest s ds := by
  rintro before s' after rfl
  exact h before s' (after ++ es) (by simp)

theorem right (h : Honest s (ds ++ es)) (hds : ∀ d ∈ ds, ¬ Deed.IsRetiring d) :
    Honest (sessionAfter s ds) es := by
  rintro before s' after rfl hbefore
  rw [← sessionAfter_append]
  refine h (ds ++ before) s' after (by simp) fun d hd => ?_
  rcases List.mem_append.1 hd with hd | hd
  · exact hds d hd
  · exact hbefore d hd

theorem tail (h : Honest s (d :: es)) (hd : ¬ Deed.IsRetiring d) :
    Honest ((Deed.session? d).getD s) es := by
  rw [← List.singleton_append] at h
  exact h.right fun d' hd' => List.mem_singleton.1 hd' ▸ hd

theorem snoc (h : Honest s ds)
    (hd : (∀ d ∈ ds, ¬ Deed.IsRetiring d) → ∀ s', d = .ask .session s' → s' = sessionAfter s ds) :
    Honest s (ds ++ [d]) := by
  intro before s' after heq hbefore
  rcases List.eq_nil_or_concat after with rfl | ⟨after, d', rfl⟩
  · obtain ⟨rfl, hlast⟩ := List.append_inj' heq rfl
    exact hd hbefore s' (List.cons.inj hlast).1
  · rw [List.concat_eq_append, ← List.cons_append, ← List.append_assoc] at heq
    obtain ⟨rfl, -⟩ := List.append_inj' heq rfl
    exact h before s' after rfl hbefore

end Honest

/-! ## Who may set the session -/

/-- A task that has the session may take all the steps of a run; the others only those of its plan. -/
def Sets : Rules scene Bool := fun b d b' => b' = b ∧ (Deed.IsWork d ∨ b = true ∧ Deed.IsAside d)

/-- Whose job it is to close the session. -/
def Job.retires : Job → Bool
  | .close _ => true
  | _ => false

theorem Deed.IsWork.not_sets {d : Deed scene} (h : Deed.IsWork d) (s : Session) (u : Unit) :
    d ≠ .ask (.setSession s) u := by
  rintro rfl
  rcases h with h | h
  · exact h
  · cases h

theorem Deed.IsWork.session? {d : Deed scene} (h : Deed.IsWork d) : Deed.session? d = none := by
  cases d with
  | ask q a =>
    cases q with
    | setSession s => exact absurd rfl (h.not_sets s a)
    | _ => rfl
  | _ => rfl

theorem Deed.IsWork.not_retires {job : Job} {u : TaskId} (h : Deed.IsWork (.start job u)) :
    job.retires = false := by
  rcases h with h | h
  · cases job <;> first | rfl | exact h.elim
  · cases h
    rfl

section
variable {R : Deed scene → Prop} {job : Job} {u : TaskId}

theorem sets_of_takes {α : Type} {p : Program scene α} {b : Bool}
    (h : Takes (fun d => Deed.IsWork d ∨ b = true ∧ Deed.IsAside d) p) :
    p.Obeys R Sets (fun _ _ => True) b :=
  Program.Obeys.weaken (fun _ _ _ => trivial) (h.obeys fun _ hd => ⟨rfl, hd⟩)

theorem sets_automation (plan : Plan) (engine : String) :
    (program (.automation plan engine)).Obeys R Sets (fun _ _ => True) true := by
  let D : Deed scene → Prop := fun d => Deed.IsWork d ∨ true = true ∧ Deed.IsAside d
  have haside : ∀ d, Deed.IsAside d → D d := fun d h => .inr ⟨rfl, h⟩
  have hlone : ∀ d, Deed.IsLone d → D d := fun d h => haside d (aside_lone d h)
  apply sets_of_takes
  rw [program_automation]
  refine Takes.bind (.settleFor _ _) fun s => Takes.bind (.ask fun _ => hlone _ trivial) fun _ => ?_
  refine Takes.attempt (takes_openUp hlone plan) fun r => ?_
  match r with
  | .error e => exact takes_giveUp hlone e
  | .ok page =>
    exact Takes.attempt (takes_perform (fun d h => .inl (.inl h)) (fun d h => .inl (.inr h)) plan page)
      fun r => (aside_windUp plan r).mono haside

/-- Who is started in a run keeps to the rules. -/
theorem sets_started (h : Deed.IsWork (.start job u) ∨ Deed.IsAside (.start job u)) :
    (program job).Obeys R Sets (fun _ _ => True) job.retires := by
  have hplain : ∀ d, Deed.IsPlain d → Deed.IsWork d ∨ false = true ∧ Deed.IsAside d := fun d h => .inl (.inl h)
  cases job with
  | wait page c =>
    exact sets_of_takes (Takes.bind (takes_waitFor hplain page c) fun _ => .pure _)
  | click page target =>
    exact sets_of_takes (Takes.bind (takes_invoke hplain (.click target)) fun _ => .pure _)
  | branch link index steps =>
    exact sets_of_takes (Takes.bind (takes_branch hplain (fun d h => .inl (.inr h)) link index steps)
      fun _ => .pure _)
  | close d => exact sets_of_takes ((aside_closeLater d).mono fun d h => .inr ⟨rfl, h⟩)
  | _ =>
    rcases h with (h | h) | h
    · exact h.elim
    · cases h
    · exact h.elim

end

/-! ## Runs -/

/-- A task that is started has the session if it is its job to close it. -/
def entrust : Deed scene → (TaskId → Bool) → TaskId → Bool
  | .start job u, g => Function.update g u job.retires
  | _, g => g

section
variable {W : Type} {m : Machine scene W} {P : Premises m} {w : W} {plan : Plan} {engine : String}
  {h : List (Event scene)} {c c' : Crew scene W} {e : Event scene}

/-- As long as nobody was started to close the session, only the first task has it, and it is as that task
has set it. -/
def InHand (P : Premises m) (w : W) (h : List (Event scene)) (c : Crew scene W) : Prop :=
  ∃ g : TaskId → Bool, c.Keeps (fun _ => True) Sets g ∧
    (∀ t, t ≠ 0 → t < c.members.length → g t = false) ∧
    P.session c.world = sessionAfter (P.session w) (deedsOf h 0)

theorem InHand.idle (hh : InHand P w h c) (hs : Crew.Step m IsOutside c e c') (he : ∀ t d, e ≠ .act t d) :
    InHand P w (h ++ [e]) c' := by
  obtain ⟨g, hkeeps, hothers, hsession⟩ := hh
  have hlength : c'.members.length = c.members.length := by
    rcases hs.length with heq | ⟨⟨t, job, heq⟩, -⟩
    · exact heq
    · exact absurd heq (he _ _)
  refine ⟨g, hkeeps.idle hs he, fun t ht hlt => hothers t ht (hlength ▸ hlt), ?_⟩
  rw [deedsOf_idle (he 0), ← hsession]
  refine session_step P hs fun t d heq => absurd heq (he t d)

/-- The session is as it is set in a step, and else as it was. -/
theorem session_act (P : Premises m) {t : TaskId} {d : Deed scene} (hs : Crew.Step m IsOutside c (.act t d) c') :
    P.session c'.world = (Deed.session? d).getD (P.session c.world) := by
  cases hs with
  | @act _ x _ p c₁ hx hr hd ha =>
    change P.session c₁.world = _
    by_cases hset : ∃ s u, d = .ask (.setSession s) u
    · obtain ⟨s, u, rfl⟩ := hset
      cases ha with
      | ask now => exact P.session_set now c.world s
      | wait ho => cases ho
      | late _ ho heq => cases ho <;> cases heq
    · rw [session_allows P ha fun s u heq => hset ⟨s, u, heq⟩]
      cases d with
      | ask q a =>
        cases q with
        | setSession s => exact absurd ⟨s, a, rfl⟩ hset
        | _ => rfl
      | _ => rfl

/-- Who reads the session is told how it is. -/
theorem session_read (P : Premises m) {t : TaskId} {s : Session}
    (hs : Crew.Step m IsOutside c (.act t (.ask .session s)) c') : s = P.session c.world := by
  cases hs with
  | act hx hr hd ha =>
    cases ha with
    | ask now ha => exact ha.trans (P.session_answered now c.world)
    | wait ho => cases ho
    | late _ ho heq => cases ho <;> cases heq

theorem InHand.act (hh : InHand P w h c) {t : TaskId} {d : Deed scene}
    (hs : Crew.Step m IsOutside c (.act t d) c') (hd : t = 0 → ¬ Deed.IsRetiring d) :
    InHand P w (h ++ [.act t d]) c' := by
  obtain ⟨g, hkeeps, hothers, hsession⟩ := hh
  obtain ⟨b, ⟨rfl, hallowed⟩, hnext⟩ := hkeeps.act hs trivial
  have ht : t < c.members.length := by
    cases hs with
    | act hx => exact Crew.lt_of_member hx
  -- the others do not have the session
  have hwork : t ≠ 0 → Deed.IsWork d := by
    intro hne
    rcases hallowed with h | ⟨htrue, -⟩
    · exact h
    · rw [hothers t hne ht] at htrue
      cases htrue
  have hstarted : ∀ {job u}, d = .start job u → u = c.members.length ∧
      c'.members.length = u + 1 ∧ job.retires = false := by
    rintro job u rfl
    obtain ⟨hu, -, hlength⟩ := hs.started_last
    refine ⟨hu, hlength, ?_⟩
    by_cases hzero : t = 0
    · cases job with
      | close d => exact absurd trivial (hd hzero)
      | _ => rfl
    · exact (hwork hzero).not_retires
  have hold : ∀ u, u < c.members.length → entrust d g u = g u := by
    intro u hu
    cases d with
    | start job v =>
      obtain ⟨rfl, -⟩ := hstarted rfl
      exact Function.update_of_ne (Nat.ne_of_lt hu) ..
    | _ => rfl
  refine ⟨entrust d g, hnext _ (hold t ht) (fun u _ hu => hold u hu) ?_, fun u hne hu => ?_, ?_⟩
  · rintro job u rfl
    rw [P.program]
    change (program job).Obeys _ _ _ (Function.update g u job.retires u)
    rw [Function.update_self]
    exact sets_started (hallowed.imp_right And.right)
  · rcases Nat.lt_or_ge u c.members.length with hlt | hge
    · rw [hold u hlt]
      exact hothers u hne hlt
    · rcases hs.length with heq | ⟨⟨v, job, heq⟩, hlength⟩
      · exact absurd (heq ▸ hu) (Nat.not_lt_of_ge hge)
      · cases heq
        obtain rfl : u = c.members.length := by omega
        change Function.update g c.members.length job.retires c.members.length = false
        rw [Function.update_self]
        exact (hstarted rfl).2.2
  · rw [session_act P hs, hsession]
    by_cases hzero : t = 0
    · rw [hzero, deedsOf_act, sessionAfter_snoc]
    · rw [deedsOf_idle fun d' heq => hzero (by cases heq; rfl), (hwork hzero).session?]
      rfl

/-- In every run, what its task reads of the session is what it has set, until the close is put off. -/
theorem honest_of_reaches (P : Premises m)
    (hr : Crew.Reaches m IsOutside (Crew.single m w (.automation plan engine)) h c) :
    Honest (P.session w) (deedsOf h 0) ∧
      ((∀ d ∈ deedsOf h 0, ¬ Deed.IsRetiring d) → InHand P w h c) := by
  induction hr with
  | refl =>
    refine ⟨.nil, fun _ => ⟨fun _ => true, ?_, fun t ht hlt => ?_, rfl⟩⟩
    · refine .single w (s := true) ?_ rfl
      rw [P.program]
      exact sets_automation plan engine
    · exact absurd (Nat.lt_one_iff.1 hlt) ht
  | @step h c e c' _ hs ih =>
    obtain ⟨hhonest, hhand⟩ := ih
    by_cases hfirst : ∃ d, e = .act 0 d
    · obtain ⟨d, rfl⟩ := hfirst
      rw [deedsOf_act]
      refine ⟨hhonest.snoc fun hds s' heq => ?_, fun hds => ?_⟩
      · subst heq
        obtain ⟨-, -, -, hsession⟩ := hhand hds
        exact (session_read P hs).trans hsession
      · refine (hhand fun d hd => hds d (List.mem_append_left _ hd)).act hs fun _ => ?_
        exact hds d (List.mem_append_right _ List.mem_cons_self)
    · have hidle : ∀ d, e ≠ .act 0 d := fun d he => hfirst ⟨d, he⟩
      rw [deedsOf_idle hidle]
      refine ⟨hhonest, fun hds => ?_⟩
      by_cases hact : ∃ t d, e = .act t d
      · obtain ⟨t, d, rfl⟩ := hact
        exact (hhand hds).act hs fun ht => absurd (by rw [ht]) (hidle d)
      · exact (hhand hds).idle hs fun t d he => hact ⟨t, d, he⟩

end

end BrowserPlan.Run
