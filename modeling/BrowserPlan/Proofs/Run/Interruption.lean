import BrowserPlan.Proofs.Run.Custody
import BrowserPlan.Proofs.Run.Heed

/-!
# Interrupted calls

Where a call ends well, it has met no interruption (`invoke_path`). A close is different: its failure is
passed over, but if it is interrupted, it is cut off, and nothing else is closed after it (`CutOff`). So
the pages of the pool are closed one after the other as long as no close is cut off (`closePages_path`).
-/
namespace BrowserPlan.Run

open BrowserPlan.Task BrowserPlan.Browser

/-! ## What is closed -/

/-- What some steps attempt to close. -/
def attemptedIn (ds : List (Deed scene)) : List Resource := ds.filterMap Deed.closing?

theorem mem_attemptedIn_append {resource : Resource} {ds es : List (Deed scene)} :
    resource ∈ attemptedIn (ds ++ es) ↔ resource ∈ attemptedIn ds ∨ resource ∈ attemptedIn es := by
  rw [attemptedIn, List.filterMap_append, List.mem_append]
  rfl

/-- A call begins. -/
def Deed.IsBegin : Deed scene → Prop
  | .ask (.begin ..) _ => True
  | _ => False

/-- An interruption is met while the resource is being closed, and no call begins after that. -/
def CutOff (ds : List (Deed scene)) (resource : Resource) : Prop :=
  ∃ before d after, ds = before ++ d :: after ∧ Deed.closing? d = some resource ∧
    (∀ x ∈ after, ¬ Deed.IsBegin x) ∧ ∃ x ∈ d :: after, ¬ Deed.IsCalm x

theorem CutOff.mem_attemptedIn {ds : List (Deed scene)} {resource : Resource} (h : CutOff ds resource) :
    resource ∈ attemptedIn ds := by
  obtain ⟨before, d, after, rfl, hclosing, -⟩ := h
  exact List.mem_filterMap.2 ⟨d, by simp, hclosing⟩

theorem CutOff.append {ds : List (Deed scene)} {resource : Resource} (h : CutOff ds resource)
    (es : List (Deed scene)) : CutOff (es ++ ds) resource := by
  obtain ⟨before, d, after, rfl, hclosing, hnone, hstruck⟩ := h
  exact ⟨es ++ before, d, after, (List.append_assoc ..).symm, hclosing, hnone, hstruck⟩

theorem CutOff.more {ds es : List (Deed scene)} {resource : Resource} (h : CutOff ds resource)
    (hes : ∀ d ∈ es, ¬ Deed.IsBegin d) : CutOff (ds ++ es) resource := by
  obtain ⟨before, d, after, rfl, hclosing, hnone, x, hx, hstruck⟩ := h
  refine ⟨before, d, after ++ es, List.append_assoc .., hclosing, ?_, x, ?_, hstruck⟩
  · exact List.forall_mem_append.2 ⟨hnone, hes⟩
  · exact List.mem_append_left es hx

/-- A pause for a time ends well, or it is broken off. -/
def Deed.IsPunctual : Deed scene → Prop
  | .wake (.signal _) _ => True
  | .wake _ r => r = .ok () ∨ r = .error .cancelled
  | _ => True

theorem punctual_of_reaches {W : Type} {m : Machine scene W} {outside : Call → Prop} {c c' : Crew scene W}
    {h : List (Event scene)} (hr : Crew.Reaches m outside c h c') :
    ∀ t d, .act t d ∈ h → Deed.IsPunctual d := by
  have hallowed : ∀ {c c' : Crew scene W} {isTold : Bool} {d : Deed scene}, Crew.Allows m c isTold d c' →
      Deed.IsPunctual d := by
    intro c c' isTold d ha
    have hoffer : ∀ {e : Deed scene}, c.Offers e → Deed.IsPunctual e := by
      intro e he
      cases he with
      | timer => exact .inl rfl
      | _ => trivial
    cases ha with
    | ask | start | stop => trivial
    | wait ho => exact hoffer ho
    | breakOff on =>
      cases on with
      | signal => trivial
      | timer | forever => exact .inr rfl
    | late _ ho heq =>
      subst heq
      cases ho with
      | timer => exact .inr rfl
      | _ => trivial
  induction hr with
  | refl => exact fun _ _ hd => absurd hd List.not_mem_nil
  | step _ hs ih =>
    intro t d hd
    rcases List.mem_append.1 hd with hd | hd
    · exact ih t d hd
    · cases List.mem_singleton.1 hd
      cases hs with
      | act _ _ _ ha => exact hallowed ha

/-! ## Calls -/

/-- The answer to a question comes before anything else. -/
theorem ask_path {α : Type} {q : Call} {f : q.Answer → Program scene α} {ds : List (Deed scene)}
    {r : Outcome Fault α} (h : Program.Path (ask q >>= f) ds (.done r)) :
    ∃ a es, ds = .ask q a :: es ∧ Program.Path (f a) es (.done r) := Program.Path.of_call h

section
variable {ds : List (Deed scene)} {who : Party} {op : Operation} {course : Course}

theorem takes_sitOut {D : Deed scene → Prop} (hpause : ∀ d, IsPause d → D d)
    (hbreak : ∀ a, D (.ask (.breakOff who op) a)) : Takes D (sitOut who op course) :=
  .of_stays (stays_sitOut hpause hbreak)

/-- A call that has begun takes no steps but its own. -/
theorem takes_proceed {D : Deed scene → Prop} (hpause : ∀ d, IsPause d → D d)
    (hbreak : ∀ a, D (.ask (.breakOff who op) a))
    (hcomplete : ∀ a, D (.ask (.complete who course.landing op) a)) : Takes D (proceed who op course) := by
  refine Takes.bind (takes_sitOut hpause hbreak) fun _ => ?_
  have hend : Takes D (do
      failIf (course.fault.map .call)
      settleFor .call (← ask (.complete who course.landing op))) :=
    Takes.bind (.failIf _) fun _ => Takes.bind (.ask hcomplete) fun _ => .settleFor _ _
  dsimp only
  split
  · exact Takes.bind (.ending _) fun _ => hend
  · exact hend

theorem wait_path {on : Pause Signal} {r : Outcome Fault Unit} (h : Program.Path (wait on) ds (.done r)) :
    ds = [.wake on r] := by
  cases ds with
  | nil => cases (Program.Path.nil (wait on)).unique h
  | cons d es =>
    obtain ⟨q, hfirst, hlater⟩ := Program.Path.split (List.singleton_append ▸ h)
    cases hfirst.does with
    | wake =>
      obtain ⟨rfl, heq⟩ := hlater.of_done
      cases heq
      rfl

theorem holdUp_ne_signal {s : Signal} : holdUp course ≠ some (.signal s) := by
  unfold holdUp
  split
  · rintro ⟨⟩
  · split <;> rintro ⟨⟩

/-- A call does not fail while it is sat out. -/
theorem sitOut_path {r : Outcome Fault Unit} (h : Program.Path (sitOut who op course) ds (.done r))
    (hds : ∀ d ∈ ds, Deed.IsPunctual d) : r = .ok () ∨ ¬ IsCalm r := by
  rw [sitOut.eq_def] at h
  split at h
  · obtain ⟨-, heq⟩ := h.of_done
    cases heq
    exact .inl rfl
  · rename_i on hon
    obtain ⟨ds₁, ds₂, o, rfl, hwait, hrest⟩ := h.attempt_end
    obtain rfl := wait_path hwait
    have hpunctual : o = .ok () ∨ o = .error .cancelled := by
      have hwake := hds (.wake on o) (by simp)
      cases on with
      | signal s => exact absurd hon holdUp_ne_signal
      | timer | forever => exact hwake
    rcases hpunctual with rfl | rfl
    · obtain ⟨-, heq⟩ := hrest.of_done
      cases heq
      exact .inl rfl
    · obtain ⟨a, es, -, hend⟩ := Program.Path.of_call hrest
      obtain ⟨-, heq⟩ := hend.of_done
      cases heq
      exact .inr id

/-- A call begins, and its end tells whether it was interrupted. -/
theorem invoke_path {r : Outcome Fault op.Answer} (h : Program.Path (invoke who op) ds (.done r)) :
    ∃ course es, ds = .ask (.begin who op) course :: es ∧ (∀ x ∈ es, ¬ Deed.IsBegin x) ∧
      (¬ IsCalm r → ∃ d ∈ ds, ¬ Deed.IsCalm d) ∧
      ((∀ d ∈ ds, Deed.IsPunctual d) → IsCalm r → ∀ d ∈ ds, Deed.IsCalm d) := by
  obtain ⟨course, es, rfl, hproceed⟩ := Program.Path.of_call h
  replace hproceed : Program.Path (proceed who op course) es (.done r) := hproceed
  refine ⟨course, es, rfl, ?_, fun hr => ?_, fun hds hr => ?_⟩
  · exact (takes_proceed (D := fun d => ¬ Deed.IsBegin d) (fun d hd => by cases hd <;> exact id)
      (fun _ => id) fun _ => id).path hproceed
  · by_contra hcalm
    push Not at hcalm
    have hstays : Stays Deed.IsCalm (fun (_ : Unit) _ _ => True) () (Anything op.Answer) (invoke who op) :=
      .invoke (fun _ _ => trivial) fun _ _ => trivial
    obtain ⟨_, -, -, hsound, -⟩ := Program.Obeys.path hstays h hcalm
    exact hr (hsound fun _ hd => hd)
  · rcases Program.Path.bind_end hproceed with ⟨e, hsit, rfl⟩ | ⟨ds₁, ds₂, a, rfl, hsit, hrest⟩
    · rcases sitOut_path hsit fun d hd => hds d (List.mem_cons_of_mem _ hd) with heq | hstruck
      · cases heq
      · cases e <;> exact absurd hr hstruck
    · have hfirst := heeds_sitOut who op course ds₁ a hsit
      dsimp only at hrest
      cases hcourse : course.interrupts with
      | true =>
        rw [hcourse] at hrest
        rcases Program.Path.bind_end hrest with ⟨e, hend, rfl⟩ | ⟨_, _, _, -, hend, -⟩
        · obtain ⟨-, heq⟩ := hend.of_done
          cases heq
          exact hr.elim
        · obtain ⟨-, heq⟩ := hend.of_done
          cases heq
      | false =>
        rw [hcourse] at hrest
        have hlater : Takes Deed.IsCalm (do
            failIf (course.fault.map .call)
            settleFor .call (← ask (.complete who course.landing op))) :=
          Takes.bind (.failIf _) fun _ => Takes.bind (.ask fun _ => trivial) fun _ => .settleFor _ _
        intro d hd
        rcases List.mem_cons.1 hd with rfl | hd
        · exact hcourse
        · rcases List.mem_append.1 hd with hd | hd
          · exact hfirst d hd
          · exact hlater.path hrest d hd

end

/-! ## Closing -/

/-- The program attempts first to close the resource, and its end tells whether it was interrupted. -/
def Closes (p : Program scene Unit) (resource : Resource) : Prop :=
  ∀ ds r, Program.Path p ds (.done r) → ∃ d es, ds = d :: es ∧ Deed.closing? d = some resource ∧
    (∀ x ∈ es, ¬ Deed.IsBegin x) ∧ (¬ IsCalm r → ∃ x ∈ ds, ¬ Deed.IsCalm x) ∧
    ((∀ x ∈ ds, Deed.IsPunctual x) → IsCalm r → ∀ x ∈ ds, Deed.IsCalm x)

theorem closes_page (p : PageId) : Closes (invoke (.page p) .close) (.page p) := fun _ _ h => by
  obtain ⟨course, es, rfl, hrest⟩ := invoke_path h
  exact ⟨_, es, rfl, rfl, hrest⟩

theorem closes_browser (b : BrowserId) : Closes (invoke (.browser b) .close) (.browser b) := fun _ _ h => by
  obtain ⟨course, es, rfl, hrest⟩ := invoke_path h
  exact ⟨_, es, rfl, rfl, hrest⟩

theorem closes_launcher : Closes (invoke .launcher .stop) .launcher := fun _ _ h => by
  obtain ⟨course, es, rfl, hrest⟩ := invoke_path h
  exact ⟨_, es, rfl, rfl, hrest⟩

section
variable {ds : List (Deed scene)} {r : Outcome Fault Unit} {resource : Resource}

/-- A close whose failure is passed over is attempted; if it ends badly, then because it was cut off. -/
theorem Closes.tolerating {p : Program scene Unit} (hp : Closes p resource)
    (h : Program.Path p.tolerating ds (.done r)) : resource ∈ attemptedIn ds ∧
      ((r = .ok () ∧ ((∀ d ∈ ds, Deed.IsPunctual d) → ∀ d ∈ ds, Deed.IsCalm d)) ∨
        (∃ e, r = .error e) ∧ CutOff ds resource) := by
  obtain ⟨ds₁, ds₂, o, rfl, hclose, hend⟩ := Program.Path.attempt_end h
  obtain ⟨d, es, rfl, hclosing, hnone, hstruck, hcalm⟩ := hp ds₁ o hclose
  have hattempted : resource ∈ attemptedIn (d :: es) := List.mem_filterMap.2 ⟨d, List.mem_cons_self, hclosing⟩
  match o with
  | .ok () | .error (.failed _) =>
    obtain ⟨rfl, heq⟩ := hend.of_done
    cases heq
    rw [List.append_nil]
    exact ⟨hattempted, .inl ⟨rfl, fun hds => hcalm hds trivial⟩⟩
  | .error .cancelled | .error .interrupted =>
    obtain ⟨rfl, heq⟩ := hend.of_done
    cases heq
    rw [List.append_nil]
    exact ⟨hattempted, .inr ⟨⟨_, rfl⟩, [], d, es, rfl, hclosing, hnone, hstruck id⟩⟩

theorem calm_ask {ds : List (Deed scene)} {q : Call} {a : q.Answer} (hd : Deed.IsCalm (.ask q a))
    (hds : ∀ d ∈ ds, Deed.IsCalm d) : ∀ d ∈ .ask q a :: ds, Deed.IsCalm d := by
  simpa using ⟨hd, hds⟩

/-- Closing one page after the other goes on to the last, or it is cut off at one of them. -/
theorem each_close_path {pages : List PageId}
    (h : Program.Path (Program.each (fun p => (invoke (.page p) .close).tolerating) pages) ds (.done r)) :
    (r = .ok () ∧ ((∀ d ∈ ds, Deed.IsPunctual d) → ∀ d ∈ ds, Deed.IsCalm d)) ∨
      (∃ e, r = .error e) ∧ ∃ p, CutOff ds (.page p) := by
  induction pages generalizing ds with
  | nil =>
    obtain ⟨rfl, heq⟩ := h.of_done
    cases heq
    exact .inl ⟨rfl, fun _ _ => (absurd · List.not_mem_nil)⟩
  | cons p pages ih =>
    rcases Program.Path.bind_end h with ⟨e, hclose, rfl⟩ | ⟨ds₁, ds₂, u, rfl, hclose, hrest⟩
    · obtain ⟨-, ⟨heq, -⟩ | ⟨hbad, hcut⟩⟩ := (closes_page p).tolerating hclose
      · cases heq
      · exact .inr ⟨hbad, p, hcut⟩
    · obtain ⟨-, ⟨-, hcalm⟩ | ⟨⟨_, heq⟩, -⟩⟩ := (closes_page p).tolerating hclose
      · rcases ih hrest with ⟨rfl, hcalm'⟩ | ⟨hbad, p', hcut⟩
        · exact .inl ⟨rfl, fun hds => List.forall_mem_append.2
            ⟨hcalm fun d hd => hds d (List.mem_append_left _ hd),
              hcalm' fun d hd => hds d (List.mem_append_right _ hd)⟩⟩
        · exact .inr ⟨hbad, p', hcut.append ds₁⟩
      · cases heq

/-- The pages of the pool are closed, or the close of one of them is cut off. -/
theorem closePages_path (h : Program.Path closePages ds (.done r)) :
    (r = .ok () ∧ ((∀ d ∈ ds, Deed.IsPunctual d) → ∀ d ∈ ds, Deed.IsCalm d)) ∨
      (∃ e, r = .error e) ∧ ∃ p, CutOff ds (.page p) := by
  obtain ⟨pages, es, rfl, hpages⟩ := ask_path h
  rcases Program.Path.bind_end hpages with ⟨e, heach, rfl⟩ | ⟨ds₁, ds₂, u, rfl, heach, hrest⟩
  · rcases each_close_path heach with ⟨heq, -⟩ | ⟨hbad, p, hcut⟩
    · cases heq
    · exact .inr ⟨hbad, p, hcut.append [_]⟩
  · obtain ⟨_, es₁, rfl, hnote⟩ := ask_path hrest
    obtain ⟨_, es₂, rfl, hend⟩ := Program.Path.of_call hnote
    obtain ⟨rfl, heq⟩ := hend.of_done
    cases heq
    rcases each_close_path heach with ⟨-, hcalm⟩ | ⟨⟨_, heq⟩, -⟩
    · refine .inl ⟨rfl, fun hds => calm_ask trivial (List.forall_mem_append.2 ⟨hcalm fun d hd => ?_, ?_⟩)⟩
      · exact hds d (List.mem_cons_of_mem _ (List.mem_append_left _ hd))
      · exact calm_ask trivial (calm_ask trivial fun d hd => absurd hd List.not_mem_nil)
    · cases heq

end

end BrowserPlan.Run
