import BrowserPlan.Proofs.Extraction.Browser
import BrowserPlan.Proofs.Run.Interruption

/-!
# Calls and their answers

`askedIn` lists the calls to the browser that some steps begin, `answeredIn` those that they complete well, and
`foundIn` what the queries among these have found. `Asks` says how far a single call has come (`invoke_asks`): as
long as it is not completed well, the program that makes it does not end well either. So where calls come one after
the other, none begins before the last one has been answered.
-/
namespace BrowserPlan

namespace Task.Program

variable {I : Interface} {α : Type} {p q r : Program I α} {d : Deed I} {ds : List (Deed I)}

theorem Path.call_cases {c : I.Call} {next : I.Answer c → Program I α} (h : Path (.call c next) ds p) :
    (ds = [] ∧ p = .call c next) ∨ ∃ a es, ds = .ask c a :: es ∧ Path (next a) es p := by
  cases ds with
  | nil => exact .inl ⟨rfl, ((Path.nil (.call c next)).unique h).symm⟩
  | cons d es =>
    obtain ⟨p', hp, hq⟩ := Path.split (List.singleton_append ▸ h)
    cases hp.does with
    | ask => exact .inr ⟨_, es, rfl, hq⟩

theorem Path.cons (hd : p.Does d q) (h : Path q ds r) : Path p (d :: ds) r :=
  Path.append (Path.snoc (.nil p) hd) h

/-- The steps that a program takes by itself when `answer` answers its calls and its pauses end well. -/
def trail (answer : (q : I.Call) → I.Answer q) : Program I α → List (Deed I)
  | call q next => .ask q (answer q) :: (next (answer q)).trail answer
  | pause .forever _ => []
  | pause on next => .wake on (.ok ()) :: (next (.ok ())).trail answer
  | done _ | fork _ _ | cancel _ _ | await _ _ | gather _ _ _ => []

theorem path_of_play {answer : (q : I.Call) → I.Answer q} {a : α} (h : p.play answer = some a) :
    Path p (p.trail answer) (done (.ok a)) := by
  induction p with
  | done r =>
    cases r with
    | ok b =>
      cases h
      exact .nil _
    | error e => cases h
  | call q next ih => exact .cons (.ask q next _) (ih _ h)
  | pause on next ih =>
    cases on with
    | signal s => exact .cons (.wake _ next _) (ih _ h)
    | timer micros => exact .cons (.wake _ next _) (ih _ h)
    | forever => cases h
  | fork | cancel | await | gather => cases h

end Task.Program

namespace Run

open BrowserPlan.Task BrowserPlan.Browser

/-! ## What is asked and answered -/

/-- The call to the browser that a step begins. -/
def Deed.asked? : Deed scene → Option (Party × Operation)
  | .ask (.begin who op) _ => some (who, op)
  | _ => none

/-- The call to the browser that a step completes well. -/
def Deed.answered? : Deed scene → Option (Party × Operation)
  | .ask (.complete who _ op) (.ok _) => some (who, op)
  | _ => none

/-- The elements that an answer names. -/
def Operation.found? : (op : Operation) → op.Answer → Option (List Party)
  | .query _, es => some (es.map .element)
  | _, _ => none

/-- The elements that a query finds in a step. -/
def Deed.found? : Deed scene → Option (List Party)
  | .ask (.complete _ _ op) (.ok a) => Operation.found? op a
  | _ => none

/-- The calls that are begun. -/
def askedIn (ds : List (Deed scene)) : List (Party × Operation) := ds.filterMap Deed.asked?

/-- The calls that are completed well. -/
def answeredIn (ds : List (Deed scene)) : List (Party × Operation) := ds.filterMap Deed.answered?

/-- What queries have found. -/
def foundIn (ds : List (Deed scene)) : List (List Party) := ds.filterMap Deed.found?

/-- A step that begins no call and completes none well. -/
structure Deed.IsWordless (d : Deed scene) : Prop where
  begun : Deed.asked? d = none
  answered : Deed.answered? d = none
  found : Deed.found? d = none

section
variable {ds es : List (Deed scene)} {who : Party} {op : Operation}

theorem askedIn_append : askedIn (ds ++ es) = askedIn ds ++ askedIn es := List.filterMap_append

theorem answeredIn_append : answeredIn (ds ++ es) = answeredIn ds ++ answeredIn es := List.filterMap_append

theorem foundIn_append : foundIn (ds ++ es) = foundIn ds ++ foundIn es := List.filterMap_append

theorem askedIn_wordless (h : ∀ d ∈ ds, Deed.IsWordless d) : askedIn ds = [] :=
  List.filterMap_eq_nil_iff.2 fun d hd => (h d hd).begun

theorem answeredIn_wordless (h : ∀ d ∈ ds, Deed.IsWordless d) : answeredIn ds = [] :=
  List.filterMap_eq_nil_iff.2 fun d hd => (h d hd).answered

theorem foundIn_wordless (h : ∀ d ∈ ds, Deed.IsWordless d) : foundIn ds = [] :=
  List.filterMap_eq_nil_iff.2 fun d hd => (h d hd).found

theorem wordless_of_isPause {d : Deed scene} (h : IsPause d) : Deed.IsWordless d := by
  cases h <;> exact ⟨rfl, rfl, rfl⟩

/-! ## A single call -/

/-- How far a call has come, by the steps that were taken for it and what is left of it: it has not begun, it has
begun but was not answered, or it was answered, and then it is over. -/
inductive Asks (who : Party) (op : Operation) : List (Deed scene) → Program scene op.Answer → Prop where
  | fresh : Asks who op [] (invoke who op)
  | unanswered {course es p} (hes : ∀ d ∈ es, Deed.IsWordless d) (hp : ∀ a, p ≠ .done (.ok a)) :
    Asks who op (.ask (.begin who op) course :: es) p
  | answered {course es} (landing) (a : op.Answer) (hes : ∀ d ∈ es, Deed.IsWordless d) :
    Asks who op (.ask (.begin who op) course :: (es ++ [.ask (.complete who landing op) (.ok a)])) (.done (.ok a))

/-- What is left of a call that has taken its time. -/
theorem asks_of_sat {course : Course} {p : Program scene op.Answer} (hds : ∀ d ∈ ds, Deed.IsWordless d)
    (h : Program.Path (do
      if course.interrupts then Program.ending (I := scene) (.error .interrupted)
      failIf (course.fault.map .call)
      settleFor .call (← ask (.complete who course.landing op))) es p) :
    Asks who op (.ask (.begin who op) course :: (ds ++ es)) p := by
  have hended : ∀ {e : Stop Fault}, Program.Path (.done (.error e) : Program scene op.Answer) es p →
      Asks who op (.ask (.begin who op) course :: (ds ++ es)) p := by
    intro e h
    obtain ⟨rfl, rfl⟩ := h.of_done
    rw [List.append_nil]
    exact .unanswered hds nofun
  cases hi : course.interrupts with
  | true =>
    rw [hi] at h
    exact hended h
  | false =>
    cases hf : course.fault with
    | some fault =>
      rw [hi, hf] at h
      exact hended h
    | none =>
      rw [hi, hf] at h
      rcases Program.Path.call_cases (I := scene) h with ⟨rfl, rfl⟩ | ⟨a, fs, rfl, hlast⟩
      · rw [List.append_nil]
        exact .unanswered hds nofun
      · cases a with
        | ok a =>
          obtain ⟨rfl, rfl⟩ := hlast.of_done
          exact .answered course.landing a hds
        | error fault =>
          obtain ⟨rfl, rfl⟩ := hlast.of_done
          refine .unanswered (List.forall_mem_append.2 ⟨hds, ?_⟩) nofun
          rintro d hd
          rw [List.mem_singleton.1 hd]
          exact ⟨rfl, rfl, rfl⟩

/-- A call to the browser, at any point. -/
theorem invoke_asks {p : Program scene op.Answer} (h : Program.Path (invoke who op) ds p) : Asks who op ds p := by
  rcases Program.Path.call_cases (I := scene) h with ⟨rfl, rfl⟩ | ⟨course, es, rfl, hproceed⟩
  · exact .fresh
  replace hproceed : Program.Path (proceed who op course) es p := hproceed
  have hsit : Takes Deed.IsWordless (sitOut who op course) :=
    takes_sitOut (fun d => wordless_of_isPause) fun _ => ⟨rfl, rfl, rfl⟩
  rcases Program.Path.bind hproceed with ⟨p', hpath, rfl⟩ | ⟨ds₁, ds₂, a, rfl, hpath, hrest⟩
  · have hes := hsit.path hpath
    cases p' with
    | done r =>
      cases r with
      | ok a => exact List.append_nil es ▸ asks_of_sat hes (.nil _)
      | error e => exact .unanswered hes nofun
    | _ => exact .unanswered hes nofun
  · exact asks_of_sat (hsit.path hpath) hrest

/-! ## What a call leaves -/

/-- What is known of a call that has not been answered well: it may have begun. -/
theorem Asks.of_unanswered {p : Program scene op.Answer} (h : Asks who op ds p) (hp : ∀ a, p ≠ .done (.ok a)) :
    askedIn ds <+: [(who, op)] ∧ answeredIn ds = [] ∧ foundIn ds = [] := by
  cases h with
  | fresh => exact ⟨List.nil_prefix, rfl, rfl⟩
  | @unanswered course es _ hes =>
    refine ⟨?_, show answeredIn es = [] from answeredIn_wordless hes, show foundIn es = [] from foundIn_wordless hes⟩
    · change (who, op) :: askedIn _ <+: _
      rw [askedIn_wordless hes]
  | answered landing a => exact absurd rfl (hp a)

theorem Asks.of_answered {a : op.Answer} (h : Asks who op ds (.done (.ok a))) :
    askedIn ds = [(who, op)] ∧ answeredIn ds = [(who, op)] ∧ foundIn ds = (Operation.found? op a).toList := by
  generalize hp : Program.done (.ok a) = p at h
  cases h with
  | fresh => cases hp
  | unanswered _ hne => exact absurd hp.symm (hne a)
  | answered landing a' hes =>
    cases hp
    refine ⟨?_, ?_, ?_⟩
    · change (who, op) :: askedIn (_ ++ _) = _
      rw [askedIn_append, askedIn_wordless hes]
      rfl
    · change answeredIn (_ ++ _) = _
      rw [answeredIn_append, answeredIn_wordless hes]
      rfl
    · change foundIn (_ ++ _) = _
      rw [foundIn_append, foundIn_wordless hes, List.nil_append]
      cases hf : Operation.found? op a <;> simp [foundIn, Deed.found?, hf]

end
end Run
end BrowserPlan
