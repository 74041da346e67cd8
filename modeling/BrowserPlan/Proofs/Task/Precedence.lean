import BrowserPlan.Proofs.Task.Bystanders

/-!
# First come, first served

Of two tasks that stand in the queue one behind the other, the first one asks the world first, if it asks at all,
provided that it does not wait before it asks (`Ahead.asksFirst`).
-/
namespace BrowserPlan.Task

variable {I : Interface} {W : Type}

/-- The calls among the steps that a task takes. -/
def Deed.call? : Deed I → Option I.Call
  | .ask q _ => some q
  | _ => none

/-- The calls that are made in a move, and by whom. -/
def Happening.asked : Happening I → List (TaskId × I.Call)
  | turn t deeds => (deeds.filterMap Deed.call?).map (t, ·)
  | _ => []

/-- The program begins with such a call, or it is done. -/
def Program.Opens (Q : I.Call → Prop) (p : Program I I.Result) : Prop :=
  (∃ q next, p = .call q next ∧ Q q) ∨ ∃ r, p = .done r

namespace Loop

/-- The calls that are made on the way, and by whom. -/
def asked (es : List (Happening I)) : List (TaskId × I.Call) := es.flatMap Happening.asked

/-- The first of these calls that `u` makes, if it makes any, is such a call, and `v` makes none before it. -/
def AsksFirst (Q : I.Call → Prop) (u v : TaskId) (calls : List (TaskId × I.Call)) : Prop :=
  ∀ before q after, calls = before ++ (u, q) :: after → (∀ q', (u, q') ∉ before) → Q q ∧ ∀ q', (v, q') ∉ before

/-- The task `u` comes before the task `v`: it stands in the queue before it, it has asked before it, or it has ended
without asking. -/
inductive Ahead (Q : I.Call → Prop) (u v : TaskId) (calls : List (TaskId × I.Call)) (L : Loop I W) : Prop where
  | due {resume : Bool → Program I I.Result} {q₁ q₂ : List Turn} (hcalls : ∀ q, (u, q) ∉ calls ∧ (v, q) ∉ calls)
    (hs : L.standing? u = some (.ready resume)) (hopens : ∀ b, (resume b).Opens Q)
    (hq : L.queue = q₁ ++ .resume u :: q₂) (hv : .resume v ∉ q₁) : Ahead Q u v calls L
  | asked {before q after} (hcalls : calls = before ++ (u, q) :: after) (hq : Q q) (hu : ∀ q, (u, q) ∉ before)
    (hv : ∀ q, (v, q) ∉ before) : Ahead Q u v calls L
  | ended {r} (hcalls : ∀ q, (u, q) ∉ calls) (hs : L.standing? u = some (.finished r)) : Ahead Q u v calls L

variable {Q : I.Call → Prop} {u v : TaskId} {calls : List (TaskId × I.Call)} {L M : Loop I W}

theorem Ahead.asksFirst (h : Ahead Q u v calls L) : AsksFirst Q u v calls := by
  intro before q after heq hfirst
  cases h with
  | due hcalls => exact absurd (heq ▸ List.mem_append_right _ List.mem_cons_self) (hcalls q).1
  | ended hcalls => exact absurd (heq ▸ List.mem_append_right _ List.mem_cons_self) (hcalls q)
  | @asked before' q' after' hcalls hq hu hv =>
    rcases List.append_eq_append_iff.1 (hcalls.symm.trans heq) with ⟨l, rfl, hl⟩ | ⟨l, rfl, hl⟩
    · cases l with
      | nil =>
        cases (List.cons.inj hl).1
        rw [List.append_nil]
        exact ⟨hq, hv⟩
      | cons call l =>
        obtain ⟨rfl, -⟩ := List.cons.inj hl
        exact absurd (List.mem_append_right _ List.mem_cons_self) (hfirst q')
    · cases l with
      | nil =>
        cases (List.cons.inj hl).1
        rw [List.append_nil] at hv
        exact ⟨hq, hv⟩
      | cons call l =>
        obtain ⟨rfl, -⟩ := List.cons.inj hl
        exact absurd (List.mem_append_right _ List.mem_cons_self) (hu q)

variable [DecidableEq I.Signal] {m : Machine I W} {e : Happening I} {t : TaskId} {es : List (Happening I)}

omit [DecidableEq I.Signal] in
theorem busy_of_asked {q : I.Call} (h : (t, q) ∈ e.asked) : e.busy = some t := by
  cases e with
  | turn t' deeds =>
    obtain ⟨_, -, heq⟩ := List.mem_map.1 h
    cases heq
    rfl
  | stale | hear | tick | tell | happen | start | set | note => cases h

/-- The turn of a task that comes first. -/
theorem Ahead.turn {rest : List Turn} {resume : Bool → Program I I.Result} {isCancelling : Bool}
    {watchers : List Watcher} (hcalls : ∀ q, (u, q) ∉ calls ∧ (v, q) ∉ calls) (hopens : (resume isCancelling).Opens Q)
    (ht : L.tasks[u]? = some ⟨.ready resume, isCancelling, watchers⟩) :
    Ahead Q u v (calls ++ Happening.asked (.turn u (deeds m u (resume isCancelling) (L.begun u rest))))
      (exec m u (resume isCancelling) (L.begun u rest)) := by
  rcases hopens with ⟨q, next, hp, hq⟩ | ⟨r, hp⟩
  · rw [hp]
    exact .asked rfl hq (fun q => (hcalls q).1) fun q => (hcalls q).2
  · rw [hp]
    refine .ended (r := (L.begun u rest).ending u r) (fun q hin => ?_) (standing?_finish (standing?_begun ht) _)
    rcases List.mem_append.1 hin with hin | hin
    · exact (hcalls q).1 hin
    · cases hin

theorem Ahead.step (h : Ahead Q u v calls L) (huv : u ≠ v) (he : Next m L e M) : Ahead Q u v (calls ++ e.asked) M := by
  cases h with
  | @due resume q₁ q₂ hcalls hs hopens hq hv =>
    by_cases hb : e.busy = some u
    · cases he with
      | turn hq ht =>
        cases hb
        rw [standing?, ht] at hs
        cases hs
        exact .turn hcalls (hopens _) ht
      | stale | hear | tick | tell | happen | start | set | note => cases hb
    · obtain ⟨rest, hq', hleaves⟩ := he.leaves
      have hturn : e.turn? ≠ some (.resume u) := by
        intro hturn
        cases he with
        | turn => cases hturn; exact hb rfl
        | stale _ hstale => cases hturn; exact hstale resume hs
        | hear | tick | tell | happen | start | set | note => cases hturn
      have hbusy : e.busy ≠ some v := by
        intro hbusy
        cases he with
        | turn hfirst =>
          cases hbusy
          cases q₁ with
          | nil =>
            cases (List.cons.inj (hq.symm.trans hfirst)).1
            exact huv rfl
          | cons first q =>
            obtain ⟨rfl, -⟩ := List.cons.inj (hq.symm.trans hfirst)
            exact hv List.mem_cons_self
        | stale | hear | tick | tell | happen | start | set | note => cases hbusy
      obtain ⟨q, rfl, hsub⟩ := exists_queue (hq.symm.trans hq') hturn
      obtain ⟨new, hnew, -⟩ := hleaves.queue
      refine .due (fun q => ⟨fun hin => ?_, fun hin => ?_⟩)
        (hleaves.standing (L := { L with queue := _ }) hs (.ready resume) hb) hopens
        (hnew.trans (List.append_assoc ..)) fun hin => hv (hsub hin)
      · rcases List.mem_append.1 hin with hin | hin
        · exact (hcalls q).1 hin
        · exact hb (busy_of_asked hin)
      · rcases List.mem_append.1 hin with hin | hin
        · exact (hcalls q).2 hin
        · exact hbusy (busy_of_asked hin)
  | asked hcalls hq hu hv => exact .asked (by rw [hcalls, List.append_assoc, List.cons_append]) hq hu hv
  | ended hcalls hs =>
    refine .ended (fun q hin => ?_) (he.finished hs)
    rcases List.mem_append.1 hin with hin | hin
    · exact hcalls q hin
    · obtain ⟨resume, hready⟩ := he.ready (busy_of_asked hin)
      cases hs.symm.trans hready

theorem Passes.ahead (h : Passes m L es M) (huv : u ≠ v) (hL : Ahead Q u v [] L) : Ahead Q u v (asked es) M := by
  induction h with
  | refl => exact hL
  | step _ he ih =>
    rw [asked, List.flatMap_append, List.flatMap_singleton]
    exact ih.step huv he

/-! ## Two tasks that are started one after the other -/

omit [DecidableEq I.Signal] in
theorem ahead_spawn (hL : L.IsSound) {p : Program I I.Result} (hp : p.Opens Q) (p' : Program I I.Result) :
    Ahead Q L.tasks.size (L.tasks.size + 1) [] ((L.spawn p).1.spawn p').1 := by
  have hqueue : ((L.spawn p).1.spawn p').1.queue =
      L.queue ++ .resume L.tasks.size :: [.resume (L.spawn p).1.tasks.size] := List.append_assoc ..
  have hopens : ∀ b : Bool, (if b then .done (.error .cancelled) else p : Program I I.Result).Opens Q := by
    intro b
    cases b with
    | true => exact .inr ⟨_, rfl⟩
    | false => exact hp
  refine .due (fun _ => ⟨List.not_mem_nil, List.not_mem_nil⟩) (standing?_spawn p' (standing?_spawn_self L p)) hopens
    hqueue fun hin => ?_
  exact absurd (hL _ hin) (Nat.not_lt_of_le (Nat.le_succ _))

omit [DecidableEq I.Signal] in
theorem Leaves.ahead {busy : Option TaskId} {hears : Bool} (h : Leaves busy hears L M) (hL : Ahead Q u v calls L)
    (hb : busy ≠ some u) : Ahead Q u v calls M := by
  cases hL with
  | due hcalls hs hopens hq hv =>
    obtain ⟨new, hnew, -⟩ := h.queue
    exact .due hcalls (h.standing hs (.ready _) hb) hopens
      (hnew.trans ((congrArg (· ++ new) hq).trans (List.append_assoc ..))) hv
  | asked hcalls hq hu hv => exact .asked hcalls hq hu hv
  | ended hcalls hs => exact .ended hcalls (h.standing hs (.finished _) hb)

end Loop
end BrowserPlan.Task
