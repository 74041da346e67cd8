import BrowserPlan.Proofs.Task.Conduct

/-!
# Faults that never come up

Some faults are never raised, whatever programs meet, as long as they meet none of them. Since tasks
meet only how others have ended, what signals were given with, and their own being told to give up,
no task of a crew ever ends with such a fault (`Crew.Reaches.spared`). The same induction carries any
condition on single steps.
-/
namespace BrowserPlan.Task

variable {I : Interface} {W α : Type}

/-- It is not a fault of the kind `B` that ends it. -/
def Blameless (B : I.Fault → Prop) (r : Outcome I.Fault α) : Prop :=
  ∀ f, r = .error (.failed f) → ¬ B f

/-- No fault of the kind `B` is met in the step. -/
def Deed.Blameless (B : I.Fault → Prop) : Deed I → Prop
  | .wake _ r | .meet _ _ r => Task.Blameless B r
  | .learn _ r => Task.Blameless B r
  | .ask .. | .start .. | .stop _ => True

/-- The program takes only steps for which `D` holds and does not end with a fault of the kind `B`, as
long as it meets none; where it ends well, `V` holds of the value. -/
def Program.Avoids (B : I.Fault → Prop) (D : Deed I → Prop) (V : α → Prop) (p : Program I α) : Prop :=
  p.Obeys (Deed.Blameless B) (fun (_ : Unit) d _ => D d)
    (fun _ r => Blameless B r ∧ ∀ a, r = .ok a → V a) ()

section
variable {B : I.Fault → Prop}

@[simp] theorem blameless_ok (a : α) : Blameless (I := I) B (.ok a) := nofun

@[simp] theorem blameless_cancelled : Blameless (α := α) (I := I) B (.error .cancelled) := nofun

@[simp] theorem blameless_interrupted : Blameless (α := α) (I := I) B (.error .interrupted) := nofun

@[simp] theorem blameless_failed {f : I.Fault} :
    Blameless (α := α) B (.error (.failed f)) ↔ ¬ B f := by
  refine ⟨fun h => h f rfl, ?_⟩
  rintro h _ ⟨⟩
  exact h

/-- What stops a program does not depend on what it would have resulted in. -/
theorem Blameless.error {β : Type} {e : Stop I.Fault} (h : Blameless (α := α) B (.error e)) :
    Blameless (α := β) B (.error e) := by
  cases e with
  | failed f => exact blameless_failed.2 (blameless_failed.1 h)
  | cancelled => exact blameless_cancelled
  | interrupted => exact blameless_interrupted

theorem Deed.blameless_cancelled {d : Deed I} (h : d.Blameless B) : d.cancelled.Blameless B := by
  cases d with
  | ask | start | stop => exact h
  | wake | learn | meet => exact Task.blameless_cancelled

end

/-! ## Programs -/

namespace Program.Avoids

variable {B : I.Fault → Prop} {D : Deed I → Prop} {β : Type} {V : α → Prop} {U : β → Prop}
  {p : Program I α} {f : α → Program I β}

theorem mono {V' : α → Prop} (h : p.Avoids B D V) (hV : ∀ a, V a → V' a) : p.Avoids B D V' :=
  h.weaken fun _ _ hr => ⟨hr.1, fun a ha => hV a (hr.2 a ha)⟩

theorem pure {a : α} (h : V a) : (pure a : Program I α).Avoids B D V := by
  refine ⟨blameless_ok a, ?_⟩
  rintro _ ⟨⟩
  exact h

theorem ending {r : Outcome I.Fault α} (hr : Blameless B r) (hV : ∀ a, r = .ok a → V a) :
    (Program.ending r).Avoids B D V := ⟨hr, hV⟩

theorem fail {fault : I.Fault} (h : ¬ B fault) : (Program.fail fault : Program I α).Avoids B D V :=
  ⟨blameless_failed.2 h, nofun⟩

theorem ask {q : I.Call} {V : I.Answer q → Prop} (h : ∀ a, D (.ask q a)) (hV : ∀ a, V a) :
    (Program.ask q).Avoids B D V := by
  refine fun a _ => ⟨(), h a, blameless_ok a, ?_⟩
  rintro _ ⟨⟩
  exact hV a

theorem wait {on : Pause I.Signal} {V : Unit → Prop} (h : ∀ r, D (.wake on r)) (hV : ∀ u, V u) :
    (Program.wait on).Avoids B D V := fun r hr => ⟨(), h r, hr, fun u _ => hV u⟩

theorem start {job : I.Job} {V : TaskId → Prop} (h : ∀ t, D (.start job t)) (hV : ∀ t, V t) :
    (Program.start job).Avoids B D V := by
  refine fun t _ => ⟨(), h t, blameless_ok t, ?_⟩
  rintro _ ⟨⟩
  exact hV t

theorem stop {t : TaskId} {V : Unit → Prop} (h : D (.stop t)) (hV : ∀ u, V u) :
    (Program.stop t).Avoids B D V := fun _ => ⟨(), h, blameless_ok (), fun u _ => hV u⟩

theorem join {t : TaskId} {V : I.Result → Prop} (h : ∀ r, D (.learn t r)) (hV : ∀ a, V a) :
    (Program.join t).Avoids B D V := fun r hr => ⟨(), h r, hr, fun a _ => hV a⟩

theorem joinAll {ts : List TaskId} {patient : Bool} {V : Unit → Prop}
    (h : ∀ r, D (.meet ts patient r)) (hV : ∀ u, V u) :
    (Program.joinAll ts patient).Avoids B D V := fun r hr => ⟨(), h r, hr, fun u _ => hV u⟩

theorem bind (hp : p.Avoids B D V) (hf : ∀ a, V a → (f a).Avoids B D U) :
    (p >>= f).Avoids B D U := by
  refine Program.Obeys.bind (Program.Obeys.weaken ?_ hp)
  rintro ⟨⟩ r ⟨hr, hV⟩
  cases r with
  | ok a => exact hf a (hV a rfl)
  | error e => exact ⟨hr.error, nofun⟩

theorem map {f : α → β} (hp : p.Avoids B D V) (hf : ∀ a, V a → U (f a)) : (f <$> p).Avoids B D U :=
  hp.bind fun a ha => .pure (hf a ha)

/-- A program whose end is looked at. -/
theorem attempt {f : Outcome I.Fault α → Program I β} (hp : p.Avoids B D V)
    (hf : ∀ r, Blameless B r → (∀ a, r = .ok a → V a) → (f r).Avoids B D U) :
    (p.attempt >>= f).Avoids B D U := by
  refine Program.Obeys.bind (Program.Obeys.attempt (Program.Obeys.weaken ?_ hp))
  rintro ⟨⟩ r ⟨hr, hV⟩
  exact hf r hr hV

/-- A program followed by another one however it ends. -/
theorem ensuring {after : Outcome I.Fault α → Program I Unit} {T : Unit → Prop} (hp : p.Avoids B D V)
    (hafter : ∀ r, (after r).Avoids B D T) : (p.ensuring after).Avoids B D V :=
  hp.attempt fun r hr hV => (hafter r).bind fun _ _ => .ending hr hV

theorem tolerating {p : Program I Unit} {V : Unit → Prop} (hp : p.Avoids B D V) (hV : ∀ u, V u) :
    p.tolerating.Avoids B D V := by
  refine hp.attempt fun r hr h => ?_
  match r with
  | .ok u => exact .ending hr h
  | .error (.failed fault) => exact .pure (hV ())
  | .error .cancelled => exact .ending hr h
  | .error .interrupted => exact .ending hr h

theorem each {f : α → Program I Unit} {V : Unit → Prop} (hV : ∀ u, V u) {xs : List α}
    (hf : ∀ x ∈ xs, (f x).Avoids B D V) : (Program.each f xs).Avoids B D V := by
  induction xs with
  | nil => exact .pure (hV ())
  | cons x xs ih =>
    exact (hf x List.mem_cons_self).bind fun _ _ => ih fun y hy => hf y (List.mem_cons_of_mem _ hy)

theorem count {f : Nat → Program I Unit} {V : Unit → Prop} (hV : ∀ u, V u)
    (hf : ∀ n, (f n).Avoids B D V) (times : Nat) :
    ∀ first, (Program.count f first times).Avoids B D V := by
  induction times with
  | zero => exact fun _ => .pure (hV ())
  | succ n ih => exact fun first => (hf first).bind fun _ _ => ih (first + 1)

theorem mapM {f : α → Program I β} {U : β → Prop} {T : List β → Prop} (hT : ∀ bs, T bs)
    {xs : List α} (hf : ∀ x ∈ xs, (f x).Avoids B D U) : (xs.mapM f).Avoids B D T := by
  have h : ∀ xs : List α, (∀ x ∈ xs, (f x).Avoids B D U) → (xs.mapM f).Avoids B D fun _ => True := by
    intro xs hf
    induction xs with
    | nil => exact .pure trivial
    | cons x xs ih =>
      rw [List.mapM_cons]
      refine (hf x List.mem_cons_self).bind fun b _ => ?_
      exact (ih fun y hy => hf y (List.mem_cons_of_mem _ hy)).bind fun bs _ => .pure trivial
  exact (h xs hf).mono fun bs _ => hT bs

/-- Jobs that are carried out at the same time. -/
theorem together {jobs : List I.Job} {V : Unit → Prop} (hV : ∀ u, V u)
    (hstart : ∀ job ∈ jobs, ∀ t, D (.start job t)) (hmeet : ∀ ts patient r, D (.meet ts patient r))
    (hstop : ∀ t, D (.stop t)) : (Program.together jobs).Avoids B D V := by
  refine Avoids.bind (V := fun _ => True) (.mapM (U := fun _ => True) (fun _ => trivial)
    fun job hjob => .start (hstart job hjob) fun _ => trivial) fun ts _ => ?_
  refine Avoids.attempt (.joinAll (V := fun _ => True) (hmeet ts false) fun _ => trivial) fun r hr _ => ?_
  cases r with
  | ok u => exact .pure (hV ())
  | error e =>
    refine Avoids.bind (.each (V := fun _ => True) (fun _ => trivial)
      fun t _ => .stop (hstop t) fun _ => trivial) fun _ _ => ?_
    refine Avoids.bind (.joinAll (V := fun _ => True) (hmeet ts true) fun _ => trivial) fun _ _ => ?_
    exact .ending hr nofun

/-- A program that has met no fault of the kind `B` does not end with one. -/
theorem blameless_of_path {ds : List (Deed I)} {r : Outcome I.Fault α} (hp : p.Avoids B D V)
    (h : Program.Path p ds (.done r)) (hds : ∀ d ∈ ds, d.Blameless B) : Blameless B r := by
  obtain ⟨_, -, hr, -⟩ := Program.Obeys.path hp h hds
  exact hr

end Program.Avoids

/-! ## Crews -/

namespace Crew

variable {m : Machine I W} {outside : I.Call → Prop} {B : I.Fault → Prop} {D : Deed I → Prop}
  {J : I.Job → Prop}

/-- No fault of the kind `B` has come up, and no program that goes on raises one. -/
structure Spared (B : I.Fault → Prop) (D : Deed I → Prop) (c : Crew I W) : Prop where
  goes : ∀ {t : TaskId} {x : Member I}, c.members[t]? = some x → x.result = none → x.rest.Avoids B D fun _ => True
  ended : ∀ {t r}, c.result? t = some r → Blameless B r
  signals : ∀ x ∈ c.given, Blameless B x.2

theorem Offers.blameless {c : Crew I W} {d : Deed I} (h : c.Offers d) (hc : c.Spared B D) :
    d.Blameless B := by
  cases h with
  | timer | all | good => exact blameless_ok ()
  | signal h => exact hc.signals _ h
  | learn h => exact hc.ended h
  | bad ht h => exact (hc.ended h).error

/-- A member meets no fault that has not come up. -/
theorem Allows.blameless {c c' : Crew I W} {isTold : Bool} {d : Deed I} (h : Allows m c isTold d c')
    (hc : c.Spared B D) : d.Blameless B := by
  cases h with
  | ask | start | stop => trivial
  | wait h => exact h.blameless hc
  | breakOff => exact blameless_cancelled
  | late _ he hd => exact hd ▸ Deed.blameless_cancelled (he.blameless hc)

theorem Allows.given {c c' : Crew I W} {isTold : Bool} {d : Deed I} (h : Allows m c isTold d c') :
    c'.given = c.given ∨ ∃ now q, c'.given = c.given ++ (m.perform now c.world q).2.2 := by
  cases h with
  | @ask q a now ha => exact .inr ⟨now, q, rfl⟩
  | start | stop | wait | late => exact .inl rfl
  | breakOff on => cases on <;> exact .inl rfl

theorem Step.given {c d : Crew I W} {e : Event I} (h : Step m outside c e d) :
    d.given = c.given ∨ ∃ now q, d.given = c.given ++ (m.perform now c.world q).2.2 := by
  cases h with
  | act _ _ _ ha => exact ha.given
  | happen now q => exact .inr ⟨now, q, rfl⟩
  | _ => exact .inl rfl

section
variable (hsignals : ∀ now w q, ∀ x ∈ (m.perform now w q).2.2, Blameless (I := I) B x.2)
  (hprogram : ∀ job, J job → (m.program job).Avoids B D fun _ => True)
  (hstart : ∀ job t, D (.start job t) → J job)
include hsignals hprogram hstart

theorem Spared.step {c d : Crew I W} {e : Event I} (hc : c.Spared B D) (h : Step m outside c e d) :
    d.Spared B D ∧ ∀ t deed, e = .act t deed → D deed ∧ deed.Blameless B := by
  -- what a member does next
  have hnext : ∀ {t : TaskId} {x : Member I} {deed : Deed I} {p : Program I I.Result} {c' : Crew I W},
      c.members[t]? = some x → x.result = none → x.rest.Does deed p → Allows m c x.isTold deed c' → D deed ∧ p.Avoids B D fun _ => True := by
    intro t x deed p c' hx hr hd ha
    obtain ⟨_, hdeed, hrest⟩ := (hc.goes hx hr).does hd (ha.blameless hc)
    exact ⟨hdeed, hrest⟩
  have hdeeds : ∀ t deed, e = .act t deed → D deed ∧ deed.Blameless B := by
    rintro t deed rfl
    cases h with
    | act hx hr hd ha => exact ⟨(hnext hx hr hd ha).1, ha.blameless hc⟩
  refine ⟨⟨fun {t y} hy hgoes => ?_, fun {t r} hr => ?_, fun x hx => ?_⟩, hdeeds⟩
  · rcases h.member hy with ⟨x, hx, hcont⟩ | ⟨u, job, rfl, -, rfl⟩
    · cases hcont.becomes with
      | same _ hrest _ hresult => exact hrest ▸ hc.goes hx (hresult ▸ hgoes)
      | acts deed he hgoes' hd _ _ =>
        subst he
        cases h with
        | act hx' hr' hd' ha =>
          obtain rfl := Option.some.inj (hx.symm.trans hx')
          exact hd'.unique hd ▸ (hnext hx' hr' hd' ha).2
      | ends r _ _ _ _ hresult => rw [hresult] at hgoes; cases hgoes
      | balks _ _ _ _ _ _ hresult => rw [hresult] at hgoes; cases hgoes
    · exact hprogram job (hstart job t (hdeeds u _ rfl).1)
  · obtain ⟨y, hy, hyr⟩ := Option.bind_eq_some_iff.1 hr
    rcases h.member hy with ⟨x, hx, hcont⟩ | ⟨u, job, rfl, -, rfl⟩
    · have hold : ∀ {r}, x.result = some r → Blameless B r := fun hxr =>
        hc.ended (Option.bind_eq_some_iff.2 ⟨x, hx, hxr⟩)
      cases hcont.becomes with
      | same _ _ _ hresult => exact hold (hresult ▸ hyr)
      | acts _ _ _ _ _ hresult => rw [hresult] at hyr; cases hyr
      | ends r' _ hgoes _ _ hresult hdone =>
        obtain rfl : r' = r := Option.some.inj (hresult.symm.trans hyr)
        rcases hdone with hdone | ⟨a, -, -, rfl⟩
        · have hend := hc.goes hx hgoes
          rw [hdone] at hend
          exact hend.1
        · exact blameless_cancelled
      | balks _ _ _ _ _ _ hresult =>
        obtain rfl := Option.some.inj (hresult.symm.trans hyr)
        exact blameless_cancelled
    · cases hyr
  · rcases h.given with heq | ⟨now, q, heq⟩
    · exact hc.signals x (heq ▸ hx)
    · rcases List.mem_append.1 (heq ▸ hx) with hx | hx
      · exact hc.signals x hx
      · exact hsignals _ _ _ x hx

/-- Where programs do not raise faults of the kind `B` unless they meet them, nobody meets one or ends
with one, and every step of every task is as promised. -/
theorem Reaches.spared {w : W} {job : I.Job} (hjob : J job) {h : List (Event I)} {c : Crew I W}
    (hr : Reaches m outside (single m w job) h c) :
    (∀ t d, .act t d ∈ h → D d ∧ d.Blameless B) ∧ ∀ t r, c.result? t = some r → Blameless B r := by
  have hfirst : (single m w job).Spared B D := by
    refine ⟨fun {t x} hx _ => ?_, fun {t r} hr => ?_, nofun⟩
    · cases t with
      | zero =>
        obtain rfl := Option.some.inj hx
        exact hprogram job hjob
      | succ n => cases hx
    · cases t with
      | zero => cases hr
      | succ n => cases hr
  have hall : c.Spared B D ∧ ∀ t d, .act t d ∈ h → D d ∧ d.Blameless B := by
    induction hr with
    | refl => exact ⟨hfirst, nofun⟩
    | step _ hs ih =>
      obtain ⟨hspared, hdeeds⟩ := ih.1.step hsignals hprogram hstart hs
      refine ⟨hspared, fun t d hin => ?_⟩
      rcases List.mem_append.1 hin with hin | hin
      · exact ih.2 t d hin
      · exact hdeeds t d (List.mem_singleton.1 hin).symm
  exact ⟨hall.2, fun t r => hall.1.ended⟩

end

end Crew
end BrowserPlan.Task
