import BrowserPlan.Proofs.Task.Crew

/-!
# What programs may do

Rules say which steps may be taken in which state, and what state comes next. `Obeys`: a program
keeps to the rules with every step that it may take, whatever it meets there, and ends only as
promised. What it meets can be narrowed down by a condition on steps. Since a program is a tree, this
is a recursion over it, and it goes through `bind` and `attempt` (`Obeys.bind`, `Obeys.attempt`).
-/
namespace BrowserPlan.Task

variable {I : Interface} {σ α β : Type}

/-- Which steps may be taken in a state, and the states that come of them. -/
abbrev Rules (I : Interface) (σ : Type) := σ → Deed I → σ → Prop

/-- `Along μ s ds s'`: the steps `ds` lead from `s` to `s'` by the rules `μ`. -/
inductive Along (μ : Rules I σ) (s : σ) : List (Deed I) → σ → Prop where
  | nil : Along μ s [] s
  | snoc {ds s' d s''} (h : Along μ s ds s') (hd : μ s' d s'') : Along μ s (ds ++ [d]) s''

namespace Along

variable {μ : Rules I σ} {s s' : σ} {d : Deed I} {ds : List (Deed I)}

theorem of_nil (h : Along μ s [] s') : s' = s := by
  generalize hl : [] = l at h
  cases h with
  | nil => rfl
  | snoc => simp at hl

theorem last (h : Along μ s (ds ++ [d]) s') : ∃ s₁, Along μ s ds s₁ ∧ μ s₁ d s' := by
  generalize hl : ds ++ [d] = l at h
  cases h with
  | nil => simp at hl
  | snoc h hd =>
    obtain ⟨rfl, heq⟩ := List.append_inj' hl rfl
    cases heq
    exact ⟨_, h, hd⟩

theorem split {es : List (Deed I)} (h : Along μ s (ds ++ es) s') :
    ∃ s₁, Along μ s ds s₁ ∧ Along μ s₁ es s' := by
  generalize hl : ds ++ es = l at h
  induction h generalizing es with
  | nil =>
    obtain ⟨rfl, rfl⟩ := List.append_eq_nil_iff.1 hl
    exact ⟨s, .nil, .nil⟩
  | @snoc l s₁ d s₂ h hd ih =>
    rcases List.eq_nil_or_concat es with rfl | ⟨es, d', rfl⟩
    · rw [List.append_nil] at hl
      exact ⟨s₂, hl ▸ h.snoc hd, .nil⟩
    · rw [List.concat_eq_append, ← List.append_assoc] at hl
      obtain ⟨rfl, heq⟩ := List.append_inj' hl rfl
      cases heq
      obtain ⟨s₀, hds, hes⟩ := ih rfl
      exact ⟨s₀, hds, List.concat_eq_append ▸ hes.snoc hd⟩

theorem append {s₁ : σ} {es : List (Deed I)} (h : Along μ s ds s₁) (h' : Along μ s₁ es s') :
    Along μ s (ds ++ es) s' := by
  induction h' with
  | nil => rwa [List.append_nil]
  | snoc _ hd ih =>
    rw [← List.append_assoc]
    exact ih.snoc hd

theorem head (h : Along μ s (d :: ds) s') : ∃ s₁, μ s d s₁ ∧ Along μ s₁ ds s' := by
  obtain ⟨s₁, hfirst, hrest⟩ := split (List.singleton_append ▸ h)
  obtain ⟨s₀, hnil, hd⟩ := last (show Along μ s ([] ++ [d]) s₁ from hfirst)
  exact ⟨s₁, hnil.of_nil ▸ hd, hrest⟩

end Along

namespace Program

/-- From the state `s` on, the program keeps to the rules `μ` as long as it meets only what `R`
admits, and it ends only in states and with outcomes for which `Q` holds. -/
def Obeys (R : Deed I → Prop) (μ : Rules I σ) (Q : σ → Outcome I.Fault α → Prop) :
    Program I α → σ → Prop
  | done r, s => Q s r
  | call q next, s => ∀ a, R (.ask q a) → ∃ s', μ s (.ask q a) s' ∧ Obeys R μ Q (next a) s'
  | pause on next, s => ∀ r, R (.wake on r) → ∃ s', μ s (.wake on r) s' ∧ Obeys R μ Q (next r) s'
  | fork job next, s => ∀ t, R (.start job t) → ∃ s', μ s (.start job t) s' ∧ Obeys R μ Q (next t) s'
  | cancel t next, s => R (.stop t) → ∃ s', μ s (.stop t) s' ∧ Obeys R μ Q next s'
  | await t next, s => ∀ r, R (.learn t r) → ∃ s', μ s (.learn t r) s' ∧ Obeys R μ Q (next r) s'
  | gather ts patient next, s =>
    ∀ r, R (.meet ts patient r) → ∃ s', μ s (.meet ts patient r) s' ∧ Obeys R μ Q (next r) s'

namespace Obeys

variable {R S : Deed I → Prop} {μ ν : Rules I σ} {Q P : σ → Outcome I.Fault α → Prop} {s : σ}
  {p : Program I α}

theorem does (h : p.Obeys R μ Q s) {d : Deed I} {q : Program I α} (hd : p.Does d q) (hR : R d) :
    ∃ s', μ s d s' ∧ q.Obeys R μ Q s' := by
  cases hd with
  | ask q next a => exact h a hR
  | wake on next r => exact h r hR
  | start job next t => exact h t hR
  | stop t next => exact h hR
  | learn t next r => exact h r hR
  | meet ts patient next r => exact h r hR

/-- Less may be met, the rules allow more, and less is promised of the end. -/
theorem mono (hS : ∀ d, S d → R d) (hμ : ∀ s d s', μ s d s' → ν s d s')
    (hQ : ∀ s r, Q s r → P s r) (h : p.Obeys R μ Q s) : p.Obeys S ν P s := by
  induction p generalizing s with
  | done r => exact hQ s r h
  | cancel t next ih =>
    intro hR
    obtain ⟨s', hs, h⟩ := h (hS _ hR)
    exact ⟨s', hμ _ _ _ hs, ih h⟩
  | _ =>
    rename_i ih
    intro r hR
    obtain ⟨s', hs, h⟩ := h r (hS _ hR)
    exact ⟨s', hμ _ _ _ hs, ih r h⟩

theorem weaken (hQ : ∀ s r, Q s r → P s r) (h : p.Obeys R μ Q s) : p.Obeys R μ P s :=
  h.mono (fun _ hd => hd) (fun _ _ _ hs => hs) hQ

/-- One program after the other. -/
theorem bind {P : σ → Outcome I.Fault β → Prop} {f : α → Program I β}
    (h : p.Obeys R μ (fun s r => match r with
      | .ok a => (f a).Obeys R μ P s
      | .error e => P s (.error e)) s) : (p.bind f).Obeys R μ P s := by
  induction p generalizing s with
  | done r =>
    cases r with
    | ok a => exact h
    | error e => exact h
  | cancel t next ih =>
    intro hR
    obtain ⟨s', hs, h⟩ := h hR
    exact ⟨s', hs, ih h⟩
  | _ =>
    rename_i ih
    intro r hR
    obtain ⟨s', hs, h⟩ := h r hR
    exact ⟨s', hs, ih r h⟩

/-- A program whose end is looked at. -/
theorem attempt {P : σ → Outcome I.Fault (Outcome I.Fault α) → Prop}
    (h : p.Obeys R μ (fun s r => P s (.ok r)) s) : p.attempt.Obeys R μ P s := by
  induction p generalizing s with
  | done r => exact h
  | cancel t next ih =>
    intro hR
    obtain ⟨s', hs, h⟩ := h hR
    exact ⟨s', hs, ih h⟩
  | _ =>
    rename_i ih
    intro r hR
    obtain ⟨s', hs, h⟩ := h r hR
    exact ⟨s', hs, ih r h⟩

/-- A program followed by another one however it ends. -/
theorem ensuring {after : Outcome I.Fault α → Program I Unit}
    (h : p.Obeys R μ (fun s r => (after r).Obeys R μ (fun s x => match x with
      | .ok _ => P s r
      | .error e => P s (.error e)) s) s) : (p.ensuring after).Obeys R μ P s := by
  refine bind (attempt (h.weaken fun s r hr => bind (hr.weaken ?_)))
  intro s x hx
  cases x with
  | ok _ => exact hx
  | error e => exact hx

end Obeys

instance : LawfulMonad (Program I) := LawfulMonad.mk' (Program I)
  (fun p => bind_pure p) (fun _ _ => rfl) (fun p f g => bind_assoc p f g)

/-- Starting one task after the other; `g` tells the state by the tasks that were started. -/
theorem obeys_starts {R : Deed I → Prop} {μ : Rules I σ} {j : β → I.Job} {g : List TaskId → σ}
    (xs : List β) (hstart : ∀ x ∈ xs, ∀ ts u, μ (g ts) (.start (j x) u) (g (ts ++ [u]))) :
    ∀ ts, (xs.mapM fun x => start (I := I) (j x)).Obeys R μ
      (fun s r => ∃ us, r = .ok us ∧ s = g (ts ++ us)) (g ts) := by
  induction xs with
  | nil => exact fun ts => ⟨[], rfl, by rw [List.append_nil]⟩
  | cons x xs ih =>
    intro ts
    rw [List.mapM_cons]
    intro u _
    refine ⟨_, hstart x List.mem_cons_self ts u, ?_⟩
    change ((xs.mapM fun x => start (I := I) (j x)).bind fun us => done (.ok (u :: us))).Obeys ..
    refine Obeys.bind ((ih (fun x hx => hstart x (List.mem_cons_of_mem _ hx)) _).weaken ?_)
    rintro s r ⟨us, rfl, rfl⟩
    exact ⟨u :: us, rfl, by rw [List.append_assoc, List.singleton_append]⟩

/-- What a program comes to by the steps `ds`. -/
inductive Path : Program I α → List (Deed I) → Program I α → Prop where
  | nil (p) : Path p [] p
  | snoc {p ds q d r} (h : Path p ds q) (hd : q.Does d r) : Path p (ds ++ [d]) r

/-- A program that has kept to the rules goes on keeping to them. -/
theorem Obeys.path {R : Deed I → Prop} {μ : Rules I σ} {Q : σ → Outcome I.Fault α → Prop} {s : σ}
    {p q : Program I α} {ds : List (Deed I)} (h : p.Obeys R μ Q s) (hq : Path p ds q)
    (hR : ∀ d ∈ ds, R d) : ∃ s', Along μ s ds s' ∧ q.Obeys R μ Q s' := by
  induction hq with
  | nil => exact ⟨s, .nil, h⟩
  | snoc hq hd ih =>
    obtain ⟨s₁, halong, hobeys⟩ := ih fun d hd => hR d (List.mem_append_left _ hd)
    obtain ⟨s₂, hs, hobeys⟩ := hobeys.does hd (hR _ (List.mem_append_right _ List.mem_cons_self))
    exact ⟨s₂, halong.snoc hs, hobeys⟩

/-! ## Parts of programs -/

/-- Who goes on if all has gone well looks at the end and passes on a bad one. -/
theorem bind_eq_attempt (p : Program I α) (f : α → Program I β) : p.bind f =
    p.attempt.bind fun r => match r with
      | .ok a => f a
      | .error s => done (.error s) := by
  induction p with
  | done r => cases r <;> rfl
  | cancel t next ih => exact congrArg (cancel t) ih
  | call q next ih => exact congrArg (call q) (funext ih)
  | pause on next ih => exact congrArg (pause on) (funext ih)
  | fork job next ih => exact congrArg (fork job) (funext ih)
  | await t next ih => exact congrArg (await t) (funext ih)
  | gather ts patient next ih => exact congrArg (gather ts patient) (funext ih)

/-- How a program ends that looks at the end of another one. -/
theorem attempt_attempt_bind (p : Program I α) (f : Outcome I.Fault α → Program I β) :
    (p.attempt.bind f).attempt = p.attempt.bind fun r => (f r).attempt := by
  induction p with
  | done r => rfl
  | cancel t next ih => exact congrArg (cancel t) ih
  | call q next ih => exact congrArg (call q) (funext ih)
  | pause on next ih => exact congrArg (pause on) (funext ih)
  | fork job next ih => exact congrArg (fork job) (funext ih)
  | await t next ih => exact congrArg (await t) (funext ih)
  | gather ts patient next ih => exact congrArg (gather ts patient) (funext ih)

/-- How two programs one after the other end. -/
theorem attempt_bind (p : Program I α) (f : α → Program I β) :
    (p.bind f).attempt = p.attempt.bind fun r => match r with
      | .ok a => (f a).attempt
      | .error s => done (.ok (.error s)) := by
  rw [bind_eq_attempt, attempt_attempt_bind]
  congr
  funext r
  cases r <;> rfl

theorem attempt_bind_ne_done {f : Outcome I.Fault α → Program I β} (hf : ∀ o r, f o ≠ done r)
    (p : Program I α) (r : Outcome I.Fault β) : p.attempt.bind f ≠ done r := by
  cases p with
  | done o => exact hf o r
  | _ => nofun

namespace Does

variable {p q q' : Program I α} {d : Deed I}

theorem first (h : p.Does d q) (f : α → Program I β) : (p.bind f).Does d (q.bind f) := by
  cases h <;> constructor

theorem unique (h : p.Does d q) (h' : p.Does d q') : q = q' := by
  cases h <;> cases h' <;> rfl

theorem of_wake {on : Pause I.Signal} {r : Outcome I.Fault Unit} (h : p.Does (.wake on r) q) :
    ∃ next, p = .pause on next := by
  cases h
  exact ⟨_, rfl⟩

/-- The first part of two takes the steps until it is done. -/
theorem bind {f : α → Program I β} {q : Program I β} (h : (p.bind f).Does d q) :
    (∃ a, p = done (.ok a) ∧ (f a).Does d q) ∨ ∃ p', p.Does d p' ∧ q = p'.bind f := by
  cases p with
  | done r =>
    cases r with
    | ok a => exact .inl ⟨a, rfl, h⟩
    | error e => cases h
  | call => cases h; exact .inr ⟨_, .ask .., rfl⟩
  | pause => cases h; exact .inr ⟨_, .wake .., rfl⟩
  | fork => cases h; exact .inr ⟨_, .start .., rfl⟩
  | cancel => cases h; exact .inr ⟨_, .stop .., rfl⟩
  | await => cases h; exact .inr ⟨_, .learn .., rfl⟩
  | gather => cases h; exact .inr ⟨_, .meet .., rfl⟩

theorem attempt {q : Program I (Outcome I.Fault α)} (h : p.attempt.Does d q) :
    ∃ p', p.Does d p' ∧ q = p'.attempt := by
  cases p with
  | done r => cases h
  | call => cases h; exact ⟨_, .ask .., rfl⟩
  | pause => cases h; exact ⟨_, .wake .., rfl⟩
  | fork => cases h; exact ⟨_, .start .., rfl⟩
  | cancel => cases h; exact ⟨_, .stop .., rfl⟩
  | await => cases h; exact ⟨_, .learn .., rfl⟩
  | gather => cases h; exact ⟨_, .meet .., rfl⟩

/-- A step of a program that is not done yet, whose end is looked at by another one. -/
theorem attempt_bind {f : Outcome I.Fault α → Program I β} {q : Program I β} (hp : ∀ r, p ≠ done r)
    (h : (p.attempt.bind f).Does d q) : ∃ p', p.Does d p' ∧ q = p'.attempt.bind f := by
  rcases h.bind with ⟨o, hdone, -⟩ | ⟨p₁, hp₁, rfl⟩
  · cases p with
    | done r => exact absurd rfl (hp r)
    | _ => cases hdone
  · obtain ⟨p', hp', rfl⟩ := hp₁.attempt
    exact ⟨p', hp', rfl⟩

end Does

namespace Path

variable {p q q' : Program I α} {ds es : List (Deed I)}

theorem unique (h : Path p ds q) (h' : Path p ds q') : q = q' := by
  induction h generalizing q' with
  | nil =>
    generalize hl : [] = l at h'
    cases h' with
    | nil => rfl
    | snoc => simp at hl
  | @snoc ds q d r h hd ih =>
    generalize hl : ds ++ [d] = l at h'
    cases h' with
    | nil => simp at hl
    | snoc h' hd' =>
      obtain ⟨rfl, heq⟩ := List.append_inj' hl rfl
      cases heq
      obtain rfl := ih h'
      exact hd.unique hd'

theorem split (h : Path p (ds ++ es) q) : ∃ p', Path p ds p' ∧ Path p' es q := by
  generalize hl : ds ++ es = l at h
  induction h generalizing es with
  | nil =>
    obtain ⟨rfl, rfl⟩ := List.append_eq_nil_iff.1 hl
    exact ⟨_, .nil _, .nil _⟩
  | @snoc l q d r h hd ih =>
    rcases List.eq_nil_or_concat es with rfl | ⟨es, d', rfl⟩
    · rw [List.append_nil] at hl
      exact ⟨r, hl ▸ h.snoc hd, .nil r⟩
    · rw [List.concat_eq_append, ← List.append_assoc] at hl
      obtain ⟨rfl, heq⟩ := List.append_inj' hl rfl
      cases heq
      obtain ⟨p', hp, hq⟩ := ih rfl
      exact ⟨p', hp, List.concat_eq_append ▸ hq.snoc hd⟩

theorem does {d : Deed I} (h : Path p [d] q) : p.Does d q := by
  generalize hl : [d] = l at h
  cases h with
  | nil => cases hl
  | @snoc ds q' d' r h hd =>
    obtain ⟨rfl, rfl⟩ : ds = [] ∧ d' = d := by
      rcases ds with _ | ⟨d₁, ds⟩
      · exact ⟨rfl, (List.cons.inj hl).1.symm⟩
      · simp at hl
    exact (Path.nil p).unique h ▸ hd

theorem of_call {c : I.Call} {next : I.Answer c → Program I α} {r : Outcome I.Fault α}
    (h : Path (call c next) ds (done r)) : ∃ a es, ds = .ask c a :: es ∧ Path (next a) es (done r) := by
  cases ds with
  | nil =>
    cases (Path.nil (call c next)).unique h
  | cons d es =>
    obtain ⟨p', hp, hq⟩ := split (List.singleton_append ▸ h)
    cases hp.does with
    | ask => exact ⟨_, es, rfl, hq⟩

theorem of_fork {job : I.Job} {next : TaskId → Program I α} {r : Outcome I.Fault α}
    (h : Path (fork job next) ds (done r)) : ∃ t es, ds = .start job t :: es ∧ Path (next t) es (done r) := by
  cases ds with
  | nil =>
    cases (Path.nil (fork job next)).unique h
  | cons d es =>
    obtain ⟨p', hp, hq⟩ := split (List.singleton_append ▸ h)
    cases hp.does with
    | start => exact ⟨_, es, rfl, hq⟩

/-- A program that meets tasks first meets them. -/
theorem of_gather {ts : List TaskId} {patient : Bool} {next : Outcome I.Fault Unit → Program I α}
    {r : Outcome I.Fault α} (h : Path (gather ts patient next) ds (done r)) :
    ∃ o es, ds = .meet ts patient o :: es ∧ Path (next o) es (done r) := by
  cases ds with
  | nil =>
    cases (Path.nil (gather ts patient next)).unique h
  | cons d es =>
    obtain ⟨p', hp, hq⟩ := split (List.singleton_append ▸ h)
    cases hp.does with
    | meet => exact ⟨_, es, rfl, hq⟩

theorem of_done {r : Outcome I.Fault α} (h : Path (done r) ds q) : ds = [] ∧ q = done r := by
  induction h with
  | nil => exact ⟨rfl, rfl⟩
  | snoc h hd ih =>
    obtain ⟨-, rfl⟩ := ih
    cases hd

theorem done_unique {r r' : Outcome I.Fault α} (h : Path p ds (done r)) (h' : Path p es (done r'))
    (hinit : ds <+: es) : ds = es ∧ r = r' := by
  obtain ⟨fs, rfl⟩ := hinit
  obtain ⟨p', hp, hq⟩ := h'.split
  obtain rfl := h.unique hp
  obtain ⟨rfl, heq⟩ := hq.of_done
  cases heq
  exact ⟨(List.append_nil _).symm, rfl⟩

/-- The steps of two programs one after the other. -/
theorem bind {f : α → Program I β} {q : Program I β} (h : Path (p.bind f) ds q) :
    (∃ p', Path p ds p' ∧ q = p'.bind f) ∨
      ∃ ds₁ ds₂ a, ds = ds₁ ++ ds₂ ∧ Path p ds₁ (done (.ok a)) ∧ Path (f a) ds₂ q := by
  induction h with
  | nil => exact .inl ⟨p, .nil p, rfl⟩
  | @snoc ds q d r h hd ih =>
    rcases ih with ⟨p', hpath, rfl⟩ | ⟨ds₁, ds₂, a, rfl, hpath, hq⟩
    · rcases hd.bind with ⟨a, rfl, hfirst⟩ | ⟨p'', hnext, rfl⟩
      · exact .inr ⟨ds, [d], a, rfl, hpath, Path.snoc (Path.nil _) hfirst⟩
      · exact .inl ⟨p'', hpath.snoc hnext, rfl⟩
    · exact .inr ⟨ds₁, ds₂ ++ [d], a, List.append_assoc .., hpath, hq.snoc hd⟩

/-- Two programs one after the other that end well. -/
theorem bind_done {f : α → Program I β} {b : β} (h : Path (p.bind f) ds (done (.ok b))) :
    ∃ ds₁ ds₂ a, ds = ds₁ ++ ds₂ ∧ Path p ds₁ (done (.ok a)) ∧ Path (f a) ds₂ (done (.ok b)) := by
  rcases h.bind with ⟨p', hpath, heq⟩ | h
  · cases p' with
    | done r =>
      cases r with
      | ok a => exact ⟨ds, [], a, (List.append_nil _).symm, hpath, heq ▸ .nil _⟩
      | error e => cases heq
    | _ => cases heq
  · exact h

/-- The steps of a program whose end is looked at. -/
theorem attempt {q : Program I (Outcome I.Fault α)} (h : Path p.attempt ds q) :
    ∃ p', Path p ds p' ∧ q = p'.attempt := by
  induction h with
  | nil => exact ⟨p, .nil p, rfl⟩
  | snoc h hd ih =>
    obtain ⟨p', hpath, rfl⟩ := ih
    obtain ⟨p'', hnext, rfl⟩ := hd.attempt
    exact ⟨p'', hpath.snoc hnext, rfl⟩

/-- Two programs one after the other, when both are done. -/
theorem bind_end {f : α → Program I β} {r : Outcome I.Fault β} (h : Path (p.bind f) ds (done r)) :
    (∃ e, Path p ds (done (.error e)) ∧ r = .error e) ∨
      ∃ ds₁ ds₂ a, ds = ds₁ ++ ds₂ ∧ Path p ds₁ (done (.ok a)) ∧ Path (f a) ds₂ (done r) := by
  rcases h.bind with ⟨p', hpath, heq⟩ | h
  · cases p' with
    | done r' =>
      cases r' with
      | ok a => exact .inr ⟨ds, [], a, (List.append_nil _).symm, hpath, heq ▸ .nil _⟩
      | error e => cases heq; exact .inl ⟨e, hpath, rfl⟩
    | _ => cases heq
  · exact .inr h

/-- A program whose end is looked at, and another one after it. -/
theorem attempt_end {f : Outcome I.Fault α → Program I β} {r : Outcome I.Fault β}
    (h : Path (p.attempt.bind f) ds (done r)) :
    ∃ ds₁ ds₂ o, ds = ds₁ ++ ds₂ ∧ Path p ds₁ (done o) ∧ Path (f o) ds₂ (done r) := by
  rcases h.bind_end with ⟨e, hpath, -⟩ | ⟨ds₁, ds₂, o, rfl, hpath, h⟩
  · obtain ⟨p', -, heq⟩ := hpath.attempt
    cases p' <;> cases heq
  · obtain ⟨p', hp', heq⟩ := hpath.attempt
    cases p' with
    | done r' => cases heq; exact ⟨ds₁, ds₂, o, rfl, hp', h⟩
    | _ => cases heq

theorem first (h : Path p ds q) (f : α → Program I β) : Path (p.bind f) ds (q.bind f) := by
  induction h with
  | nil => exact .nil _
  | snoc _ hd ih => exact ih.snoc (hd.first f)

theorem attempted (h : Path p ds q) : Path p.attempt ds q.attempt := by
  induction h with
  | nil => exact .nil _
  | snoc _ hd ih =>
    refine ih.snoc ?_
    cases hd <;> constructor

theorem append (h : Path p ds q) (h' : Path q es q') : Path p (ds ++ es) q' := by
  induction h' with
  | nil => rwa [List.append_nil]
  | snoc _ hd ih =>
    rw [← List.append_assoc]
    exact ih.snoc hd

theorem attempt_done {o : Outcome I.Fault α} (h : Path p.attempt ds (done (.ok o))) :
    Path p ds (done o) := by
  obtain ⟨p', hpath, heq⟩ := h.attempt
  cases p' with
  | done r => cases heq; exact hpath
  | _ => cases heq

end Path

end Program

/-- The first member of a crew follows its program. -/
theorem Crew.Reaches.path {W : Type} {m : Machine I W} {outside : I.Call → Prop} {w : W} {job : I.Job}
    {h : List (Event I)} {c : Crew I W} (hr : Crew.Reaches m outside (Crew.single m w job) h c)
    {x : Member I} (hx : c.members[0]? = some x) :
    Program.Path (m.program job) (deedsOf h 0) x.rest := by
  induction hr generalizing x with
  | refl =>
    obtain rfl : ({ job := job, rest := m.program job } : Member I) = x := Option.some.inj hx
    exact .nil _
  | step hd he ih =>
    rcases he.member hx with ⟨y, hy, hcont⟩ | ⟨_, _, -, hlen, -⟩
    · cases hcont.becomes with
      | acts d heq _ hdoes =>
        rw [heq, deedsOf_act]
        exact (ih hy).snoc hdoes
      | same hne hrest =>
        rw [deedsOf_idle hne, hrest]
        exact ih hy
      | ends r heq _ hrest =>
        rw [deedsOf_idle (by rintro d rfl; cases heq), hrest]
        exact ih hy
      | balks heq _ _ _ hrest =>
        rw [deedsOf_idle (by rintro d rfl; cases heq), hrest]
        exact ih hy
    · exact absurd hd.length_le (hlen ▸ Nat.not_succ_le_zero 0)

/-- The first member of a crew that has ended has come to the end of its program, or it has not begun. -/
theorem Crew.Reaches.path_done {W : Type} {m : Machine I W} {outside : I.Call → Prop} {w : W} {job : I.Job}
    {h : List (Event I)} {c : Crew I W} (hr : Crew.Reaches m outside (Crew.single m w job) h c)
    {r : Outcome I.Fault I.Result} (hend : c.result? 0 = some r) :
    deedsOf h 0 = [] ∨ ∃ r', Program.Path (m.program job) (deedsOf h 0) (.done r') := by
  have hall : ∀ x, c.members[0]? = some x → (x.hasBegun = false → deedsOf h 0 = []) ∧
      (x.result.isSome = true → deedsOf h 0 = [] ∨ ∃ r', x.rest = .done r') := by
    clear hend
    induction hr with
    | refl =>
      intro x hx
      obtain rfl : ({ job := job, rest := m.program job } : Member I) = x := Option.some.inj hx
      exact ⟨fun _ => rfl, fun _ => .inl rfl⟩
    | step hd he ih =>
      intro x hx
      rcases he.member hx with ⟨y, hy, hcont⟩ | ⟨_, _, -, hlen, -⟩
      · obtain ⟨hnew, hover⟩ := ih y hy
        cases hcont.becomes with
        | acts d heq _ _ hbegun hresult => simp [hbegun, hresult]
        | same hne hrest hbegun hresult =>
          rw [deedsOf_idle hne, hrest, hbegun, hresult]
          exact ⟨hnew, hover⟩
        | ends r heq _ hrest hbegun _ hdone =>
          rw [deedsOf_idle (by rintro d rfl; cases heq), hrest, hbegun]
          refine ⟨hnew, fun _ => .inr ?_⟩
          rcases hdone with hdone | ⟨a, hdone, -⟩
          · exact ⟨_, hdone⟩
          · exact ⟨_, hdone⟩
        | balks heq _ hfresh =>
          rw [deedsOf_idle (by rintro d rfl; cases heq)]
          exact ⟨fun _ => hnew hfresh, fun _ => .inl (hnew hfresh)⟩
      · exact absurd hd.length_le (hlen ▸ Nat.not_succ_le_zero 0)
  obtain ⟨x, hx, hresult⟩ := Option.bind_eq_some_iff.1 hend
  refine ((hall x hx).2 (by rw [hresult]; rfl)).imp_right ?_
  rintro ⟨r', hdone⟩
  exact ⟨r', hdone ▸ hr.path hx⟩

namespace Crew

/-- Each member that goes on keeps to the rules, from the state that `g` tells. -/
def Keeps {W : Type} (R : Deed I → Prop) (μ : Rules I σ) (g : TaskId → σ) (c : Crew I W) : Prop :=
  ∀ (t : TaskId) (x : Member I), c.members[t]? = some x → x.result = none →
    x.rest.Obeys R μ (fun _ _ => True) (g t)

namespace Keeps

variable {W : Type} {m : Machine I W} {outside : I.Call → Prop} {R : Deed I → Prop} {μ : Rules I σ}
  {c c' : Crew I W} {g : TaskId → σ} {t : TaskId} {d : Deed I} {e : Event I}

/-- A member that goes on has taken a step if it is one of its events, and else is as it was. -/
theorem of_becomes {x y : Member I} {s : σ} (hx : x.rest.Obeys R μ (fun _ _ => True) s)
    (hb : Becomes e t x y) (he : ∀ d, e ≠ .act t d) (hy : y.result = none) :
    y.rest.Obeys R μ (fun _ _ => True) s := by
  cases hb with
  | same _ hrest => exact hrest ▸ hx
  | acts d heq => exact absurd heq (he d)
  | ends _ _ _ _ _ hresult => rw [hresult] at hy; cases hy
  | balks _ _ _ _ _ _ hresult => rw [hresult] at hy; cases hy

theorem single (w : W) {job : I.Job} {s : σ} (h : (m.program job).Obeys R μ (fun _ _ => True) s)
    (hg : g 0 = s) : (Crew.single m w job).Keeps R μ g := by
  intro t x hx _
  cases t with
  | zero =>
    obtain rfl := Option.some.inj hx
    exact hg ▸ h
  | succ n => cases hx

theorem idle (hk : c.Keeps R μ g) (hs : Step m outside c e c') (he : ∀ t d, e ≠ .act t d) :
    c'.Keeps R μ g := by
  intro t y hy hgoes
  rcases hs.member hy with ⟨x, hx, hcont⟩ | ⟨u, job, rfl, -⟩
  · exact of_becomes (hk t x hx (hcont.goes hgoes)) hcont.becomes (he t) hgoes
  · exact absurd rfl (he _ _)

/-- When a member takes a step, it does so by the rules; who is started has to keep to them too. -/
theorem act (hk : c.Keeps R μ g) (hs : Step m outside c (.act t d) c') (hR : R d) :
    ∃ s', μ (g t) d s' ∧ ∀ g' : TaskId → σ, g' t = s' →
      (∀ u, u ≠ t → u < c.members.length → g' u = g u) →
      (∀ job u, d = .start job u → (m.program job).Obeys R μ (fun _ _ => True) (g' u)) →
      c'.Keeps R μ g' := by
  have hmember := fun u y => hs.member (u := u) (y := y)
  cases hs with
  | @act _ x _ p _ hx hr hd ha =>
    obtain ⟨s', hnext, hobeys⟩ := (hk t x hx hr).does hd hR
    refine ⟨s', hnext, fun g' hself hothers hstarted u y hy hgoes => ?_⟩
    rcases hmember u y hy with ⟨x', hx', hcont⟩ | ⟨v, job, he, -, rfl⟩
    · by_cases hut : u = t
      · subst hut
        obtain rfl : x = x' := Option.some.inj (hx.symm.trans hx')
        cases hcont.becomes with
        | acts d' he _ hd' =>
          cases he
          exact hself ▸ hd.unique hd' ▸ hobeys
        | same hne => exact absurd rfl (hne d)
        | ends _ he | balks he => cases he
      · rw [hothers u hut (lt_of_member hx')]
        refine of_becomes (hk u x' hx' (hcont.goes hgoes)) hcont.becomes (fun d' he => hut ?_) hgoes
        cases he
        rfl
    · cases he
      exact hstarted job u rfl

end Keeps
end Crew
end BrowserPlan.Task
