import BrowserPlan.Proofs.Extraction.Levels

/-!
# Extraction on a document whose answers are fixed

A `Reading` carries out the programs that extraction is written in, on a document that answers
every question and always in the same way. `Reading.run_extract`: extraction then comes to the
records that the recursion describes, or to nothing where it meets a pattern that is none.
-/
namespace BrowserPlan.Extraction

variable {m : Type → Type} [Monad m] {ε : Type}

/-- A way to carry out programs in which a source gives the answers of a document. -/
structure Reading (s : Source m ε) (doc : Document ε) where
  /-- The result of a program, none where it is refused one. -/
  run : {α : Type} → m α → Option α
  run_pure : ∀ {α : Type} (a : α), run (pure a) = some a
  run_bind : ∀ {α β : Type} (x : m α) (f : α → m β), run (x >>= f) = (run x).bind fun a => run (f a)
  query : ∀ e target, run (s.query e target) = some (doc.query e target)
  read : ∀ e target name, run (s.read e target name) = some (doc.read e target name)
  content : ∀ e source, run (s.content e source) = some (doc.content e source)
  skip : ∀ key, run (s.skip key) = some ()
  refuse : ∀ regex fault, run (s.refuse regex fault) = none

namespace Document

variable (doc : Document ε)

/-! ## Patterns that are none -/

theorem any_assignElements {w : Work ε} (es : List ε) : ∀ (pos : Nat) (a : Arena),
    ((assignElements w pos a es).2.any fun w' => doc.refuses w'.element w'.field) =
      es.any fun x => doc.refusesAny x w.field.children := by
  induction es with
  | nil => exact fun _ _ => rfl
  | cons x es ih =>
    intro pos a
    rw [assignElements_cons, List.any_append, ih, List.any_cons, below, List.any_map, refusesAny_eq]
    rfl

/-- A field meets a pattern that is none in its own leaf or in the work that follows from it. -/
theorem refuses_step (a : Arena) (w : Work ε) : doc.refuses w.element w.field =
    (isRefused w.field || (doc.step a w).2.any fun w' => doc.refuses w'.element w'.field) := by
  rw [refuses_eq, step]
  by_cases hs : w.field.isStructural = true
  · have hr : w.field.isResolvable = true := by simp [FieldSpec.isResolvable, hs]
    have hleaf : isRefused w.field = false := by simp [isRefused, hs]
    rw [hleaf, Bool.false_or, if_pos hs, hr, Bool.not_true, if_neg Bool.false_ne_true, if_pos hs,
      any_assignElements]
  · rw [if_neg hs, if_neg hs]
    split <;> simp

theorem refuses_level {works : List (Work ε)} : ∀ (a : Arena),
    (works.any fun w => doc.refuses w.element w.field) =
      ((works.any fun w => isRefused w.field) ||
        (doc.level a works).2.any fun w' => doc.refuses w'.element w'.field) := by
  induction works with
  | nil => exact fun _ => rfl
  | cons w works ih =>
    intro a
    rw [List.any_cons, List.any_cons, level, List.any_append, refuses_step doc a w,
      ih (doc.step a w).1]
    simp only [Bool.or_assoc, Bool.or_left_comm]

end Document

/-! ## Carrying out the worklist -/

namespace Reading

variable {s : Source m ε} {doc : Document ε} (R : Reading s doc)

theorem run_leafValues (e : ε) {f : FieldSpec} (hr : f.isResolvable = true)
    (hs : ¬ f.isStructural = true) : R.run (leafValues s e f) =
      if Document.isRefused f then none else some (doc.leaf e f) := by
  have hs : f.isStructural = false := by simpa using hs
  by_cases hg : given f.regex = true
  · cases hp : Pattern.compile (f.regex.getD "") .caseless with
    | ok p =>
      simp [leafValues, Document.leaf, Document.isRefused, compile, hg, hp, R.run_bind, R.run_pure,
        R.content]
    | error fault =>
      simp [leafValues, Document.isRefused, compile, hg, hp, hr, hs, R.run_bind, R.content,
        R.refuse]
  · have hg : given f.regex = false := by simpa using hg
    cases ht : f.target? with
    | some target => simp [leafValues, Document.leaf, Document.isRefused, hg, ht, R.read]
    | none => simp [leafValues, Document.leaf, Document.isRefused, hg, ht, R.run_pure]

theorem run_matchesOf (e : ε) (f : FieldSpec) :
    R.run (matchesOf s e f) = some (doc.elements e f) := by
  cases ht : f.target? with
  | some target => simp [matchesOf, Document.elements, ht, R.query]
  | none => simp [matchesOf, Document.elements, ht, R.run_pure]

theorem run_resolve (a : Arena) (w : Work ε) : R.run (resolve s a w) =
    if Document.isRefused w.field then none else some (doc.step a w) := by
  unfold resolve Document.step
  by_cases hr : w.field.isResolvable = true
  · by_cases hs : w.field.isStructural = true
    · have hleaf : Document.isRefused w.field = false := by simp [Document.isRefused, hs]
      simp [hr, hs, hleaf, R.run_bind, R.run_pure, R.run_matchesOf]
    · by_cases hleaf : Document.isRefused w.field = true
      · simp [hr, hs, hleaf, R.run_bind, R.run_leafValues _ hr hs]
      · simp [hr, hs, hleaf, R.run_bind, R.run_pure, R.run_leafValues _ hr hs]
  · have hleaf : Document.isRefused w.field = false := by simp [Document.isRefused, hr]
    simp [hr, hleaf, R.run_bind, R.run_pure, R.skip]

theorem run_resolveLevel {works : List (Work ε)} : ∀ (a : Arena), R.run (resolveLevel s a works) =
    if works.any fun w => Document.isRefused w.field then none else some (doc.level a works) := by
  induction works with
  | nil => exact fun a => R.run_pure _
  | cons w works ih =>
    intro a
    rw [resolveLevel, R.run_bind, R.run_resolve, List.any_cons]
    by_cases hw : Document.isRefused w.field = true
    · simp [hw]
    · by_cases hrest : (works.any fun w => Document.isRefused w.field) = true
      · simp [hw, hrest, R.run_bind, ih]
      · simp [hw, hrest, R.run_bind, R.run_pure, ih, Document.level]

/-- The levels are resolved, unless there is a pattern that is none in one of them. -/
theorem run_resolveLevels (n : Nat) : ∀ {works : List (Work ε)} (a : Arena),
    (∀ w ∈ works, Spec.fieldDepth w.field ≤ n) → R.run (resolveLevels s n a works) =
      if works.any fun w => doc.refuses w.element w.field then none
      else some (doc.levels n a works) := by
  induction n with
  | zero =>
    intro works a hn
    cases works with
    | nil => exact R.run_pure _
    | cons w works =>
      have := hn w List.mem_cons_self
      rw [Document.fieldDepth_eq] at this
      omega
  | succ n ih =>
    intro works a hn
    have hnext : ∀ w' ∈ (doc.level a works).2, Spec.fieldDepth w'.field ≤ n := by
      intro w' hw'
      obtain ⟨w, hw, c, hc, hf⟩ := Document.mem_level hw'
      have h1 := hn w hw
      have h2 := Document.fieldDepth_le hc
      rw [Document.fieldDepth_eq] at h1
      rw [hf]
      omega
    rw [resolveLevels, R.run_bind, R.run_resolveLevel, doc.refuses_level a, Document.levels]
    by_cases hw : (works.any fun w => Document.isRefused w.field) = true
    · simp [hw]
    · simp [hw, ih _ hnext]

/-- Extraction comes to the records that the recursion describes. -/
theorem run_extract {spec : Spec} (hd : Distinct spec) (root : ε) : R.run (extract s root spec) =
    if doc.refusesAny root spec then none else some (doc.records root spec) := by
  have hdepth : ∀ w ∈ Document.works root spec, Spec.fieldDepth w.field ≤ Spec.depth spec := by
    intro w hw
    obtain ⟨c, hc, rfl⟩ := List.mem_map.1 hw
    exact Document.fieldDepth_le hc
  have hany : ((Document.works root spec).any fun w => doc.refuses w.element w.field) =
      doc.refusesAny root spec := by
    rw [Document.works, List.any_map, Document.refusesAny_eq]
    rfl
  have hrun := R.run_resolveLevels (Spec.depth spec) {} hdepth
  rw [hany] at hrun
  have hextract : extract s root spec = do
      return (← resolveLevels s (Spec.depth spec) {} (Document.works root spec)).results := rfl
  rw [hextract, R.run_bind, hrun]
  by_cases hr : doc.refusesAny root spec = true
  · simp [hr]
  · simp [hr, R.run_pure, doc.levels_eq_records hd]

end Reading
end BrowserPlan.Extraction
