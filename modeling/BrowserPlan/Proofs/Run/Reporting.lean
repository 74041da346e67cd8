import BrowserPlan.Proofs.Run.Solo

/-!
# What goes into the report

The files in the report of a run are those that its tasks have put there, in this order
(`outputs_reported`). Looking at pages, calling and waiting put nothing into it.
-/
namespace BrowserPlan.Run

open BrowserPlan.Task BrowserPlan.Browser

section
variable {W : Type} {m : Machine scene W} {h : List (Event scene)} {c c' : Crew scene W}

/-- The file that a step puts into the report. -/
def Deed.produced? : Deed scene → Option FilePath
  | .ask (.produced path) _ => some path
  | _ => none

/-- The file that a step adds to the report. -/
theorem outputs_allows (V : Venue m) {isTold : Bool} {d : Deed scene} (ha : Crew.Allows m c isTold d c') :
    (V.report c'.world).outputs.toList = (V.report c.world).outputs.toList ++ (Deed.produced? d).toList := by
  cases ha with
  | @ask q a now ha =>
    change (V.report (m.perform now c.world q).1).outputs.toList = _
    rw [V.reported now c.world q]
    cases q <;> simp [Report.noting, Deed.produced?]
  | start | stop => exact (List.append_nil _).symm
  | wait ho => cases ho <;> exact (List.append_nil _).symm
  | late htold ho heq => cases ho <;> cases heq <;> exact (List.append_nil _).symm
  | breakOff on htold =>
    cases on with
    | signal s =>
      change (V.report (m.forsake c.world s)).outputs.toList = _ ++ []
      rw [V.report_forsaken, List.append_nil]
    | timer | forever => exact (List.append_nil _).symm

/-- The files in the report are those that were in it before and those that the tasks have added. -/
theorem outputs_reported (V : Venue m) (hr : Crew.Reaches m IsOutside c h c') :
    (V.report c'.world).outputs.toList =
      (V.report c.world).outputs.toList ++ (entries Deed.produced? h).map Prod.snd := by
  induction hr with
  | refl => exact (List.append_nil _).symm
  | @step h d e d' hd hs ih =>
    rw [entries_append, List.map_append, ← List.append_assoc, ← ih]
    cases hs with
    | act hx hr hp ha =>
      have hadds := outputs_allows V ha
      rwa [← entries_act_snd] at hadds
    | happen now q hq =>
      obtain rfl := hq
      change (V.report (m.perform now d.world .goAway).1).outputs.toList = _ ++ []
      rw [V.reported, List.append_nil]
      rfl
    | _ => exact (List.append_nil _).symm

end

/-! ## Steps that are not reported -/

/-- A step that leaves the report and the spans alone. -/
def Deed.IsUnreported : Deed scene → Prop
  | .ask q _ => match q with
    | .executed _ | .produced _ | .branchFailed _ | .openSpan .. | .closeSpan .. => False
    | _ => True
  | _ => True

theorem Deed.IsUnreported.executed? {d : Deed scene} (h : Deed.IsUnreported d) : Deed.executed? d = none := by
  cases d with
  | ask q a => cases q <;> first | rfl | exact h.elim
  | _ => rfl

theorem Deed.IsUnreported.produced? {d : Deed scene} (h : Deed.IsUnreported d) : Deed.produced? d = none := by
  cases d with
  | ask q a => cases q <;> first | rfl | exact h.elim
  | _ => rfl

theorem Deed.IsUnreported.failure? {d : Deed scene} (h : Deed.IsUnreported d) : Deed.failure? d = none := by
  cases d with
  | ask q a => cases q <;> first | rfl | exact h.elim
  | _ => rfl

/-- Programs that report nothing. -/
abbrev Unreported {α : Type} (p : Program scene α) : Prop := Takes Deed.IsUnreported p

theorem unreported_say (level : Log.Level) (speaker : Log.Speaker) (message : String) :
    Unreported (say level speaker message) := .ask fun _ => trivial

theorem unreported_invoke (who : Party) (op : Operation) : Unreported (invoke who op) :=
  takes_invoke_of (fun d h => by cases h <;> trivial) fun d h => by cases h <;> trivial

/-! ### Reading -/

section
variable {D : Deed scene → Prop} (hsay : ∀ r u, D (.ask (.log r) u)) (hcall : ∀ who op, Takes D (invoke who op))
include hsay hcall

omit hsay in
theorem takes_readAll_of (root : Party) (target : Option String) (attributeName : String) :
    Takes D (readAll root target attributeName) := by
  rw [readAll.eq_def]
  split
  · exact hcall _ _
  · exact .pure _

omit hsay in
theorem takes_contentOf_of (root : Party) (source : String) : Takes D (contentOf root source) := by
  rw [contentOf.eq_def]
  split
  · exact hcall _ _
  · split <;> exact hcall _ _

omit hsay in
theorem takes_leafValues_of (root : Party) (f : FieldSpec) : Takes D (Extraction.leafValues documents root f) := by
  rw [Extraction.leafValues]
  split
  · refine Takes.bind (takes_contentOf_of hcall _ _) fun content => Takes.bind ?_ fun p => .pure _
    rw [Extraction.compile]
    split
    · exact .pure _
    · exact .fail _
  · split
    · exact takes_readAll_of hcall _ _ _
    · exact .pure _

theorem takes_resolve_of (a : Extraction.Arena) (w : Extraction.Work Party) :
    Takes D (Extraction.resolve documents a w) := by
  rw [Extraction.resolve]
  split
  · exact Takes.bind (.ask (hsay _)) fun _ => .pure _
  · split
    · refine Takes.bind ?_ fun es => .pure _
      rw [Extraction.matchesOf]
      split
      · exact Takes.bind (hcall _ _) fun es => .pure _
      · exact .pure _
    · exact Takes.bind (takes_leafValues_of hcall _ _) fun vs => .pure _

theorem takes_resolveLevel_of (works : List (Extraction.Work Party)) :
    ∀ a, Takes D (Extraction.resolveLevel documents a works) := by
  induction works with
  | nil => exact fun a => .pure _
  | cons w rest ih =>
    intro a
    exact Takes.bind (takes_resolve_of hsay hcall a w) fun _ => Takes.bind (ih _) fun _ => .pure _

theorem takes_resolveLevels_of (levels : Nat) : ∀ a works, Takes D (Extraction.resolveLevels documents levels a works) := by
  induction levels with
  | zero => exact fun a works => .pure a
  | succ n ih => exact fun a works => Takes.bind (takes_resolveLevel_of hsay hcall works a) fun _ => ih _ _

/-- Extraction is saying things and calling the browser. -/
theorem takes_extract_of (root : Party) (spec : Spec) : Takes D (extract root spec) :=
  Takes.bind (takes_resolveLevels_of hsay hcall _ _ _) fun _ => .pure _

end

theorem unreported_extract (root : Party) (spec : Spec) : Unreported (extract root spec) :=
  takes_extract_of (fun _ _ => trivial) unreported_invoke root spec

/-! ### Links -/

theorem unreported_branchesOf (base : String) (index : IterationIndex) (vs : List Json) :
    ∀ position, Unreported (branchesOf base index position vs) := by
  induction vs with
  | nil => exact fun _ => .pure _
  | cons v vs ih =>
    intro position
    rw [branchesOf]
    split
    · exact ih _
    · refine Takes.bind (.settleFor _ _) fun link => ?_
      split
      · exact Takes.bind (ih _) fun later => .pure _
      · exact Takes.bind (unreported_say _ _ _) fun _ => ih _

theorem unreported_crawlLinks (page : PageId) (index : IterationIndex) (selector xpath : Option String)
    (attributeName : String) : Unreported (crawlLinks page index selector xpath attributeName) := by
  have hfind : Unreported (findLinks page index selector xpath attributeName) := by
    refine Takes.attempt (unreported_extract _ _) fun r => ?_
    split
    · exact .pure _
    · exact .fail _
    · exact .ending _
  refine Takes.bind hfind fun found => Takes.bind (.ask fun _ => trivial) fun base => ?_
  refine Takes.bind (unreported_branchesOf base index found 1) fun branches => ?_
  exact Takes.bind (unreported_say _ _ _) fun _ => .pure _

end BrowserPlan.Run
