import BrowserPlan.Proofs.Plan.WellFormed
import BrowserPlan.Proofs.Run.Worklist

/-!
# The order of calls in an extraction

A field is resolved against many elements, one visit for each (`Visit`), and the visits of one level determine those
of the next: for each visit in turn, for each element it has found, all fields below, in order (`LevelOrder`). An
extraction makes its visits level by level, with one call each at most, and no call before the last one has been
answered; when all have been, and not before, it tells the records (`extraction_in_level_order`).
-/
namespace BrowserPlan.Run

open BrowserPlan.Task BrowserPlan.Browser
open Extraction (Arena)

/-- A field that is resolved against an element, and the elements that are found in doing so. -/
structure Visit where
  element : Party
  field : FieldSpec
  found : List Party

namespace Visit

/-- The element and the field. -/
def spot (v : Visit) : Party × FieldSpec := (v.element, v.field)

/-- The call by which the field is resolved. -/
def call? (v : Visit) : Option (Party × Operation) := callOf v.element v.field

/-- What is found, where there is a query. -/
def find? (v : Visit) : Option (List Party) :=
  if v.field.isStructural && v.field.target?.isSome then some v.found else none

/-- The elements that the fields below are resolved against: those that are found, or the element itself where there
is no query. -/
def contexts (v : Visit) : List Party :=
  if !v.field.isStructural then []
  else if v.field.target?.isSome then v.found
  else [v.element]

/-- The elements and the fields below that are resolved against them, in order. -/
def below (v : Visit) : List (Party × FieldSpec) :=
  v.contexts.flatMap fun x => v.field.children.map fun c => (x, c.2)

end Visit

/-- The visits of each level, beginning with these ones. -/
structure LevelOrder (tops : List (Party × FieldSpec)) (levels : Nat → List Visit) : Prop where
  top : (levels 0).map Visit.spot = tops
  below : ∀ d, (levels (d + 1)).map Visit.spot = (levels d).flatMap Visit.below

/-- The visits of so many levels, one level after the other. -/
def visitsOf (levels : Nat → List Visit) (n : Nat) : List Visit := (List.range n).flatMap levels

/-- The calls of so many levels. -/
def callsDue (levels : Nat → List Visit) (n : Nat) : List (Party × Operation) :=
  (visitsOf levels n).filterMap Visit.call?

/-- What queries find on so many levels. -/
def findsDue (levels : Nat → List Visit) (n : Nat) : List (List Party) := (visitsOf levels n).filterMap Visit.find?

section
variable {tops spots rest : List (Party × FieldSpec)} {levels : Nat → List Visit} {past : List (List Visit)}
  {seen : List Visit} {v : Visit} {n k d : Nat}

/-! ## Levels -/

theorem visitsOf_add (levels : Nat → List Visit) (n k : Nat) :
    visitsOf levels (n + k) = visitsOf levels n ++ visitsOf (fun d => levels (n + d)) k := by
  rw [visitsOf, List.range_add, List.flatMap_append, List.flatMap_map]
  rfl

theorem visitsOf_succ (levels : Nat → List Visit) (n : Nat) :
    visitsOf levels (n + 1) = levels 0 ++ visitsOf (fun d => levels (d + 1)) n := by
  rw [visitsOf, List.range_succ_eq_map, List.flatMap_cons, List.flatMap_map]
  rfl

theorem visitsOf_add_of_empty (h : ∀ d, n ≤ d → levels d = []) (k : Nat) :
    visitsOf levels (n + k) = visitsOf levels n := by
  have hnone : visitsOf (fun d => levels (n + d)) k = [] :=
    List.flatMap_eq_nil_iff.2 fun d _ => h (n + d) (Nat.le_add_right _ _)
  rw [visitsOf_add, hnone, List.append_nil]

theorem Visit.fieldDepth_below {x : Party × FieldSpec} (h : x ∈ v.below) :
    Spec.fieldDepth x.2 < Spec.fieldDepth v.field := by
  obtain ⟨_, -, hx⟩ := List.mem_flatMap.1 h
  obtain ⟨c, hc, rfl⟩ := List.mem_map.1 hx
  rw [Extraction.Document.fieldDepth_eq v.field]
  exact Nat.lt_succ_of_le (Extraction.Document.fieldDepth_le hc)

theorem LevelOrder.fieldDepth_le (h : LevelOrder tops levels) (hn : ∀ x ∈ tops, Spec.fieldDepth x.2 ≤ n) (d : Nat) :
    ∀ v ∈ levels d, Spec.fieldDepth v.field + d ≤ n := by
  induction d with
  | zero =>
    intro v hv
    exact hn v.spot (h.top ▸ List.mem_map_of_mem hv)
  | succ d ih =>
    intro v hv
    have hspot : v.spot ∈ (levels d).flatMap Visit.below := h.below d ▸ List.mem_map_of_mem hv
    obtain ⟨u, hu, hv⟩ := List.mem_flatMap.1 hspot
    have hdepth : Spec.fieldDepth v.field < Spec.fieldDepth u.field := Visit.fieldDepth_below hv
    have := ih u hu
    omega

theorem LevelOrder.empty (h : LevelOrder tops levels) (hn : ∀ x ∈ tops, Spec.fieldDepth x.2 ≤ n) (hd : n ≤ d) :
    levels d = [] := by
  refine List.eq_nil_iff_forall_not_mem.2 fun v hv => ?_
  have hdepth := h.fieldDepth_le hn d v hv
  rw [Extraction.Document.fieldDepth_eq] at hdepth
  omega

/-! ## Levels that are not over -/

/-- Levels of visits that are over, and what there is to be visited on the next one. -/
def Linked : List (Party × FieldSpec) → List (List Visit) → List (Party × FieldSpec) → Prop
  | tops, [], spots => spots = tops
  | tops, seen :: past, spots => seen.map Visit.spot = tops ∧ Linked (seen.flatMap Visit.below) past spots

theorem Linked.down (h : Linked tops past (seen.map Visit.spot)) :
    Linked tops (past ++ [seen]) (seen.flatMap Visit.below) := by
  induction past generalizing tops with
  | nil => exact ⟨h, rfl⟩
  | cons _ _ ih => exact ⟨h.1, ih h.2⟩

/-- A visit on which nothing is found. -/
def Visit.vain (x : Party × FieldSpec) : Visit := ⟨x.1, x.2, []⟩

theorem map_spot_vain (spots : List (Party × FieldSpec)) : (spots.map Visit.vain).map Visit.spot = spots := by
  rw [List.map_map]
  exact List.map_id _

/-- A level of which some visits are over, and the levels below it, if nothing is found any more. -/
def lastLevels (seen : List Visit) (rest : List (Party × FieldSpec)) : Nat → List Visit
  | 0 => seen ++ rest.map Visit.vain
  | n + 1 => ((lastLevels seen rest n).flatMap Visit.below).map Visit.vain

/-- The levels that are over, and behind them one of which some visits are, and the levels below it. -/
def allLevels (seen : List Visit) (rest : List (Party × FieldSpec)) : (past : List (List Visit)) → Nat → List Visit
  | [], n => lastLevels seen rest n
  | first :: _, 0 => first
  | _ :: past, n + 1 => allLevels seen rest past n

theorem Linked.levelOrder (h : Linked tops past (seen.map Visit.spot ++ rest)) :
    LevelOrder tops (allLevels seen rest past) := by
  induction past generalizing tops with
  | nil =>
    refine ⟨?_, fun d => map_spot_vain _⟩
    change (seen ++ rest.map Visit.vain).map Visit.spot = tops
    rw [List.map_append, map_spot_vain]
    exact h
  | cons first past ih =>
    obtain ⟨htop, hbelow⟩ := ih h.2
    refine ⟨h.1, fun d => ?_⟩
    cases d with
    | zero => exact htop
    | succ d => exact hbelow d

theorem visitsOf_allLevels (n : Nat) : visitsOf (allLevels seen rest past) (past.length + (n + 1)) =
    past.flatten ++ (seen ++ (rest.map Visit.vain ++ visitsOf (fun d => lastLevels seen rest (d + 1)) n)) := by
  induction past with
  | nil =>
    rw [List.length_nil, Nat.zero_add, visitsOf_succ]
    exact List.append_assoc ..
  | cons first past ih =>
    rw [List.length_cons, Nat.add_right_comm, visitsOf_succ, List.flatten_cons, List.append_assoc]
    exact congrArg (first ++ ·) ih

theorem lastLevels_empty (h : seen.flatMap Visit.below = []) (d : Nat) : lastLevels seen [] (d + 1) = [] := by
  induction d with
  | zero => simp [lastLevels, h]
  | succ d ih =>
    rw [lastLevels, ih]
    rfl

/-- What has been visited is the beginning of all that is visited level by level, and all of it if nothing is left. -/
theorem Linked.visits (h : Linked tops past (seen.map Visit.spot ++ rest)) (hn : ∀ x ∈ tops, Spec.fieldDepth x.2 ≤ n) :
    ∃ levels, LevelOrder tops levels ∧ past.flatten ++ seen <+: visitsOf levels n ∧
      (rest ++ seen.flatMap Visit.below = [] → past.flatten ++ seen = visitsOf levels n) := by
  have horder := h.levelOrder
  have hvisits : visitsOf (allLevels seen rest past) n =
      visitsOf (allLevels seen rest past) (past.length + (n + 1)) := by
    rw [← visitsOf_add_of_empty (fun d hd => horder.empty hn hd) (past.length + 1)]
    congr 1
    omega
  refine ⟨_, horder, ?_, fun hleft => ?_⟩
  · rw [hvisits, visitsOf_allLevels, ← List.append_assoc]
    exact List.prefix_append _ _
  · obtain ⟨rfl, hbelow⟩ := List.append_eq_nil_iff.1 hleft
    have hnone : visitsOf (fun d => lastLevels seen [] (d + 1)) n = [] :=
      List.flatMap_eq_nil_iff.2 fun d _ => lastLevels_empty hbelow d
    rw [hvisits, visitsOf_allLevels, hnone]
    simp

/-! ## Visits of an extraction -/

/-- The element and the field that a piece of work is on. -/
def spotOf (w : Extraction.Work Party) : Party × FieldSpec := (w.element, w.field)

/-- After these steps the visits up to `seen` are over, all with their calls answered, and the queue has what is left
to be visited. -/
structure Visited (tops : List (Party × FieldSpec)) (ds : List (Deed scene)) (queue : List (Extraction.Work Party))
    (past : List (List Visit)) (seen : List Visit) (rest : List (Party × FieldSpec)) : Prop where
  linked : Linked tops past (seen.map Visit.spot ++ rest)
  queue : queue.map spotOf = rest ++ seen.flatMap Visit.below
  asked : askedIn ds = (past.flatten ++ seen).filterMap Visit.call?
  answered : answeredIn ds = (past.flatten ++ seen).filterMap Visit.call?
  found : foundIn ds = (past.flatten ++ seen).filterMap Visit.find?

variable {a b : Arena} {w : Extraction.Work Party} {queue below : List (Extraction.Work Party)}
  {ds es : List (Deed scene)} {found : List (List Party)}

theorem spots_assignElements (xs : List Party) : ∀ (pos : Nat) (a : Arena),
    (Extraction.assignElements w pos a xs).2.map spotOf =
      xs.flatMap fun x => w.field.children.map fun c => (x, c.2) := by
  induction xs with
  | nil => exact fun _ _ => rfl
  | cons x xs ih =>
    intro pos a
    rw [Extraction.Document.assignElements_cons, List.map_append, List.flatMap_cons]
    exact congrArg₂ _ (List.map_map ..) (ih _ _)

/-- To resolve a piece of work is to visit its element. -/
theorem Resolved.exists_visit {r : Arena × List (Extraction.Work Party)} (h : Resolved a w found r) :
    ∃ v : Visit, v.spot = spotOf w ∧ found = v.find?.toList ∧ r.2.map spotOf = v.below := by
  cases h with
  | skipped hr =>
    have hs : w.field.isStructural = false := by
      rw [FieldSpec.isResolvable] at hr
      simp only [Bool.or_eq_false_iff] at hr
      exact hr.1.1.1
    exact ⟨⟨w.element, w.field, []⟩, rfl, by simp [Visit.find?, hs], by simp [Visit.below, Visit.contexts, hs]⟩
  | selected xs hs ht =>
    refine ⟨⟨w.element, w.field, xs⟩, rfl, by simp [Visit.find?, hs, ht], ?_⟩
    rw [spots_assignElements]
    simp [Visit.below, Visit.contexts, hs, ht]
  | kept hs ht =>
    refine ⟨⟨w.element, w.field, []⟩, rfl, by simp [Visit.find?, hs, ht], ?_⟩
    rw [spots_assignElements]
    simp [Visit.below, Visit.contexts, hs, ht]
  | valued vs hs =>
    exact ⟨⟨w.element, w.field, []⟩, rfl, by simp [Visit.find?, hs], by simp [Visit.below, Visit.contexts, hs]⟩

theorem callOf_spot (hv : v.spot = spotOf w) : callOf w.element w.field = v.call? :=
  congrArg (fun x : Party × FieldSpec => callOf x.1 x.2) hv.symm

namespace Visited

/-- Where a piece of work is left, it is the next visit, if need be the first one on a new level. -/
theorem next (h : Visited tops ds (w :: queue) past seen rest) :
    ∃ past' seen' rest', Visited tops ds (w :: queue) past' seen' (spotOf w :: rest') := by
  cases rest with
  | cons x rest =>
    obtain ⟨rfl, -⟩ := List.cons.inj h.queue
    exact ⟨past, seen, rest, h⟩
  | nil =>
    have hqueue := h.queue
    rw [List.nil_append] at hqueue
    have hdown := (List.append_nil (seen.map Visit.spot) ▸ h.linked).down
    rw [← hqueue] at hdown
    have hflatten : (past ++ [seen]).flatten ++ [] = past.flatten ++ seen := by simp
    exact ⟨past ++ [seen], [], queue.map spotOf, hdown, (List.append_nil _).symm, hflatten ▸ h.asked,
      hflatten ▸ h.answered, hflatten ▸ h.found⟩

/-- A visit more is over. -/
theorem visit (h : Visited tops ds (w :: queue) past seen (spotOf w :: rest)) (hv : v.spot = spotOf w)
    (hbelow : below.map spotOf = v.below) (hasked : askedIn es = v.call?.toList)
    (hanswered : answeredIn es = v.call?.toList) (hfound : foundIn es = v.find?.toList) :
    Visited tops (ds ++ es) (queue ++ below) past (seen ++ [v]) rest := by
  have hone : ∀ {β : Type} (f : Visit → Option β), (past.flatten ++ (seen ++ [v])).filterMap f =
      (past.flatten ++ seen).filterMap f ++ (f v).toList := by
    intro β f
    rw [← List.append_assoc, List.filterMap_append]
    cases hf : f v <;> simp [hf]
  have hqueue : queue.map spotOf = rest ++ seen.flatMap Visit.below := (List.cons.inj h.queue).2
  refine ⟨?_, ?_, ?_, ?_, ?_⟩
  · rw [List.map_append, List.append_assoc, List.map_singleton, hv]
    exact h.linked
  · rw [List.map_append, hqueue, hbelow]
    simp
  · rw [askedIn_append, h.asked, hasked, hone]
  · rw [answeredIn_append, h.answered, hanswered, hone]
  · rw [foundIn_append, h.found, hfound, hone]

/-- What has been asked and found while a visit is being made is the beginning of what is due. -/
theorem exists_levels (h : Visited tops ds (w :: queue) past seen (spotOf w :: rest))
    (hn : ∀ x ∈ tops, Spec.fieldDepth x.2 ≤ n) (hasked : askedIn es <+: (callOf w.element w.field).toList)
    (hfound : foundIn es = []) : ∃ levels, LevelOrder tops levels ∧ askedIn (ds ++ es) <+: callsDue levels n ∧
      foundIn (ds ++ es) <+: findsDue levels n := by
  let v := Visit.vain (spotOf w)
  have hlinked : Linked tops past ((seen ++ [v]).map Visit.spot ++ rest) := by
    rw [List.map_append, List.append_assoc]
    exact h.linked
  obtain ⟨levels, horder, hvisits, -⟩ := hlinked.visits hn
  rw [← List.append_assoc] at hvisits
  refine ⟨levels, horder, ?_, ?_⟩
  · have hcalls := hvisits.filterMap Visit.call?
    have hlast : [v].filterMap Visit.call? = (callOf w.element w.field).toList := by
      cases hv : v.call? with
      | none => simp [hv, callOf_spot (v := v) rfl]
      | some c => simp [hv, callOf_spot (v := v) rfl]
    rw [List.filterMap_append, hlast, ← h.asked] at hcalls
    rw [askedIn_append]
    exact ((List.prefix_append_right_inj _).2 hasked).trans hcalls
  · rw [foundIn_append, hfound, List.append_nil, h.found]
    exact ((List.prefix_append _ _).trans hvisits).filterMap _

end Visited

/-- What is visited first: the fields of the specification, all against the root. -/
def topsOf (root : Party) (spec : Spec) : List (Party × FieldSpec) := spec.map fun c => (root, c.2)

theorem Worklist.Rounds.visited {root : Party} {spec : Spec} {s : Worklist}
    (h : Worklist.Rounds (Worklist.start root spec) ds s) :
    ∃ past seen rest, Visited (topsOf root spec) ds s.queue past seen rest := by
  induction h with
  | refl =>
    refine ⟨[], [], topsOf root spec, rfl, ?_, rfl, rfl, rfl⟩
    rw [List.flatMap_nil, List.append_nil]
    exact List.map_map ..
  | snoc _ hu ih =>
    obtain ⟨past, seen, rest, h⟩ := ih
    cases hu with
    | take hpath =>
      obtain ⟨past, seen, rest, h⟩ := h.next
      obtain ⟨v, hv, hfound, hbelow⟩ := (resolved_of_path hpath).exists_visit
      have hasking := asking_resolve hpath
      rw [callOf_spot hv] at hasking
      cases hasking with
      | midway hmid => exact absurd rfl (hmid _)
      | answered hasked hanswered => exact ⟨past, seen ++ [v], rest, h.visit hv hbelow hasked hanswered hfound⟩

theorem fieldDepth_topsOf {root : Party} {spec : Spec} :
    ∀ x ∈ topsOf root spec, Spec.fieldDepth x.2 ≤ Spec.depth spec := by
  intro x hx
  obtain ⟨c, hc, rfl⟩ := List.mem_map.1 hx
  exact Extraction.Document.fieldDepth_le hc

/-! ## Fields that are refused -/

/-- The fields in the queue are fields of the specification. -/
theorem Worklist.Rounds.has {root : Party} {spec : Spec} {s : Worklist}
    (h : Worklist.Rounds (Worklist.start root spec) ds s) : ∀ w ∈ s.queue, spec.Has w.field := by
  induction h with
  | refl =>
    intro w hw
    obtain ⟨c, hc, rfl⟩ := List.mem_map.1 hw
    exact .root (List.mem_map_of_mem hc)
  | snoc _ hu ih =>
    cases hu with
    | take hpath =>
      refine List.forall_mem_append.2 ⟨fun w hw => ih w (List.mem_cons_of_mem _ hw), fun w' hw' => ?_⟩
      obtain ⟨c, hc, hfield⟩ := (resolved_of_path hpath).children hw'
      rw [hfield]
      exact (ih _ List.mem_cons_self).trans (.root (List.mem_map_of_mem hc))

theorem not_refuses_of_wellFormed {f : FieldSpec} {fault : Fault} (h : f.WellFormed) : ¬ Refuses f fault := by
  rintro ⟨hrefused, -⟩
  rw [Extraction.Document.isRefused] at hrefused
  simp only [Bool.and_eq_true, Bool.not_eq_true'] at hrefused
  obtain ⟨⟨⟨-, hs⟩, hg⟩, hpattern⟩ := hrefused
  cases h with
  | leaf hleaf =>
    cases hregex : f.regex with
    | none =>
      rw [hregex] at hg
      cases hg
    | some regex =>
      obtain ⟨p, hp⟩ := hleaf.pattern regex hregex
      rw [hregex, Option.getD_some, hp] at hpattern
      cases hpattern
  | node hnode =>
    rw [FieldSpec.isStructural, Bool.not_eq_false', List.isEmpty_iff] at hs
    exact hnode.children hs

/-! ## The order of the calls -/

/-- A visit that is being made has made its one call at most. -/
theorem Asking.of_unfinished {α : Type} {calls : List (Party × Operation)} {faults : Fault → Prop}
    {ends : List (List Party) → α → Prop} {p : Program scene α} (h : Asking calls faults ends ds p)
    (hp : ∀ r, p ≠ .done (.ok r)) :
    askedIn ds <+: calls ∧ answeredIn ds <+: askedIn ds ∧ foundIn ds = [] ∧
      ∀ e, p = .done (.error e) → askedIn ds ≠ answeredIn ds ∨ ∃ fault, faults fault ∧ e = .failed fault := by
  cases h with
  | midway hmid hasked hanswered hfound =>
    exact ⟨hasked, hanswered ▸ List.nil_prefix, hfound, fun e he => absurd he (hmid _)⟩
  | failed hcalls hasked hanswered hfound =>
    refine ⟨hasked ▸ List.prefix_rfl, hanswered ▸ List.nil_prefix, hfound, fun e _ => .inl ?_⟩
    rw [hasked, hanswered]
    exact hcalls
  | refused hfault hasked hanswered hfound =>
    refine ⟨hasked ▸ List.prefix_rfl, hanswered ▸ hasked ▸ List.prefix_rfl, hfound, fun e he => .inr ?_⟩
    cases he
    exact ⟨_, hfault, rfl⟩
  | answered => exact absurd rfl (hp _)

variable {root : Party} {spec : Spec} {p : Program scene (List Json)} {d : Deed scene}
  {before after : List (Deed scene)}

theorem Worklist.Rounds.exists_levels (h : Worklist.Rounds (.start root spec) ds ⟨a, []⟩) :
    ∃ levels, LevelOrder (topsOf root spec) levels ∧ askedIn ds = callsDue levels (Spec.depth spec) ∧
      answeredIn ds = callsDue levels (Spec.depth spec) ∧ foundIn ds = findsDue levels (Spec.depth spec) := by
  obtain ⟨past, seen, rest, hvisited⟩ := h.visited
  obtain ⟨levels, horder, -, hall⟩ := hvisited.linked.visits fieldDepth_topsOf
  have hvisits := hall hvisited.queue.symm
  refine ⟨levels, horder, ?_, ?_, ?_⟩
  · rw [hvisited.asked, hvisits, callsDue]
  · rw [hvisited.answered, hvisits, callsDue]
  · rw [hvisited.found, hvisits, findsDue]

/-- In the middle of a round all calls have been made that were due before, and one more at most. If that was answered
and the round has failed, then a field is refused. -/
theorem Worklist.Amid.exists_levels {q : Program scene Arena} (h : Worklist.Amid (.start root spec) ds q) :
    ∃ levels, LevelOrder (topsOf root spec) levels ∧ askedIn ds <+: callsDue levels (Spec.depth spec) ∧
      foundIn ds <+: findsDue levels (Spec.depth spec) ∧ answeredIn ds <+: askedIn ds ∧
      (askedIn ds).length ≤ (answeredIn ds).length + 1 ∧
      ∀ e, q = .done (.error e) →
        askedIn ds ≠ answeredIn ds ∨ ∃ f fault, spec.Has f ∧ Refuses f fault ∧ e = .failed fault := by
  cases h with
  | @intro ds a w queue es p f hrounds hresolve hne =>
    obtain ⟨past, seen, rest, hvisited⟩ := hrounds.visited
    obtain ⟨past, seen, rest, hvisited⟩ := hvisited.next
    obtain ⟨hcalls, hanswered, hfound, herror⟩ := (asking_resolve hresolve).of_unfinished hne
    obtain ⟨levels, horder, hasked, hfinds⟩ := hvisited.exists_levels fieldDepth_topsOf hcalls hfound
    have hsame : askedIn ds = answeredIn ds := hvisited.asked.trans hvisited.answered.symm
    have hlength : (askedIn es).length ≤ 1 := hcalls.length_le.trans Option.length_toList_le
    refine ⟨levels, horder, hasked, hfinds, ?_, ?_, fun e hq => ?_⟩
    · rw [askedIn_append, answeredIn_append, hsame]
      exact (List.prefix_append_right_inj _).2 hanswered
    · rw [askedIn_append, answeredIn_append, hsame, List.length_append, List.length_append]
      omega
    · obtain ⟨e, hresult, heq⟩ := Program.error_of_bind hne hq
      cases heq
      refine (herror e hresult).imp (fun hdiffer hall => hdiffer ?_) fun ⟨fault, hfault, heq⟩ =>
        ⟨w.field, fault, hrounds.has w List.mem_cons_self, hfault, heq⟩
      rw [askedIn_append, answeredIn_append, hsame] at hall
      exact List.append_cancel_left hall

theorem extract_answered (h : Program.Path (extract root spec) ds p) :
    answeredIn ds <+: askedIn ds ∧ (askedIn ds).length ≤ (answeredIn ds).length + 1 := by
  rcases Worklist.extract_path h with ⟨a, hrounds, -⟩ | ⟨q, hamid, -⟩
  · obtain ⟨levels, -, hasked, hanswered, -⟩ := hrounds.exists_levels
    rw [hasked, hanswered]
    exact ⟨List.prefix_rfl, Nat.le_succ _⟩
  · obtain ⟨levels, -, -, -, hfirst, hlength, -⟩ := hamid.exists_levels
    exact ⟨hfirst, hlength⟩

theorem asked_in_turn (h : Program.Path (extract root spec) (before ++ d :: after) p) (hd : Deed.asked? d ≠ none) :
    askedIn before = answeredIn before := by
  obtain ⟨q, hbefore, hrest⟩ := h.split
  obtain ⟨r, hone, -⟩ := (List.singleton_append ▸ hrest : Program.Path q ([d] ++ after) p).split
  have hfirst := (extract_answered hbefore).1
  have hlength := (extract_answered (hbefore.append hone)).2
  have hcall : (askedIn [d]).length = 1 ∧ answeredIn [d] = [] := by
    unfold Deed.asked? at hd
    split at hd
    · exact ⟨rfl, rfl⟩
    · exact absurd rfl hd
  rw [askedIn_append, answeredIn_append, hcall.2, List.append_nil, List.length_append, hcall.1] at hlength
  have hle := hfirst.length_le
  exact (hfirst.eq_of_length (by omega)).symm

theorem target?_eq_none_iff {selector xpath : Option String} :
    target? selector xpath = none ↔ given selector = false ∧ given xpath = false := by
  rw [target?]
  split
  case isTrue hs =>
    have hsome : selector ≠ none := by
      rintro rfl
      cases hs
    simp [hs, hsome]
  case isFalse hs =>
    split
    case isTrue hx =>
      have hsome : xpath ≠ none := by
        rintro rfl
        cases hx
      simp [hx, hsome]
    case isFalse hx => simp [hs, hx]

/-- A visit goes without a call only if the field says nothing to look for, or if it has children and selects the
element itself. -/
theorem Visit.call?_eq_none_iff (v : Visit) : v.call? = none ↔
    v.field.isResolvable = false ∨ v.field.isStructural = true ∧ v.field.target? = none := by
  have htarget : v.field.target? = none ↔ given v.field.selector = false ∧ given v.field.xpath = false :=
    target?_eq_none_iff
  rw [Visit.call?, callOf]
  by_cases hr : v.field.isResolvable = true
  · rw [hr, Bool.not_true, if_neg Bool.false_ne_true]
    by_cases hs : v.field.isStructural = true
    · simp [hs]
    · by_cases hg : given v.field.regex = true
      · simp [hs, hg]
      · -- a leaf without a pattern has a target
        have hsome : v.field.target? ≠ none := by
          intro hnone
          obtain ⟨hselector, hxpath⟩ := htarget.1 hnone
          simp [FieldSpec.isResolvable, hs, hg, hselector, hxpath] at hr
        simp [hs, hg, hsome]
  · simp [hr]

end

/-- An extraction has come to `p` by the steps `ds`, and its visits are those of these levels. -/
structure InLevelOrder (root : Party) (spec : Spec) (ds : List (Deed scene)) (p : Program scene (List Json))
    (levels : Nat → List Visit) : Prop where
  order : LevelOrder (topsOf root spec) levels
  /-- There are no more levels than the specification has. -/
  empty : ∀ d, Spec.depth spec ≤ d → levels d = []
  /-- The calls that were made are the first ones of all calls, level by level. -/
  asked : askedIn ds <+: callsDue levels (Spec.depth spec)
  answered : answeredIn ds <+: askedIn ds
  /-- What the visits found is what was answered. -/
  found : foundIn ds <+: findsDue levels (Spec.depth spec)
  /-- Where the records are told, all calls were made and answered, the queue is empty, and the records are those of
  the arena. -/
  told : ∀ records, p = .done (.ok records) → askedIn ds = callsDue levels (Spec.depth spec) ∧
    answeredIn ds = askedIn ds ∧ foundIn ds = findsDue levels (Spec.depth spec) ∧
      ∃ a, Worklist.Rounds (.start root spec) ds ⟨a, []⟩ ∧ records = a.results
  /-- Nothing but a call that is not answered, or a field whose pattern is none, makes an extraction fail. -/
  failed : ∀ e, p = .done (.error e) →
    askedIn ds ≠ answeredIn ds ∨ ∃ f fault, spec.Has f ∧ Refuses f fault ∧ e = .failed fault

theorem exists_inLevelOrder {root : Party} {spec : Spec} {ds : List (Deed scene)} {p : Program scene (List Json)}
    (hpath : Program.Path (extract root spec) ds p) : ∃ levels, InLevelOrder root spec ds p levels := by
  rcases Worklist.extract_path hpath with ⟨a, hrounds, rfl⟩ | ⟨q, hamid, rfl⟩
  · obtain ⟨levels, horder, hasked, hanswered, hfound⟩ := hrounds.exists_levels
    have hsame : answeredIn ds = askedIn ds := hanswered.trans hasked.symm
    refine ⟨levels, horder, fun d => horder.empty fieldDepth_topsOf, hasked ▸ List.prefix_rfl,
      hsame ▸ List.prefix_rfl, hfound ▸ List.prefix_rfl, fun records hrecords => ?_, nofun⟩
    cases hrecords
    exact ⟨hasked, hsame, hfound, a, hrounds, rfl⟩
  · obtain ⟨levels, horder, hasked, hfound, hanswered, -, herror⟩ := hamid.exists_levels
    refine ⟨levels, horder, fun d => horder.empty fieldDepth_topsOf, hasked, hanswered, hfound, fun records hp => ?_,
      fun e hp => ?_⟩
    · obtain ⟨_, -, heq⟩ := Program.error_of_bind hamid.ne_done hp
      cases heq
    · obtain ⟨e, hq, heq⟩ := Program.error_of_bind hamid.ne_done hp
      cases heq
      exact herror e hq

/-- An extraction comes to an end, whatever the queries find. On the way it visits, level by level, the elements that
the visits above have found, in their order, and at each of them the fields below; each visit makes one call, unless
its field says nothing to look for or selects the element itself, and no call is made before all earlier ones have
been answered. The records are told if all calls are answered, unless a field is refused, and only then; and of a
specification that was read from a document no field is refused. -/
theorem extraction_in_level_order (root : Party) (spec : Spec) :
    (WellFounded fun t s => ∃ ds, Worklist.Round s ds t) ∧
      (∀ v : Visit, v.call? = none ↔
        v.field.isResolvable = false ∨ v.field.isStructural = true ∧ v.field.target? = none) ∧
      ∀ ds p, Program.Path (extract root spec) ds p →
        (∀ before d after, ds = before ++ d :: after → Deed.asked? d ≠ none → askedIn before = answeredIn before) ∧
          (∃ levels, InLevelOrder root spec ds p levels) ∧
            ∀ path v, Spec.read path v = .ok spec → ∀ e, p = .done (.error e) → askedIn ds ≠ answeredIn ds := by
  refine ⟨Worklist.wellFounded_round, Visit.call?_eq_none_iff, fun ds p hpath => ⟨?_, ?_, fun path v hread e hp => ?_⟩⟩
  · rintro before d after rfl hd
    exact asked_in_turn hpath hd
  · exact exists_inLevelOrder hpath
  · obtain ⟨levels, horder⟩ := exists_inLevelOrder hpath
    refine (horder.failed e hp).resolve_right ?_
    rintro ⟨f, fault, hf, hrefused, -⟩
    exact not_refuses_of_wellFormed ((Spec.wellFormed_of_read path v spec hread).of_has hf) hrefused

/-- Two items are found on a page, and then the name is read in either. -/
theorem extraction_in_level_order_items : ∃ ds records,
    Program.Path (extract (.page 0) namesOfItems) ds (.done (.ok records)) ∧
      ∃ levels, LevelOrder (topsOf (.page 0) namesOfItems) levels ∧ callsDue levels 2 = askedIn ds ∧
        askedIn ds = [(.page 0, .query "li"), (.element ⟨"left", {}⟩, .read "b" "textContent"),
          (.element ⟨"right", {}⟩, .read "b" "textContent")] := by
  have hplay : Program.play (I := scene) (promptly twins) (extract (.page 0) namesOfItems) =
      some [.obj [("items", .obj [("name", .str "a")])], .obj [("items", .obj [("name", .str "a")])]] := rfl
  have hpath := Program.path_of_play hplay
  obtain ⟨-, ⟨levels, h⟩, -⟩ := (extraction_in_level_order (.page 0) namesOfItems).2.2 _ _ hpath
  exact ⟨_, _, hpath, levels, h.order, (h.told _ rfl).1.symm, rfl⟩

end BrowserPlan.Run
