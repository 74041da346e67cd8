import BrowserPlan.Proofs.Extraction.Forest
import BrowserPlan.Proofs.Run.Answers
import BrowserPlan.Proofs.Run.Discovery
import Mathlib.Data.Multiset.DershowitzManna

/-!
# The worklist of an extraction

Extraction works through a queue: a round takes the first piece of work, resolves it, and puts what follows from it
at the end (`Worklist.Round`). `extract` goes through the same rounds level by level (`drains_extract`), so wherever
it has come to, some rounds are over and it is in the middle of the next one, or the queue is empty and the records
are returned (`extract_path`).

However many elements a query finds, the queue runs out (`wellFounded_round`): what follows from a piece of work is
work on fields that are less deep. All that a round does to the arena it does by the arena's operations, so between
any two rounds, and in the end, the records are a forest (`records_form_forest`).
-/
namespace BrowserPlan

namespace Task.Program

variable {I : Interface} {α β : Type} {p : Program I α} {ds : List (Deed I)}

theorem Path.bind_cases {f : α → Program I β} {q : Program I β} (h : Path (p.bind f) ds q) :
    (∃ p', Path p ds p' ∧ (∀ a, p' ≠ .done (.ok a)) ∧ q = p'.bind f) ∨
      ∃ ds₁ ds₂ a, ds = ds₁ ++ ds₂ ∧ Path p ds₁ (.done (.ok a)) ∧ Path (f a) ds₂ q := by
  rcases h.bind with ⟨p', hp, rfl⟩ | h
  · by_cases hok : ∃ a, p' = .done (.ok a)
    · obtain ⟨a, rfl⟩ := hok
      exact .inr ⟨ds, [], a, (List.append_nil _).symm, hp, .nil _⟩
    · exact .inl ⟨p', hp, fun a ha => hok ⟨a, ha⟩, rfl⟩
  · exact .inr h

theorem error_of_bind {f : α → Program I β} {r : Outcome I.Fault β} (hp : ∀ a, p ≠ .done (.ok a))
    (h : p.bind f = .done r) : ∃ e, p = .done (.error e) ∧ r = .error e := by
  cases p with
  | done r =>
    cases r with
    | ok a => exact absurd rfl (hp a)
    | error e =>
      cases h
      exact ⟨e, rfl, rfl⟩
  | _ => cases h

end Task.Program

namespace Run

open BrowserPlan.Task BrowserPlan.Browser
open Extraction (Arena)

/-! ## Programs that call once -/

/-- How far a program has come that makes these calls, one at most, and in the end comes to what `ends` says, by what
was found: it is in the middle, it has failed because the call was not answered, it was answered and then refused with
one of these faults, or all is over. -/
inductive Asking {α : Type} (calls : List (Party × Operation)) (faults : Fault → Prop)
    (ends : List (List Party) → α → Prop) : List (Deed scene) → Program scene α → Prop where
  | midway {ds p} (hp : ∀ r, p ≠ .done r) (hasked : askedIn ds <+: calls) (hanswered : answeredIn ds = [])
    (hfound : foundIn ds = []) : Asking calls faults ends ds p
  | failed {ds e} (hcalls : calls ≠ []) (hasked : askedIn ds = calls) (hanswered : answeredIn ds = [])
    (hfound : foundIn ds = []) : Asking calls faults ends ds (.done (.error e))
  | refused {ds fault} (hfault : faults fault) (hasked : askedIn ds = calls) (hanswered : answeredIn ds = calls)
    (hfound : foundIn ds = []) : Asking calls faults ends ds (.done (.error (.failed fault)))
  | answered {ds a} (hasked : askedIn ds = calls) (hanswered : answeredIn ds = calls) (hends : ends (foundIn ds) a) :
    Asking calls faults ends ds (.done (.ok a))

section
variable {α β : Type} {calls : List (Party × Operation)} {faults : Fault → Prop}
  {ends : List (List Party) → α → Prop} {ends' : List (List Party) → β → Prop} {ds : List (Deed scene)}

theorem asking_invoke {who : Party} {op : Operation} {p : Program scene op.Answer}
    (h : Program.Path (invoke who op) ds p) :
    Asking [(who, op)] faults (fun found a => found = (Operation.found? op a).toList) ds p := by
  have hasks := invoke_asks h
  cases p with
  | done r =>
    cases r with
    | ok a =>
      obtain ⟨hasked, hanswered, hfound⟩ := hasks.of_answered
      exact .answered hasked hanswered hfound
    | error e =>
      obtain ⟨-, hanswered, hfound⟩ := hasks.of_unanswered nofun
      refine .failed (List.cons_ne_nil _ _) ?_ hanswered hfound
      cases hasks with
      | unanswered hes => exact congrArg (_ :: ·) (askedIn_wordless hes)
  | _ =>
    obtain ⟨hasked, hanswered, hfound⟩ := hasks.of_unanswered nofun
    exact .midway nofun hasked hanswered hfound

theorem asking_done {a : α} {p : Program scene α} (h : Program.Path (.done (.ok a)) ds p) (ha : ends [] a) :
    Asking [] faults ends ds p := by
  obtain ⟨rfl, rfl⟩ := h.of_done
  exact .answered rfl rfl ha

/-- A program that makes its calls and then ends at once, well or with one of these faults. -/
theorem Asking.bind {p : Program scene α} {f : α → Program scene β} {q : Program scene β}
    (hp : ∀ {es p'}, Program.Path p es p' → Asking calls faults ends es p') (h : Program.Path (p.bind f) ds q)
    (hf : ∀ found a, ends found a → (∃ b, f a = .done (.ok b) ∧ ends' found b) ∨
      found = [] ∧ ∃ fault, faults fault ∧ f a = .done (.error (.failed fault))) :
    Asking calls faults ends' ds q := by
  rcases h.bind_cases with ⟨p', hpath, hne, rfl⟩ | ⟨ds₁, ds₂, a, rfl, hpath, hrest⟩
  · cases hp hpath with
    | midway hmid hasked hanswered hfound =>
      refine .midway ?_ hasked hanswered hfound
      cases p' with
      | done r => exact absurd rfl (hmid r)
      | _ => nofun
    | failed hcalls hasked hanswered hfound => exact .failed hcalls hasked hanswered hfound
    | refused hfault hasked hanswered hfound => exact .refused hfault hasked hanswered hfound
    | answered => exact absurd rfl (hne _)
  · cases hp hpath with
    | midway hmid => exact absurd rfl (hmid _)
    | answered hasked hanswered hends =>
      rcases hf _ a hends with ⟨b, hb, hends'⟩ | ⟨hfound, fault, hfault, hb⟩
      · rw [hb] at hrest
        obtain ⟨rfl, rfl⟩ := hrest.of_done
        rw [List.append_nil]
        exact .answered hasked hanswered hends'
      · rw [hb] at hrest
        obtain ⟨rfl, rfl⟩ := hrest.of_done
        rw [List.append_nil]
        exact .refused hfault hasked hanswered hfound

end

/-! ## Resolving a field -/

/-- The call by which the content of a page or an element is had. -/
def contentOperation (who : Party) (source : String) : Operation :=
  match who with
  | .element _ => .evaluate (if source == "text" then .elementText else .elementHtml)
  | _ => if source == "text" then .evaluate .pageText else .content

/-- The call by which a field is resolved against an element: none if it says nothing to look for, or if it has
children and selects the element itself. -/
def callOf (who : Party) (f : FieldSpec) : Option (Party × Operation) :=
  if !f.isResolvable then none
  else if f.isStructural then f.target?.map fun target => (who, .query target)
  else if given f.regex then some (who, contentOperation who f.source)
  else f.target?.map fun target => (who, .read target f.attributeName)

/-- A field is refused with this fault: it is a leaf, and its pattern is none. -/
def Refuses (f : FieldSpec) (fault : Fault) : Prop :=
  Extraction.Document.isRefused f = true ∧ ∃ cause, fault = .pattern (f.regex.getD "") cause

/-- What resolving a piece of work comes to, by what was found: the arena, and the work that follows. -/
inductive Resolved (a : Arena) (w : Extraction.Work Party) :
    List (List Party) → Arena × List (Extraction.Work Party) → Prop where
  | skipped (hr : w.field.isResolvable = false) : Resolved a w [] (a, [])
  | selected {target} (es) (hs : w.field.isStructural = true) (ht : w.field.target? = some target) :
    Resolved a w [es] (Extraction.assignElements w 0 a es)
  | kept (hs : w.field.isStructural = true) (ht : w.field.target? = none) :
    Resolved a w [] (Extraction.assignElements w 0 a [w.element])
  | valued (vs) (hs : w.field.isStructural = false) : Resolved a w [] (Extraction.assignValues w 0 a vs, [])

section
variable {a b : Arena} {w w' : Extraction.Work Party} {below : List (Extraction.Work Party)}
  {found : List (List Party)} {who : Party} {f : FieldSpec} {faults : Fault → Prop} {ds : List (Deed scene)}

theorem asking_content {source : String} {p : Program scene (Option String)}
    (h : Program.Path (contentOf who source) ds p) :
    Asking [(who, contentOperation who source)] faults (fun found _ => found = []) ds p := by
  have hpage {p : Program scene (Option String)} (h : Program.Path
      (if source == "text" then invoke who (.evaluate .pageText) else invoke who .content) ds p) :
      Asking [(who, if source == "text" then .evaluate .pageText else .content)] faults (fun found _ => found = [])
        ds p := by
    split at h
    case isTrue ht =>
      rw [if_pos ht]
      exact asking_invoke h
    case isFalse ht =>
      rw [if_neg ht]
      exact asking_invoke h
  cases who with
  | element e => exact asking_invoke h
  | launcher | browser | context | page | document => exact hpage h

theorem asking_leafValues {p : Program scene (List Json)} (hr : f.isResolvable = true) (hs : f.isStructural = false)
    (h : Program.Path (Extraction.leafValues documents who f) ds p) :
    Asking (callOf who f).toList (Refuses f) (fun found _ => found = []) ds p := by
  rw [Extraction.leafValues] at h
  by_cases hg : given f.regex = true
  · have hcall : callOf who f = some (who, contentOperation who f.source) := by simp [callOf, hr, hs, hg]
    rw [if_pos hg] at h
    rw [hcall]
    refine Asking.bind asking_content h fun found content hfound => ?_
    rw [Extraction.compile]
    cases hp : Pattern.compile (f.regex.getD "") .caseless with
    | ok pattern => exact .inl ⟨_, rfl, hfound⟩
    | error cause =>
      have hrefused : Extraction.Document.isRefused f = true := by simp [Extraction.Document.isRefused, hr, hs, hg, hp]
      exact .inr ⟨hfound, _, ⟨hrefused, cause, rfl⟩, rfl⟩
  · have hcall : callOf who f = f.target?.map fun target => (who, .read target f.attributeName) := by
      simp [callOf, hr, hs, hg]
    rw [if_neg hg] at h
    rw [hcall]
    cases ht : f.target? with
    | some target =>
      have hread : documents.read who target f.attributeName = invoke who (.read target f.attributeName) := by
        have hfilter : (some target).filter (· != "") = some target := by
          rw [Option.filter_some, if_pos (by simpa using target?_ne_empty ht)]
        change readAll who (some target) f.attributeName = _
        rw [readAll, hfilter]
      rw [ht] at h
      replace h : Program.Path (documents.read who target f.attributeName) ds p := h
      rw [hread] at h
      exact asking_invoke h
    | none =>
      rw [ht] at h
      exact asking_done h rfl

/-- Resolving a field, at any point: the one call that may be due has been made and answered before anything else is
done. -/
theorem asking_resolve {p : Program scene (Arena × List (Extraction.Work Party))}
    (h : Program.Path (Extraction.resolve documents a w) ds p) :
    Asking (callOf w.element w.field).toList (Refuses w.field) (Resolved a w) ds p := by
  rw [Extraction.resolve] at h
  by_cases hr : w.field.isResolvable = true
  · rw [hr, Bool.not_true, if_neg Bool.false_ne_true] at h
    by_cases hs : w.field.isStructural = true
    · rw [if_pos hs, Extraction.matchesOf] at h
      cases ht : w.field.target? with
      | some target =>
        have hcall : callOf w.element w.field = some (w.element, .query target) := by simp [callOf, hr, hs, ht]
        rw [ht] at h
        rw [hcall]
        replace h : Program.Path (((invoke w.element (.query target)).bind fun es =>
          .done (.ok (es.map Party.element))).bind fun es => .done (.ok (Extraction.assignElements w 0 a es))) ds p := h
        rw [Program.bind_assoc] at h
        refine Asking.bind asking_invoke h fun found es hfound => .inl ⟨_, rfl, ?_⟩
        rw [hfound]
        exact .selected _ hs ht
      | none =>
        have hcall : callOf w.element w.field = none := by simp [callOf, hr, hs, ht]
        rw [ht] at h
        rw [hcall]
        exact asking_done h (.kept hs ht)
    · rw [if_neg hs] at h
      have hs : w.field.isStructural = false := Bool.not_eq_true _ ▸ hs
      refine Asking.bind (asking_leafValues hr hs) h fun found vs hfound => .inl ⟨_, rfl, ?_⟩
      rw [hfound]
      exact .valued vs hs
  · have hr : w.field.isResolvable = false := Bool.not_eq_true _ ▸ hr
    have hcall : callOf w.element w.field = none := by simp [callOf, hr]
    rw [hr, Bool.not_false, if_pos rfl] at h
    rw [hcall]
    -- it is said in the log that the field is skipped
    rcases Program.Path.call_cases (I := scene) h with ⟨rfl, rfl⟩ | ⟨_, es, rfl, hrest⟩
    · refine .midway (fun r hr => ?_) List.nil_prefix rfl rfl
      cases hr
    · obtain ⟨rfl, rfl⟩ := hrest.of_done
      exact .answered rfl rfl (.skipped hr)

theorem Resolved.children {r : Arena × List (Extraction.Work Party)} (h : Resolved a w found r) (hw : w' ∈ r.2) :
    ∃ c ∈ w.field.children, w'.field = c.2 := by
  cases h with
  | skipped | valued => cases hw
  | selected | kept => exact Extraction.Document.mem_assignElements hw

theorem resolved_of_path (h : Program.Path (Extraction.resolve documents a w) ds (.done (.ok (b, below)))) :
    Resolved a w (foundIn ds) (b, below) := by
  cases asking_resolve h with
  | midway hmid => exact absurd rfl (hmid _)
  | answered _ _ hends => exact hends

theorem fieldDepth_below (h : Program.Path (Extraction.resolve documents a w) ds (.done (.ok (b, below))))
    (hw : w' ∈ below) : Spec.fieldDepth w'.field < Spec.fieldDepth w.field := by
  obtain ⟨c, hc, hfield⟩ := (resolved_of_path h).children hw
  rw [Extraction.Document.fieldDepth_eq w.field, hfield]
  exact Nat.lt_succ_of_le (Extraction.Document.fieldDepth_le hc)

end

/-! ## Rounds -/

/-- The arena, and the work that is still to be done. -/
structure Worklist where
  arena : Arena
  queue : List (Extraction.Work Party)

namespace Worklist

/-- The worklist at the beginning of an extraction. -/
def start (root : Party) (spec : Spec) : Worklist := ⟨{}, Extraction.Document.works root spec⟩

/-- In a round the first piece of work is resolved, and what follows from it comes to the end of the queue. -/
inductive Round : Worklist → List (Deed scene) → Worklist → Prop where
  | take {a b w below queue ds} (h : Program.Path (Extraction.resolve documents a w) ds (.done (.ok (b, below)))) :
    Round ⟨a, w :: queue⟩ ds ⟨b, queue ++ below⟩

/-- Rounds, one after the other. -/
inductive Rounds (s : Worklist) : List (Deed scene) → Worklist → Prop where
  | refl : Rounds s [] s
  | snoc {ds es t u} (h : Rounds s ds t) (hu : Round t es u) : Rounds s (ds ++ es) u

/-- Some rounds are over, and the first piece of work that is left is being resolved; `p` is what is left of that and
of everything that comes after it. -/
inductive Amid (s : Worklist) : List (Deed scene) → Program scene Arena → Prop where
  | intro {ds a w queue es p f} (hs : Rounds s ds ⟨a, w :: queue⟩)
    (hp : Program.Path (Extraction.resolve documents a w) es p) (hne : ∀ r, p ≠ .done (.ok r)) :
    Amid s (ds ++ es) (p.bind f)

/-- The program works through the queue, one round after the other, and then hands out the arena. -/
inductive Drains : Worklist → Program scene Arena → Prop where
  | empty {a} : Drains ⟨a, []⟩ (.done (.ok a))
  | take {a w queue f} (h : ∀ ds b below, Program.Path (Extraction.resolve documents a w) ds (.done (.ok (b, below))) →
      Drains ⟨b, queue ++ below⟩ (f (b, below))) :
    Drains ⟨a, w :: queue⟩ ((Extraction.resolve documents a w).bind f)

section
variable {s t u : Worklist} {ds es : List (Deed scene)} {p : Program scene Arena}

theorem Rounds.cons (h : Round s ds t) (hu : Rounds t es u) : Rounds s (ds ++ es) u := by
  induction hu with
  | refl =>
    have h' := Rounds.refl.snoc h
    rwa [List.nil_append, ← List.append_nil ds] at h'
  | snoc _ hu ih => exact List.append_assoc .. ▸ ih.snoc hu

theorem Amid.cons (h : Round s ds t) (hp : Amid t es p) : Amid s (ds ++ es) p := by
  cases hp with
  | intro hs hp hne => exact List.append_assoc .. ▸ .intro (hs.cons h) hp hne

theorem Amid.ne_done (h : Amid s ds p) (a : Arena) : p ≠ .done (.ok a) := by
  cases h with
  | intro _ _ hne =>
    intro hdone
    obtain ⟨e, -, heq⟩ := Program.error_of_bind hne hdone
    cases heq

/-- Wherever a program is that works through the queue, it is in the middle of a round, or the queue is empty. -/
theorem Drains.path (hd : Drains s p) {q : Program scene Arena} (h : Program.Path p ds q) :
    (∃ a, Rounds s ds ⟨a, []⟩ ∧ q = .done (.ok a)) ∨ Amid s ds q := by
  induction hd generalizing ds with
  | @empty a =>
    obtain ⟨rfl, rfl⟩ := h.of_done
    exact .inl ⟨a, .refl, rfl⟩
  | take _ ih =>
    rcases h.bind_cases with ⟨p', hpath, hne, rfl⟩ | ⟨ds₁, ds₂, ⟨b, below⟩, rfl, hpath, hrest⟩
    · exact .inr (.intro .refl hpath hne)
    · rcases ih ds₁ b below hpath hrest with ⟨c, hrounds, rfl⟩ | hamid
      · exact .inl ⟨c, hrounds.cons (.take hpath), rfl⟩
      · exact .inr (hamid.cons (.take hpath))

/-- A program that works through the queue comes by every round. -/
theorem Drains.rounds (hd : Drains s p) (h : Rounds s ds t) : ∃ q, Program.Path p ds q ∧ Drains t q := by
  induction h with
  | refl => exact ⟨p, .nil p, hd⟩
  | snoc _ hu ih =>
    obtain ⟨q, hpath, hq⟩ := ih
    cases hu with
    | take hresolve =>
      cases hq with
      | take hf => exact ⟨_, hpath.append (hresolve.first _), hf _ _ _ hresolve⟩

end

/-! ## The queue runs out -/

/-- How deep the fields are that are still to be resolved. -/
def depths (s : Worklist) : Multiset Nat := (s.queue.map fun w => Spec.fieldDepth w.field : List Nat)

section
variable {s t : Worklist} {ds : List (Deed scene)}

/-- A round takes one field away, and all that it adds are less deep. -/
theorem Round.depths (h : Round s ds t) : Multiset.IsDershowitzMannaLT t.depths s.depths := by
  cases h with
  | @take a b w below queue ds hpath =>
    refine ⟨(queue.map fun w => Spec.fieldDepth w.field : List Nat),
      (below.map fun w => Spec.fieldDepth w.field : List Nat), {Spec.fieldDepth w.field},
      Multiset.singleton_ne_zero _, ?_, ?_, ?_⟩
    · simp [Worklist.depths]
    · rw [Worklist.depths, List.map_cons, ← Multiset.cons_coe, ← Multiset.singleton_add, add_comm]
    · intro depth hdepth
      obtain ⟨w', hw', rfl⟩ := List.mem_map.1 (Multiset.mem_coe.1 hdepth)
      exact ⟨_, Multiset.mem_singleton_self _, fieldDepth_below hpath hw'⟩

/-- There is no end to rounds in no worklist, whatever the queries find. -/
theorem wellFounded_round : WellFounded fun t s => ∃ ds, Round s ds t :=
  Subrelation.wf (fun ⟨_, h⟩ => h.depths) (InvImage.wf Worklist.depths Multiset.wellFounded_isDershowitzMannaLT)

end

/-! ## Level by level -/

/-- What is left of a level, and then of all levels below, `n` in number, when `next` has been noted for the next
one. -/
def sequel (n : Nat) (a : Arena) (rest next : List (Extraction.Work Party)) : Program scene Arena :=
  (Extraction.resolveLevel documents a rest).bind fun r => Extraction.resolveLevels documents n r.1 (next ++ r.2)

theorem sequel_cons (n : Nat) (a : Arena) (w : Extraction.Work Party) (rest next : List (Extraction.Work Party)) :
    sequel n a (w :: rest) next =
      (Extraction.resolve documents a w).bind fun r => sequel n r.1 rest (next ++ r.2) := by
  have hlevel : Extraction.resolveLevel documents a (w :: rest) =
      (Extraction.resolve documents a w).bind fun r =>
        (Extraction.resolveLevel documents r.1 rest).bind fun r' => .done (.ok (r'.1, r.2 ++ r'.2)) := rfl
  rw [sequel, hlevel, Program.bind_assoc]
  refine congrArg _ (funext fun r => ?_)
  rw [sequel, Program.bind_assoc]
  exact congrArg _ (funext fun r' => congrArg _ (List.append_assoc ..).symm)

theorem sequel_nil (n : Nat) (a : Arena) (next : List (Extraction.Work Party)) :
    sequel n a [] next = Extraction.resolveLevels documents n a next := by
  rw [sequel, Extraction.resolveLevel]
  exact congrArg _ (List.append_nil next)

theorem resolveLevels_nil (n : Nat) (a : Arena) : Extraction.resolveLevels documents n a [] = .done (.ok a) := by
  induction n with
  | zero => rfl
  | succ n ih => exact ih

/-- The queue is what is left of a level and what has been noted for the next one, both no deeper than what is left of
the levels. -/
structure Parted (n : Nat) (s : Worklist) (rest next : List (Extraction.Work Party)) : Prop where
  queue : s.queue = rest ++ next
  rest_le : ∀ w ∈ rest, Spec.fieldDepth w.field ≤ n + 1
  next_le : ∀ w ∈ next, Spec.fieldDepth w.field ≤ n

section
variable {n : Nat} {a b : Arena} {s : Worklist} {w : Extraction.Work Party}
  {rest next queue below : List (Extraction.Work Party)} {ds : List (Deed scene)}

/-- The next level begins when nothing is left of a level, unless the queue is empty. -/
theorem Parted.cases (h : Parted n s rest next) :
    (s.queue = [] ∧ sequel n s.arena rest next = .done (.ok s.arena)) ∨
      ∃ n' w rest' next', Parted n' s (w :: rest') next' ∧
        sequel n s.arena rest next = sequel n' s.arena (w :: rest') next' := by
  match rest, next, n with
  | w :: rest, next, n => exact .inr ⟨n, w, rest, next, h, rfl⟩
  | [], [], n => exact .inl ⟨h.queue, (sequel_nil n _ _).trans (resolveLevels_nil n _)⟩
  | [], w :: next, 0 =>
    have hw := h.next_le w List.mem_cons_self
    rw [Extraction.Document.fieldDepth_eq] at hw
    omega
  | [], w :: next, n + 1 =>
    exact .inr ⟨n, w, next, [], ⟨h.queue.trans (List.append_nil _).symm, h.next_le, nofun⟩, sequel_nil (n + 1) _ _⟩

/-- What follows from the first piece of work is noted for the next level. -/
theorem Parted.take (h : Parted n ⟨a, w :: queue⟩ (w :: rest) next)
    (hpath : Program.Path (Extraction.resolve documents a w) ds (.done (.ok (b, below)))) :
    Parted n ⟨b, queue ++ below⟩ rest (next ++ below) := by
  have hqueue : queue = rest ++ next := (List.cons.inj h.queue).2
  have hbelow : ∀ w' ∈ below, Spec.fieldDepth w'.field ≤ n := by
    intro w' hw'
    have hw := h.rest_le w List.mem_cons_self
    have hlt := fieldDepth_below hpath hw'
    omega
  refine ⟨?_, fun w' hw' => h.rest_le w' (List.mem_cons_of_mem _ hw'), List.forall_mem_append.2 ⟨h.next_le, hbelow⟩⟩
  rw [hqueue]
  exact List.append_assoc ..

/-- Level by level, the program works through the queue. -/
theorem Parted.drains (h : Parted n s rest next) : Drains s (sequel n s.arena rest next) := by
  induction s using wellFounded_round.induction generalizing n rest next with
  | _ s ih =>
    obtain ⟨a, queue⟩ := s
    rcases h.cases with ⟨hqueue, hdone⟩ | ⟨n', w, rest', next', h', hsame⟩
    · obtain rfl : queue = [] := hqueue
      rw [hdone]
      exact .empty
    · obtain rfl : queue = w :: (rest' ++ next') := h'.queue
      rw [hsame, sequel_cons]
      exact .take fun ds b below hpath => ih _ ⟨ds, .take hpath⟩ (h'.take hpath)

end

/-- Extraction works through the queue, beginning with the fields of the specification, and then tells the records of
the arena. -/
theorem drains_extract (root : Party) (spec : Spec) : ∃ p, Drains (start root spec) p ∧
    extract root spec = p.bind fun a => .done (.ok a.results) := by
  have hparted : Parted (Spec.depth spec) (start root spec) [] (start root spec).queue := by
    refine ⟨rfl, nofun, fun w hw => ?_⟩
    obtain ⟨c, hc, rfl⟩ := List.mem_map.1 hw
    exact Extraction.Document.fieldDepth_le hc
  have hdrains := hparted.drains
  rw [sequel_nil] at hdrains
  exact ⟨_, hdrains, rfl⟩

/-- Wherever an extraction is, some rounds are over and it is in the middle of the next one; or the queue is empty,
and the records of the arena are told. -/
theorem extract_path {root : Party} {spec : Spec} {ds : List (Deed scene)} {q : Program scene (List Json)}
    (h : Program.Path (extract root spec) ds q) :
    (∃ a, Rounds (start root spec) ds ⟨a, []⟩ ∧ q = .done (.ok a.results)) ∨
      ∃ p, Amid (start root spec) ds p ∧ q = p.bind fun a => .done (.ok a.results) := by
  obtain ⟨p, hdrains, hextract⟩ := drains_extract root spec
  rw [hextract] at h
  rcases h.bind_cases with ⟨p', hpath, hne, rfl⟩ | ⟨ds₁, ds₂, a, rfl, hpath, hrest⟩
  · rcases hdrains.path hpath with ⟨a, hrounds, rfl⟩ | hamid
    · exact absurd rfl (hne a)
    · exact .inr ⟨p', hamid, rfl⟩
  · obtain ⟨rfl, rfl⟩ := Program.Path.of_done (r := .ok a.results) hrest
    rw [List.append_nil]
    rcases hdrains.path hpath with ⟨b, hrounds, heq⟩ | hamid
    · cases heq
      exact .inl ⟨_, hrounds, rfl⟩
    · exact absurd rfl (hamid.ne_done a)

/-- Every round is one that the extraction comes by, and from there it works through what is left of the queue. -/
theorem extract_rounds {root : Party} {spec : Spec} {ds : List (Deed scene)} {s : Worklist}
    (h : Rounds (start root spec) ds s) : ∃ q, Drains s q ∧
      Program.Path (extract root spec) ds (q.bind fun a => .done (.ok a.results)) := by
  obtain ⟨p, hdrains, hextract⟩ := drains_extract root spec
  obtain ⟨q, hpath, hq⟩ := hdrains.rounds h
  exact ⟨q, hq, hextract ▸ hpath.first _⟩

/-! ## The arena between the rounds -/

section
variable {a : Arena} {s t : Worklist} {root : Party} {spec : Spec} {ds : List (Deed scene)}
  {log : List Extraction.Assignment}

/-- A round does to the arena what can be done to it, and the records are there that the work is for. -/
theorem Round.made (h : Round s ds t) (hs : s.arena.Made log) (hplaced : ∀ w ∈ s.queue, w.IsPlaced s.arena) :
    (∃ more, t.arena.Made (log ++ more)) ∧ ∀ w ∈ t.queue, w.IsPlaced t.arena := by
  cases h with
  | @take a b w below queue ds hpath =>
    have hw : w.IsPlaced a := hplaced w List.mem_cons_self
    have hqueue : ∀ {c : Arena}, a.records.size ≤ c.records.size → ∀ w' ∈ queue, w'.IsPlaced c :=
      fun hsize w' hw' => (hplaced w' (List.mem_cons_of_mem _ hw')).mono hsize
    have hselected : ∀ {es}, Extraction.assignElements w 0 a es = (b, below) →
        (∃ more, b.Made (log ++ more)) ∧ ∀ w ∈ queue ++ below, w.IsPlaced b := by
      intro es heq
      have hmade := Extraction.made_assignElements es 0 hw hs
      rw [heq] at hmade
      obtain ⟨hmore, hsize, hbelow⟩ := hmade
      exact ⟨hmore, List.forall_mem_append.2 ⟨hqueue hsize, hbelow⟩⟩
    obtain ⟨found, hresolved⟩ : ∃ found, Resolved a w found (b, below) := ⟨_, resolved_of_path hpath⟩
    generalize hr : (b, below) = r at hresolved
    cases hresolved with
    | skipped =>
      cases hr
      exact ⟨⟨[], (List.append_nil log).symm ▸ hs⟩, List.forall_mem_append.2 ⟨hqueue (Nat.le_refl _), nofun⟩⟩
    | selected | kept => exact hselected hr.symm
    | valued vs =>
      cases hr
      obtain ⟨hmore, hsize⟩ := Extraction.made_assignValues vs 0 hw hs
      exact ⟨hmore, List.forall_mem_append.2 ⟨hqueue hsize, nofun⟩⟩

theorem Rounds.made (h : Rounds (start root spec) ds s) :
    (∃ log, s.arena.Made log) ∧ ∀ w ∈ s.queue, w.IsPlaced s.arena := by
  induction h with
  | refl =>
    refine ⟨⟨[], .start⟩, fun w hw => ?_⟩
    obtain ⟨c, -, rfl⟩ := List.mem_map.1 hw
    exact nofun
  | snoc _ hu ih =>
    obtain ⟨⟨log, hmade⟩, hplaced⟩ := ih
    exact (hu.made hmade hplaced).imp_left fun ⟨more, h⟩ => ⟨_, h⟩

/-- Before every round that an extraction comes by and after the last one, the records are a forest: each is a root or
held by one record in front of it, once. What a record has under a key is the one value that was assigned there, or
the list of all values, in order, if there were several. So there is one way to put the records that a record holds
into it; it comes to an end, with the values that the arena tells, and from all roots together it comes by each record
once. -/
theorem records_form_forest (h : Rounds (start root spec) ds s) :
    (∃ q, Drains s q ∧ Program.Path (extract root spec) ds (q.bind fun a => .done (.ok a.results))) ∧
    s.arena.IsForest ∧ (∃ log, s.arena.Made log) ∧
    (∀ log, s.arena.Made log →
      ∀ (p : Nat) d, s.arena.records[p]? = some d → d.Holds (Extraction.assigned log p)) ∧
    ∃ visits : Nat → List Nat,
      (∀ p < s.arena.records.size, ∀ v vs, s.arena.Unfolds p v vs ↔ v = s.arena.final p ∧ vs = visits p) ∧
        s.arena.results = s.arena.roots.toList.map s.arena.final ∧
          (s.arena.roots.toList.flatMap visits).Perm (List.range s.arena.records.size) := by
  obtain ⟨⟨log, hmade⟩, -⟩ := h.made
  obtain ⟨visits, hunfolds, hperm⟩ := hmade.unfolds
  exact ⟨extract_rounds h, hmade.isForest, ⟨log, hmade⟩, fun _ hlog _ _ hd => hlog.holds hd, visits, hunfolds, rfl,
    hperm⟩

/-- Two items are found and the name in either is read: each is a record of its own, held by a root. -/
theorem records_form_forest_items : ∃ ds a, Rounds (start (.page 0) namesOfItems) ds ⟨a, []⟩ ∧ a.IsForest ∧
    a.roots = #[0, 2] ∧ a.references = [1, 3] ∧
    a.results = [.obj [("items", .obj [("name", .str "a")])], .obj [("items", .obj [("name", .str "a")])]] := by
  have hnext : ∀ {s ds a w queue b below}, Rounds s ds ⟨a, w :: queue⟩ →
      Program.play (I := scene) (promptly twins) (Extraction.resolve documents a w) = some (b, below) →
        ∃ ds, Rounds s ds ⟨b, queue ++ below⟩ := fun h hplay => ⟨_, h.snoc (.take (Program.path_of_play hplay))⟩
  obtain ⟨ds₁, h₁⟩ := hnext (.refl (s := start (.page 0) namesOfItems)) rfl
  obtain ⟨ds₂, h₂⟩ := hnext h₁ rfl
  obtain ⟨ds₃, h₃⟩ := hnext h₂ rfl
  exact ⟨ds₃, _, h₃, (records_form_forest h₃).2.1, rfl, rfl, rfl⟩

end
end Worklist
end Run
end BrowserPlan
