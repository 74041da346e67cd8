import BrowserPlan.Proofs.Run.Habits
import BrowserPlan.Proofs.Run.Interruption

/-!
# Two tasks that do the same

A task is served by the habits of a site if it meets nothing else: its calls end as they are wont to
(`Serves`). What it then does can be told by its account: the calls that it makes, each with what it looks
at, the records that it writes, and what it puts into the report. Two programs agree (`Agree`) if, served
by the same habits and setting out from the same address, they give the same account and end alike. A
program agrees with itself on another page, however much time its calls take there.
-/
namespace BrowserPlan

open BrowserPlan.Run BrowserPlan.Task BrowserPlan.Browser

/-! ## Accounts -/

/-- What a task does that can be told apart from the time that it takes and the page that it is on. -/
inductive Run.Mark where
  /-- It makes a call to what it looks at. -/
  | call (s : Sight) (op : Operation)
  | wrote (path : FilePath) (data : Json)
  | produced (path : FilePath)
  | failed (failure : BranchFailure)

/-- What is done in a step on a page at `here`. -/
def Run.Deed.mark? (here : String) : Deed scene → Option Mark
  | .ask (.begin who op) _ => (Sight.of? (fun _ => here) who op).map (.call · op)
  | .ask (.writeRecords path data) _ => some (.wrote path data)
  | .ask (.produced path) _ => some (.produced path)
  | .ask (.branchFailed failure) _ => some (.failed failure)
  | _ => none

/-- The end of a call to the browser. -/
def Run.Call.isEnd : Call → Bool
  | .complete .. => true
  | _ => false

/-- A question that leaves no mark and moves nothing. -/
structure Run.Call.IsIdle (q : Call) : Prop where
  isEnd : q.isEnd = false := by rfl
  mark? : ∀ here a, Deed.mark? here (.ask q a) = none := by exact fun _ _ => rfl

namespace Browser.Habits

variable (B : Habits)

/-- Where a page at `here` is after a step. -/
def after (here : String) : Deed scene → String
  | .ask (.complete (.page p) _ op) _ =>
    match Sight.of? (fun _ => here) (.page p) op with
    | some s => B.leads s op
    | none => here
  | _ => here

/-- Where a page is after several steps. -/
def walk (here : String) (ds : List (Deed scene)) : String := ds.foldl B.after here

/-- What is done in several steps on a page that is at `here` before them. -/
def account : (here : String) → List (Deed scene) → List Mark
  | _, [] => []
  | here, d :: ds => (Deed.mark? here d).toList ++ account (B.after here d) ds

/-- Where a call leads is told by the habits. -/
def Foresees (here : String) : Deed scene → Prop
  | .ask (.complete who landing op) _ => op.looksBack = false ∧
    ∀ s, Sight.of? (fun _ => here) who op = some s → landing = (B.course s op).landing
  | _ => True

/-- What is met in a step is what is wont to be met. -/
def Meets (here : String) : Deed scene → Prop
  | .ask (.begin who op) course => course.interrupts = false ∧
    ∀ s, Sight.of? (fun _ => here) who op = some s → Course.SameButForTime course (B.course s op)
  | .ask (.complete who _ op) a =>
    ∀ s, Sight.of? (fun _ => here) who op = some s → op.EndsAlike a (B.ending s op)
  | .ask (.urlOf _) a => a = here
  | .ask (.pool .acquire) a => ∀ fault, a ≠ .refused fault
  | .ask (.pool (.redeem _)) a => (∀ fault, a ≠ .refused fault) ∧ ∀ k, a ≠ .queue k
  | .ask (.pool .notCreated) _ => False
  | .ask (.pool (.release _)) a => a = none
  | .ask (.ensureParent _) a | .ask (.writeRecords _ _) a => a = none
  | .wake _ r => r = .ok ()
  | _ => True

/-- Only the end of a call moves a page. -/
theorem unmoved {q : Call} {a : q.Answer} (here : String) (hq : q.isEnd = false) :
    B.Foresees here (.ask q a) ∧ B.after here (.ask q a) = here := by
  cases q with
  | complete => cases hq
  | _ => exact ⟨trivial, rfl⟩

variable {B} {here : String} {d : Deed scene} {ds es : List (Deed scene)}

theorem walk_append : B.walk here (ds ++ es) = B.walk (B.walk here ds) es := List.foldl_append

theorem account_append : B.account here (ds ++ es) = B.account here ds ++ B.account (B.walk here ds) es := by
  induction ds generalizing here with
  | nil => rfl
  | cons d ds ih =>
    rw [List.cons_append, account, account, ih, List.append_assoc]
    rfl

end Browser.Habits

namespace Run

/-- Each step leads where the habits of the site say and meets what they say, as long as they say
anything. The state is the address of the page. -/
def Serves (B : Habits) : Rules scene String := fun here d there =>
  B.Foresees here d → there = B.after here d ∧ B.Meets here d

/-! ## Runs of programs -/

/-- The program goes by the steps `ds` to its end, served by habits. -/
structure Served (B : Habits) {α : Type} (u : String) (p : Program scene α) (ds : List (Deed scene))
    (r : Outcome Fault α) (v : String) : Prop where
  path : Program.Path p ds (.done r)
  along : Along (Serves B) u ds v

section
variable {B : Habits} {α β : Type} {u v : String} {p : Program scene α} {f : α → Program scene β}
  {ds : List (Deed scene)}

namespace Served

theorem done {r r' : Outcome Fault α} (h : Served B u (Program.done (I := scene) r') ds r v) : ds = [] ∧ r = r' ∧ v = u := by
  obtain ⟨rfl, heq⟩ := h.path.of_done
  cases heq
  exact ⟨rfl, rfl, h.along.of_nil⟩

theorem bind {r : Outcome Fault β} (h : Served B u (p >>= f) ds r v) :
    (∃ e, Served B u p ds (.error e) v ∧ r = .error e) ∨
      ∃ ds₁ ds₂ a x, ds = ds₁ ++ ds₂ ∧ Served B u p ds₁ (.ok a) x ∧ Served B x (f a) ds₂ r v := by
  rcases Program.Path.bind_end h.path with ⟨e, hpath, rfl⟩ | ⟨ds₁, ds₂, a, rfl, hpath, hrest⟩
  · exact .inl ⟨e, ⟨hpath, h.along⟩, rfl⟩
  · obtain ⟨x, hfirst, hlater⟩ := h.along.split
    exact .inr ⟨ds₁, ds₂, a, x, rfl, ⟨hpath, hfirst⟩, ⟨hrest, hlater⟩⟩

theorem attempt {f : Outcome Fault α → Program scene β} {r : Outcome Fault β}
    (h : Served B u (p.attempt >>= f) ds r v) :
    ∃ ds₁ ds₂ o x, ds = ds₁ ++ ds₂ ∧ Served B u p ds₁ o x ∧ Served B x (f o) ds₂ r v := by
  obtain ⟨ds₁, ds₂, o, rfl, hpath, hrest⟩ := Program.Path.attempt_end h.path
  obtain ⟨x, hfirst, hlater⟩ := h.along.split
  exact ⟨ds₁, ds₂, o, x, rfl, ⟨hpath, hfirst⟩, ⟨hrest, hlater⟩⟩

theorem ask {q : Call} {r : Outcome Fault q.Answer} (h : Served B u (Run.ask q) ds r v) :
    ∃ a, ds = [.ask q a] ∧ r = .ok a ∧ Serves B u (.ask q a) v := by
  obtain ⟨a, es, rfl, hend⟩ := Program.Path.of_call h.path
  obtain ⟨x, hd, hnil⟩ := h.along.head
  obtain ⟨rfl, heq⟩ := hend.of_done
  cases heq
  exact ⟨a, rfl, rfl, hnil.of_nil ▸ hd⟩

/-- A question that changes nothing. -/
theorem idle {q : Call} {r : Outcome Fault q.Answer} (h : Served B u (Run.ask q) ds r v) (hq : q.IsIdle) :
    (∃ a, r = .ok a) ∧ v = u ∧ B.walk u ds = u ∧ B.account u ds = [] := by
  obtain ⟨a, rfl, rfl, hd⟩ := h.ask
  obtain ⟨hforeseen, hafter⟩ := B.unmoved (a := a) u hq.isEnd
  obtain ⟨rfl, -⟩ := hd hforeseen
  refine ⟨⟨a, rfl⟩, hafter, hafter, ?_⟩
  change (Deed.mark? u (.ask q a)).toList ++ [] = []
  rw [hq.mark?]
  rfl

end Served

/-! ### Calls -/

section
variable {who : Party} {op : Operation} {s : Sight} {course : Course}

/-- Nothing comes of sitting a call out. -/
theorem served_sitOut {r : Outcome Fault Unit} (h : Served B u (sitOut who op course) ds r v) :
    r = .ok () ∧ v = u ∧ B.walk u ds = u ∧ B.account u ds = [] := by
  rw [sitOut.eq_def] at h
  split at h
  · obtain ⟨rfl, rfl, rfl⟩ := h.done
    exact ⟨rfl, rfl, rfl, rfl⟩
  · obtain ⟨ds₁, ds₂, o, x, rfl, hwait, hrest⟩ := h.attempt
    obtain rfl := wait_path hwait.path
    obtain ⟨y, hwake, hnil⟩ := hwait.along.head
    obtain ⟨rfl, rfl⟩ : y = u ∧ o = .ok () := hwake trivial
    obtain ⟨rfl, rfl, rfl⟩ := hrest.done
    obtain rfl := hnil.of_nil
    exact ⟨rfl, rfl, rfl, rfl⟩

/-- What comes of a call is told by the habits of the site, and by what it looks at. -/
theorem served_invoke (hs : Sight.of? (fun _ => u) who op = some s) {r : Outcome Fault op.Answer}
    (h : Served B u (invoke who op) ds r v) : B.account u ds = [.call s op] ∧ v = B.walk u ds ∧
      ((∃ fault, (B.course s op).fault = some fault ∧ r = .error (.failed (.call fault)) ∧ v = u) ∨
        (B.course s op).fault = none ∧ ∃ a, op.EndsAlike a (B.ending s op) ∧
          r = a.mapError (fun f => .failed (.call f)) ∧ (∀ p, who = .page p → v = B.leads s op) ∧
          ∀ e, who = .element e → v = u) := by
  obtain ⟨course, es, rfl, hproceed⟩ := Program.Path.of_call h.path
  obtain ⟨x, hbegin, halong⟩ := h.along.head
  obtain ⟨hx, hcalm, hcourse⟩ := hbegin trivial
  obtain rfl : u = x := hx.symm
  have hsame := hcourse s hs
  have hgoes : Served B u (proceed who op course) es r v := ⟨hproceed, halong⟩
  have hmark : ∀ ds, B.account u (.ask (.begin who op) course :: ds) = .call s op :: B.account u ds := by
    intro ds
    rw [Habits.account, Deed.mark?, hs]
    rfl
  rw [hmark]
  rcases hgoes.bind with ⟨e, hsit, rfl⟩ | ⟨ds₁, ds₂, a, x, rfl, hsit, hrest⟩
  · obtain ⟨heq, -⟩ := served_sitOut hsit
    cases heq
  obtain ⟨-, hx, hwalk, hnone⟩ := served_sitOut hsit
  obtain rfl : u = x := hx.symm
  rw [Habits.account_append, hwalk, hnone, List.nil_append]
  have hfirst : B.walk u (.ask (.begin who op) course :: (ds₁ ++ ds₂)) = B.walk u ds₂ := by
    change B.walk u (ds₁ ++ ds₂) = _
    rw [Habits.walk_append, hwalk]
  rw [hfirst]
  dsimp only at hrest
  rw [hcalm] at hrest
  have hrest : Served B u (do
      failIf (course.fault.map .call)
      settleFor .call (← ask (.complete who course.landing op))) ds₂ r v := hrest
  rw [← hsame.fault]
  cases hfault : course.fault with
  | some fault =>
    rw [hfault] at hrest
    obtain ⟨rfl, rfl, rfl⟩ := hrest.done
    exact ⟨rfl, rfl, .inl ⟨fault, rfl, rfl, rfl⟩⟩
  | none =>
    rw [hfault] at hrest
    obtain ⟨a, es, rfl, hsettle⟩ := ask_path hrest.path
    obtain ⟨y, hcomplete, halong⟩ := hrest.along.head
    have hlocal := (Sight.of_of? hs).isLocal
    obtain ⟨rfl, hends⟩ := hcomplete ⟨Operation.looksBack_of_isLocal hlocal, fun s' hs' => by
      cases hs.symm.trans hs'
      exact hsame.landing⟩
    have hend : es = [] ∧ r = a.mapError fun f => .failed (.call f) := by
      cases a with
      | ok a =>
        obtain ⟨rfl, heq⟩ := hsettle.of_done
        cases heq
        exact ⟨rfl, rfl⟩
      | error f =>
        obtain ⟨rfl, heq⟩ := hsettle.of_done
        cases heq
        exact ⟨rfl, rfl⟩
    obtain ⟨rfl, rfl⟩ := hend
    obtain rfl := halong.of_nil
    refine ⟨rfl, rfl, .inr ⟨rfl, a, hends s hs, rfl, ?_, ?_⟩⟩
    · rintro p rfl
      rw [Habits.after, hs]
    · rintro e rfl
      rfl

end

end

/-! ## Agreement -/

/-- Both end well, with values that `V` relates, or both fail in the same way. -/
def Matches {α β : Type} (V : α → β → Prop) : Outcome Fault α → Outcome Fault β → Prop
  | .ok a, .ok b => V a b
  | .error e, .error e' => e = e'
  | _, _ => False

/-- Served by the same habits, on pages at `u` and at `u'`, the programs give the same account. They end
alike, on pages at the same address if they end well. -/
def Agree {α β : Type} (B : Habits) (u u' : String) (V : α → β → Prop) (p : Program scene α)
    (p' : Program scene β) : Prop :=
  ∀ ds r v ds' r' v', Served B u p ds r v → Served B u' p' ds' r' v' →
    (v = B.walk u ds ∧ v' = B.walk u' ds') ∧ B.account u ds = B.account u' ds' ∧
      Matches (fun a a' => V a a' ∧ v = v') r r'

namespace Agree

section
variable {B : Habits} {α α' β β' : Type} {u u' : String} {V : α → α' → Prop} {U : β → β' → Prop}
  {p : Program scene α} {p' : Program scene α'} {f : α → Program scene β} {f' : α' → Program scene β'}

theorem pure {a : α} {a' : α'} (h : V a a') : Agree B u u V (pure a) (pure a') := by
  intro ds r v ds' r' v' hs hs'
  obtain ⟨rfl, rfl, rfl⟩ := hs.done
  obtain ⟨rfl, rfl, rfl⟩ := hs'.done
  exact ⟨⟨rfl, rfl⟩, rfl, h, rfl⟩

theorem error (e : Stop Fault) :
    Agree B u u' V (Program.ending (I := scene) (.error e)) (Program.ending (I := scene) (.error e)) := by
  intro ds r v ds' r' v' hs hs'
  obtain ⟨rfl, rfl, rfl⟩ := hs.done
  obtain ⟨rfl, rfl, rfl⟩ := hs'.done
  exact ⟨⟨rfl, rfl⟩, rfl, rfl⟩

theorem fail (fault : Fault) : Agree B u u' V (Run.fail fault) (Run.fail fault) := error (.failed fault)

theorem mono {V' : α → α' → Prop} (h : Agree B u u' V p p') (hV : ∀ a a', V a a' → V' a a') :
    Agree B u u' V' p p' := by
  intro ds r v ds' r' v' hs hs'
  obtain ⟨hwalk, haccount, hmatches⟩ := h ds r v ds' r' v' hs hs'
  refine ⟨hwalk, haccount, ?_⟩
  match r, r' with
  | .ok a, .ok a' => exact ⟨hV a a' hmatches.1, hmatches.2⟩
  | .error e, .error e' => exact hmatches

theorem bind (hp : Agree B u u' V p p') (hf : ∀ v a a', V a a' → Agree B v v U (f a) (f' a')) :
    Agree B u u' U (p >>= f) (p' >>= f') := by
  intro ds r v ds' r' v' hs hs'
  rcases hs.bind with ⟨e, hfirst, rfl⟩ | ⟨ds₁, ds₂, a, x, rfl, hfirst, hrest⟩ <;>
    rcases hs'.bind with ⟨e', hfirst', rfl⟩ | ⟨ds₁', ds₂', a', x', rfl, hfirst', hrest'⟩ <;>
    obtain ⟨⟨hwalk, hwalk'⟩, haccount, hmatches⟩ := hp _ _ _ _ _ _ hfirst hfirst'
  · exact ⟨⟨hwalk, hwalk'⟩, haccount, hmatches⟩
  · exact hmatches.elim
  · exact hmatches.elim
  · obtain ⟨hV, rfl⟩ := hmatches
    obtain ⟨⟨hrest, hrest'⟩, hlater, hends⟩ := hf x a a' hV _ _ _ _ _ _ hrest hrest'
    rw [Habits.walk_append, Habits.walk_append, Habits.account_append, Habits.account_append, ← hwalk,
      ← hwalk', haccount, hlater]
    exact ⟨⟨hrest, hrest'⟩, rfl, hends⟩

theorem map {f : α → β} {f' : α' → β'} (hp : Agree B u u' V p p') (hf : ∀ a a', V a a' → U (f a) (f' a')) :
    Agree B u u' U (f <$> p) (f' <$> p') := hp.bind fun _ a a' h => .pure (hf a a' h)

/-- Programs whose ends are looked at. -/
theorem attempt {f : Outcome Fault α → Program scene β} {f' : Outcome Fault α' → Program scene β'}
    (hp : Agree B u u' V p p') (hok : ∀ v a a', V a a' → Agree B v v U (f (.ok a)) (f' (.ok a')))
    (herror : ∀ v v' e, Agree B v v' U (f (.error e)) (f' (.error e))) :
    Agree B u u' U (p.attempt >>= f) (p'.attempt >>= f') := by
  intro ds r v ds' r' v' hs hs'
  obtain ⟨ds₁, ds₂, o, x, rfl, hfirst, hrest⟩ := hs.attempt
  obtain ⟨ds₁', ds₂', o', x', rfl, hfirst', hrest'⟩ := hs'.attempt
  obtain ⟨⟨hwalk, hwalk'⟩, haccount, hmatches⟩ := hp _ _ _ _ _ _ hfirst hfirst'
  have hlater : Agree B x x' U (f o) (f' o') := by
    match o, o' with
    | .ok a, .ok a' => exact hmatches.2 ▸ hok x a a' hmatches.1
    | .error e, .error e' => exact (show e = e' from hmatches) ▸ herror x x' e
  obtain ⟨⟨hrest, hrest'⟩, hlater, hends⟩ := hlater _ _ _ _ _ _ hrest hrest'
  rw [Habits.walk_append, Habits.walk_append, Habits.account_append, Habits.account_append, ← hwalk,
    ← hwalk', haccount, hlater]
  exact ⟨⟨hrest, hrest'⟩, rfl, hends⟩

theorem settleFor {ε : Type} (toFault : ε → Fault) (r : Except ε α) :
    Agree B u u Eq (Run.settleFor toFault r) (Run.settleFor toFault r) := by
  cases r with
  | ok a => exact .pure rfl
  | error e => exact .fail _

theorem failIf (fault : Option Fault) : Agree B u u Eq (Run.failIf fault) (Run.failIf fault) := by
  cases fault with
  | none => exact .pure rfl
  | some fault => exact .fail fault

/-- The same question, or one about another page. -/
theorem ask {q k : Call} {V : q.Answer → k.Answer → Prop}
    (h : ∀ a a', B.Meets u (.ask q a) → B.Meets u (.ask k a') →
      Deed.mark? u (.ask q a) = Deed.mark? u (.ask k a') ∧ V a a')
    (hq : q.isEnd = false := by rfl) (hk : k.isEnd = false := by rfl) :
    Agree B u u V (Run.ask q) (Run.ask k) := by
  intro ds r v ds' r' v' hs hs'
  obtain ⟨a, rfl, rfl, hd⟩ := hs.ask
  obtain ⟨a', rfl, rfl, hd'⟩ := hs'.ask
  obtain ⟨hforeseen, hafter⟩ := B.unmoved (a := a) u hq
  obtain ⟨hforeseen', hafter'⟩ := B.unmoved (a := a') u hk
  obtain ⟨rfl, hmeets⟩ := hd hforeseen
  obtain ⟨rfl, hmeets'⟩ := hd' hforeseen'
  obtain ⟨hmark, hV⟩ := h a a' hmeets hmeets'
  refine ⟨⟨rfl, rfl⟩, ?_, hV, hafter.trans hafter'.symm⟩
  change (Deed.mark? u _).toList ++ [] = (Deed.mark? u _).toList ++ []
  rw [hmark]

/-- A question whose answer does not matter. -/
theorem tell {q : Call} (h : ∀ a a', Deed.mark? u (.ask q a) = Deed.mark? u (.ask q a'))
    (hq : q.isEnd = false := by rfl) : Agree B u u (fun _ _ => True) (Run.ask q) (Run.ask q) :=
  ask (fun a a' _ _ => ⟨h a a', trivial⟩) hq hq

theorem say (level : Log.Level) (speaker : Log.Speaker) (message : String) :
    Agree B u u (fun _ _ => True) (Run.say level speaker message) (Run.say level speaker message) :=
  tell (q := .log ⟨level, speaker, message⟩) fun _ _ => rfl

end

/-! ### Calls -/

section
variable {B : Habits} {u u' : String} {who who' : Party} {op : Operation} {s : Sight}

theorem matches_of_endsAlike {e a a' : Except CallFault op.Answer} (h : op.EndsAlike a e)
    (h' : op.EndsAlike a' e) {v v' : String} (hv : v = v') :
    Matches (fun b b' => op.Alike b b' ∧ v = v') (a.mapError fun f => Stop.failed (Fault.call f))
      (a'.mapError fun f => Stop.failed (Fault.call f)) := by
  match e, a, a' with
  | .ok b, .ok a, .ok a' =>
    refine ⟨?_, hv⟩
    cases op with
    | query => exact Eq.trans h (Eq.symm h')
    | _ => exact Eq.trans h (Eq.symm h')
  | .error f, .error g, .error g' =>
    obtain rfl : g = f := h
    obtain rfl : g' = g := h'
    rfl

/-- Two calls to pages that look at the same, or two to elements while their pages are at one address. -/
theorem invoke (hs : Sight.of? (fun _ => u) who op = some s) (hs' : Sight.of? (fun _ => u') who' op = some s)
    (hwho : (∃ p, who = .page p) ∧ (∃ p, who' = .page p) ∨ u = u' ∧ (∃ e, who = .element e) ∧ ∃ e, who' = .element e) :
    Agree B u u' op.Alike (Run.invoke who op) (Run.invoke who' op) := by
  intro ds r v ds' r' v' h h'
  obtain ⟨haccount, hwalk, hends⟩ := served_invoke hs h
  obtain ⟨haccount', hwalk', hends'⟩ := served_invoke hs' h'
  refine ⟨⟨hwalk, hwalk'⟩, haccount.trans haccount'.symm, ?_⟩
  rcases hends with ⟨fault, hfault, rfl, -⟩ | ⟨hnone, a, ha, rfl, hpage, helement⟩ <;>
    rcases hends' with ⟨fault', hfault', rfl, -⟩ | ⟨hnone', a', ha', rfl, hpage', helement'⟩
  · cases hfault.symm.trans hfault'
    rfl
  · cases hfault.symm.trans hnone'
  · cases hnone.symm.trans hfault'
  · refine matches_of_endsAlike ha ha' ?_
    rcases hwho with ⟨⟨p, hp⟩, p', hp'⟩ | ⟨rfl, ⟨e, he⟩, e', he'⟩
    · exact (hpage p hp).trans (hpage' p' hp').symm
    · exact (helement e he).trans (helement' e' he').symm

/-- Going to an address, from anywhere. -/
theorem goto (p p' : PageId) (url : String) (waitUntil : Option String) (timeout : Option Number) :
    Agree B u u' Eq (Run.invoke (.page p) (.goto url waitUntil timeout))
      (Run.invoke (.page p') (.goto url waitUntil timeout)) :=
  invoke (s := .nothing) rfl rfl (.inl ⟨⟨p, rfl⟩, p', rfl⟩)

/-- A call to parties that look the same. -/
theorem call (hwho : Party.Alike who who') (op : Operation) (hop : op.isLocal = true := by rfl)
    (hgoto : op.isGoto = false := by rfl) : Agree B u u op.Alike (Run.invoke who op) (Run.invoke who' op) := by
  cases hwho with
  | page p p' => exact invoke (Sight.of?_page u p hop hgoto) (Sight.of?_page u p' hop hgoto) (.inl ⟨⟨p, rfl⟩, p', rfl⟩)
  | @element e e' h =>
    refine invoke (Sight.of?_element u e hop) ?_ (.inr ⟨rfl, ⟨e, rfl⟩, e', rfl⟩)
    rw [h]
    exact Sight.of?_element u e' hop

end

end Agree

/-! ### Reading -/

section
variable {B : Habits} {u : String} {who who' : Party}

theorem alike_elements {es es' : List Element} (h : es.map (·.markup) = es'.map (·.markup)) :
    List.Forall₂ Party.Alike (es.map .element) (es'.map .element) := by
  induction es generalizing es' with
  | nil =>
    obtain rfl := List.map_eq_nil_iff.1 h.symm
    exact .nil
  | cons e es ih =>
    cases es' with
    | nil => cases h
    | cons e' es' =>
      obtain ⟨hfirst, hrest⟩ := List.cons.inj h
      exact .cons (.element hfirst) (ih hrest)

theorem agree_query (hwho : Party.Alike who who') (target : String) :
    Agree B u u (List.Forall₂ Party.Alike) (documents.query who target) (documents.query who' target) :=
  (Agree.call hwho (.query target)).map fun _ _ h => alike_elements h

theorem agree_readAll (hwho : Party.Alike who who') (target : Option String) (attributeName : String) :
    Agree B u u Eq (readAll who target attributeName) (readAll who' target attributeName) := by
  rw [readAll.eq_def, readAll.eq_def]
  split
  · exact .call hwho (.read _ attributeName)
  · exact .pure rfl

theorem agree_contentOf (hwho : Party.Alike who who') (source : String) :
    Agree B u u Eq (contentOf who source) (contentOf who' source) := by
  cases hwho with
  | page p p' =>
    change Agree B u u Eq (if source == "text" then invoke (.page p) (.evaluate .pageText) else invoke (.page p) .content)
      (if source == "text" then invoke (.page p') (.evaluate .pageText) else invoke (.page p') .content)
    split
    · exact .call (.page p p') (.evaluate .pageText)
    · exact .call (.page p p') .content
  | element h => exact .call (.element h) (.evaluate _)

theorem agree_leafValues (hwho : Party.Alike who who') (f : FieldSpec) :
    Agree B u u Eq (Extraction.leafValues documents who f) (Extraction.leafValues documents who' f) := by
  rw [Extraction.leafValues, Extraction.leafValues]
  split
  · refine (agree_contentOf hwho f.source).bind fun v content _ h => h ▸ ?_
    refine Agree.bind (V := Eq) ?_ fun v p _ h => h ▸ .pure rfl
    rw [Extraction.compile]
    split
    · exact .pure rfl
    · exact .fail _
  · split
    · exact agree_readAll hwho _ f.attributeName
    · exact .pure rfl

theorem agree_matchesOf (hwho : Party.Alike who who') (f : FieldSpec) :
    Agree B u u (List.Forall₂ Party.Alike) (Extraction.matchesOf documents who f)
      (Extraction.matchesOf documents who' f) := by
  rw [Extraction.matchesOf, Extraction.matchesOf]
  split
  · exact agree_query hwho _
  · exact .pure (.cons hwho .nil)

/-- Work on parties that look the same. -/
inductive WorkAlike : Extraction.Work Party → Extraction.Work Party → Prop where
  | intro {element element'} (h : Party.Alike element element') (key field place) :
    WorkAlike ⟨element, key, field, place⟩ ⟨element', key, field, place⟩

/-- What is done with elements that look the same leads to the same records and to work that looks the
same. -/
theorem alike_assignElements {w w' : Extraction.Work Party} (hw : WorkAlike w w') {es es' : List Party}
    (hes : List.Forall₂ Party.Alike es es') : ∀ (position : Nat) (a : Extraction.Arena),
    (Extraction.assignElements w position a es).1 = (Extraction.assignElements w' position a es').1 ∧
      List.Forall₂ WorkAlike (Extraction.assignElements w position a es).2
        (Extraction.assignElements w' position a es').2 := by
  obtain ⟨-, key, field, place⟩ := hw
  induction hes with
  | nil => exact fun _ _ => ⟨rfl, .nil⟩
  | @cons e e' es es' he hes ih =>
    intro position a
    obtain ⟨harena, hworks⟩ := ih (position + 1)
      (((a.placeFor place position).1.add.1.assign (a.placeFor place position).2 key
        (.record (a.placeFor place position).1.add.2)))
    refine ⟨harena, List.rel_append ?_ hworks⟩
    rw [List.forall₂_map_left_iff, List.forall₂_map_right_iff]
    exact List.forall₂_same.2 fun c _ => .intro he c.1 c.2 _

theorem alike_assignValues {w w' : Extraction.Work Party} (hw : WorkAlike w w') (vs : List Json) :
    ∀ (position : Nat) (a : Extraction.Arena),
      Extraction.assignValues w position a vs = Extraction.assignValues w' position a vs := by
  obtain ⟨-, key, field, place⟩ := hw
  induction vs with
  | nil => exact fun _ _ => rfl
  | cons v vs ih => exact fun position a => ih _ _

/-- The same records, and work that looks the same. -/
def ResolvedAlike (x x' : Extraction.Arena × List (Extraction.Work Party)) : Prop :=
  x.1 = x'.1 ∧ List.Forall₂ WorkAlike x.2 x'.2

theorem agree_resolve (a : Extraction.Arena) {w w' : Extraction.Work Party} (hw : WorkAlike w w') :
    Agree B u u ResolvedAlike (Extraction.resolve documents a w) (Extraction.resolve documents a w') := by
  have hvalues := alike_assignValues hw
  have helements := fun es es' (hes : List.Forall₂ Party.Alike es es') => alike_assignElements hw hes
  obtain ⟨hwho, key, field, place⟩ := hw
  rw [Extraction.resolve, Extraction.resolve]
  dsimp only
  split
  · exact Agree.bind (.say _ _ _) fun _ _ _ _ => .pure ⟨rfl, .nil⟩
  · split
    · exact (agree_matchesOf hwho field).bind fun _ es es' hes => .pure (helements es es' hes 0 a)
    · exact (agree_leafValues hwho field).bind fun _ vs _ h => h ▸ .pure ⟨hvalues vs 0 a, .nil⟩

theorem agree_resolveLevel {works works' : List (Extraction.Work Party)}
    (hw : List.Forall₂ WorkAlike works works') : ∀ (u : String) (a : Extraction.Arena),
    Agree B u u ResolvedAlike (Extraction.resolveLevel documents a works)
      (Extraction.resolveLevel documents a works') := by
  induction hw with
  | nil => exact fun _ _ => .pure ⟨rfl, .nil⟩
  | cons hfirst _ ih =>
    intro u a
    rw [Extraction.resolveLevel, Extraction.resolveLevel]
    refine (agree_resolve a hfirst).bind fun v x x' hx => ?_
    obtain ⟨harena, hbelow⟩ := hx
    dsimp only
    rw [harena]
    refine (ih v x'.1).bind fun v y y' hy => ?_
    exact .pure ⟨hy.1, List.rel_append hbelow hy.2⟩

theorem agree_resolveLevels (levels : Nat) : ∀ {works works' : List (Extraction.Work Party)},
    List.Forall₂ WorkAlike works works' → ∀ (u : String) (a : Extraction.Arena),
    Agree B u u Eq (Extraction.resolveLevels documents levels a works)
      (Extraction.resolveLevels documents levels a works') := by
  induction levels with
  | zero => exact fun _ _ a => .pure rfl
  | succ n ih =>
    intro works works' hw u a
    rw [Extraction.resolveLevels, Extraction.resolveLevels]
    refine (agree_resolveLevel hw u a).bind fun v x x' hx => ?_
    obtain ⟨harena, hbelow⟩ := hx
    dsimp only
    rw [harena]
    exact ih hbelow v x'.1

/-- The same records are extracted from parties that look the same. -/
theorem agree_extract (hwho : Party.Alike who who') (spec : Spec) :
    Agree B u u Eq (extract who spec) (extract who' spec) := by
  rw [extract, extract, Extraction.extract, Extraction.extract]
  refine Agree.bind (agree_resolveLevels _ ?_ u _) fun _ a _ h => h ▸ .pure rfl
  rw [List.forall₂_map_left_iff, List.forall₂_map_right_iff]
  exact List.forall₂_same.2 fun c _ => .intro hwho c.1 c.2 none

end

/-! ### Waiting -/

section
variable {B : Habits} {u : String} (p p' : PageId)

/-- A call on a page. -/
theorem agree_onPage (op : Operation) (hop : op.isLocal = true := by rfl) (hgoto : op.isGoto = false := by rfl) :
    Agree B u u op.Alike (invoke (.page p) op) (invoke (.page p') op) := .call (.page p p') op hop hgoto

theorem agree_wait (on : Pause Signal) : Agree B u u Eq (wait on) (wait on) := by
  intro ds r v ds' r' v' h h'
  obtain rfl := wait_path h.path
  obtain rfl := wait_path h'.path
  obtain ⟨x, hwake, hnil⟩ := h.along.head
  obtain ⟨x', hwake', hnil'⟩ := h'.along.head
  obtain ⟨hx, rfl⟩ := hwake trivial
  obtain ⟨hx', rfl⟩ := hwake' trivial
  obtain rfl := hnil.of_nil
  obtain rfl := hnil'.of_nil
  exact ⟨⟨hx, hx'⟩, rfl, rfl, hx.trans hx'.symm⟩

theorem agree_passTime (millis : Option Number) : Agree B u u Eq (passTime millis) (passTime millis) := by
  cases millis with
  | none => exact .fail _
  | some millis =>
    rw [passTime]
    split
    · split <;> exact agree_wait _
    · exact .pure rfl

theorem agree_waitForHalf (half : Half) (c : WaitCondition) :
    Agree B u u Eq (waitForHalf p half c) (waitForHalf p' half c) := by
  rw [waitForHalf, waitForHalf]
  refine (Agree.settleFor _ _).bind fun _ matcher _ h => h ▸ ?_
  exact (agree_onPage p p' (.expect half matcher c.timeout)).bind fun _ _ _ _ =>
    agree_onPage p p' (.awaitHalf half)

theorem agree_waitFor (c : WaitCondition) : Agree B u u Eq (waitFor p c) (waitFor p' c) := by
  have hload : ∀ (u : String) (state : String), Agree B u u Eq
      (if loadStates.contains state then invoke (.page p) (.waitForLoadState state c.timeout) else pure ())
      (if loadStates.contains state then invoke (.page p') (.waitForLoadState state c.timeout) else pure ()) := by
    intro u state
    split
    · exact agree_onPage p p' (.waitForLoadState state c.timeout)
    · exact .pure rfl
  have hvalue : ∀ {q q' : Program scene String}, Agree B u u Eq q q' →
      Agree B u u Eq (do return some (← q)) (do return some (← q')) :=
    fun h => h.bind fun _ _ _ heq => .pure (congrArg some heq)
  rw [waitFor.eq_def, waitFor.eq_def]
  split
  · refine Agree.bind (V := Eq) ?_ fun _ _ _ _ => .pure rfl
    rw [waitForNavigation, waitForNavigation]
    exact (agree_onPage p p' (.waitForEvent _ _ _)).bind fun v _ _ _ => hload v _
  · exact (agree_onPage p p' (.waitForLoadState _ _)).bind fun _ _ _ _ => .pure rfl
  · exact hvalue (agree_onPage p p' (.waitForSelector _ _ _))
  · exact hvalue (agree_onPage p p' (.waitForSelector _ _ _))
  · refine (agree_onPage p p' (.waitForTimeout _)).bind fun _ _ _ _ => ?_
    exact (agree_passTime c.timeout).bind fun _ _ _ _ => .pure rfl
  · exact hvalue (agree_waitForHalf p p' .request c)
  · exact hvalue (agree_waitForHalf p p' .response c)
  · exact hvalue (agree_onPage p p' (.waitForFunction _ _ _ _))

end
end Run
end BrowserPlan
