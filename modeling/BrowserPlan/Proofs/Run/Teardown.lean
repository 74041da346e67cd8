import BrowserPlan.Proofs.Plan.Nesting
import BrowserPlan.Proofs.Run.Interruption
import BrowserPlan.Proofs.Task.Rehearsal
import BrowserPlan.Run.Scenario

/-!
# How an interrupted run ends

A run that is interrupted after its browser was launched closes the browser and stops what it was launched
with, wherever it is interrupted: while it starts up, in a step, while it waits for its branches. There is
one exception: a close can itself be interrupted. Then nothing else is closed, and if it was the close of
a page of the pool, the browser is left open (`ended_run_shuts_down`).
-/
namespace BrowserPlan.Run

open BrowserPlan.Task BrowserPlan.Browser

/-! ## Idle steps -/

/-- What the launcher brings about in some steps. -/
def openedIn (ds : List (Deed scene)) : List Resource := ds.filterMap Deed.opened?

/-- A step that neither sets the session nor starts anybody who closes it. -/
def Deed.IsSteady (d : Deed scene) : Prop := Deed.session? d = none ∧ ¬ Deed.IsRetiring d

/-- A steady step in which no browser is launched. -/
def Deed.IsIdle (d : Deed scene) : Prop := Deed.IsSteady d ∧ ∀ b, Deed.opened? d ≠ some (.browser b)

section
variable {s : Session} {ds es : List (Deed scene)} {b : BrowserId}

theorem sessionAfter_steady (hds : ∀ d ∈ ds, Deed.IsSteady d) : sessionAfter s ds = s := by
  induction ds using List.reverseRecOn with
  | nil => rfl
  | append_singleton ds d ih =>
    rw [sessionAfter_snoc, (hds d (by simp)).1]
    exact ih fun d hd => hds d (List.mem_append_left _ hd)

/-- After steady steps the session is as before. -/
theorem Honest.after_steady (h : Honest s (ds ++ es)) (hds : ∀ d ∈ ds, Deed.IsSteady d) : Honest s es := by
  have hright := h.right fun d hd => (hds d hd).2
  rwa [sessionAfter_steady hds] at hright

theorem Honest.after_idle (h : Honest s (ds ++ es)) (hds : ∀ d ∈ ds, Deed.IsIdle d) : Honest s es :=
  h.after_steady fun d hd => (hds d hd).1

theorem not_mem_openedIn_idle (hds : ∀ d ∈ ds, Deed.IsIdle d) : .browser b ∉ openedIn ds := by
  intro hin
  obtain ⟨d, hd, heq⟩ := List.mem_filterMap.1 hin
  exact (hds d hd).2 b heq

theorem mem_openedIn_append {resource : Resource} :
    resource ∈ openedIn (ds ++ es) ↔ resource ∈ openedIn ds ∨ resource ∈ openedIn es := by
  rw [openedIn, List.filterMap_append, List.mem_append]
  rfl

end

/-- No call but the launch of a browser launches one. -/
theorem idle_invoke {who : Party} {op : Operation}
    (h : who = .launcher → ∀ engine headless, op ≠ .launch engine headless) :
    Takes Deed.IsIdle (invoke who op) := by
  refine takes_invoke_of (fun d hd => ?_) fun d hd => ?_
  · cases hd <;> exact ⟨⟨rfl, id⟩, nofun⟩
  · cases hd with
    | «begin» | breakOff => exact ⟨⟨rfl, id⟩, nofun⟩
    | complete landing a =>
      refine ⟨⟨rfl, id⟩, fun b heq => ?_⟩
      cases who with
      | launcher =>
        cases op with
        | launch engine headless => exact h rfl engine headless rfl
        | start => cases a <;> simp [Deed.opened?] at heq
        | _ => simp [Deed.opened?] at heq
      | _ => simp [Deed.opened?] at heq

theorem Deed.IsPlain.isIdle {d : Deed scene} (h : Deed.IsPlain d) : Deed.IsIdle d := by
  cases d with
  | ask q a =>
    cases q with
    | complete who landing op =>
      refine ⟨⟨rfl, id⟩, fun b heq => ?_⟩
      cases who with
      | launcher => exact h.1
      | _ => cases heq
    | setSession => exact h.elim
    | _ => exact ⟨⟨rfl, id⟩, nofun⟩
  | start job u =>
    cases job with
    | wait | click => exact ⟨⟨rfl, id⟩, nofun⟩
    | _ => exact h.elim
  | _ => exact ⟨⟨rfl, id⟩, nofun⟩

theorem IsBeginning.isIdle {d : Deed scene} (h : IsBeginning d) : Deed.IsIdle d := by
  cases h <;> exact ⟨⟨rfl, id⟩, nofun⟩

theorem idle_perform (plan : Plan) (page : PageId) : Takes Deed.IsIdle (perform plan page) :=
  takes_perform (fun _ => Deed.IsPlain.isIdle) (fun _ => IsBeginning.isIdle) plan page

theorem idle_closePages : Takes Deed.IsIdle closePages :=
  takes_closePages_of (fun _ _ => ⟨⟨rfl, id⟩, nofun⟩) (fun _ _ => ⟨⟨rfl, id⟩, nofun⟩) fun _ => idle_invoke nofun

theorem idle_newPage : Takes Deed.IsIdle Session.newPage :=
  takes_newPage_of (fun _ => ⟨⟨rfl, id⟩, nofun⟩) (idle_invoke nofun) fun _ _ _ => idle_invoke nofun

theorem idle_applyTimeouts : Takes Deed.IsIdle (Session.applyTimeouts .context) :=
  takes_applyTimeouts_of (fun _ => ⟨⟨rfl, id⟩, nofun⟩) fun _ _ => idle_invoke nofun

/-- Only a launch that ends well has launched a browser, and it ends with it. -/
theorem launch_path {engine : String} {headless : Bool} {ds : List (Deed scene)} {b : BrowserId}
    {r : Outcome Fault BrowserId} (h : Program.Path (invoke .launcher (.launch engine headless)) ds (.done r))
    (hb : .browser b ∈ openedIn ds) : r = .ok b := by
  have hfault : ∀ (fault : Option Fault), Takes Deed.IsIdle (failIf fault) := .failIf
  obtain ⟨course, es, rfl, hproceed⟩ := ask_path h
  have hsit : Takes Deed.IsIdle (sitOut .launcher (.launch engine headless) course) :=
    takes_sitOut (fun d hd => by cases hd <;> exact ⟨⟨rfl, id⟩, nofun⟩) fun _ => ⟨⟨rfl, id⟩, nofun⟩
  replace hb : .browser b ∈ openedIn es := hb
  rcases Program.Path.bind_end hproceed with ⟨e, hsitOut, -⟩ | ⟨ds₁, ds₂, _, rfl, hsitOut, hrest⟩
  · exact absurd hb (not_mem_openedIn_idle (hsit.path hsitOut))
  · have hlast : .browser b ∈ openedIn ds₂ :=
      (mem_openedIn_append.1 hb).resolve_left (not_mem_openedIn_idle (hsit.path hsitOut))
    have hend : ∀ ds, Program.Path (failIf (course.fault.map .call) >>= fun _ => do
        settleFor .call (← ask (.complete .launcher course.landing (.launch engine headless)))) ds (.done r) →
        .browser b ∈ openedIn ds → r = .ok b := by
      intro ds hcomplete hin
      rcases Program.Path.bind_end hcomplete with ⟨e, hfail, -⟩ | ⟨fs₁, fs₂, _, rfl, hfail, hanswer⟩
      · exact absurd hin (not_mem_openedIn_idle ((hfault _).path hfail))
      · obtain ⟨a, fs, rfl, hsettle⟩ := ask_path hanswer
        have hmem := (mem_openedIn_append.1 hin).resolve_left
          (not_mem_openedIn_idle ((hfault _).path hfail))
        cases a with
        | error e =>
          obtain ⟨rfl, -⟩ := hsettle.of_done
          cases hmem
        | ok b' =>
          obtain ⟨rfl, heq⟩ := hsettle.of_done
          cases heq
          cases List.mem_singleton.1 hmem
          rfl
    cases hcourse : course.interrupts with
    | false =>
      rw [hcourse] at hrest
      exact hend ds₂ hrest hlast
    | true =>
      rw [hcourse] at hrest
      rcases Program.Path.bind_end hrest with ⟨e, hstop, -⟩ | ⟨_, _, _, -, hstop, -⟩
      · obtain ⟨rfl, -⟩ := hstop.of_done
        cases hlast
      · obtain ⟨-, heq⟩ := hstop.of_done
        cases heq

/-! ## The session -/

section
variable {α : Type} {s : Session} {ds : List (Deed scene)} {r : Outcome Fault α}

/-- Who reads the session goes on with the session as it was set last. -/
theorem current_path {f : Session → Program scene α}
    (h : Program.Path (Session.current >>= f) ds (.done r)) (hs : Honest s ds) :
    ∃ es, ds = .ask .session s :: es ∧ Program.Path (f s) es (.done r) ∧ Honest s es := by
  obtain ⟨s', es, rfl, hrest⟩ := ask_path (q := .session) h
  obtain rfl : s' = s := hs [] s' es rfl fun d hd => absurd hd List.not_mem_nil
  exact ⟨es, rfl, hrest, hs.tail id⟩

/-- Who changes the session goes on with the session changed. -/
theorem update_path {g : Session → Session} {f : Unit → Program scene α}
    (h : Program.Path (Session.update g >>= f) ds (.done r)) (hs : Honest s ds) :
    ∃ es, ds = .ask .session s :: .ask (.setSession (g s)) () :: es ∧
      Program.Path (f ()) es (.done r) ∧ Honest (g s) es := by
  have hassoc : (Session.update g >>= f) = (Session.current >>= fun s => ask (.setSession (g s)) >>= f) :=
    bind_assoc ..
  rw [hassoc] at h
  obtain ⟨es, rfl, hset, hs⟩ := current_path h hs
  obtain ⟨_, es, rfl, hrest⟩ := ask_path hset
  exact ⟨es, rfl, hrest, hs.tail id⟩

end

/-- What was launched is attempted to be closed, or the close of the browser is cut off. -/
def ShutsDown (b : BrowserId) (ds : List (Deed scene)) : Prop :=
  (.browser b ∈ attemptedIn ds ∧ .launcher ∈ attemptedIn ds) ∨ CutOff ds (.browser b)

theorem ShutsDown.append {b : BrowserId} {ds : List (Deed scene)} (h : ShutsDown b ds)
    (es : List (Deed scene)) : ShutsDown b (es ++ ds) := by
  rcases h with ⟨hbrowser, hlauncher⟩ | hcut
  · exact .inl ⟨mem_attemptedIn_append.2 (.inr hbrowser), mem_attemptedIn_append.2 (.inr hlauncher)⟩
  · exact .inr (hcut.append es)

theorem ShutsDown.more {b : BrowserId} {ds es : List (Deed scene)} (h : ShutsDown b ds)
    (hes : ∀ d ∈ es, ¬ Deed.IsBegin d) : ShutsDown b (ds ++ es) := by
  rcases h with ⟨hbrowser, hlauncher⟩ | hcut
  · exact .inl ⟨mem_attemptedIn_append.2 (.inl hbrowser), mem_attemptedIn_append.2 (.inl hlauncher)⟩
  · exact .inr (hcut.more hes)

/-- Shutting down closes the browser first and then stops what it was launched with. -/
theorem shutDown_path {s : Session} {b : BrowserId} {ds : List (Deed scene)} {r : Outcome Fault Unit}
    (h : Program.Path Session.shutDown ds (.done r)) (hs : Honest s ds) (hb : s.browser = some b)
    (hlauncher : s.isLauncherStarted = true) : ShutsDown b ds := by
  obtain ⟨es, rfl, hclose, hs'⟩ := current_path h hs
  rw [hb] at hclose
  refine ShutsDown.append ?_ [_]
  rcases Program.Path.bind_end hclose with ⟨e, hfirst, rfl⟩ | ⟨ds₁, ds₂, u, rfl, hfirst, hrest⟩
  · obtain ⟨-, ⟨heq, -⟩ | ⟨-, hcut⟩⟩ := (closes_browser b).tolerating hfirst
    · cases heq
    · exact .inr hcut
  · have hbrowser := ((closes_browser b).tolerating hfirst).1
    have hidle : Takes Deed.IsIdle (invoke (.browser b) .close).tolerating :=
      Program.Avoids.tolerating (idle_invoke nofun) fun _ => trivial
    obtain ⟨es, rfl, hstop, -⟩ := current_path hrest (hs'.after_idle (hidle.path hfirst))
    rw [hlauncher] at hstop
    have hstopped : Resource.launcher ∈ attemptedIn es := by
      rcases Program.Path.bind_end hstop with ⟨e, hlast, -⟩ | ⟨ds₁, ds₂, u, rfl, hlast, -⟩
      · exact (closes_launcher.tolerating hlast).1
      · exact mem_attemptedIn_append.2 (.inl (closes_launcher.tolerating hlast).1)
    rw [← List.singleton_append]
    exact .inl ⟨mem_attemptedIn_append.2 (.inl hbrowser),
      mem_attemptedIn_append.2 (.inr (mem_attemptedIn_append.2 (.inr hstopped)))⟩

/-- A session that is not closed yet shuts down. -/
theorem close_path {s : Session} {b : BrowserId} {ds : List (Deed scene)} {r : Outcome Fault Unit}
    (h : Program.Path Session.close ds (.done r)) (hs : Honest s ds) (hopen : s.isClosed = false)
    (hb : s.browser = some b) (hlauncher : s.isLauncherStarted = true) : ShutsDown b ds := by
  obtain ⟨es, rfl, hclose, hs⟩ := current_path h hs
  rw [hopen] at hclose
  obtain ⟨es, rfl, hshut, hs⟩ := update_path hclose hs
  exact (shutDown_path hshut hs hb hlauncher).append [_, _, _]

/-! ## Starting up -/

/-- The session can close what was launched. -/
def Ready (s : Session) (opened : List Resource) : Prop :=
  s.isClosed = false ∧ ∀ b, .browser b ∈ opened → s.browser = some b ∧ s.isLauncherStarted = true

/-- However the program ends, the session can close what was launched before and in it. -/
def Safe {α : Type} (s : Session) (opened : List Resource) (p : Program scene α) : Prop :=
  ∀ ds r, Program.Path p ds (.done r) → Honest s ds → Ready (sessionAfter s ds) (opened ++ openedIn ds)

section
variable {α β : Type} {s : Session} {opened : List Resource} {ds es : List (Deed scene)}
  {p : Program scene α} {f : α → Program scene β}

theorem Ready.idle (h : Ready s opened) (hds : ∀ d ∈ ds, Deed.IsIdle d) :
    Ready (sessionAfter s ds) (opened ++ openedIn ds) := by
  rw [sessionAfter_steady fun d hd => (hds d hd).1]
  refine ⟨h.1, fun b hb => h.2 b ?_⟩
  exact (List.mem_append.1 hb).resolve_right (not_mem_openedIn_idle hds)

theorem Ready.more (h : Ready (sessionAfter s ds) (opened ++ openedIn ds)) (hes : ∀ d ∈ es, Deed.IsIdle d) :
    Ready (sessionAfter s (ds ++ es)) (opened ++ openedIn (ds ++ es)) := by
  have hmore := h.idle hes
  rwa [← sessionAfter_append, List.append_assoc, openedIn, openedIn, ← List.filterMap_append] at hmore

namespace Safe

theorem of_idle (hs : Ready s opened) (hp : Takes Deed.IsIdle p) : Safe s opened p :=
  fun _ _ h _ => hs.idle (hp.path h)

theorem before_idle (hp : Safe s opened p) (hf : ∀ a, Takes Deed.IsIdle (f a)) :
    Safe s opened (p >>= f) := by
  intro ds r h hs
  rcases Program.Path.bind_end h with ⟨e, hfirst, -⟩ | ⟨ds₁, ds₂, a, rfl, hfirst, hrest⟩
  · exact hp ds _ hfirst hs
  · exact (hp ds₁ _ hfirst hs.left).more ((hf a).path hrest)

theorem after_idle (hs : Ready s opened) (hp : Takes Deed.IsIdle p) (hf : ∀ a, Safe s opened (f a)) :
    Safe s opened (p >>= f) := by
  intro ds r h hh
  rcases Program.Path.bind_end h with ⟨e, hfirst, -⟩ | ⟨ds₁, ds₂, a, rfl, hfirst, hrest⟩
  · exact hs.idle (hp.path hfirst)
  · have hidle := hp.path hfirst
    obtain ⟨hopen, hlaunched⟩ := hf a ds₂ r hrest (hh.after_idle hidle)
    rw [sessionAfter_append, sessionAfter_steady fun d hd => (hidle d hd).1]
    refine ⟨hopen, fun b hb => hlaunched b ?_⟩
    rcases List.mem_append.1 hb with hb | hb
    · exact List.mem_append_left _ hb
    · exact List.mem_append_right _ ((mem_openedIn_append.1 hb).resolve_left (not_mem_openedIn_idle hidle))

theorem current {f : Session → Program scene β} (hf : Safe s opened (f s)) :
    Safe s opened (Session.current >>= f) := by
  intro ds r h hh
  obtain ⟨es, rfl, hrest, hh⟩ := current_path h hh
  exact hf es r hrest hh

theorem update {g : Session → Session} {f : Unit → Program scene β} (hf : Safe (g s) opened (f ())) :
    Safe s opened (Session.update g >>= f) := by
  intro ds r h hh
  obtain ⟨es, rfl, hrest, hh⟩ := update_path h hh
  exact hf es r hrest hh

theorem launch {engine : String} {headless : Bool} {f : BrowserId → Program scene β} (hs : Ready s [])
    (hf : ∀ b, Safe s [.browser b] (f b)) : Safe s [] (invoke .launcher (.launch engine headless) >>= f) := by
  have hsteady : Takes Deed.IsSteady (invoke .launcher (.launch engine headless)) :=
    takes_invoke_of (fun d hd => by cases hd <;> exact ⟨rfl, id⟩) fun d hd => by cases hd <;> exact ⟨rfl, id⟩
  intro ds r h hh
  rcases Program.Path.bind_end h with ⟨e, hfirst, -⟩ | ⟨ds₁, ds₂, b, rfl, hfirst, hrest⟩
  · rw [sessionAfter_steady (hsteady.path hfirst)]
    exact ⟨hs.1, fun b hb => by cases launch_path hfirst hb⟩
  · have hpath := hsteady.path hfirst
    obtain ⟨hopen, hlaunched⟩ := hf b ds₂ r hrest (hh.after_steady hpath)
    rw [sessionAfter_append, sessionAfter_steady hpath]
    refine ⟨hopen, fun b' hb => hlaunched b' ?_⟩
    rcases mem_openedIn_append.1 hb with hb | hb
    · cases launch_path hfirst hb
      exact List.mem_cons_self
    · exact List.mem_append_right _ hb

end Safe

theorem safe_start (hopen : s.isClosed = false) : Safe s [] Session.start := by
  have hready : ∀ s : Session, s.isClosed = false → Ready s [] := fun s h => ⟨h, nofun⟩
  refine .current (.after_idle (hready s hopen) (.ask fun _ => ⟨⟨rfl, id⟩, nofun⟩) fun _ => ?_)
  refine .after_idle (hready s hopen) (idle_invoke nofun) fun _ => .update (.launch (hready _ hopen) fun b => ?_)
  refine .update (.after_idle ⟨hopen, fun b' hb => ?_⟩ (idle_invoke nofun) fun _ => .update ?_)
  · cases List.mem_singleton.1 hb
    exact ⟨rfl, rfl⟩
  · refine .of_idle ⟨hopen, fun b' hb => ?_⟩ idle_applyTimeouts
    cases List.mem_singleton.1 hb
    exact ⟨rfl, rfl⟩

/-- Whenever starting up ends, the session can close what was launched. -/
theorem safe_openUp (plan : Plan) (hopen : s.isClosed = false) : Safe s [] (openUp plan) := by
  refine (safe_start hopen).before_idle fun _ => Takes.bind idle_newPage fun page => ?_
  exact Takes.bind (.ask fun _ => ⟨⟨rfl, id⟩, nofun⟩) fun _ => Takes.bind (.failIf _) fun _ => .pure page

end

/-! ## Winding up -/

/-- Nothing was interrupted, and a task was started that closes the session later. -/
def Deferred (ds : List (Deed scene)) : Prop :=
  (∀ d ∈ ds, Deed.IsCalm d) ∧ ∃ later u, .start (.close later) u ∈ ds

section
variable {s : Session} {b : BrowserId} {ds : List (Deed scene)} {plan : Plan} {r : Outcome Fault Yield}

theorem silent_sayDone : Takes (fun d => ¬ Deed.IsBegin d) sayDone :=
  Takes.bind (.ask fun _ => id) fun _ => .ask fun _ => id

theorem calm_sayDone : Takes Deed.IsCalm sayDone :=
  Takes.bind (.ask fun _ => trivial) fun _ => .ask fun _ => trivial

/-- Closing the session and then beginning no more calls. -/
theorem close_then_path {f : Unit → Program scene Yield} (hf : ∀ u, Takes (fun d => ¬ Deed.IsBegin d) (f u))
    (h : Program.Path (Session.close >>= f) ds (.done r)) (hs : Honest s ds) (hopen : s.isClosed = false)
    (hb : s.browser = some b) (hlauncher : s.isLauncherStarted = true) : ShutsDown b ds := by
  rcases Program.Path.bind_end h with ⟨e, hclose, -⟩ | ⟨ds₁, ds₂, u, rfl, hclose, hrest⟩
  · exact close_path hclose hs hopen hb hlauncher
  · exact (close_path hclose hs.left hopen hb hlauncher).more ((hf u).path hrest)

/-- Who has put off the close only has something more to say. -/
theorem putOff_path {later : Deferral} {f : TaskId → Program scene Yield}
    (hf : ∀ u, Takes Deed.IsCalm (f u))
    (h : Program.Path (say .info .runner later.message >>= fun _ =>
      Program.fork (I := scene) (.close later) f) ds (.done r)) : Deferred ds := by
  obtain ⟨_, es, rfl, hstart⟩ := ask_path h
  obtain ⟨u, es, rfl, hrest⟩ := Program.Path.of_fork hstart
  refine ⟨calm_ask trivial fun d hd => ?_, later, u, by simp⟩
  rcases List.mem_cons.1 hd with rfl | hd
  · trivial
  · exact (hf u).path hrest d hd

/-- What is left of a run when its steps have ended with `o`. -/
theorem windUp_path {o : Outcome Fault Unit} (h : Program.Path (windUp plan o) ds (.done r))
    (hds : ∀ d ∈ ds, Deed.IsPunctual d) (hs : Honest s ds) (hopen : s.isClosed = false)
    (hb : s.browser = some b) (hlauncher : s.isLauncherStarted = true) :
    ShutsDown b ds ∨ (∃ p, CutOff ds (.page p)) ∨ (∃ u, o = .ok u) ∧ Deferred ds := by
  rcases Program.Path.bind_end h with ⟨e, hpages, rfl⟩ | ⟨ds₁, ds₂, u, rfl, hpages, hrest⟩
  · rcases closePages_path hpages with ⟨heq, -⟩ | ⟨-, hcut⟩
    · cases heq
    · exact .inr (.inl hcut)
  · have hs := hs.after_idle (idle_closePages.path hpages)
    match o with
    | .error e =>
      exact .inl ((close_then_path (fun _ => .ending _) hrest hs hopen hb hlauncher).append ds₁)
    | .ok u =>
      replace hrest : Program.Path (wrapUp plan) ds₂ (.done r) := hrest
      rw [wrapUp] at hrest
      cases hd : Deferral.of? plan.keepOpenAfter with
      | none =>
        rw [hd] at hrest
        refine .inl ((close_then_path (fun _ => ?_) hrest hs hopen hb hlauncher).append ds₁)
        exact Takes.bind silent_sayDone fun _ => .pure _
      | some later =>
        rw [hd] at hrest
        replace hrest : Program.Path (say .info .runner later.message >>= fun _ =>
          Program.fork (I := scene) (.close later) fun u => sayDone >>= fun _ =>
            pure (Yield.closing (some u))) ds₂ (.done r) := hrest
        obtain ⟨hlast, later, v, hstart⟩ := putOff_path (fun _ => Takes.bind calm_sayDone fun _ => .pure _) hrest
        rcases closePages_path hpages with ⟨-, hfirst⟩ | ⟨⟨_, heq⟩, -⟩
        · have hcalm := List.forall_mem_append.2 ⟨hfirst fun d hd => hds d (List.mem_append_left _ hd), hlast⟩
          exact .inr (.inr ⟨⟨u, rfl⟩, hcalm, later, v, List.mem_append_right _ hstart⟩)
        · cases heq

/-- After startup no browser is launched. -/
theorem unlaunched_proceedWith (plan : Plan) (o : Outcome Fault PageId) :
    Takes (fun d => ∀ b, Deed.opened? d ≠ some (.browser b)) (proceedWith plan o) := by
  have hidle : ∀ d, Deed.IsIdle d → ∀ b, Deed.opened? d ≠ some (.browser b) := fun _ => And.right
  have hbrowser : ∀ b, Takes Deed.IsIdle (invoke (.browser b) .close) := fun _ => idle_invoke nofun
  have hlauncher : Takes Deed.IsIdle (invoke .launcher .stop) := idle_invoke fun _ _ _ => nofun
  have hclose : Takes (fun d => ∀ b, Deed.opened? d ≠ some (.browser b)) Session.close :=
    takes_close_of (fun _ => nofun) (fun _ _ => nofun) (fun _ _ => nofun)
      (fun b => (hbrowser b).mono hidle) (hlauncher.mono hidle)
  have hgiveUp : ∀ e, Takes (fun d => ∀ b, Deed.opened? d ≠ some (.browser b)) (giveUp (α := Yield) e) :=
    fun e => hclose.bind fun _ => .ending _
  cases o with
  | error e => exact hgiveUp e
  | ok page =>
    refine Takes.attempt ((idle_perform plan page).mono hidle) fun o => ?_
    refine Takes.bind (idle_closePages.mono hidle) fun _ => ?_
    cases o with
    | error e => exact hgiveUp e
    | ok u =>
      exact takes_wrapUp_of hclose (fun _ => nofun) (fun _ _ => nofun) (fun _ _ => nofun) plan

/-- A run that has launched a browser shuts it down, leaves that to a later task, or is cut off while it
closes a page of the pool. -/
theorem automation_path {engine : String}
    (h : Program.Path (program (.automation plan engine)) ds (.done r)) (hds : ∀ d ∈ ds, Deed.IsPunctual d)
    (hs : Honest s ds) (hb : .browser b ∈ openedIn ds) :
    ShutsDown b ds ∨ (∃ p, CutOff ds (.page p)) ∨ Deferred ds := by
  rw [program_automation] at h
  cases hsession : Plan.session plan engine with
  | error fault =>
    rw [hsession] at h
    obtain ⟨rfl, -⟩ := h.of_done
    cases hb
  | ok s₀ =>
    rw [hsession] at h
    obtain ⟨_, es, rfl, hrun⟩ := ask_path h
    have hs₀ : Honest s₀ es := hs.tail id
    obtain ⟨ds₁, ds₂, o, rfl, hopenUp, hrest⟩ := Program.Path.attempt_end hrun
    have hretiring : ∀ d ∈ ds₁, ¬ Deed.IsRetiring d := (takes_openUp (fun d hd => by
      cases d with
      | start => exact hd.elim
      | _ => exact id) plan).path hopenUp
    have hlaunched : .browser b ∈ openedIn ds₁ := by
      refine (mem_openedIn_append.1 (show .browser b ∈ openedIn (ds₁ ++ ds₂) from hb)).resolve_right fun hin => ?_
      obtain ⟨d, hd, heq⟩ := List.mem_filterMap.1 hin
      exact (unlaunched_proceedWith plan o).path hrest d hd b heq
    obtain ⟨hopen, hready⟩ := safe_openUp plan (Plan.session_fresh hsession).1 ds₁ o hopenUp hs₀.left
    obtain ⟨hbrowser, hlauncher⟩ := hready b hlaunched
    have hs₁ := hs₀.right hretiring
    have hds₂ : ∀ d ∈ ds₂, Deed.IsPunctual d := fun d hd =>
      hds d (List.mem_cons_of_mem _ (List.mem_append_right _ hd))
    cases o with
    | error e =>
      exact .inl ((close_then_path (fun _ => .ending _) hrest hs₁ hopen hbrowser hlauncher).append (_ :: ds₁))
    | ok page =>
      obtain ⟨fs₁, fs₂, o, rfl, hperform, hwind⟩ := Program.Path.attempt_end hrest
      have hs₂ := hs₁.after_idle ((idle_perform plan page).path hperform)
      have hpunctual : ∀ d ∈ fs₂, Deed.IsPunctual d := fun d hd => hds₂ d (List.mem_append_right _ hd)
      rcases windUp_path hwind hpunctual hs₂ hopen hbrowser hlauncher with
        hshuts | ⟨p, hcut⟩ | ⟨⟨u, rfl⟩, hlast, later, v, hstart⟩
      · exact .inl ((hshuts.append fs₁).append (_ :: ds₁))
      · exact .inr (.inl ⟨p, (hcut.append fs₁).append (_ :: ds₁)⟩)
      · have hcalm := List.forall_mem_append.2 ⟨heeds_perform plan page fs₁ u hperform, hlast⟩
        have hearlier := List.forall_mem_append.2 ⟨heeds_openUp plan ds₁ page hopenUp, hcalm⟩
        refine .inr (.inr ⟨calm_ask trivial hearlier, later, v, ?_⟩)
        simp [hstart]

end

/-- A run that has launched a browser has in the end attempted to close it and to stop what it was launched
with, whoever was interrupted and wherever, or its own close of the browser or of a page was cut off; only
if the run itself was not interrupted may it have left the close to a later task. -/
theorem ended_run_shuts_down {W : Type} {m : Machine scene W} (P : Premises m) (w : W) (plan : Plan)
    (engine : String) (h : List (Event scene)) (c : Crew scene W)
    (hr : Crew.Reaches m IsOutside (Crew.single m w (.automation plan engine)) h c)
    (r : Outcome Fault Yield) (hended : c.result? 0 = some r) (b : BrowserId)
    (hb : .browser b ∈ openedIn (deedsOf h 0)) :
    (.browser b ∈ attemptedIn (deedsOf h 0) ∧ .launcher ∈ attemptedIn (deedsOf h 0)) ∨
      CutOff (deedsOf h 0) (.browser b) ∨ (∃ p, CutOff (deedsOf h 0) (.page p)) ∨ Deferred (deedsOf h 0) := by
  rcases hr.path_done hended with hnone | ⟨r', hpath⟩
  · rw [hnone] at hb
    cases hb
  · rw [P.program] at hpath
    have hpunctual : ∀ d ∈ deedsOf h 0, Deed.IsPunctual d := fun d hd =>
      punctual_of_reaches hr 0 d (mem_deedsOf.1 hd)
    exact or_assoc.1 (automation_path hpath hpunctual (honest_of_reaches P hr).1 hb)

/-- A plan that follows the links of its first page, as a document. -/
def linkDocument : Json :=
  .obj [("url", .str "http://a/"), ("steps", .arr [
    .obj [("action", .str "crawl"), ("selector", .str "a"), ("subSteps", .arr [
      .obj [("action", .str "click"), ("selector", .str "b")]])]])]

/-- A site with one link, where the user interrupts the close of the page that it is followed on. -/
def interruptedSite : Site :=
  { documents := [("http://a/", { children := [("a", [{ props := [("href", .str "http://a/1")] }])] })]
    rules := [{ on := "close", party := some "page2", course := { interrupts := true } }] }

/-- The close of the page is cut off, and neither the browser is closed nor the launcher stopped. -/
theorem ended_run_shuts_down_interrupted : ∃ plan h c r,
    Plan.ofJson {} none linkDocument = .ok plan ∧
    Crew.Reaches machine IsOutside (Crew.single machine (World.ofSite interruptedSite ⟨[]⟩)
      (.automation plan "chromium")) h c ∧ c.result? 0 = some r ∧
    .browser 0 ∈ openedIn (deedsOf h 0) ∧ attemptedIn (deedsOf h 0) = [.page 1] ∧
    ∃ p, CutOff (deedsOf h 0) (.page p) := by
  have hplay : (Plan.ofJson {} none linkDocument).toOption.any (fun plan =>
      (Crew.rehearse machine (List.replicate 32 0 ++ List.replicate 18 1 ++ List.replicate 5 0)
        (Crew.single machine (World.ofSite interruptedSite ⟨[]⟩) (.automation plan "chromium"))).any fun x =>
          (x.2.result? 0).isSome && decide (.browser 0 ∈ openedIn (deedsOf x.1 0)) &&
            decide (attemptedIn (deedsOf x.1 0) = [.page 1]) &&
            (deedsOf x.1 0).any fun d => decide (¬ Event.IsCalm (.act 0 d))) = true := by
    decide +kernel
  cases hok : Plan.ofJson {} none linkDocument with
  | error =>
    rw [hok] at hplay
    cases hplay
  | ok plan =>
  rw [hok] at hplay
  obtain ⟨_, ⟨⟩, hplay⟩ := (Option.any_eq_true _ _).1 hplay
  obtain ⟨⟨h, c⟩, hrun, hplay⟩ := (Option.any_eq_true _ _).1 hplay
  simp only [Bool.and_eq_true, List.any_eq_true, decide_eq_true_eq] at hplay
  obtain ⟨⟨⟨hended, hlaunched⟩, hattempted⟩, d, hd, hstruck⟩ := hplay
  obtain ⟨r, hended⟩ := Option.isSome_iff_exists.1 hended
  have hr : Crew.Reaches machine IsOutside (Crew.single machine (World.ofSite interruptedSite ⟨[]⟩)
      (.automation plan "chromium")) h c := Crew.reaches_of_rehearse .refl hrun
  refine ⟨plan, h, c, r, rfl, hr, hended, hlaunched, hattempted, ?_⟩
  have hbrowser : .browser 0 ∉ attemptedIn (deedsOf h 0) := by simp [hattempted]
  rcases ended_run_shuts_down World.premises (World.ofSite interruptedSite ⟨[]⟩) plan "chromium" h c hr r hended 0
    hlaunched with ⟨hclosed, -⟩ | hcut | hcut | ⟨hcalm, -⟩
  · exact absurd hclosed hbrowser
  · exact absurd hcut.mem_attemptedIn hbrowser
  · exact hcut
  · refine absurd ?_ hstruck
    have hd := hcalm d hd
    cases d with
    | ask => exact hd
    | _ => trivial

end BrowserPlan.Run
