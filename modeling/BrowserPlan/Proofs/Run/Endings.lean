import BrowserPlan.Proofs.Run.Agenda
import BrowserPlan.Proofs.Run.Reunion

/-!
# How a run ends

What a run comes to is what its startup and its steps come to: closing the pool and the session never
fails (`exists_undertake`). A session that is kept open is closed when its time has come and not before
(`obeys_elapse`).
-/
namespace BrowserPlan.Run

open BrowserPlan.Task BrowserPlan.Browser

variable {plan : Plan} {engine : String} {α : Type}

/-! ## Closing never fails -/

/-- The task that was started last is kept in mind; nobody else is waited for or told anything. -/
def KeepsLast : Rules scene (Option TaskId)
  | s, .ask .., s' | s, .wake .., s' => s' = s
  | _, .start job u, s' => s' = some u ∧ ∃ d, job = .close d
  | _, _, _ => False

/-- The program starts no task, and ends well if nobody is told to give up or interrupted. -/
def Settles (p : Program scene Unit) : Prop :=
  ∀ s, p.Obeys Deed.IsCalm KeepsLast (fun s' r => s' = s ∧ r = .ok ()) s

theorem Settles.bind {Q : Option TaskId → Outcome Fault α → Prop} {p : Program scene Unit}
    {f : Unit → Program scene α} {s : Option TaskId} (hp : Settles p)
    (hf : (f ()).Obeys Deed.IsCalm KeepsLast Q s) : (p.bind f).Obeys Deed.IsCalm KeepsLast Q s := by
  refine Program.Obeys.bind ((hp s).weaken ?_)
  rintro s' r ⟨rfl, rfl⟩
  exact hf

theorem Settles.seq {p : Program scene Unit} {f : Unit → Program scene Unit} (hp : Settles p)
    (hf : Settles (f ())) : Settles (p.bind f) := fun s => hp.bind (hf s)

theorem settles_ask {q : Call} {f : q.Answer → Program scene Unit} (hf : ∀ a, Settles (f a)) :
    Settles ((ask q).bind f) := fun s a _ => ⟨s, rfl, hf a s⟩

theorem settles_say {level : Log.Level} {speaker : Log.Speaker} {message : String} :
    Settles (say level speaker message) := fun s _ _ => ⟨s, rfl, rfl, rfl⟩

theorem settles_tolerating {p : Program scene Unit}
    (hp : ∀ s, Stays Deed.IsCalm KeepsLast s (Anything Unit) p) :
    Settles (Program.tolerating (I := scene) p) := by
  intro s
  refine Program.Obeys.bind (Program.Obeys.attempt ((hp s).weaken ?_))
  rintro s' r ⟨rfl, hr, -⟩
  have hcalm : IsCalm r := hr fun _ hd => hd
  match r with
  | .ok () => exact ⟨rfl, rfl⟩
  | .error (.failed fault) => exact ⟨rfl, rfl⟩

theorem keepsLast_invoke (who : Party) (op : Operation) (s : Option TaskId) :
    Stays Deed.IsCalm KeepsLast s (Anything op.Answer) (invoke who op) := by
  refine Stays.invoke (fun d hd => ?_) fun d hd => ?_
  · cases hd <;> rfl
  · cases hd <;> rfl

theorem settles_each {β : Type} {f : β → Program scene Unit} (hf : ∀ x, Settles (f x)) (xs : List β) :
    Settles (Program.each (I := scene) f xs) := by
  induction xs with
  | nil => exact fun s => ⟨rfl, rfl⟩
  | cons x xs ih => exact (hf x).seq ih

theorem settles_closePages : Settles closePages := by
  refine settles_ask (q := .pool .shut) fun ps => Settles.seq ?_ (Settles.seq ?_ settles_say)
  · exact settles_each (fun p => settles_tolerating (keepsLast_invoke (.page p) .close)) ps
  · exact fun s _ _ => ⟨s, rfl, rfl, rfl⟩

theorem settles_update (f : Session → Session) : Settles (Session.update f) :=
  fun s _ _ => ⟨s, rfl, fun _ _ => ⟨s, rfl, rfl, rfl⟩⟩

/-- Closing the session never fails. -/
theorem settles_close : Settles Session.close := by
  have hend : Settles (do
      Session.update fun s => { s with browser := none, hasContext := false, isLauncherStarted := false }
      say .info .session "Browser session closed") := (settles_update _).seq settles_say
  have hstop : Settles (do
      if (← Session.current).isLauncherStarted then
        Program.tolerating (I := scene) (invoke .launcher .stop)
      Session.update fun s => { s with browser := none, hasContext := false, isLauncherStarted := false }
      say .info .session "Browser session closed") := by
    refine settles_ask (q := .session) fun s => ?_
    cases s.isLauncherStarted with
    | true => exact (settles_tolerating (keepsLast_invoke .launcher .stop)).seq hend
    | false => exact hend
  refine settles_ask (q := .session) fun s => ?_
  cases s.isClosed with
  | true => exact fun s => ⟨rfl, rfl⟩
  | false =>
    refine (settles_update _).seq (settles_ask (q := .session) fun s => ?_)
    cases s.browser with
    | some b => exact (settles_tolerating (keepsLast_invoke (.browser b) .close)).seq hstop
    | none => exact hstop

theorem settles_sayDone : Settles sayDone := settles_ask (q := .report) fun _ => settles_say

theorem obeys_giveUp {s : Option TaskId} (e : Stop Fault) :
    (giveUp (α := α) e).Obeys Deed.IsCalm KeepsLast (fun _ r => r = .error e) s :=
  settles_close.bind rfl

/-- A run whose steps have ended badly ends in the same way; if they have ended well, it results in the
task that closes the session later, if there is to be one. -/
theorem obeys_windUp (o : Outcome Fault Unit) :
    (windUp plan o).Obeys Deed.IsCalm KeepsLast (fun s r => match o with
      | .error e => r = .error e
      | .ok _ => r = .ok (.closing s) ∧ s.isSome = (Deferral.of? plan.keepOpenAfter).isSome) none := by
  refine settles_closePages.bind ?_
  cases o with
  | error e => exact obeys_giveUp e
  | ok u =>
    change (wrapUp plan).Obeys _ _ _ _
    rw [wrapUp]
    cases hd : Deferral.of? plan.keepOpenAfter with
    | none => exact settles_close.bind (settles_sayDone.bind ⟨rfl, rfl⟩)
    | some d =>
      intro a _
      refine ⟨none, rfl, fun u _ => ⟨some u, ⟨rfl, d, rfl⟩, ?_⟩⟩
      exact settles_sayDone.bind ⟨rfl, rfl⟩

/-- Who was started last was started. -/
theorem started_of_along {s : Option TaskId} {ds : List (Deed scene)} (h : Along KeepsLast none ds s) {u : TaskId}
    (hu : s = some u) : ∃ d, .start (.close d) u ∈ ds := by
  induction h generalizing u with
  | nil => cases hu
  | @snoc ds s' x s'' h hx ih =>
    cases x with
    | start job v =>
      obtain ⟨rfl, d, rfl⟩ := hx
      cases hu
      exact ⟨d, List.mem_append_right _ (List.mem_singleton_self _)⟩
    | ask | wake =>
      obtain rfl := hx
      obtain ⟨d, hd⟩ := ih hu
      exact ⟨d, List.mem_append_left _ hd⟩
    | _ => exact hx.elim

/-- A run comes to what its startup and its steps come to. -/
theorem exists_undertake {ds : List (Deed scene)} {r : Outcome Fault Yield}
    (h : Program.Path (program (.automation plan engine)) ds (.done r)) (hcalm : ∀ d ∈ ds, Deed.IsCalm d) :
    ∃ ds₁ ds₂ o, ds = ds₁ ++ ds₂ ∧ Program.Path (undertake plan engine) ds₁ (.done o) ∧ match o with
      | .error e => r = .error e
      | .ok _ => ∃ s, r = .ok (.closing s) ∧ s.isSome = (Deferral.of? plan.keepOpenAfter).isSome ∧
        ∀ u, s = some u → ∃ d, .start (.close d) u ∈ ds := by
  rw [program_automation] at h
  rcases h.bind_end with ⟨e, hp, rfl⟩ | ⟨ds₁, ds₂, s, rfl, hp, h⟩
  · exact ⟨ds, [], .error e, (List.append_nil _).symm, hp.first _, rfl⟩
  rcases h.bind_end with ⟨e, hp', -⟩ | ⟨ds₃, ds₄, u, rfl, hp', h⟩
  · obtain ⟨a, es, -, hpath⟩ := hp'.of_call
    cases hpath.of_done.2
  obtain ⟨ds₅, ds₆, o, rfl, hp'', h⟩ := h.attempt_end
  have hbegun := (hp.first fun s => (ask (.setSession s)).bind fun _ =>
    (openUp plan).bind (perform plan)).append (hp'.first fun _ => (openUp plan).bind (perform plan))
  cases o with
  | error e =>
    refine ⟨ds₁ ++ ds₃ ++ ds₅, ds₆, .error e, by simp, hbegun.append (hp''.first _), ?_⟩
    obtain ⟨s', -, hr⟩ := (obeys_giveUp (s := none) e).path h fun d hd => hcalm d (by simp [hd])
    exact hr
  | ok page =>
    obtain ⟨ds₇, ds₈, o, rfl, hp₃, h⟩ := Program.Path.attempt_end h
    refine ⟨ds₁ ++ ds₃ ++ ds₅ ++ ds₇, ds₈, o, by simp,
      (hbegun.append (hp''.first _)).append hp₃, ?_⟩
    obtain ⟨s', halong, hr⟩ := (obeys_windUp o).path h fun d hd => hcalm d (by simp [hd])
    cases o with
    | error e => exact hr
    | ok u =>
      refine ⟨s', hr.1, hr.2, fun u hu => ?_⟩
      obtain ⟨d, hd⟩ := started_of_along halong hu
      exact ⟨d, by simp [hd]⟩

/-! ## Waiting with the close -/

/-- By these steps the time of a deferral has come: the browser has gone, or so many milliseconds have
passed, unless they are more than any clock can tell. -/
inductive Deferral.HasCome : Deferral → List (Deed scene) → Prop
  | gone {b ds} (h : .ask (.isConnected b) false ∈ ds) : HasCome .whenGone ds
  | told {l ds} (h : .wake (.signal (.gone l)) (.ok ()) ∈ ds) : HasCome .whenGone ds
  | elapsed {n ds} (h : .wake (.timer (n * 1000).toNat) (.ok ()) ∈ ds) : HasCome (.after (.int n)) ds
  | beyond {n ds} (h : clockLimit ≤ n) : HasCome (.after (.int n)) ds

/-- How a task ends that waits for the time of a deferral: well, unless it is more than any clock can tell. -/
def Deferral.outcome : Deferral → Outcome Fault Unit
  | after (.int n) => if clockLimit ≤ n then .error (.failed .tooLong) else .ok ()
  | _ => .ok ()

/-- Steps in which a task only waits until a session is to be closed. -/
inductive IsVigil : Deed scene → Prop
  | session (a) : IsVigil (.ask .session a)
  | connected (b a) : IsVigil (.ask (.isConnected b) a)
  | «begin» (b event a) : IsVigil (.ask (.begin (.browser b) (.on event)) a)
  | complete (b landing event a) : IsVigil (.ask (.complete (.browser b) landing (.on event)) a)
  | timer (micros r) : IsVigil (.wake (.timer micros) r)
  | gone (l r) : IsVigil (.wake (.signal (.gone l)) r)

theorem IsVigil.after {d : Deed scene} (h : IsVigil d) (t : Tally) : t.after d = t := by
  cases h <;> simp [Tally.after, Tally.asked, Deed.opened?, Deed.closing?, Deed.page?, Run.closing?]

/-- The steps of a task that only waits are kept in mind. -/
def KeepsVigil : Rules scene (List (Deed scene)) := fun ds d ds' => IsVigil d ∧ ds' = ds ++ [d]

/-- What a task meets agrees with a tally that has the session `s`. -/
def AgreesWith (s : Session) (d : Deed scene) : Prop := ∃ t : Tally, t.session = s ∧ t.Agrees d

/-- As long as the time of a deferral has not come, the task that is to close the session only waits. -/
theorem obeys_elapse {k : KeepOpen} {d : Deferral} (hd : Deferral.of? k = some d) {s : Session}
    (hb : s.browser.isSome = true) :
    d.elapse.Obeys (AgreesWith s) KeepsVigil (fun ds r => d.HasCome ds ∧ r = d.outcome) [] := by
  cases d with
  | whenGone =>
    obtain ⟨b, hb⟩ := Option.isSome_iff_exists.1 hb
    rw [Deferral.elapse, Session.waitClosed, Session.launched]
    rintro _ ⟨t, rfl, rfl⟩
    refine ⟨_, ⟨.session _, rfl⟩, ?_⟩
    dsimp only [Program.bind]
    rw [hb]
    intro isConnected _
    refine ⟨_, ⟨.connected b isConnected, rfl⟩, ?_⟩
    cases isConnected with
    | false => exact ⟨.gone (List.mem_append_right _ (List.mem_singleton_self _)), rfl⟩
    | true =>
      -- asking to be told of the end only notes the wish
      rintro course ⟨t', -, hhold, hcalm, hfault⟩
      refine ⟨_, ⟨.begin b _ course, rfl⟩, ?_⟩
      change Program.Obeys _ _ _ (Program.bind (I := scene) (proceed (.browser b)
        (.on "disconnected") course) fun l => wait (.signal (.gone l))) _
      rw [proceed, sitOut, hhold]
      simp only [hcalm, hfault]
      rintro _ ⟨t'', -, l, rfl⟩
      refine ⟨_, ⟨.complete b _ _ _, rfl⟩, ?_⟩
      rintro _ ⟨t₃, -, rfl⟩
      exact ⟨_, ⟨.gone l _, rfl⟩, .told (List.mem_append_right _ (List.mem_singleton_self _)), rfl⟩
  | after millis =>
    obtain ⟨n, rfl⟩ : ∃ n, millis = .int n := by
      cases k with
      | flag isOpen => cases isOpen <;> cases hd
      | millis n =>
        rw [Deferral.of?] at hd
        split at hd <;> cases hd
        exact ⟨n, rfl⟩
    rw [Deferral.elapse, Deferral.outcome]
    split
    · rename_i hlimit
      exact ⟨.beyond hlimit, rfl⟩
    · rintro r ⟨t, rfl, rfl⟩
      exact ⟨_, ⟨.timer _ _, rfl⟩, .elapsed (List.mem_singleton_self _), rfl⟩

end BrowserPlan.Run
