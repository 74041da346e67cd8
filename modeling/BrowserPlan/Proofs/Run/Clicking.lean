import BrowserPlan.Proofs.Run.Parts
import BrowserPlan.Proofs.Task.Meetings
import BrowserPlan.Proofs.Task.Precedence
import BrowserPlan.Proofs.Task.Quitting
import BrowserPlan.Run.Scenario

/-!
# Clicks that wait

A click step with a wait condition starts a task for the wait and one for the click (`clickOn_eq`). `tidy_clickOn`
says that it leaves none of them behind, whatever the browser does and whoever is told to give up: the wait calls the
browser first; the step goes on only when both have ended well; and otherwise it calls both off, waits until they have
ended, and fails as the first of them did, unless it has been told to give up itself.

Nothing is assumed of how the calls go. The loop goes from move to move, and what comes next in the task's own turns is
all that is said (`Loop.TakesUp`). Every run that is carried out is such a way (`exists_passes_carryOut`).
-/
namespace BrowserPlan.Run

open BrowserPlan.Task BrowserPlan.Browser

/-! ## Runs -/

theorem exists_passes_carryOut (w : World) (job : Job) :
    ∃ es, Loop.Passes (I := scene) machine { world := w } es (carryOut w job) := by
  have hbegins : Loop.Passes (I := scene) machine { world := w } [.start job] (beginning w job) :=
    (Loop.Passes.refl (I := scene)).step (Loop.Next.start (I := scene) job)
  obtain ⟨es, hend⟩ := Loop.exists_passes_seeOut machine 0 (beginning w job)
  obtain ⟨es', hclean⟩ := Loop.exists_passes_cleanUp machine (Loop.seeOut machine (beginning w job) 0)
  exact ⟨_, (hbegins.trans hend).trans hclean⟩

/-! ## The wait and the click -/

section
variable {α : Type}

theorem yields_ask (q : Call) : (ask q).Yields := .call fun _ => .done _

theorem yields_settleFor {ε : Type} (toFault : ε → Fault) (r : Except ε α) : (settleFor toFault r).Yields := by
  cases r <;> exact .done _

theorem yields_failIf (fault : Option Fault) : (failIf fault).Yields := by
  cases fault <;> exact .done _

theorem yields_wait (on : Pause Signal) : (wait on).Yields := .pause (fun r => .done r) .done

theorem yields_sitOut (who : Party) (op : Operation) (course : Course) : (sitOut who op course).Yields := by
  rw [sitOut]
  cases holdUp course with
  | none => exact .done _
  | some on =>
    refine .pause (fun r => ?_) (.call fun _ => .done)
    rcases r with (_ | _ | _) | _
    · exact .done _
    · exact .call fun _ => .done _
    · exact .done _
    · exact .done _

theorem yields_invoke (who : Party) (op : Operation) : (invoke who op).Yields := by
  refine (yields_ask _).bind fun course => (yields_sitOut who op course).bind fun _ => ?_
  have hrest : Program.Yields (do
      failIf (course.fault.map .call)
      settleFor .call (← ask (.complete who course.landing op))) :=
    (yields_failIf _).bind fun _ => (yields_ask _).bind fun _ => yields_settleFor _ _
  cases course.interrupts with
  | false => exact hrest
  | true => exact .done _

theorem yields_passTime (millis : Option Number) : (passTime millis).Yields := by
  cases millis with
  | none => exact .done _
  | some millis =>
    rw [passTime]
    split
    · split
      · exact yields_wait _
      · exact yields_wait _
    · exact .done _

theorem yields_waitForHalf (page : PageId) (half : Half) (c : WaitCondition) : (waitForHalf page half c).Yields :=
  (yields_settleFor _ _).bind fun _ => (yields_invoke _ _).bind fun _ => yields_invoke _ _

theorem yields_waitForNavigation (page : PageId) (c : WaitCondition) : (waitForNavigation page c).Yields := by
  refine (yields_invoke _ _).bind fun _ => ?_
  dsimp only
  generalize (if given c.waitUntil then c.waitUntil.getD "load" else "load") = state
  split
  · exact yields_invoke _ _
  · exact .done _

theorem yields_waitFor (page : PageId) (c : WaitCondition) : (waitFor page c).Yields := by
  rw [waitFor]
  cases c.kind with
  | navigation => exact (yields_waitForNavigation page c).bind fun _ => .done _
  | networkIdle => exact (yields_invoke _ _).bind fun _ => .done _
  | selector | xpath | function => exact (yields_invoke _ _).bind fun _ => .done _
  | timeout => exact (yields_invoke _ _).bind fun _ => (yields_passTime _).bind fun _ => .done _
  | request | response => exact (yields_waitForHalf _ _ _).bind fun _ => .done _

end

/-- The call begins something that the browser is to do with the page. -/
def BeginsOn (page : PageId) (q : Call) : Prop := ∃ op, q = .begin (.page page) op

theorem opens_wait (page : PageId) (c : WaitCondition) : (program (.wait page c)).Opens (BeginsOn page) := by
  rw [program, waitFor]
  cases c.kind with
  | request | response =>
    dsimp only
    rw [waitForHalf]
    cases UrlMatcher.read (c.url.getD "") with
    | error e => exact .inr ⟨_, rfl⟩
    | ok matcher => exact .inl ⟨_, _, rfl, _, rfl⟩
  | navigation | networkIdle | selector | xpath | timeout | function => exact .inl ⟨_, _, rfl, _, rfl⟩

/-! ## The click that waits -/

section
variable {W : Type} {m : Machine scene W} (hm : m.program = program) {page : PageId} {target : String}
  {c : WaitCondition} {k : Outcome Fault Unit → Program scene Yield} {t u v : TaskId} {L M N B : Loop scene W}

/-- Both tasks are told to give up and waited for; then the click fails. -/
def callOff (u v : TaskId) (k : Outcome Fault Unit → Program scene Yield) (s : Stop Fault) : Program scene Yield :=
  .cancel u (.cancel v (.gather [u, v] true fun r => match r with
    | .ok _ => k (.error s)
    | .error s' => k (.error s')))

/-- How a click goes on that waits for two tasks. -/
def takeUp (u v : TaskId) (k : Outcome Fault Unit → Program scene Yield) : Outcome Fault Unit → Program scene Yield
  | .ok _ => k (.ok ())
  | .error s => callOff u v k s

/-- A click that waits starts two tasks and waits for both. -/
theorem clickOn_eq (page : PageId) (target : String) (c : WaitCondition)
    (k : Outcome Fault Unit → Program scene Yield) : (clickOn page target (some c)).attempt.bind k =
      .fork (.wait page c) fun u => .fork (.click page target) fun v => .gather [u, v] false (takeUp u v k) := by
  refine congrArg (Program.fork _) (funext fun u => congrArg (Program.fork _) (funext fun v =>
    congrArg (Program.gather [u, v] false) (funext fun r => ?_)))
  cases r with
  | ok a => rfl
  | error s =>
    refine congrArg (Program.cancel u) (congrArg (Program.cancel v) (congrArg (Program.gather [u, v] true)
      (funext fun r => ?_)))
    cases r <;> rfl

/-- The tasks of the wait and of the click have been started, one after the other. -/
def bothStarted (m : Machine scene W) (page : PageId) (target : String) (c : WaitCondition) (L : Loop scene W) :
    Loop scene W :=
  ((L.spawn (m.program (.wait page c))).1.spawn (m.program (.click page target))).1

theorem comesTo_bothStarted (h : Loop.ComesTo m t ((clickOn page target (some c)).attempt.bind k) L) :
    Loop.ComesTo m t (.gather [L.tasks.size, L.tasks.size + 1] false (takeUp L.tasks.size (L.tasks.size + 1) k))
      (bothStarted m page target c L) := by
  rw [clickOn_eq] at h
  have hboth := h.fork.fork
  rw [Loop.size_spawn] at hboth
  exact hboth

theorem exec_clickOn (m : Machine scene W) (t : TaskId) (k : Outcome Fault Unit → Program scene Yield)
    (L : Loop scene W) : Loop.exec m t ((clickOn page target (some c)).attempt.bind k) L =
      Loop.exec m t (.gather [L.tasks.size, L.tasks.size + 1] false (takeUp L.tasks.size (L.tasks.size + 1) k))
        (bothStarted m page target c L) := by
  rw [clickOn_eq, ← Loop.size_spawn L (m.program (.wait page c))]
  rfl

theorem deeds_clickOn (m : Machine scene W) (t : TaskId) (k : Outcome Fault Unit → Program scene Yield)
    (L : Loop scene W) : Loop.deeds m t ((clickOn page target (some c)).attempt.bind k) L =
      [.start (.wait page c) L.tasks.size, .start (.click page target) (L.tasks.size + 1)] := by
  rw [clickOn_eq, ← Loop.size_spawn L (m.program (.wait page c))]
  rfl

theorem standing?_bothStarted {x : TaskId} (hx : x ∈ [L.tasks.size, L.tasks.size + 1]) :
    ∃ resume, (bothStarted m page target c L).standing? x = some (.ready resume) := by
  simp only [List.mem_cons, List.not_mem_nil, or_false] at hx
  rcases hx with rfl | rfl
  · exact ⟨_, Loop.standing?_spawn _ (Loop.standing?_spawn_self L _)⟩
  · exact ⟨_, Loop.size_spawn L (m.program (.wait page c)) ▸ Loop.standing?_spawn_self (L.spawn _).1 _⟩

section
include hm

theorem ahead_bothStarted (h : L.IsSound) :
    Loop.Ahead (BeginsOn page) L.tasks.size (L.tasks.size + 1) [] (bothStarted m page target c L) :=
  Loop.ahead_spawn h (hm ▸ opens_wait page c) _

theorem steers_bothStarted {x : TaskId} (hx : x ∈ [L.tasks.size, L.tasks.size + 1]) :
    (bothStarted m page target c L).Steers x := by
  have hwait : (m.program (.wait page c)).Yields := hm ▸ (yields_waitFor page c).bind fun _ => .done _
  have hclick : (m.program (.click page target)).Yields := hm ▸ (yields_invoke _ _).bind fun _ => .done _
  simp only [List.mem_cons, List.not_mem_nil, or_false] at hx
  rcases hx with rfl | rfl
  · have hspawn : Loop.Leaves none false _ (bothStarted m page target c L) := .spawn _
    exact hspawn.steers (Loop.steers_spawn hwait) nofun
  · exact Loop.size_spawn L (m.program (.wait page c)) ▸ Loop.steers_spawn (L := (L.spawn _).1) hclick

end

theorem stops_callOff (hsteers : ∀ x ∈ [u, v], B.Steers x) {x : TaskId} (hx : x ∈ [u, v])
    (hne : ∀ r, B.standing? x ≠ some (.finished r)) : ((B.cancel m u).cancel m v).Stops x := by
  have hu : Loop.Leaves none false B (B.cancel m u) := .cancel m u
  have hv : Loop.Leaves none false (B.cancel m u) ((B.cancel m u).cancel m v) := .cancel m v
  have hx' := hsteers x hx
  simp only [List.mem_cons, List.not_mem_nil, or_false] at hx
  rcases hx with rfl | rfl
  · exact hv.stops (hx'.stops_cancel hne) nofun
  · have ⟨s, hs, _⟩ := hx'
    refine (hu.steers hx' nofun).stops_cancel fun r hr => hne r ?_
    rw [hs, hu.of_finished hs hr nofun]

/-- What comes of calling both tasks off. -/
theorem meets_callOff {s : Stop Fault} {es : List (Happening scene)} {p : Program scene Yield}
    (h : Loop.ComesTo m t (callOff u v k s) B) (hsteers : ∀ x ∈ [u, v], B.Steers x) (ht : t ∉ [u, v])
    (hM : Loop.TakesUp m t (Loop.exec m t (callOff u v k s) B) es M p N) :
    ∃ o, p = (match o with | .ok _ => k (.error s) | .error s' => k (.error s')) ∧
      Loop.Meets m t [u, v] true (Loop.exec m t (callOff u v k s) B) es M o ∧
      ∀ x ∈ [u, v], (∀ r, B.standing? x ≠ some (.finished r)) →
        M.standing? x = some (.finished (.error .cancelled)) := by
  have hgather := h.cancel.cancel
  have hboth : Loop.Leaves none false B ((B.cancel m u).cancel m v) := .trans (.cancel m u) (.cancel m v)
  have hlt : ∀ x ∈ [u, v], x < ((B.cancel m u).cancel m v).tasks.size := fun x hx =>
    (hboth.steers (hsteers x hx) nofun).lt
  obtain ⟨o, hp, hmeets⟩ := Loop.ComesTo.meets hgather (List.cons_ne_nil _ _) hlt nofun hM
  refine ⟨o, hp, hmeets, fun x hx hne => ?_⟩
  have hexec : Loop.Leaves (some t) false ((B.cancel m u).cancel m v) (Loop.exec m t (callOff u v k s) B) :=
    .exec m t _ hgather.running
  have hstops : (Loop.exec m t (callOff u v k s) B).Stops x :=
    hexec.stops (stops_callOff hsteers hx hne) fun heq => ht (Option.some.inj heq ▸ hx)
  cases hM with
  | intro hM =>
    obtain ⟨r, hr, -⟩ := hmeets.allIn x hx
    rw [hr, (hM.stops hstops).eq_of_finished hr]

/-- The task `t` has come from `L` to `M` while it waited for `u` and `v`, and calls both off: it goes on as `p`, from
the loop `B`. -/
structure CalledOff (m : Machine scene W) (k : Outcome Fault Unit → Program scene Yield) (t u v : TaskId)
    (L : Loop scene W) (es : List (Happening scene)) (M : Loop scene W) (p : Program scene Yield) (B : Loop scene W) :
    Prop where
  /-- In this turn it tells both to give up, and no more. -/
  told : Loop.deeds m t p B = [.stop u, .stop v]
  /-- In its next turn both have ended. -/
  ended : ∀ {es' N p' B'}, Loop.TakesUp m t (Loop.exec m t p B) es' N p' B' → N.AllIn [u, v] true
  /-- Who had not ended when both were called off has given up. -/
  givenUp : ∀ {es' N p' B'}, Loop.TakesUp m t (Loop.exec m t p B) es' N p' B' → ∀ x ∈ [u, v],
    (∀ r, M.standing? x ≠ some (.finished r)) → N.standing? x = some (.finished (.error .cancelled))
  /-- It fails, and if it has never been told to give up itself, as the first of the two did that failed. -/
  raised : ∀ {es' N p' B'}, Loop.TakesUp m t (Loop.exec m t p B) es' N p' B' → ∃ s, p' = k (.error s) ∧
    ((∀ K, Loop.OnWay m L es M K ∨ Loop.OnWay m (Loop.exec m t p B) es' N K → ¬ K.HasToStop t) →
      ∃ x, Loop.FailsFirst m L es M [u, v] x s)

/-- The task `t` waits from `L` on for the tasks `u` and `v` of a wait and a click on a page, and leaves nothing behind
when it goes on as `k`. -/
structure Tidy (m : Machine scene W) (page : PageId) (k : Outcome Fault Unit → Program scene Yield) (t u v : TaskId)
    (L : Loop scene W) : Prop where
  /-- The wait calls the browser before the click does. -/
  order : ∀ {es M}, Loop.Passes m L es M → Loop.AsksFirst (BeginsOn page) u v (Loop.asked es)
  /-- In its next turn it goes on because both have ended well, or it calls both off. -/
  outcome : ∀ {es M p B}, Loop.TakesUp m t L es M p B →
    p = k (.ok ()) ∧ M.AllIn [u, v] false ∨ CalledOff m k t u v L es M p B

theorem calledOff {s : Stop Fault} {es : List (Happening scene)} (hL : Loop.Arises m L)
    (hsteers : ∀ x ∈ [u, v], M.Steers x) (ht : t ∉ [u, v]) (hM : Loop.TakesUp m t L es M (callOff u v k s) B)
    (hmeets : Loop.Meets m t [u, v] false L es M (.error s)) : CalledOff m k t u v L es M (callOff u v k s) B := by
  have hne : ∀ x ∈ [u, v], some t ≠ some x := fun x hx heq => ht (Option.some.inj heq ▸ hx)
  have hbegun : ∃ rest, Loop.Leaves (some t) false { M with queue := rest } B := by
    generalize callOff u v k s = p at hM
    cases hM with
    | intro _ _ _ he => exact ⟨_, Loop.leaves_begun he⟩
  obtain ⟨rest, hbegun⟩ := hbegun
  have hsteersB : ∀ x ∈ [u, v], B.Steers x := fun x hx =>
    hbegun.steers (L := { M with queue := rest }) (hsteers x hx) (hne x hx)
  refine ⟨rfl, fun hN => ?_, fun hN x hx hgoes => ?_, fun hN => ?_⟩
  · obtain ⟨o, -, hmeets, -⟩ := meets_callOff (hM.comesTo hL) hsteersB ht hN
    exact hmeets.allIn
  · obtain ⟨o, -, -, hgivenUp⟩ := meets_callOff (hM.comesTo hL) hsteersB ht hN
    refine hgivenUp x hx fun r hr => hgoes r ?_
    obtain ⟨s', hs', -⟩ := hsteers x hx
    exact hbegun.of_finished (L := { M with queue := rest }) hs' hr (hne x hx) ▸ hs'
  · obtain ⟨o, hp, hmeets', -⟩ := meets_callOff (hM.comesTo hL) hsteersB ht hN
    cases hmeets' with
    | bad hpatient => cases hpatient
    | stopped _ hK hstop => exact ⟨_, hp, fun hnot => absurd hstop (hnot _ (.inr hK))⟩
    | good =>
      refine ⟨s, hp, fun hnot => ?_⟩
      cases hmeets with
      | bad _ hfirst => exact ⟨_, hfirst⟩
      | stopped _ hK hstop => exact absurd hstop (hnot _ (.inl hK))

/-- A click that waits for what it brings about leaves no task behind. -/
theorem tidy_clickOn (hm : m.program = program)
    (h : Loop.ComesTo m t ((clickOn page target (some c)).attempt.bind k) L) :
    Loop.deeds m t ((clickOn page target (some c)).attempt.bind k) L =
      [.start (.wait page c) L.tasks.size, .start (.click page target) (L.tasks.size + 1)] ∧
    Tidy m page k t L.tasks.size (L.tasks.size + 1)
      (Loop.exec m t ((clickOn page target (some c)).attempt.bind k) L) := by
  have hboth := comesTo_bothStarted h
  have ht : t ∉ [L.tasks.size, L.tasks.size + 1] := by
    obtain ⟨e, he, -⟩ := Option.map_eq_some_iff.1 h.running
    have hlt : t < L.tasks.size := (Array.getElem?_eq_some_iff.1 he).1
    simp only [List.mem_cons, List.not_mem_nil, or_false]
    rintro (heq | heq)
    · exact absurd heq (Nat.ne_of_lt hlt)
    · exact absurd heq (Nat.ne_of_lt (Nat.lt_succ_of_lt hlt))
  have hne : ∀ x ∈ [L.tasks.size, L.tasks.size + 1], some t ≠ some x := fun x hx heq => ht (Option.some.inj heq ▸ hx)
  have hexec : Loop.Leaves (some t) false (bothStarted m page target c L) _ := .exec m t
    (.gather [L.tasks.size, L.tasks.size + 1] false (takeUp L.tasks.size (L.tasks.size + 1) k)) hboth.running
  refine ⟨deeds_clickOn m t k L, ?_⟩
  rw [exec_clickOn]
  refine ⟨fun hM => ?_, fun {es M p B} hM => ?_⟩
  · have hahead : Loop.Ahead (BeginsOn page) L.tasks.size (L.tasks.size + 1) [] (bothStarted m page target c L) :=
      ahead_bothStarted hm h.isSound
    exact (hM.ahead (Nat.ne_of_lt (Nat.lt_succ_self _)) (hexec.ahead hahead (hne _ List.mem_cons_self))).asksFirst
  · have hsteers : ∀ x ∈ [L.tasks.size, L.tasks.size + 1], M.Steers x := by
      intro x hx
      cases hM with
      | intro hM => exact hM.steers (hexec.steers (steers_bothStarted hm hx) (hne x hx))
    have hlt : ∀ x ∈ [L.tasks.size, L.tasks.size + 1], x < (bothStarted m page target c L).tasks.size :=
      fun x hx => (steers_bothStarted hm hx).lt
    have hgoes : ∀ x ∈ [L.tasks.size, L.tasks.size + 1], ∀ s,
        (bothStarted m page target c L).standing? x ≠ some (.finished (.error s)) := by
      intro x hx s hs
      have hready : ∃ resume, (bothStarted m page target c L).standing? x = some (.ready resume) :=
        standing?_bothStarted hx
      obtain ⟨resume, hready⟩ := hready
      cases hready.symm.trans hs
    obtain ⟨o, rfl, hmeets⟩ := hboth.meets (List.cons_ne_nil _ _) hlt (fun _ => hgoes) hM
    cases o with
    | ok a =>
      cases hmeets with
      | good hin => exact .inl ⟨rfl, hin⟩
    | error s => exact .inr (calledOff hboth.arises hsteers ht hM hmeets)

/-- A step that clicks and waits is such a click with something around it. -/
theorem exists_runStep_eq {index : IterationIndex} {selector xpath : Option String}
    (htarget : target? selector xpath = some target) (f : Unit → Program scene Yield) :
    ∃ k : Nat → Outcome Fault Unit → Program scene Yield, (runStep page index (.click selector xpath (some c))).bind f =
      .call (.executed .click) fun _ =>
        .call (.log ⟨.debug, .interpreter, "Step " ++ Action.click.name ++ " at index " ++ index.toString⟩) fun _ =>
          .call (.openSpan .click index) fun n => (clickOn page target (some c)).attempt.bind (k n) := by
  have hbody : stepBody page index (.click selector xpath (some c)) =
      named .click index (clickOn page target (some c)) := by
    rw [stepBody, targetOf, htarget]
    rfl
  have hlooks : ∀ {α β : Type} (p : Program scene Unit) (g : Outcome Fault Unit → Program scene α)
      (h : Outcome Fault α → Program scene β) (f : β → Program scene Yield),
      ((p.attempt.bind g).attempt.bind h).bind f =
        p.attempt.bind fun r => (g r).attempt.bind fun o => (h o).bind f := by
    intro α β p g h f
    rw [Program.attempt_attempt_bind, Program.bind_assoc, Program.bind_assoc]
  have hwithin : ∀ n, ∃ k, ((named .click index (clickOn page target (some c))).ensuring fun r =>
      ask (.closeSpan n (SpanStatus.ofOutcome r))).bind f = (clickOn page target (some c)).attempt.bind k :=
    fun n => ⟨_, hlooks (clickOn page target (some c)) _ _ f⟩
  rw [runStep_eq, hbody]
  refine ⟨fun n => (hwithin n).choose, ?_⟩
  refine congrArg (Program.call _) (funext fun _ => congrArg (Program.call _) (funext fun _ =>
    congrArg (Program.call _) (funext fun n => ?_)))
  exact (hwithin n).choose_spec

end

/-- A page on which waits for elements take no end and clicks fail. -/
def deafPage : World :=
  let deaf : Rule := { on := "wait_for_selector", course := { hangs := true } }
  let broken : Rule := { on := "click", course := { fault := some (.raised .failure "boom") } }
  (World.ofSite { rules := [deaf, broken] } (Files.ofLists [] [])).withPage "main" "http://a/"

/-- A wait for an element. -/
def elementWait : WaitCondition := { kind := .selector, selector := some "b" }

/-- A run that clicks and waits. -/
def deafRun : RunState := beginning deafPage (.steps 0 [.click (some "a") none (some elementWait)] .root)

/-- The click fails while the wait is under way, so the wait is called off. -/
theorem tidy_clickOn_deafPage : ∃ k L es M p B es' N p' B',
    Loop.ComesTo machine 0 ((clickOn 0 "a" (some elementWait)).attempt.bind k) L ∧
    Tidy machine 0 k 0 1 2 (Loop.exec machine 0 ((clickOn 0 "a" (some elementWait)).attempt.bind k) L) ∧
    Loop.TakesUp machine 0 (Loop.exec machine 0 ((clickOn 0 "a" (some elementWait)).attempt.bind k) L) es M p B ∧
    M.result? 1 = none ∧
    Loop.TakesUp machine 0 (Loop.exec machine 0 p B) es' N p' B' ∧
    N.standing? 1 = some (.finished (.error .cancelled)) := by
  have hplay : ((deafRun.turn? machine).bind fun T => (T.lull machine 0 9)).any (fun M =>
      (M.result? 1).isNone && ((M.turn? machine).bind fun T => T.lull machine 0 9).isSome) = true := by
    decide +kernel
  obtain ⟨M, hM, hplay⟩ := (Option.any_eq_true _ _).1 hplay
  obtain ⟨hnone, hsome⟩ := Bool.and_eq_true_iff.1 hplay
  obtain ⟨N, hN⟩ := Option.isSome_iff_exists.1 hsome
  obtain ⟨T, hT, hM⟩ := Option.bind_eq_some_iff.1 hM
  obtain ⟨T', hT', hN⟩ := Option.bind_eq_some_iff.1 hN
  -- the step comes to its click in the first turn
  let step : Step := .click (some "a") none (some elementWait)
  have harises : Loop.Arises (I := scene) machine deafRun :=
    ⟨deafPage, [.start (.steps 0 [step] .root)], Loop.Passes.step (I := scene) .refl (.start _)⟩
  have hturn : Loop.ComesTo (I := scene) machine 0 (program (.steps 0 [step] .root)) (Loop.begun deafRun 0 []) :=
    .turn harises rfl rfl
  have hsteps : program (.steps 0 [step] .root) = (runStep 0 .root step).bind fun _ =>
      (runSteps 0 .root []).bind fun _ => pure .nothing := by
    rw [program, runSteps]
    exact Program.bind_assoc ..
  have hwaits : ∃ k : Nat → Outcome Fault Unit → Program scene Yield, (runStep 0 .root step).bind _ = _ :=
    exists_runStep_eq rfl fun _ => (runSteps 0 .root []).bind fun _ => pure .nothing
  obtain ⟨k, hclick⟩ := hwaits
  have hfirst : deafRun.turn? machine =
      some (Loop.exec machine 0 (program (.steps 0 [step] .root)) (Loop.begun deafRun 0 [])) := rfl
  rw [hsteps, hclick] at hturn hfirst
  obtain ⟨L, hL, hsize, hexec⟩ : ∃ L, Loop.ComesTo machine 0 ((clickOn 0 "a" (some elementWait)).attempt.bind (k 0)) L ∧
      L.tasks.size = 1 ∧ Loop.exec machine 0 ((clickOn 0 "a" (some elementWait)).attempt.bind (k 0)) L = T := by
    exact ⟨_, hturn.call.call.call, rfl, Option.some.inj (hfirst.symm.trans hT)⟩
  obtain ⟨-, htidy⟩ := tidy_clickOn rfl hL
  rw [hsize] at htidy
  obtain ⟨es, p, B, hM, hgoesOn⟩ := Loop.exists_takesUp hM
  obtain rfl := Option.some.inj (hT'.symm.trans hgoesOn)
  obtain ⟨es', p', B', hN, -⟩ := Loop.exists_takesUp hN
  rw [← hexec] at hM
  have hgoes : ∀ r, M.standing? 1 ≠ some (.finished r) := by
    intro r hr
    rw [Loop.result?, hr] at hnone
    cases hnone
  rcases htidy.outcome hM with ⟨-, hin⟩ | hcalledOff
  · obtain ⟨r, hr, -⟩ := hin 1 List.mem_cons_self
    exact absurd hr (hgoes r)
  · exact ⟨k 0, L, es, M, p, B, es', N, p', B', hL, htidy, hM, Option.isNone_iff_eq_none.1 hnone, hN,
      hcalledOff.givenUp hN 1 List.mem_cons_self hgoes⟩

end BrowserPlan.Run
