import BrowserPlan.Proofs.Task.Bystanders

/-!
# What a task that gathers others meets with

A task that waits for several others goes on in its next turn, however long that takes and whatever happens
meanwhile. `ComesTo.meets` says what it goes on with: well when all have ended well, with the failure of the first of
them to fail, or with having been told to give up. Turns are taken first come first served, so the failure that a
gathering hears of first is the first one there is (`Waits.failed`).
-/
namespace BrowserPlan.Task.Loop

variable {I : Interface} {W : Type} [DecidableEq I.Signal] {m : Machine I W} {L M N K : Loop I W}
  {es : List (Happening I)} {e : Happening I} {t x : TaskId} {ts : List TaskId} {patient : Bool}
  {next : Outcome I.Fault Unit → Program I I.Result} {o : Outcome I.Fault Unit} {s : Stop I.Fault} {g : Nat}

/-! ## On the way -/

/-- The loop comes to `K` on its way from `L` to `M` by the moves `es`. -/
def OnWay (m : Machine I W) (L : Loop I W) (es : List (Happening I)) (M K : Loop I W) : Prop :=
  ∃ es₁ es₂, es = es₁ ++ es₂ ∧ Passes m L es₁ K ∧ Passes m K es₂ M

theorem OnWay.last (h : Passes m L es M) : OnWay m L es M M := ⟨es, [], (List.append_nil _).symm, h, .refl⟩

theorem OnWay.step (h : OnWay m L es M K) (he : Next m M e N) : OnWay m L (es ++ [e]) N K := by
  obtain ⟨es₁, es₂, rfl, h₁, h₂⟩ := h
  exact ⟨es₁, es₂ ++ [e], List.append_assoc .., h₁, h₂.step he⟩

/-- By the moves `es`, in which the task has no turn, the loop `L` comes to `M`, where it is the task's turn. It goes on
as `p`, and the loop is `N` then. -/
inductive TakesUp (m : Machine I W) (t : TaskId) (L : Loop I W) (es : List (Happening I)) (M : Loop I W) :
    Program I I.Result → Loop I W → Prop where
  | intro {rest resume isCancelling watchers} (h : Passes m L es M) (hrests : ∀ e ∈ es, e.busy ≠ some t)
    (hq : M.queue = .resume t :: rest) (ht : M.tasks[t]? = some ⟨.ready resume, isCancelling, watchers⟩) :
    TakesUp m t L es M (resume isCancelling) (M.begun t rest)

/-- The task has been told to give up and is not aware of it yet, or those it waits for have been told. -/
def HasToStop (L : Loop I W) (t : TaskId) : Prop :=
  L.isTold t = true ∨ ∃ g next G, L.standing? t = some (.gathering g next) ∧ L.gatherings[g]? = some G ∧
    G.isCancelling = true

/-- On the way, `x` is the first of the tasks `ts` to fail, with `s`. -/
def FailsFirst (m : Machine I W) (L : Loop I W) (es : List (Happening I)) (M : Loop I W) (ts : List TaskId)
    (x : TaskId) (s : Stop I.Fault) : Prop :=
  x ∈ ts ∧ ∃ K, OnWay m L es M K ∧ K.standing? x = some (.finished (.error s)) ∧
    ∀ y ∈ ts, ∀ s', K.standing? y = some (.finished (.error s')) → y = x

theorem FailsFirst.step (h : FailsFirst m L es M ts x s) (he : Next m M e N) :
    FailsFirst m L (es ++ [e]) N ts x s := by
  obtain ⟨hx, K, hK, hfailed, hfirst⟩ := h
  exact ⟨hx, K, hK.step he, hfailed, hfirst⟩

/-! ## What a task meets with -/

/-- All the tasks have ended, and unless their owner is patient, well. -/
def AllIn (L : Loop I W) (ts : List TaskId) (patient : Bool) : Prop :=
  ∀ y ∈ ts, ∃ r, L.standing? y = some (.finished r) ∧ (patient = true ∨ ∃ a, r = .ok a)

theorem AllIn.step (h : AllIn M ts patient) (he : Next m M e N) : AllIn N ts patient := by
  intro y hy
  obtain ⟨r, hr, hgood⟩ := h y hy
  exact ⟨r, he.finished hr, hgood⟩

/-- What the task `t`, which waits for the tasks `ts`, meets with by the time the loop has come to `M`. -/
inductive Meets (m : Machine I W) (t : TaskId) (ts : List TaskId) (patient : Bool) (L : Loop I W)
    (es : List (Happening I)) (M : Loop I W) : Outcome I.Fault Unit → Prop where
  | good (h : AllIn M ts patient) : Meets m t ts patient L es M (.ok ())
  | bad {x : TaskId} {s : Stop I.Fault} (hp : patient = false) (h : FailsFirst m L es M ts x s) :
    Meets m t ts patient L es M (.error s)
  | stopped {K : Loop I W} (hp : patient = true → AllIn M ts patient) (hK : OnWay m L es M K) (h : K.HasToStop t) :
    Meets m t ts patient L es M (.error .cancelled)

theorem Meets.step (h : Meets m t ts patient L es M o) (he : Next m M e N) :
    Meets m t ts patient L (es ++ [e]) N o := by
  cases h with
  | good h => exact .good (h.step he)
  | bad hp h => exact .bad hp (h.step he)
  | stopped hp hK h => exact .stopped (fun hpatient => (hp hpatient).step he) (hK.step he) h

/-- The task `t` waits in the gathering `g` for the tasks `ts`. -/
structure Waits (m : Machine I W) (t : TaskId) (ts : List TaskId) (patient : Bool)
    (next : Outcome I.Fault Unit → Program I I.Result) (g : Nat) (L : Loop I W) (es : List (Happening I))
    (M : Loop I W) : Prop where
  standing : M.standing? t = some (.gathering g next)
  gathering : ∃ G, M.gatherings[g]? = some G ∧ G.members = ts ∧ G.patient = patient
  /-- The gathering hears of every member that has not ended. -/
  member : ∀ y ∈ ts, (∃ r, M.standing? y = some (.finished r)) ∨ M.IsWatched y (.gathering g)
  /-- Of those that have failed it will hear of the first one first. -/
  failed : patient = false → (∀ y ∈ ts, ∀ s, M.standing? y ≠ some (.finished (.error s))) ∨
    ∃ x s, FailsFirst m L es M ts x s ∧ M.standing? x = some (.finished (.error s)) ∧
      ∃ q₁ q₂, M.queue = q₁ ++ .hear g x :: q₂ ∧ ∀ y, .hear g y ∈ q₁ → ∃ a, M.standing? y = some (.finished (.ok a))

omit [DecidableEq I.Signal] in
theorem mem_members {c : Crew I W} {G : Gathering} (hc : Enacted L c) (hG : L.gatherings[g]? = some G)
    (hover : G.isOver = false) (hin : .hear g x ∈ L.queue) : x ∈ G.members := by
  obtain ⟨-, us, hus⟩ := hc.gathers hG hover
  refine hus.mem x (List.count_pos_iff.1 (Nat.lt_of_lt_of_le ?_ (hus.due x)))
  exact Nat.lt_of_lt_of_le (List.count_pos_iff.2 hin) (Nat.le_add_right _ _)

/-- A member that fails when none has failed before is the first one. -/
theorem Waits.fails {c : Crew I W} (hc : Enacted N c) (h : Waits m t ts patient next g L es M) (hway : Passes m L es M)
    (he : Next m M e N) (hnone : ∀ y ∈ ts, ∀ s, M.standing? y ≠ some (.finished (.error s)))
    (hmembers : ∀ y, .hear g y ∈ N.queue → y ∈ ts) (hx : x ∈ ts) (hs : N.standing? x = some (.finished (.error s))) :
    FailsFirst m L (es ++ [e]) N ts x s ∧ ∃ q₁ q₂, N.queue = q₁ ++ .hear g x :: q₂ ∧
      ∀ y, .hear g y ∈ q₁ → ∃ a, N.standing? y = some (.finished (.ok a)) := by
  have hwatched : ∀ {y s}, y ∈ ts → N.standing? y = some (.finished (.error s)) →
      ∃ e₀, M.tasks[y]? = some e₀ ∧ .gathering g ∈ e₀.watchers ∧ ∀ r, e₀.standing ≠ .finished r := by
    intro y s hy hs
    rcases h.member y hy with ⟨r, hr⟩ | ⟨e₀, he₀, hw⟩
    · cases (he.finished hr).symm.trans hs
      exact absurd hr (hnone y hy s)
    · refine ⟨e₀, he₀, hw, fun r hr => ?_⟩
      have hr : M.standing? y = some (.finished r) := by
        rw [standing?, he₀, ← hr]
        rfl
      cases (he.finished hr).symm.trans hs
      exact hnone y hy s hr
  have hbusy : ∀ {y s}, y ∈ ts → N.standing? y = some (.finished (.error s)) → e.busy = some y := by
    intro y s hy hs
    obtain ⟨e₀, he₀, -, hne⟩ := hwatched hy hs
    exact he.ends (by rw [standing?, he₀]; rfl) hne hs
  have honly : ∀ y ∈ ts, ∀ s', N.standing? y = some (.finished (.error s')) → y = x := fun y hy s' hs' =>
    Option.some.inj ((hbusy hy hs').symm.trans (hbusy hx hs))
  obtain ⟨e₀, he₀, hw, hne⟩ := hwatched hx hs
  have hin : .hear g x ∈ N.queue := he.hear_mem (by rw [standing?, he₀]; rfl) hne hs ⟨e₀, he₀, hw⟩
  obtain ⟨q₁, q₂, hq, hnot⟩ := List.eq_append_cons_of_mem hin
  refine ⟨⟨hx, N, .last (hway.step he), hs, honly⟩, q₁, q₂, hq, fun y hy => ?_⟩
  have hy' : .hear g y ∈ N.queue := hq ▸ List.mem_append_left _ hy
  obtain ⟨r, hr⟩ := hc.ended hy'
  cases r with
  | ok a => exact ⟨a, hr⟩
  | error s' =>
    cases honly y (hmembers y hy') s' hr
    exact absurd hy hnot

/-- The owner goes on to wait, unless its gathering hears that a member has failed. -/
theorem Waits.goOn {c : Crew I W} (hc : Enacted N c) (h : Waits m t ts patient next g L es M) (hway : Passes m L es M)
    (he : Next m M e N) (hs : N.standing? t = some (.gathering g next))
    (hG : ∃ G, N.gatherings[g]? = some G ∧ G.members = ts ∧ G.patient = patient)
    (hturn : patient = false → ∀ y s, e.turn? = some (.hear g y) → M.standing? y ≠ some (.finished (.error s))) :
    Waits m t ts patient next g L (es ++ [e]) N := by
  obtain ⟨rest, hq, hleaves⟩ := he.leaves
  refine ⟨hs, hG, fun y hy => ?_, fun hp => ?_⟩
  · rcases h.member y hy with ⟨r, hr⟩ | hw
    · exact .inl ⟨r, he.finished hr⟩
    · exact .inr (hleaves.watched (L := { M with queue := rest }) hw)
  · rcases h.failed hp with hnone | ⟨x, s, hfirst, hx, q₁, q₂, hqueue, hok⟩
    · by_cases hfails : ∃ y ∈ ts, ∃ s, N.standing? y = some (.finished (.error s))
      · obtain ⟨y, hy, s, hfailed⟩ := hfails
        have hmembers : ∀ y, .hear g y ∈ N.queue → y ∈ ts := by
          intro y hin
          obtain ⟨G, hG, rfl, -⟩ := hG
          obtain ⟨G', hG', hover, -⟩ := hc.gathering hs
          obtain rfl := Option.some.inj (hG.symm.trans hG')
          exact mem_members hc hG hover hin
        obtain ⟨hfirst, hqueue⟩ := h.fails hc hway he hnone hmembers hy hfailed
        exact .inr ⟨y, s, hfirst, hfailed, hqueue⟩
      · exact .inl fun y hy s hs => hfails ⟨y, hy, s, hs⟩
    · obtain ⟨q, rfl, hsub⟩ := exists_queue (hqueue.symm.trans hq) fun hfirst => hturn hp x s hfirst hx
      obtain ⟨new, hnew, -⟩ := hleaves.queue
      refine .inr ⟨x, s, hfirst.step he, he.finished hx, q, q₂ ++ new, ?_, fun y hy => ?_⟩
      · rw [hnew]
        exact List.append_assoc ..
      · exact (hok y (hsub hy)).imp fun a ha => he.finished ha

theorem Waits.quiet {c : Crew I W} (hc : Enacted N c) (h : Waits m t ts patient next g L es M) (hway : Passes m L es M)
    (he : Next m M e N) (hhears : e.hears = false) (hb : e.busy ≠ some t) :
    Waits m t ts patient next g L (es ++ [e]) N := by
  refine h.goOn hc hway he (he.standing h.standing (.gathering hhears g next) hb) ?_ fun _ y s hturn => ?_
  · obtain ⟨rest, -, hleaves⟩ := he.leaves
    obtain ⟨G, hG, hmembers, hpatient⟩ := h.gathering
    obtain ⟨G', hG', heq, -⟩ := hleaves.gathering (L := { M with queue := rest }) hG
    exact ⟨G', hG', by rw [heq hhears]; exact ⟨hmembers, hpatient⟩⟩
  · cases e with
    | hear => cases hhears
    | turn | stale | tick | tell | happen | start | set | note => cases hturn

section
variable {c : Crew I W} {i : Nat} {y : TaskId} {rest : List Turn} (hc : Enacted M c) (hq : M.queue = .hear i y :: rest)
  (hs : M.standing? t = some (.gathering g next))
include hc hq hs

omit [DecidableEq I.Signal] in
theorem hear_apart (hi : i ≠ g) : ({ M with queue := rest }.hear i y).standing? t = some (.gathering g next) ∧
    ({ M with queue := rest }.hear i y).gatherings[g]? = M.gatherings[g]? := by
  obtain ⟨G, r, hG, hr, hverdict⟩ := exists_verdict hc hq
  have hnoted : (M.noted rest i).gatherings[g]? = M.gatherings[g]? := Array.getElem?_modify.trans (if_neg hi)
  rw [hear_eq hG hr]
  generalize verdict? G r = v at hverdict
  cases v with
  | none => exact ⟨hs, hnoted⟩
  | some o =>
    obtain ⟨⟨next', x, howner, -⟩, -⟩ := hc.gathers hG hverdict.not_over
    dsimp only
    rw [conclude_eq (L := M.noted rest i) howner]
    refine ⟨?_, (Array.getElem?_modify.trans (if_neg hi)).trans hnoted⟩
    refine (standing?_place _ G.owner t _).trans ((if_neg fun ht => hi ?_).trans hs)
    cases (ht ▸ howner).symm.trans hs
    rfl

end

/-- When the gathering hears of an end, its owner goes on to wait or is due to go on. -/
theorem Waits.heard {c : Crew I W} (hc : Enacted M c) (h : Waits m t ts patient next g L es M) (hway : Passes m L es M)
    {y : TaskId} {rest : List Turn} (hq : M.queue = .hear g y :: rest) :
    Waits m t ts patient next g L (es ++ [.hear g y]) ({ M with queue := rest }.hear g y) ∨
      ∃ o, ({ M with queue := rest }.hear g y).standing? t = some (.ready (resumption next o)) ∧
        Meets m t ts patient L (es ++ [.hear g y]) ({ M with queue := rest }.hear g y) o := by
  have he : Next m M (.hear g y) ({ M with queue := rest }.hear g y) := .hear hq
  obtain ⟨d, hd⟩ := he.follows hc
  obtain ⟨G, r, hG, hr, hverdict⟩ := exists_verdict hc hq
  obtain ⟨hmembers, hpatient⟩ : G.members = ts ∧ G.patient = patient := by
    obtain ⟨H, hH, hmembers⟩ := h.gathering
    exact Option.some.inj (hH.symm.trans hG) ▸ hmembers
  obtain ⟨hover, howner⟩ : G.isOver = false ∧ G.owner = t := by
    obtain ⟨H, hH, hover⟩ := hc.gathering h.standing
    exact Option.some.inj (hH.symm.trans hG) ▸ hover
  have hhear : { M with queue := rest }.hear g y = _ := hear_eq hG hr
  generalize verdict? G r = v at hverdict hhear
  -- when there is a verdict the owner is due to go on
  have hready : ∀ {o}, v = some o →
      ({ M with queue := rest }.hear g y).standing? t = some (.ready (resumption next o)) := by
    rintro o rfl
    rw [hhear, howner]
    dsimp only
    rw [conclude_eq (L := M.noted rest g) h.standing]
    refine (standing?_place _ t t _).trans ((if_pos rfl).trans ?_)
    exact congrArg (Option.map _) h.standing
  cases hverdict with
  | closed hnot => cases hover.symm.trans hnot
  | more _ hgood =>
    have hnoted : (M.noted rest g).gatherings[g]? = some { G with missing := G.missing - 1 } := by
      rw [noted, Array.getElem?_modify, if_pos rfl, hG]
      rfl
    refine .inl (h.goOn hd hway he (hhear ▸ h.standing) (hhear ▸ ⟨_, hnoted, hmembers, hpatient⟩)
      fun hp y' s hturn => ?_)
    cases hturn
    obtain ⟨a, rfl⟩ := hgood.resolve_left (by rw [hpatient, hp]; nofun)
    rw [hr]
    nofun
  | @bad s _ hp hy hfailed =>
    subst hfailed
    refine .inr ⟨.error s, hready rfl, Meets.bad (x := y) (hpatient ▸ hp) ?_⟩
    rcases h.failed (hpatient ▸ hp) with hnone | ⟨x, s', hfirst, hx, q₁, q₂, hqueue, hok⟩
    · exact absurd hr (hnone y (hmembers ▸ hy) s)
    · cases q₁ with
      | nil =>
        cases hq.symm.trans hqueue
        cases hr.symm.trans hx
        exact hfirst.step he
      | cons first q =>
        cases hq.symm.trans hqueue
        obtain ⟨a, ha⟩ := hok y List.mem_cons_self
        cases hr.symm.trans ha
  | all _ hall =>
    have hin : AllIn M ts patient := by
      intro u hu
      obtain ⟨o, ho, hgood⟩ := hall u (hmembers ▸ hu)
      exact ⟨o, hc.finished_iff.2 ho, hpatient ▸ hgood⟩
    refine .inr ⟨_, hready rfl, ?_⟩
    split
    · rename_i hcancelling
      exact .stopped (fun _ => hin.step he) ((OnWay.last hway).step he) (.inr ⟨g, next, G, h.standing, hG, hcancelling⟩)
    · exact .good (hin.step he)

/-- While its turn has not come, the owner waits or is due to go on. -/
theorem Waits.passes {c : Crew I W} (hc : Enacted L c) (h : Waits m t ts patient next g L [] L)
    (hM : Passes m L es M) (hrests : ∀ e ∈ es, e.busy ≠ some t) : Waits m t ts patient next g L es M ∨
      ∃ o, M.standing? t = some (.ready (resumption next o)) ∧ Meets m t ts patient L es M o := by
  induction hM with
  | refl => exact .inl h
  | @step es e M N hM he ih =>
    obtain ⟨d, hd⟩ := hM.enacts ⟨c, hc⟩
    obtain ⟨d', hd'⟩ := he.follows hd
    have hb : e.busy ≠ some t := hrests e (List.mem_append_right _ List.mem_cons_self)
    rcases ih fun e' he' => hrests e' (List.mem_append_left _ he') with hwaits | ⟨o, hs, hmeets⟩
    · cases hhears : e.hears with
      | false => exact .inl (hwaits.quiet hd' hM he hhears hb)
      | true =>
        cases he with
        | @hear i y rest hq =>
          by_cases hi : i = g
          · subst hi
            exact hwaits.heard hd hM hq
          · obtain ⟨hs, hG⟩ := hear_apart hd hq hwaits.standing hi
            refine .inl (hwaits.goOn hd' hM (.hear hq) hs (hG ▸ hwaits.gathering) fun _ y' s hturn => absurd ?_ hi)
            cases hturn
            rfl
        | turn | stale | tick | tell | happen | start | set | note => cases hhears
    · exact .inr ⟨o, he.standing hs (.ready _) hb, hmeets.step he⟩

/-! ## The beginning of a gathering -/

omit [DecidableEq I.Signal] in
/-- A gathering that sees to it that it hears of its members watches those that have not ended. -/
theorem isWatched_attendAll (g : Nat) {y : TaskId} {s : Standing I} (hne : ∀ r, s ≠ .finished r) :
    ∀ {ts : List TaskId} {L : Loop I W}, y ∈ ts → L.standing? y = some s →
      (ts.foldl (fun L t => L.attend g t) L).IsWatched y (.gathering g) := by
  intro ts
  induction ts with
  | nil => exact nofun
  | cons u ts ih =>
    intro L hy hs
    rw [List.foldl_cons]
    rcases List.mem_cons.1 hy with rfl | hy
    · have hattend : (L.attend g y).IsWatched y (.gathering g) := by
        obtain ⟨e, he, rfl⟩ := Option.map_eq_some_iff.1 hs
        refine ⟨{ e with watchers := e.watchers ++ [.gathering g] }, ?_, List.mem_append_right _ List.mem_cons_self⟩
        rw [attend]
        split
        · rename_i r hr
          exact absurd (Option.some.inj (hs.symm.trans hr)) (hne r)
        · rw [watch, Array.getElem?_modify, if_pos rfl, he]
          rfl
      have hleaves : Leaves none false (L.attend g y) _ := .attendAll g ts
      exact hleaves.watched hattend
    · exact ih hy (((attended_attend g u L).standing y).trans hs)

/-- The task begins to wait. -/
theorem waits_exec (hs : L.standing? t = some .running) (hne : ts ≠ []) (hin : ∀ y ∈ ts, y < L.tasks.size)
    (hgood : patient = false → ∀ y ∈ ts, ∀ s, L.standing? y ≠ some (.finished (.error s))) :
    Waits m t ts patient next L.gatherings.size (exec m t (.gather ts patient next) L) []
      (exec m t (.gather ts patient next) L) := by
  obtain ⟨u, us, rfl⟩ := List.exists_cons_of_ne_nil hne
  have hexec : Leaves (some t) false L (exec m t (.gather (u :: us) patient next) L) := .exec m t _ hs
  have hconvene : Leaves none false L (L.convene t (u :: us) patient).1 := .convene t _ _
  let G : Gathering := { owner := t, members := u :: us, missing := (u :: us).length, patient := patient }
  have hattended := attended L.gatherings.size (u :: us) { L with gatherings := L.gatherings.push G }
  have hs' : (L.convene t (u :: us) patient).1.standing? t = some .running := hconvene.running hs
  have hsuspend : Leaves (some t) false (L.convene t (u :: us) patient).1 _ :=
    .suspend m hs' (.gathering L.gatherings.size next)
  have hwaits : (exec m t (.gather (u :: us) patient next) L).standing? t =
      some (.gathering L.gatherings.size next) := by
    obtain ⟨s', hs'', hrests⟩ := rests_suspend m hs' (.gathering L.gatherings.size next)
    exact hrests.of_steady (.gathering rfl _ next) ▸ hs''
  have hthere : ∀ y ∈ u :: us, ∃ s, L.standing? y = some s := fun y hy =>
    ⟨_, congrArg (Option.map Entry.standing) (Array.getElem?_eq_getElem (hin y hy))⟩
  refine ⟨hwaits, ?_, fun y hy => ?_, fun hp => .inl fun y hy s hfailed => ?_⟩
  · have hG : (L.convene t (u :: us) patient).1.gatherings[L.gatherings.size]? = some G :=
      (congrArg (·[L.gatherings.size]?) hattended.gatherings).trans Array.getElem?_push_size
    obtain ⟨G', hG', heq, -⟩ := hsuspend.gathering hG
    exact ⟨G', hG', by rw [heq rfl]; exact ⟨rfl, rfl⟩⟩
  · by_cases hr : ∃ r, L.standing? y = some (.finished r)
    · obtain ⟨r, hr⟩ := hr
      refine .inl ⟨r, hexec.standing hr (.finished r) ?_⟩
      rintro ⟨⟩
      cases hs.symm.trans hr
    · obtain ⟨s, hs⟩ := hthere y hy
      exact .inr (hsuspend.watched (isWatched_attendAll _ (fun r h => hr ⟨r, h ▸ hs⟩) hy hs))
  · obtain ⟨s', hs'⟩ := hthere y hy
    refine hgood hp y hy s (hexec.of_finished hs' hfailed ?_ ▸ hs')
    rintro ⟨⟩
    cases hwaits.symm.trans hfailed

/-! ## A task meets with the ends of others -/

theorem Meets.allIn (h : Meets m t ts true L es M o) : AllIn M ts true := by
  cases h with
  | good h => exact h
  | bad hp => cases hp
  | stopped hp => exact hp rfl

/-- In its next turn a task that has begun to wait for others goes on with what it meets with. -/
theorem ComesTo.meets (h : ComesTo m t (.gather ts patient next) L) (hne : ts ≠ []) (hin : ∀ y ∈ ts, y < L.tasks.size)
    (hgood : patient = false → ∀ y ∈ ts, ∀ s, L.standing? y ≠ some (.finished (.error s)))
    {p : Program I I.Result} (hM : TakesUp m t (exec m t (.gather ts patient next) L) es M p N) :
    ∃ o, p = next o ∧ Meets m t ts patient (exec m t (.gather ts patient next) L) es M o := by
  obtain ⟨c, hc⟩ := h.arises.enacts
  cases hM with
  | @intro rest resume isCancelling watchers hM hrests hq ht =>
    have hs : M.standing? t = some (.ready resume) := by
      rw [standing?, ht]
      rfl
    rcases (waits_exec h.running hne hin hgood).passes hc hM hrests with hwaits | ⟨o, ho, hmeets⟩
    · cases hs.symm.trans hwaits.standing
    · cases hs.symm.trans ho
      cases isCancelling with
      | false => exact ⟨o, rfl, hmeets⟩
      | true =>
        refine ⟨.error .cancelled, rfl, .stopped (fun hp => ?_) (.last hM) (.inl ?_)⟩
        · subst hp
          exact hmeets.allIn
        · rw [isTold, ht]
          rfl

theorem TakesUp.comesTo {p : Program I I.Result} (h : TakesUp m t L es M p N) (hL : Arises m L) : ComesTo m t p N := by
  cases h with
  | intro h _ hq ht => exact .turn (hL.passes h) hq ht

/-! ## Turn after turn -/

/-- It is the turn of the task, and it can go on. -/
def isDue (L : Loop I W) (t : TaskId) : Bool :=
  match L.queue, L.standing? t with
  | .resume u :: _, some (.ready _) => u == t
  | _, _ => false

/-- Takes so many turns at most until it is the turn of the task. -/
def lull (m : Machine I W) (t : TaskId) : (turns : Nat) → Loop I W → Option (Loop I W)
  | 0, _ => none
  | n + 1, L => if L.isDue t then some L else (L.turn? m).bind (lull m t n)

omit [DecidableEq I.Signal] in
theorem isDue_iff : L.isDue t = true ↔ ∃ rest resume isCancelling watchers,
    L.queue = .resume t :: rest ∧ L.tasks[t]? = some ⟨.ready resume, isCancelling, watchers⟩ := by
  constructor
  · intro h
    rw [isDue] at h
    split at h
    · rename_i u rest resume hq hs
      obtain rfl := eq_of_beq h
      obtain ⟨⟨s, isCancelling, watchers⟩, he, rfl⟩ := Option.map_eq_some_iff.1 hs
      exact ⟨rest, resume, isCancelling, watchers, hq, he⟩
    · cases h
  · rintro ⟨rest, resume, isCancelling, watchers, hq, he⟩
    rw [isDue, standing?, hq, he]
    exact beq_self_eq_true t

/-- Until it is the turn of the task, the loop passes without one. -/
theorem passes_lull {n : Nat} : ∀ {L : Loop I W}, L.lull m t n = some M → M.isDue t = true ∧ ∃ es,
    Passes m L es M ∧ ∀ e ∈ es, e.busy ≠ some t := by
  induction n with
  | zero => exact nofun
  | succ n ih =>
    intro L h
    rw [lull] at h
    split at h
    · rename_i hdue
      cases h
      exact ⟨hdue, [], .refl, nofun⟩
    · rename_i hnot
      obtain ⟨K, hK, hM⟩ := Option.bind_eq_some_iff.1 h
      obtain ⟨hdue, es, hpasses, hrests⟩ := ih hM
      obtain ⟨e, he⟩ := exists_next_of_turn? hK
      refine ⟨hdue, e :: es, (Passes.refl.step he).trans hpasses, List.forall_mem_cons.2 ⟨fun hb => hnot ?_, hrests⟩⟩
      cases he with
      | turn hq ht =>
        cases hb
        exact isDue_iff.2 ⟨_, _, _, _, hq, ht⟩
      | stale | hear | tick | tell | happen | start | set | note => cases hb

theorem exists_takesUp {n : Nat} (h : L.lull m t n = some M) : ∃ es p B,
    TakesUp m t L es M p B ∧ M.turn? m = some (exec m t p B) := by
  obtain ⟨hdue, es, hpasses, hrests⟩ := passes_lull h
  obtain ⟨rest, resume, isCancelling, watchers, hq, ht⟩ := isDue_iff.1 hdue
  refine ⟨es, _, _, .intro hpasses hrests hq ht, ?_⟩
  rw [turn?, hq, ← resume_of_ready ht]
  rfl

end BrowserPlan.Task.Loop
