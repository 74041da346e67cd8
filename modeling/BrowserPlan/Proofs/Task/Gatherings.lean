import BrowserPlan.Proofs.Task.Ends

/-!
# Gatherings in a task loop

A gathering begins with all the ends of its tasks outstanding (`Enacts.gather`) and hears of one after the
other. When it has heard of all, or of one that has ended badly, its owner goes on as the member does that
waits for them all (`Enacts.hear`).
-/
namespace BrowserPlan.Task.Loop

variable {I : Interface} {W : Type} {m : Machine I W} {outside : I.Call → Prop} {tellable : TaskId → Prop}
  {L M N : Loop I W} {c : Crew I W} {t u : TaskId} {g : Nat} {e : Entry I} {x : Member I} {ts : List TaskId}

/-! ## The beginning of a gathering -/

/-- `M` comes of `L` when the gathering `g` sees to it that it hears of the ends of `ts`. -/
structure Attended (g : Nat) (ts : List TaskId) (L M : Loop I W) : Prop where
  world : M.world = L.world
  size : M.tasks.size = L.tasks.size
  gatherings : M.gatherings = L.gatherings
  timers : M.timers = L.timers
  tasks : ∀ {u : TaskId} {e' : Entry I}, M.tasks[u]? = some e' → ∃ e : Entry I, L.tasks[u]? = some e ∧
    e'.standing = e.standing ∧ e'.isCancelling = e.isCancelling ∧ ∀ v, .task v ∈ e'.watchers → .task v ∈ e.watchers
  due : ∀ i u, M.due i u ≤ L.due i u + if g = i then ts.count u else 0
  hears : ∀ {i u}, .hear i u ∈ M.queue → .hear i u ∈ L.queue ∨ ∃ r, L.standing? u = some (.finished r)

theorem Attended.standing (h : Attended g ts L M) (u : TaskId) : M.standing? u = L.standing? u := by
  rw [standing?, standing?]
  by_cases hlt : u < M.tasks.size
  · obtain ⟨e, he, hs, -⟩ := h.tasks (Array.getElem?_eq_getElem hlt)
    rw [Array.getElem?_eq_getElem hlt, he]
    exact congrArg some hs
  · rw [Array.getElem?_eq_none (Nat.le_of_not_lt hlt), Array.getElem?_eq_none (h.size ▸ Nat.le_of_not_lt hlt)]

theorem attended_nil (g : Nat) (L : Loop I W) : Attended g [] L L :=
  ⟨rfl, rfl, rfl, rfl, fun he => ⟨_, he, rfl, rfl, fun _ => id⟩, fun _ _ => Nat.le_add_right _ _, .inl⟩

theorem Attended.append {ts' : List TaskId} (h : Attended g ts L M) (h' : Attended g ts' M N) :
    Attended g (ts ++ ts') L N where
  world := h'.world.trans h.world
  size := h'.size.trans h.size
  gatherings := h'.gatherings.trans h.gatherings
  timers := h'.timers.trans h.timers
  tasks he := by
    obtain ⟨e', he', hs', hc', hw'⟩ := h'.tasks he
    obtain ⟨e, he, hs, hc, hw⟩ := h.tasks he'
    exact ⟨e, he, hs'.trans hs, hc'.trans hc, fun v hv => hw v (hw' v hv)⟩
  due i u := by
    have hfirst := h.due i u
    have hsecond := h'.due i u
    rw [List.count_append]
    split at hfirst <;> split at hsecond <;> simp_all <;> omega
  hears hin := by
    rcases h'.hears hin with hin | ⟨r, hr⟩
    · exact h.hears hin
    · exact .inr ⟨r, h.standing _ ▸ hr⟩

theorem attended_attend (g : Nat) (t : TaskId) (L : Loop I W) : Attended g [t] L (L.attend g t) := by
  have hcount : ∀ i u, (if (Turn.hear g t == Turn.hear i u) = true then 1 else 0) =
      if g = i then [t].count u else 0 := by
    intro i u
    rw [List.count_singleton]
    by_cases hi : g = i <;> by_cases hu : t = u <;> simp [hi, hu]
  rw [attend]
  split
  · rename_i r hs
    refine ⟨rfl, rfl, rfl, rfl, fun he => ⟨_, he, rfl, rfl, fun _ => id⟩, fun i u => ?_, fun hin => ?_⟩
    · change (L.queue ++ [Turn.hear g t]).count _ + _ ≤ _
      rw [List.count_append, List.count_singleton, hcount, due, Nat.add_right_comm]
      exact Nat.le_refl _
    · rcases List.mem_append.1 hin with hin | hin
      · exact .inl hin
      · cases List.mem_singleton.1 hin
        exact .inr ⟨r, hs⟩
  · have htasks : ∀ u, (L.watch t (.gathering g)).tasks[u]? = if t = u then (L.tasks[u]?).map fun e =>
        { e with watchers := e.watchers ++ [.gathering g] } else L.tasks[u]? := fun u => Array.getElem?_modify
    refine ⟨rfl, Array.size_modify, rfl, rfl, fun {u e'} he => ?_, fun i u => ?_, .inl⟩
    · rw [htasks] at he
      split at he
      · obtain ⟨e, he₀, rfl⟩ := Option.map_eq_some_iff.1 he
        exact ⟨e, he₀, rfl, rfl, fun v hv => (List.mem_append.1 hv).resolve_right (by simp)⟩
      · exact ⟨e', he, rfl, rfl, fun _ => id⟩
    · rw [due, due, htasks, Nat.add_assoc]
      refine Nat.add_le_add_left ?_ _
      split
      · rename_i htu
        subst htu
        cases L.tasks[t]? with
        | none => exact Nat.zero_le _
        | some e =>
          change (if isUnfinished e then (e.watchers ++ [Watcher.gathering g]).count _ else 0) ≤
            (if isUnfinished e then _ else 0) + _
          rw [List.count_append]
          by_cases hg : g = i <;> split <;> simp [hg]
      · exact Nat.le_add_right _ _

theorem attended (g : Nat) (ts : List TaskId) : ∀ L : Loop I W,
    Attended g ts L (ts.foldl (fun L t => L.attend g t) L) := by
  induction ts with
  | nil => exact attended_nil g
  | cons t ts ih => exact fun L => (attended_attend g t L).append (ih _)

theorem isUnfinished_iff : isUnfinished e = true ↔ ∀ r, e.standing ≠ .finished r := by
  rw [isUnfinished]
  cases e.standing <;> simp

/-- Where a task stands does not matter to gatherings unless it ends. -/
theorem due_place {s₀ s : Standing I} (hs₀ : L.standing? t = some s₀) (h₀ : ∀ r, s₀ ≠ .finished r)
    (h : ∀ r, s ≠ .finished r) (i : Nat) (u : TaskId) : (L.place t s).due i u = L.due i u := by
  refine congrArg (L.queue.count (.hear i u) + Option.getD · 0) ?_
  rw [place, Array.getElem?_modify]
  split
  · rename_i htu
    subst htu
    obtain ⟨e, he, rfl⟩ := Option.map_eq_some_iff.1 hs₀
    rw [he, Option.map_some, Option.map_some, Option.map_some, owes, owes, isUnfinished_iff.2 h₀, isUnfinished_iff.2 h]
  · rfl

section
variable {patient : Bool} {next : Outcome I.Fault Unit → Program I I.Result} (hs : L.standing? t = some .running)
  (hM : Attended L.gatherings.size ts
    { L with gatherings := L.gatherings.push { owner := t, members := ts, missing := ts.length, patient := patient } } M)
include hs hM

theorem standing_owner : (M.place t (.gathering L.gatherings.size next)).standing? t =
    some (.gathering L.gatherings.size next) := by
  rw [standing?_place, if_pos rfl, hM.standing]
  exact congrArg (Option.map _) hs

theorem standing_others {s : Standing I} (hu : L.standing? u = some s) (hne : s ≠ .running) :
    (M.place t (.gathering L.gatherings.size next)).standing? u = some s := by
  rw [standing?_place, if_neg, hM.standing]
  · exact hu
  · rintro rfl
    exact hne (Option.some.inj (hu.symm.trans hs))

/-- What is outstanding when a gathering has begun. -/
theorem due_attended (i : Nat) (u : TaskId) : (M.place t (.gathering L.gatherings.size next)).due i u ≤
    L.due i u + if L.gatherings.size = i then ts.count u else 0 := by
  rw [due_place (s := .gathering L.gatherings.size next) ((hM.standing t).trans hs) (by simp) (by simp) i u]
  exact hM.due i u

omit hs in
/-- Where the tasks come from when a gathering has begun. -/
theorem exists_attended {e' : Entry I}
    (he' : (M.place t (.gathering L.gatherings.size next)).tasks[u]? = some e') : ∃ e₀ : Entry I,
      L.tasks[u]? = some e₀ ∧ e'.isCancelling = e₀.isCancelling ∧ (∀ v, .task v ∈ e'.watchers → .task v ∈ e₀.watchers) ∧
        (u = t ∧ e'.standing = .gathering L.gatherings.size next ∨ e'.standing = e₀.standing) := by
  rw [place, Array.getElem?_modify] at he'
  split at he'
  · rename_i htu
    obtain ⟨e₁, he₁, rfl⟩ := Option.map_eq_some_iff.1 he'
    obtain ⟨e₀, he₀, -, hc, hw⟩ := hM.tasks he₁
    exact ⟨e₀, he₀, hc, hw, .inl ⟨htu.symm, rfl⟩⟩
  · obtain ⟨e₀, he₀, hstanding, hc, hw⟩ := hM.tasks he'
    exact ⟨e₀, he₀, hc, hw, .inr hstanding⟩

/-- When a gathering sees to it that it hears of all its tasks, its owner waits for them. -/
theorem enacts_attended (h : Enacts outside tellable L c) (hx : c.members[t]? = some x)
    (hrest : x.rest = .gather ts patient next) :
    Enacts outside tellable (M.place t (.gathering L.gatherings.size next)) c := by
  have hself : (M.place t (.gathering L.gatherings.size next)).standing? t =
    some (.gathering L.gatherings.size next) := standing_owner hs hM
  have hdue : ∀ i u, (M.place t (.gathering L.gatherings.size next)).due i u ≤
    L.due i u + if L.gatherings.size = i then ts.count u else 0 := due_attended hs hM
  constructor
  case world => exact hM.world.trans h.world
  case size =>
    rw [place, Array.size_modify, hM.size]
    exact h.size
  case fits =>
    intro u e' y he' hy
    obtain ⟨e₀, he₀, hc, -, hstanding⟩ := exists_attended hM he'
    obtain ⟨hfits, htold⟩ := h.fits he₀ hy
    refine ⟨?_, fun hcancelling => htold (hc ▸ hcancelling)⟩
    rcases hstanding with ⟨rfl, hstanding⟩ | hstanding
    · rw [hstanding]
      exact .gathering (h.goes hs (by simp) hy)
    · rw [hstanding]
      exact hfits
  case watched =>
    intro u e' v he' hun hv
    obtain ⟨e₀, he₀, -, hw, hstanding⟩ := exists_attended hM he'
    have hun₀ : isUnfinished e₀ = true := by
      rcases hstanding with ⟨rfl, -⟩ | hstanding
      · rw [standing?, he₀] at hs
        exact isUnfinished_iff.2 fun r hr => by cases hr.symm.trans (Option.some.inj hs)
      · rwa [isUnfinished_iff, hstanding, ← isUnfinished_iff] at hun
    obtain ⟨next', hv⟩ := h.watched he₀ hun₀ (hw v hv)
    exact ⟨next', standing_others hs hM hv (by simp)⟩
  case gathering =>
    intro u i next' hu
    change ∃ G, M.gatherings[i]? = some G ∧ _
    rw [hM.gatherings, Array.getElem?_push]
    by_cases htu : t = u
    · subst htu
      cases hself.symm.trans hu
      exact ⟨_, if_pos rfl, rfl, rfl⟩
    · rw [standing?_place, if_neg htu, hM.standing] at hu
      obtain ⟨G, hG, hover, howner⟩ := h.gathering hu
      have hlt : i < L.gatherings.size := (Array.getElem?_eq_some_iff.1 hG).1
      exact ⟨G, (if_neg (Nat.ne_of_lt hlt)).trans hG, hover, howner⟩
  case gathers =>
    intro i G hG hover
    change M.gatherings[i]? = some G at hG
    rw [hM.gatherings, Array.getElem?_push] at hG
    split at hG
    · rename_i hi
      subst hi
      obtain rfl := Option.some.inj hG
      refine ⟨⟨next, x, hself, hx, hrest, by simp⟩, ts, rfl, fun _ hu => hu, fun u => ?_, fun u hu hn => absurd hu hn⟩
      have hle := hdue L.gatherings.size u
      rwa [h.fresh (Nat.le_refl _), Nat.zero_add, if_pos rfl] at hle
    · rename_i hi
      obtain ⟨⟨next', y, hy, howner⟩, us, hus⟩ := h.gathers hG hover
      refine ⟨⟨next', y, standing_others hs hM hy (by simp), howner⟩, us, hus.length, hus.mem, fun u => ?_, hus.heard⟩
      have hle := hdue i u
      rw [if_neg (Ne.symm hi), Nat.add_zero] at hle
      exact Nat.le_trans hle (hus.due u)
  case fresh =>
    intro i u hi
    change M.gatherings.size ≤ i at hi
    rw [hM.gatherings, Array.size_push] at hi
    have hle := hdue i u
    rw [if_neg (Nat.ne_of_lt hi), h.fresh (Nat.le_of_succ_le hi)] at hle
    exact Nat.le_zero.1 hle
  case ended =>
    intro i u hin
    rcases hM.hears hin with hin | ⟨r, hr⟩
    · exact (h.ended hin).imp fun r hr => standing_others hs hM hr (by simp)
    · exact ⟨r, standing_others hs hM hr (by simp)⟩
  case timers => exact fun r hr => h.timers r (hM.timers ▸ hr : r ∈ L.timers)

end

/-- A task begins to wait for several others. -/
theorem Enacts.gather (h : Enacts outside tellable L c) (hs : L.standing? t = some .running)
    (hx : c.members[t]? = some x) {patient : Bool} {next : Outcome I.Fault Unit → Program I I.Result}
    (hrest : x.rest = .gather ts patient next) :
    Enacts outside tellable ((L.convene t ts patient).1.place t (.gathering L.gatherings.size next)) c :=
  enacts_attended hs (attended L.gatherings.size ts _) h hx hrest

/-! ## What a gathering hears -/

theorem conclude_eq {owner : TaskId} {i : Nat} {next : Outcome I.Fault Unit → Program I I.Result}
    (hs : L.standing? owner = some (.gathering i next)) {r : Outcome I.Fault Unit} : L.conclude g owner r =
      wake { L with gatherings := L.gatherings.modify g fun e => { e with isOver := true } } owner (resumption next r) := by
  unfold Loop.conclude
  have hs' : standing? { L with gatherings := L.gatherings.modify g fun e => { e with isOver := true } } owner =
    some (.gathering i next) := hs
  dsimp only
  rw [hs']

/-- A gathering takes note of an end. -/
def noted (L : Loop I W) (rest : List Turn) (g : Nat) : Loop I W :=
  { L with queue := rest, gatherings := L.gatherings.modify g fun e => { e with missing := e.missing - 1 } }

/-- How the owner of a gathering that hears of the end `r` goes on, if it does. -/
def verdict? (G : Gathering) (r : Outcome I.Fault I.Result) : Option (Outcome I.Fault Unit) :=
  if G.isOver then none
  else
    match G.patient, r with
    | false, .error s => some (.error s)
    | _, _ => if G.missing - 1 = 0 then some (if G.isCancelling then .error .cancelled else .ok ()) else none

theorem hear_eq {rest : List Turn} {G : Gathering} {r : Outcome I.Fault I.Result} (hG : L.gatherings[g]? = some G)
    (hs : L.standing? t = some (.finished r)) : { L with queue := rest }.hear g t =
      match verdict? G r with
      | none => L.noted rest g
      | some o => (L.noted rest g).conclude g G.owner o := by
  have hG' : (L.gatherings.modify g fun e => { e with missing := e.missing - 1 })[g]? =
      some { G with missing := G.missing - 1 } := by
    rw [Array.getElem?_modify, if_pos rfl, hG]
    rfl
  have hs' : standing? { L with
      queue := rest, gatherings := L.gatherings.modify g fun e => { e with missing := e.missing - 1 } } t =
        some (.finished r) := hs
  rw [Loop.hear, verdict?.eq_def]
  dsimp only
  rw [hG', hs']
  dsimp only
  split
  · rfl
  · cases G.patient <;> cases r <;> dsimp only <;> first | rfl | (split <;> rfl)

section
variable {rest : List Turn} {G : Gathering} (h : Enacts outside tellable L c) (hq : L.queue = .hear g t :: rest)
include hq

theorem due_heard (i : Nat) (u : TaskId) :
    L.due i u = { L with queue := rest }.due i u + if g = i ∧ t = u then 1 else 0 := by
  rw [due, due, hq, List.count_cons, Nat.add_right_comm]
  by_cases hi : g = i <;> by_cases hu : t = u <;> simp [hi, hu]

theorem due_heard_le (i : Nat) (u : TaskId) : { L with queue := rest }.due i u ≤ L.due i u := by
  rw [due_heard hq]
  exact Nat.le_add_right _ _

/-- The end that was heard of is no longer outstanding. -/
theorem Outstanding.next {r : Outcome I.Fault I.Result} (hts : Outstanding L c g G ts) (hr : c.result? t = some r)
    (hgood : G.patient = true ∨ ∃ a, r = .ok a) :
    Outstanding { L with queue := rest } c g { G with missing := G.missing - 1 } (ts.erase t) := by
  have hin : t ∈ ts := by
    refine List.count_pos_iff.1 (Nat.lt_of_lt_of_le ?_ (hts.due t))
    rw [due_heard hq, if_pos ⟨rfl, rfl⟩]
    exact Nat.succ_pos _
  refine ⟨?_, fun u hu => hts.mem u (List.mem_of_mem_erase hu), fun u => ?_, fun u hu hn => ?_⟩
  · rw [List.length_erase_of_mem hin, hts.length]
  · have hle := hts.due u
    rw [due_heard hq] at hle
    rw [List.count_erase]
    by_cases htu : t = u
    · rw [if_pos ⟨rfl, htu⟩] at hle
      rw [if_pos (beq_iff_eq.2 htu)]
      exact Nat.le_sub_of_add_le hle
    · rw [if_neg fun hand => htu hand.2] at hle
      rw [if_neg fun heq => htu (beq_iff_eq.1 heq)]
      exact hle
  · by_cases htu : u = t
    · exact ⟨r, htu ▸ hr, hgood⟩
    · exact hts.heard u hu fun hin => hn ((List.mem_erase_of_ne htu).2 hin)

include h

/-- A gathering that hears of the end of a task is there. -/
theorem exists_gathering : ∃ G, L.gatherings[g]? = some G := by
  have hlt : g < L.gatherings.size := by
    refine Nat.lt_of_not_le fun hle => ?_
    have hdue := due_heard hq g t
    rw [h.fresh hle, if_pos ⟨rfl, rfl⟩] at hdue
    exact absurd hdue.symm (Nat.succ_ne_zero _)
  exact ⟨_, Array.getElem?_eq_getElem hlt⟩

/-- A gathering has heard of an end and goes on to wait, or it was over. -/
theorem enacts_heard (hG : L.gatherings[g]? = some G)
    (hout : G.isOver = false → ∃ ts, Outstanding { L with queue := rest } c g { G with missing := G.missing - 1 } ts) :
    Enacts outside tellable { L with
      queue := rest, gatherings := L.gatherings.modify g fun e => { e with missing := e.missing - 1 } } c := by
  have hgatherings : ∀ i, (L.gatherings.modify g fun e => { e with missing := e.missing - 1 })[i]? =
      if g = i then (L.gatherings[i]?).map fun e => { e with missing := e.missing - 1 } else L.gatherings[i]? :=
    fun i => Array.getElem?_modify
  constructor
  case world => exact h.world
  case size => exact h.size
  case fits => exact h.fits
  case watched => exact h.watched
  case gathering =>
    intro u i next hs
    obtain ⟨G', hG', hover, howner⟩ := h.gathering hs
    rw [hgatherings]
    split
    · refine ⟨{ G' with missing := G'.missing - 1 }, ?_, hover, howner⟩
      rw [hG']
      rfl
    · exact ⟨G', hG', hover, howner⟩
  case gathers =>
    intro i G' hG' hover
    change (L.gatherings.modify g _)[i]? = some G' at hG'
    rw [hgatherings] at hG'
    split at hG'
    · rename_i hi
      subst hi
      rw [hG] at hG'
      obtain rfl := Option.some.inj hG'
      obtain ⟨⟨next, x, hs, hx⟩, -⟩ := h.gathers hG hover
      obtain ⟨ts, hts⟩ := hout hover
      exact ⟨⟨next, x, hs, hx⟩, ts, hts.length, hts.mem, hts.due, hts.heard⟩
    · obtain ⟨howner, ts, hts⟩ := h.gathers hG' hover
      exact ⟨howner, ts, hts.length, hts.mem, fun u => Nat.le_trans (due_heard_le hq i u) (hts.due u), hts.heard⟩
  case fresh =>
    intro i u hi
    have hi : L.gatherings.size ≤ i := by simpa using hi
    have hle := due_heard_le hq i u
    rw [h.fresh hi] at hle
    exact Nat.le_zero.1 hle
  case ended =>
    intro i u hin
    exact h.ended (hq ▸ List.mem_cons_of_mem _ hin)
  case timers => exact h.timers

/-- A gathering is over, and its owner has its turn. -/
theorem enacts_dismissed (hG : L.gatherings[g]? = some G) (hover : G.isOver = false) {f : Gathering → Gathering}
    (hf : (f G).isOver = true) : Enacts outside tellable (place { L with
      queue := rest, gatherings := L.gatherings.modify g f } G.owner .running) c := by
  obtain ⟨⟨next, x, hs, -⟩, -⟩ := h.gathers hG hover
  have hothers : ∀ {u s}, L.standing? u = some s → (∀ next, s ≠ .gathering g next) → (place { L with
      queue := rest, gatherings := L.gatherings.modify g f } G.owner .running).standing? u = some s := by
    intro u s hu hne
    rw [standing?_place, if_neg]
    · exact hu
    · rintro rfl
      exact hne next (Option.some.inj (hu.symm.trans hs))
  have hdue : ∀ i u, (place { L with queue := rest, gatherings := L.gatherings.modify g f } G.owner .running).due i u ≤
      L.due i u := fun i u => Nat.le_trans (Nat.le_of_eq (due_place
    (L := { L with queue := rest, gatherings := L.gatherings.modify g f }) (s := .running) hs (by simp) (by simp) i u))
      (due_heard_le hq i u)
  have hgatherings : ∀ {i}, i ≠ g → (L.gatherings.modify g f)[i]? = L.gatherings[i]? := fun hi =>
    Array.getElem?_modify.trans (if_neg (Ne.symm hi))
  constructor
  case world => exact h.world
  case size =>
    rw [place, Array.size_modify]
    exact h.size
  case fits =>
    intro u e' y he' hy
    rw [place, Array.getElem?_modify] at he'
    split at he'
    · rename_i hu
      subst hu
      obtain ⟨e₀, he₀, rfl⟩ := Option.map_eq_some_iff.1 he'
      exact ⟨.running (h.goes hs (by simp) hy), (h.fits he₀ hy).2⟩
    · exact h.fits he' hy
  case watched =>
    intro u e' v he' hun hv
    obtain ⟨e₀, he₀, hwatchers, hun₀⟩ : ∃ e₀ : Entry I, L.tasks[u]? = some e₀ ∧ e'.watchers = e₀.watchers ∧
        isUnfinished e₀ = true := by
      rw [place, Array.getElem?_modify] at he'
      split at he'
      · rename_i hu
        subst hu
        obtain ⟨e₀, he₀, rfl⟩ := Option.map_eq_some_iff.1 he'
        rw [standing?, he₀] at hs
        exact ⟨e₀, he₀, rfl, isUnfinished_iff.2 fun r hr => by cases hr.symm.trans (Option.some.inj hs)⟩
      · exact ⟨e', he', rfl, hun⟩
    obtain ⟨next', hv⟩ := h.watched he₀ hun₀ (hwatchers ▸ hv)
    exact ⟨next', hothers hv (by simp)⟩
  case gathering =>
    intro u i next' hu
    rw [standing?_place] at hu
    split at hu
    · change (L.standing? u).map _ = _ at hu
      cases hstanding : L.standing? u <;> rw [hstanding] at hu <;> cases hu
    · rename_i hne
      obtain ⟨G', hG', hover', howner⟩ := h.gathering hu
      refine ⟨G', (hgatherings ?_).trans hG', hover', howner⟩
      rintro rfl
      obtain rfl := Option.some.inj (hG.symm.trans hG')
      exact hne howner
  case gathers =>
    intro i G' hG' hover'
    have hi : i ≠ g := by
      rintro rfl
      change (L.gatherings.modify i f)[i]? = some G' at hG'
      rw [Array.getElem?_modify, if_pos rfl, hG, Option.map_some] at hG'
      rw [← Option.some.inj hG', hf] at hover'
      cases hover'
    obtain ⟨⟨next', y, hy, howner⟩, ts, hts⟩ := h.gathers ((hgatherings hi).symm.trans hG') hover'
    have hkept := hothers hy (by rintro _ ⟨⟩; exact hi rfl)
    exact ⟨⟨next', y, hkept, howner⟩, ts, hts.length, hts.mem, fun u => Nat.le_trans (hdue i u) (hts.due u), hts.heard⟩
  case fresh =>
    intro i u hi
    have hi : L.gatherings.size ≤ i := by simpa [place] using hi
    have hle := hdue i u
    rw [h.fresh hi] at hle
    exact Nat.le_zero.1 hle
  case ended =>
    intro i u hin
    obtain ⟨r, hr⟩ := h.ended (hq ▸ List.mem_cons_of_mem _ hin)
    exact ⟨r, hothers hr (by simp)⟩
  case timers => exact h.timers

/-- A gathering goes on, as the member does that waits for all its tasks. -/
theorem enacts_conclude (hG : L.gatherings[g]? = some G) (hover : G.isOver = false) {r : Outcome I.Fault Unit}
    (hr : c.Offers (.meet G.members G.patient r) ∨ r = .error .cancelled ∧ G.isCancelling = true ∧
      ∃ o, c.Offers (.meet G.members G.patient o)) :
    Follows m outside tellable c (Loop.conclude { L with
      queue := rest, gatherings := L.gatherings.modify g fun e => { e with missing := e.missing - 1 } } g G.owner r) := by
  obtain ⟨⟨next, x, hs, hx, hrest, htold⟩, -⟩ := h.gathers hG hover
  have hgoes := h.goes hs (by simp) hx
  let f : Gathering → Gathering := fun e => { e with missing := e.missing - 1, isOver := true }
  have hwake : Loop.conclude { L with
      queue := rest, gatherings := L.gatherings.modify g fun e => { e with missing := e.missing - 1 } } g G.owner r =
        wake { L with queue := rest, gatherings := L.gatherings.modify g f } G.owner (resumption next r) := by
    have hmodify : (L.gatherings.modify g fun e => { e with missing := e.missing - 1 }).modify g
        (fun e => { e with isOver := true }) = L.gatherings.modify g f := modify_modify ..
    refine (conclude_eq (L := { L with
      queue := rest, gatherings := L.gatherings.modify g fun e => { e with missing := e.missing - 1 } }) hs).trans ?_
    dsimp only
    rw [hmodify]
  have hover := enacts_dismissed h hq hG hover (f := f) rfl
  have hrun : (place { L with queue := rest, gatherings := L.gatherings.modify g f } G.owner .running).standing?
      G.owner = some .running := by
    rw [standing?_place, if_pos rfl]
    exact congrArg (Option.map _) hs
  have hdoes : ∀ o, x.rest.Does (.meet G.members G.patient o) (next o) := fun o => hrest ▸ .meet _ _ next o
  rw [hwake]
  rcases hr with hr | ⟨rfl, hcancelling, o, ho⟩
  · rw [← wake_place _ _ .running]
    refine (hover.wake hrun .running fun y hy => ?_).follows
    obtain rfl := Option.some.inj (hx.symm.trans hy)
    exact .ready hgoes (.of_resumption (Deed.meet G.members G.patient) hdoes rfl hr)
  · have hstep : Crew.Step m outside c (.act G.owner (.meet G.members G.patient (.error .cancelled)))
        (c.goOn G.owner (next (.error .cancelled))) :=
      .act hx hgoes (hdoes _) (.late (htold hcancelling) ho rfl)
    exact (hover.giveWay hrun next).follows.after_step hstep nofun

omit h hq in
/-- What lies behind the verdict of the gathering `g`, which is `G`, when it hears that the task `t` has ended
with `r`. -/
inductive Verdict (L : Loop I W) (c : Crew I W) (rest : List Turn) (g : Nat) (G : Gathering) (t : TaskId)
    (r : Outcome I.Fault I.Result) : Option (Outcome I.Fault Unit) → Prop where
  | closed (hover : G.isOver = true) : Verdict L c rest g G t r none
  | more (hover : G.isOver = false) (hgood : G.patient = true ∨ ∃ a, r = .ok a) {ts}
    (hts : Outstanding { L with queue := rest } c g { G with missing := G.missing - 1 } ts) :
    Verdict L c rest g G t r none
  | bad {s} (hover : G.isOver = false) (hp : G.patient = false) (ht : t ∈ G.members) (hr : r = .error s) :
    Verdict L c rest g G t r (some (.error s))
  | all (hover : G.isOver = false)
    (hall : ∀ u ∈ G.members, ∃ o, c.result? u = some o ∧ (G.patient = true ∨ ∃ a, o = .ok a)) :
    Verdict L c rest g G t r (some (if G.isCancelling then .error .cancelled else .ok ()))

omit h hq in
theorem Verdict.not_over {r : Outcome I.Fault I.Result} {o : Outcome I.Fault Unit}
    (hverdict : Verdict L c rest g G t r (some o)) : G.isOver = false := by
  cases hverdict with
  | bad hover => exact hover
  | all hover => exact hover

theorem exists_verdict : ∃ G r, L.gatherings[g]? = some G ∧ L.standing? t = some (.finished r) ∧
    Verdict L c rest g G t r (verdict? G r) := by
  obtain ⟨G, hG⟩ := exists_gathering h hq
  obtain ⟨r, hs⟩ := h.ended (hq ▸ List.mem_cons_self)
  have hr := h.finished_iff.1 hs
  refine ⟨G, r, hG, hs, ?_⟩
  rw [verdict?.eq_def]
  split
  · exact .closed ‹_›
  · rename_i hover
    replace hover := Bool.eq_false_iff.2 hover
    obtain ⟨-, ts, hts⟩ := h.gathers hG hover
    have hin : t ∈ G.members := by
      refine hts.mem t (List.count_pos_iff.1 (Nat.lt_of_lt_of_le ?_ (hts.due t)))
      rw [due_heard hq, if_pos ⟨rfl, rfl⟩]
      exact Nat.succ_pos _
    -- the end that was heard of lets the gathering go on
    have hgood : (G.patient = true ∨ ∃ a, r = .ok a) → Verdict L c rest g G t r
        (if G.missing - 1 = 0 then some (if G.isCancelling then .error .cancelled else .ok ()) else none) := by
      intro hgood
      have hnext := hts.next hq hr hgood
      split
      · rename_i hzero
        exact .all hover fun u hu =>
          hnext.heard u hu (by rw [List.eq_nil_of_length_eq_zero (hnext.length.trans hzero)]; exact List.not_mem_nil)
      · exact .more hover hgood hnext
    cases hp : G.patient with
    | true => exact hgood (.inl hp)
    | false =>
      cases r with
      | ok a => exact hgood (.inr ⟨a, rfl⟩)
      | error s => exact .bad hover hp hin rfl

/-- A gathering hears of the end of one of its tasks. -/
theorem Enacts.hear : Follows m outside tellable c ({ L with queue := rest }.hear g t) := by
  obtain ⟨G, r, hG, hs, hverdict⟩ := exists_verdict h hq
  rw [hear_eq hG hs]
  generalize verdict? G r = o at hverdict
  cases hverdict with
  | closed hover => exact (enacts_heard h hq hG fun hnot => absurd (hover.symm.trans hnot) nofun).follows
  | more hover hgood hts => exact (enacts_heard h hq hG fun _ => ⟨_, hts⟩).follows
  | bad hover hp ht hr =>
    exact enacts_conclude h hq hG hover (.inl (hp ▸ .bad ht (hr ▸ h.finished_iff.1 hs)))
  | all hover hall =>
    have hoffers : c.Offers (.meet G.members G.patient (.ok ())) := by
      cases hp : G.patient with
      | true =>
        refine .all fun u hu => ?_
        obtain ⟨o, ho, -⟩ := hall u hu
        exact Option.isSome_iff_exists.2 ⟨o, ho⟩
      | false =>
        refine .good fun u hu => ?_
        obtain ⟨o, ho, hgood⟩ := hall u hu
        obtain ⟨a, rfl⟩ := hgood.resolve_left (by rw [hp]; nofun)
        exact ⟨a, ho⟩
    refine enacts_conclude h hq hG hover ?_
    split
    · exact .inr ⟨rfl, ‹_›, .ok (), hoffers⟩
    · exact .inl hoffers

end

end BrowserPlan.Task.Loop
