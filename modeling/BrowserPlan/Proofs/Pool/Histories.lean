import BrowserPlan.Proofs.Pool.Crowd
import BrowserPlan.Proofs.Pool.Ledger
import Mathlib.Data.List.Perm.Basic

/-!
# Histories of a crowd

`Conduct` lists where callers can stand between two turns. A turn takes a caller from one of these
places to another and, on the way, makes moves that `Stable` knows, one move if nobody closes the pool
(`step_stirs`); so `run_keeps`: what is kept by every move of a single caller holds after every history.
-/
namespace BrowserPlan.Pool.Crowd

open BrowserPlan.Task

variable {π : Type} [DecidableEq π]

/-! ## What a turn keeps -/

/-- What a caller has at stake. -/
def Caller.stake : Caller π → Stake π
  | ⟨.paused (.signal (.granted k)) _, isTold⟩ => .ticket k isTold
  | ⟨.paused (.signal (.used page)) _, _⟩ => .page page
  | ⟨.creating _, _⟩ => .creation
  | ⟨.over (.ok (some page)), _⟩ => .page page
  | _ => .nothing

/-- What the callers have at stake. -/
def stakes (c : State π) : List (Stake π) := c.callers.map Caller.stake

section
omit [DecidableEq π]
variable {c : State π} {i j k : Nat} {page : π} {b : Bool}

/-- What is found among the stakes is found with a caller. -/
theorem mem_filterMap_stakes {α : Type} {f : Stake π → Option α} {v : α} :
    v ∈ (stakes c).filterMap f ↔
      ∃ (i : Nat) (x : Caller π), c.callers[i]? = some x ∧ f x.stake = some v := by
  constructor
  · intro hv
    obtain ⟨s, hs, hfs⟩ := List.mem_filterMap.1 hv
    obtain ⟨x, hx, rfl⟩ := List.mem_map.1 hs
    obtain ⟨i, hi⟩ := List.mem_iff_getElem?.1 hx
    exact ⟨i, x, hi, hfs⟩
  · rintro ⟨i, x, hi, hfx⟩
    exact List.mem_filterMap.2 ⟨_, List.mem_map_of_mem (List.mem_of_getElem? hi), hfx⟩

theorem mem_heldPages : page ∈ heldPages (stakes c) ↔
    ∃ (i : Nat) (x : Caller π), c.callers[i]? = some x ∧ x.stake = .page page :=
  mem_filterMap_stakes.trans (by simp only [Stake.page?_eq_some])

theorem mem_tickets : (k, b) ∈ tickets (stakes c) ↔
    ∃ (i : Nat) (x : Caller π), c.callers[i]? = some x ∧ x.stake = .ticket k b :=
  mem_filterMap_stakes.trans (by simp only [Stake.ticket?_eq_some])

theorem getElem?_stakes {x : Caller π} (hx : c.callers[i]? = some x) :
    (stakes c)[i]? = some x.stake := by
  simp [stakes, hx]

theorem ticket_unique (hn : ((tickets (stakes c)).map (·.1)).Nodup) {x y : Caller π} {a : Bool}
    (hi : c.callers[i]? = some x) (hj : c.callers[j]? = some y) (hx : x.stake = .ticket k a)
    (hy : y.stake = .ticket k b) : i = j := by
  rw [tickets, List.map_filterMap] at hn
  have hnum : ∀ c, (Stake.ticket k c : Stake π).ticket?.map (·.1) = some k := fun _ => rfl
  exact index_unique hn (getElem?_stakes hi) (getElem?_stakes hj) (hx.symm ▸ hnum a)
    (hy.symm ▸ hnum b)

end

/-- Where callers can stand, one who closes the pool among them only if `A` allows that. -/
inductive Conduct (A : Manner → Prop) : Standing π → Prop where
  | waits (k : Nat) (u : Purpose) :
    Conduct A (.paused (.signal (.granted k)) fun r => (heard k r).bind u.follow)
  | creates (u : Purpose) : Conduct A (.creating fun r => (made (r.bind pageOf)).bind u.follow)
  | uses (page : π) : Conduct A (.paused (.signal (.used page)) (usedUp page))
  | closes (h : A .closing) (page : π) (rest : List π) :
    Conduct A (.paused (.signal (.shut page)) (unlessStopped (closeRest rest)))
  | ended (r : Outcome Fault (Option π)) : Conduct A (.over r)

omit [DecidableEq π] in
theorem Conduct.ne_astray {A : Manner → Prop} {x : Standing π} (h : Conduct A x) (rest : Script π) :
    x ≠ .astray rest := by
  cases h <;> simp

omit [DecidableEq π] in
theorem Conduct.allowed {A : Manner → Prop} {page : π} {next : Outcome Fault Unit → Script π}
    (h : Conduct A (.paused (.signal (.shut page)) next)) : A .closing := by
  cases h with
  | closes h => exact h

omit [DecidableEq π] in
theorem Conduct.mono {A B : Manner → Prop} {x : Standing π} (hAB : ∀ m, A m → B m)
    (h : Conduct A x) : Conduct B x := by
  cases h with
  | waits k u => exact .waits k u
  | creates u => exact .creates u
  | uses page => exact .uses page
  | closes h page rest => exact .closes (hAB _ h) page rest
  | ended r => exact .ended r

/-- What holds after a move of the allowed kinds, as far as the one who moves is concerned, if `K` holds
before it. -/
def Carries (A : Manner → Prop) (K L : Pool π → Stake π → Prop) : Prop :=
  ∀ {m p s q t}, A m → Move m p s q t → K p s → L q t

/-- What every move of the allowed kinds keeps, as far as the one who moves is concerned. -/
def Carried (A : Manner → Prop) (K : Pool π → Stake π → Prop) : Prop := Carries A K K

/-- A turn that comes to `x` keeps `K`, and comes to a bad end only for a reason in `B` or because the
pool finds fault. -/
structure Kept (A : Manner → Prop) (B : Stop Fault → Prop) (K : Pool π → Stake π → Prop)
    (x : Pool π × Standing π) : Prop where
  holds : K x.1 (Caller.stake ⟨x.2, false⟩)
  conduct : Conduct A x.2
  ends : ∀ s, x.2 = .over (.error s) → B s ∨ ∃ fault, s = .failed (.pool fault)

section
variable {A : Manner → Prop} {B : Stop Fault → Prop} {K L : Pool π → Stake π → Prop} {p : Pool π}
  {k : Nat} {page : π}

omit [DecidableEq π] in
theorem kept_over (r : Outcome Fault (Option π)) (hr : ∀ page, r ≠ .ok (some page))
    (hB : ∀ s, r = .error s → B s ∨ ∃ fault, s = .failed (.pool fault)) (h : K p .nothing) :
    Kept A B K (p, .over r) := by
  refine ⟨?_, .ended r, fun s hs => hB s (Standing.over.inj hs)⟩
  match r with
  | .ok (some page) => exact absurd rfl (hr page)
  | .ok none | .error _ => exact h

omit [DecidableEq π] in
theorem kept_fault (fault : PoolFault) (h : K p .nothing) :
    Kept A B K (p, .over (.error (.failed (.pool fault)))) := by
  refine kept_over _ nofun (fun s hs => ?_) h
  cases hs
  exact .inr ⟨fault, rfl⟩

theorem kept_unlessFault (r : Outcome Fault (Option π)) (hr : ∀ page, r ≠ .ok (some page))
    (hB : ∀ s, r = .error s → B s) (fault : Option PoolFault) (h : K p .nothing) :
    Kept A B K (advance (unlessFault r fault) p) := by
  cases fault with
  | none => exact kept_over r hr (fun s hs => .inl (hB s hs)) h
  | some fault => exact kept_fault fault h

theorem kept_follow (u : Purpose) (h : K p (.page page)) :
    Kept A B K (advance (u.follow page) p) := by
  cases u with
  | keep => exact ⟨h, .ended _, nofun⟩
  | borrow => exact ⟨h, .uses page, nofun⟩

theorem kept_enter (u : Purpose) {a : Admission π} (ha : ∀ k, a ≠ .queue k)
    (h : K p (stakeOf a)) : Kept A B K (advance ((client.enter a).bind u.follow) p) := by
  cases a with
  | page q => exact kept_follow u h
  | create =>
    rw [show client.enter (.create : Admission π) = client.createPage from rfl, createPage_eq]
    exact ⟨h, .creates u, nofun⟩
  | queue k => exact absurd rfl (ha k)
  | refused fault => exact kept_fault fault h

theorem kept_acquire (hK : Carries A K L) (hA : A .orderly) (u : Purpose) (h : K p .nothing) :
    Kept A B L (advance (client.acquire.bind u.follow) p) := by
  have hmove : L p.acquire.1 (stakeOf p.acquire.2) := hK hA (.acquire p) h
  rw [acquire_eq]
  change Kept A B L (advance ((asked p.acquire.2).bind u.follow) p.acquire.1)
  cases ha : p.acquire.2 with
  | queue k =>
    rw [ha] at hmove
    exact ⟨hmove, .waits k u, nofun⟩
  | page | create | refused =>
    rw [ha] at hmove
    exact kept_enter u (by simp) hmove

theorem kept_heard (hK : Carries A K L) (hA : A .orderly) (u : Purpose)
    (hk : (p.handout? k).isSome = true) (h : K p (.ticket k false)) :
    Kept A B L (advance ((heard k (.ok ())).bind u.follow) p) :=
  kept_enter u (redeem_ne_queue p k) (hK hA (.redeem p k hk) h)

/-- A caller has its turn because it was told to give up. -/
theorem kept_heard_cancelled (hK : Carries A K L) (hA : A .orderly) (u : Purpose) {s : Stop Fault}
    (hs : B s) (h : K p (.ticket k true)) :
    Kept A B L (advance ((heard k (.error s)).bind u.follow) p) := by
  have hmove : L (p.renounce k).1 .nothing := hK hA (.renounce p k) h
  have heq : advance ((heard k (.error s)).bind u.follow) p =
      advance ((unlessFault (.error s) (p.renounce k).2.1).bind u.follow) (p.renounce k).1 := rfl
  rw [heq]
  cases (p.renounce k).2.1 with
  | none =>
    refine kept_over (.error s) nofun (fun s' hs' => ?_) hmove
    cases hs'
    exact .inl hs
  | some fault => exact kept_fault fault hmove

theorem kept_made (hK : Carries A K L) (hA : A .orderly) (u : Purpose) (hp : IsFresh p page)
    (h : K p .creation) : Kept A B L (advance ((made (.ok page)).bind u.follow) p) :=
  kept_follow u (hK hA (.created p page hp) h)

theorem kept_made_error (hK : Carries A K L) (hA : A .orderly) (u : Purpose) {s : Stop Fault}
    (hs : B s) (h : K p .creation) :
    Kept A B L (advance ((made (.error s)).bind u.follow) p) := by
  refine kept_over (.error s) nofun (fun s' hs' => ?_) (hK hA (.notCreated p) h)
  cases hs'
  exact .inl hs

theorem kept_release (hK : Carries A K L) (hA : A .orderly) (r : Outcome Fault (Option π))
    (hr : ∀ page, r ≠ .ok (some page)) (hB : ∀ s, r = .error s → B s) (h : K p (.page page)) :
    Kept A B L (advance (.call (.release page) (unlessFault r)) p) :=
  kept_unlessFault r hr hB _ (hK hA (.bringBack p page) h)

theorem kept_closeRest (hK : Carried A K) (hA : A .closing) :
    ∀ {pages : List π}, K p .nothing → Kept A B K (advance (closeRest pages) p)
  | [], h => kept_over (.ok none) nofun nofun (hK hA (.clear p) h)
  | page :: rest, h => ⟨h, .closes hA page rest, nofun⟩

/-- A caller goes on closing pages after one is closed, could not be closed or was given up. -/
theorem kept_closeNext (hK : Carried A K) (hA : A .closing) {pages : List π} (r : Outcome Fault Unit)
    (hB : ∀ s, r = .error s → B s) (h : K p .nothing) :
    Kept A B K (advance (unlessStopped (closeRest pages) r) p) := by
  have hstop : ∀ s, r = .error s → Kept A B K (p, .over (.error s)) := by
    intro s hr
    refine kept_over (.error s) nofun (fun s' hs' => ?_) h
    cases hs'
    exact .inl (hB s hr)
  match r with
  | .ok _ | .error (.failed _) => exact kept_closeRest hK hA h
  | .error .cancelled => exact hstop .cancelled rfl
  | .error .interrupted => exact hstop .interrupted rfl

end

/-! ## What a history keeps -/

/-- The kind of moves that an event brings about. -/
def Event.manner : Event π → Manner
  | enter (.release _) => .stray
  | enter .close => .closing
  | _ => .orderly

/-- The kinds of moves with which an event does not close the pool. -/
def Event.allows (e : Event π) (m : Manner) : Prop := m ≠ .closing ∧ (m = .orderly ∨ m = e.manner)

/-- What an event lets the turn of the `i`-th caller end with. -/
def Event.ends (i : Nat) : Event π → Stop Fault → Prop
  | hear j, s => j = i ∧ s = .cancelled
  | make j (.error t), s | goOn j (.error t), s => j = i ∧ s = t
  | _, _ => False

omit [DecidableEq π] in
theorem Event.allows_orderly (e : Event π) : e.allows .orderly := ⟨nofun, .inl rfl⟩

/-- A caller comes for something else than to close the pool. -/
theorem kept_visit {A : Manner → Prop} {B : Stop Fault → Prop} {K L : Pool π → Stake π → Prop}
    {p : Pool π} (hK : Carries A K L) (hA : A .orderly) {v : Visit π} (hopen : v ≠ .close)
    (hv : A (Event.enter v).manner) (h : K p .nothing) : Kept A B L (advance v.script p) := by
  cases v with
  | acquire => exact kept_acquire hK hA .keep h
  | lease => exact script_lease (π := π) ▸ kept_acquire hK hA .borrow h
  | release page =>
    rw [show (Visit.release page).script = giveBack page from rfl, giveBack_eq]
    exact kept_unlessFault _ (by simp) nofun _ (hK hv (.release p page) h)
  | close => exact absurd rfl hopen

theorem kept_close {A : Manner → Prop} {B : Stop Fault → Prop} {K : Pool π → Stake π → Prop}
    {p : Pool π} (hK : Carried A K) (hA : A .closing) (h : K p .nothing) :
    Kept A B K (advance (Visit.close : Visit π).script p) :=
  script_close (π := π) ▸ kept_closeRest hK hA (hK hA (.shut p) h)

/-- One caller moves on without closing the pool: from the pool `p` and the stake `s` to the pool `q`,
where it stands as `y`. A bad end has a reason in `B` or is a fault that the pool finds. -/
structure Moved (A : Manner → Prop) (B : Stop Fault → Prop) (p : Pool π) (s : Stake π) (q : Pool π)
    (y : Caller π) : Prop where
  carried : ∀ K, Carried A K → K p s → K q y.stake
  conduct : Conduct A y.standing
  ends : ∀ s, y.standing = .over (.error s) → B s ∨ ∃ fault, s = .failed (.pool fault)

/-- One move of the allowed kinds. -/
def OneMove (A : Manner → Prop) (p : Pool π) (s : Stake π) (q : Pool π) (t : Stake π) : Prop :=
  ∃ m, A m ∧ Move m p s q t

/-- All that an event can do to a crowd: a caller who has something at stake takes a turn and makes one
move in it, or a caller comes and makes one; or somebody closes the pool or goes on closing it. -/
inductive Stirs (c d : State π) : Event π → Prop where
  | moves {e : Event π} (i : Nat) (x y : Caller π) (hx : c.callers[i]? = some x)
    (hstake : x.stake ≠ .nothing) (hd : d.callers = c.callers.set i y)
    (hone : OneMove e.allows c.pool x.stake d.pool y.stake)
    (h : Moved e.allows (e.ends i) c.pool x.stake d.pool y) : Stirs c d e
  | comes {e : Event π} (y : Caller π) (hd : d.callers = c.callers ++ [y])
    (hone : OneMove e.allows c.pool .nothing d.pool y.stake)
    (h : Moved e.allows (fun _ => False) c.pool .nothing d.pool y) : Stirs c d e
  | shuts (hd : step c (.enter .close) = some d) : Stirs c d (.enter .close)
  | shutsNext (i : Nat) (r : Outcome Fault Unit) (page : π) (rest : List π) (told : Bool)
    (hx : c.callers[i]? = some ⟨.paused (.signal (.shut page)) (unlessStopped (closeRest rest)), told⟩)
    (hd : d = turn c i (unlessStopped (closeRest rest) r)) : Stirs c d (.goOn i r)

section
variable {A : Manner → Prop} {B : Stop Fault → Prop} {c d : State π} {i : Nat}

theorem Moved.of_kept {p : Pool π} {s : Stake π} {script : Script π}
    (h : ∀ K, Carried A K → K p s → Kept A B K (advance script p)) :
    Moved A B p s (advance script p).1 ⟨(advance script p).2, false⟩ := by
  have hkept := h (fun _ _ => True) (fun _ _ _ => trivial) trivial
  exact ⟨fun K hK hp => (h K hK hp).holds, hkept.conduct, hkept.ends⟩

theorem OneMove.of_kept {p : Pool π} {s : Stake π} {script : Script π}
    (h : ∀ K L, Carries A K L → K p s → Kept A B L (advance script p)) :
    OneMove A p s (advance script p).1 (Caller.stake ⟨(advance script p).2, false⟩) := by
  have hcarries : Carries A (fun q t => q = p ∧ t = s) (OneMove A p s) := by
    rintro m _ _ q t hA hm ⟨rfl, rfl⟩
    exact ⟨m, hA, hm⟩
  exact (h _ _ hcarries ⟨rfl, rfl⟩).holds

/-- A caller who is there takes a turn. -/
theorem Stirs.of_turn {e : Event π} {x : Caller π} {script : Script π} (hx : c.callers[i]? = some x)
    (hstake : x.stake ≠ .nothing) (h : ∀ K L, Carries e.allows K L → K c.pool x.stake →
      Kept e.allows (e.ends i) L (advance script c.pool)) :
    Stirs c (turn c i script) e :=
  .moves i x _ hx hstake rfl (.of_kept h) (.of_kept fun K => h K K)

/-- A caller comes who does not close the pool. -/
theorem Stirs.of_visit {v : Visit π} (hv : v ≠ .close) (hd : step c (.enter v) = some d) :
    Stirs c d (.enter v) := by
  obtain rfl := Option.some.inj hd
  have hopen : (Event.enter v).manner ≠ .closing := by
    cases v with
    | close => exact absurd rfl hv
    | acquire | lease | release => nofun
  have hkept : ∀ (K L : Pool π → Stake π → Prop), Carries (Event.enter v).allows K L →
      K c.pool .nothing → Kept (Event.enter v).allows (fun _ => False) L (advance v.script c.pool) :=
    fun K L hK => kept_visit hK (Event.allows_orderly _) hv ⟨hopen, .inr rfl⟩
  exact .comes _ rfl (.of_kept hkept) (.of_kept fun K => hkept K K)

/-- An event that can happen does one of these things. -/
theorem step_stirs (hc : ∀ x ∈ c.callers, Conduct A x.standing) {e : Event π}
    (hd : step c e = some d) : Stirs c d e := by
  have hplaced : ∀ {i : Nat} {x : Caller π}, c.callers[i]? = some x → Conduct A x.standing :=
    fun hx => hc _ (List.mem_of_getElem? hx)
  cases happens_of_step hd with
  | enter v =>
    cases v with
    | close => exact .shuts hd
    | acquire | lease | release => exact .of_visit nofun hd
  | @tell i k next told hx =>
    have htell : Move .orderly c.pool (.ticket k told) (c.pool.forsake k) (.ticket k true) :=
      .tell c.pool k told
    refine .moves i _ ⟨_, true⟩ hx nofun rfl ⟨_, Event.allows_orderly _, htell⟩
      ⟨fun K hK hp => hK (Event.allows_orderly _) htell hp, ?_, nofun⟩
    cases hplaced hx with
    | waits k u => exact .waits k u
  | hearTold hx =>
    cases hplaced hx with
    | waits k u =>
      exact .of_turn hx nofun fun K L hK => kept_heard_cancelled hK (Event.allows_orderly _) u ⟨rfl, rfl⟩
  | hear hx hk =>
    cases hplaced hx with
    | waits k u => exact .of_turn hx nofun fun K L hK => kept_heard hK (Event.allows_orderly _) u hk
  | make hx hp =>
    cases hplaced hx with
    | creates u => exact .of_turn hx nofun fun K L hK => kept_made hK (Event.allows_orderly _) u hp
  | makeFails hx =>
    cases hplaced hx with
    | creates u =>
      exact .of_turn hx nofun fun K L hK => kept_made_error hK (Event.allows_orderly _) u ⟨rfl, rfl⟩
  | used r hx =>
    cases hplaced hx with
    | uses page =>
      refine .of_turn hx nofun fun K L hK => kept_release hK (Event.allows_orderly _) _ ?_ ?_
      · cases r <;> simp [Except.map]
      · intro s hs
        cases r with
        | ok => cases hs
        | error t =>
          cases hs
          exact ⟨rfl, rfl⟩
  | shut r hx =>
    cases hplaced hx with
    | closes _ _ rest => exact .shutsNext _ r _ rest _ hx rfl
  | bringBack hx =>
    refine .of_turn hx nofun fun K L hK => ?_
    rw [giveBack_eq]
    exact kept_release hK (Event.allows_orderly _) _ (by simp) nofun

end

/-- All callers stand where they can stand, and `J` holds. -/
structure Keeps (A : Manner → Prop) (J : Pool π → List (Stake π) → Prop) (c : State π) : Prop where
  holds : J c.pool (stakes c)
  conduct : ∀ x ∈ c.callers, Conduct A x.standing

section
variable {A : Manner → Prop} {J : Pool π → List (Stake π) → Prop} {c d : State π} {i : Nat}

omit [DecidableEq π] in
/-- The `i`-th caller and the others. -/
theorem callers_perm {x : Caller π} (hx : c.callers[i]? = some x) (y : Caller π) :
    (stakes c).Perm (x.stake :: (c.callers.eraseIdx i).map Caller.stake) ∧
      ((c.callers.set i y).map Caller.stake).Perm
        (y.stake :: (c.callers.eraseIdx i).map Caller.stake) := by
  obtain ⟨hi, rfl⟩ := List.getElem?_eq_some_iff.1 hx
  have hset : i < (c.callers.set i y).length := by simpa using hi
  have h := List.getElem_cons_eraseIdx_perm hset
  rw [List.getElem_set_self, List.eraseIdx_set_eq] at h
  exact ⟨((List.getElem_cons_eraseIdx_perm hi).map _).symm, (h.map _).symm⟩

theorem Keeps.set (hJ : Stable A J) (hc : Keeps A J c) {x y : Caller π} (hx : c.callers[i]? = some x)
    (hd : d.callers = c.callers.set i y) (hy : Conduct A y.standing)
    (hmoves : ∀ ss, J c.pool (x.stake :: ss) → J d.pool (y.stake :: ss)) : Keeps A J d := by
  obtain ⟨hbefore, hafter⟩ := callers_perm hx y
  refine ⟨?_, fun z hz => ?_⟩
  · rw [stakes, hd]
    exact hJ.perm hafter.symm (hmoves _ (hJ.perm hbefore hc.holds))
  · rw [hd] at hz
    rcases List.mem_or_eq_of_mem_set hz with hz | rfl
    · exact hc.conduct z hz
    · exact hy

theorem Keeps.append (hJ : Stable A J) (hc : Keeps A J c) {y : Caller π}
    (hd : d.callers = c.callers ++ [y]) (hy : Conduct A y.standing)
    (hmoves : J c.pool (.nothing :: stakes c) → J d.pool (y.stake :: stakes c)) : Keeps A J d := by
  refine ⟨?_, fun z hz => ?_⟩
  · rw [stakes, hd, List.map_append]
    exact hJ.perm (List.perm_append_singleton _ _).symm (hmoves (hJ.join hc.holds))
  · rw [hd] at hz
    rcases List.mem_append.1 hz with hz | hz
    · exact hc.conduct z hz
    · obtain rfl := List.mem_singleton.1 hz
      exact hy

/-- Every event keeps what the moves of its kind keep. -/
theorem step_keeps (hJ : Stable A J) (hA : A .orderly) {e : Event π} (he : A e.manner)
    (hc : Keeps A J c) (hd : step c e = some d) : Keeps A J d := by
  have hallows : ∀ m, e.allows m → A m := by
    rintro m ⟨-, rfl | rfl⟩
    · exact hA
    · exact he
  -- the others have at stake what they had
  have hcarried : ∀ ss, Carried A fun p s => J p (s :: ss) := fun ss _ _ _ _ _ hm hmove h =>
    hJ.move hm hmove h
  cases step_stirs hc.conduct hd with
  | moves i x y hx _ hd _ h =>
    exact hc.set hJ hx hd (h.conduct.mono hallows) fun ss =>
      h.carried (fun p s => J p (s :: ss)) fun hm => hcarried ss (hallows _ hm)
  | comes y hd _ h =>
    exact hc.append hJ hd (h.conduct.mono hallows)
      (h.carried (fun p s => J p (s :: stakes c)) fun hm => hcarried _ (hallows _ hm))
  | shuts hd =>
    obtain rfl := Option.some.inj hd
    have hkept := kept_close (B := fun _ => False) (hcarried (stakes c)) he (hJ.join hc.holds)
    exact hc.append hJ rfl hkept.conduct fun _ => hkept.holds
  | shutsNext i r page rest told hx hturn =>
    obtain rfl := hturn
    have hclose : A .closing := (hc.conduct _ (List.mem_of_getElem? hx)).allowed
    have hkept : ∀ K, Carried A K → K c.pool .nothing →
        Kept A (fun _ => True) K (advance (unlessStopped (closeRest rest) r) c.pool) :=
      fun K hK h => kept_closeNext hK hclose r (fun _ _ => trivial) h
    have hconduct := (hkept (fun _ _ => True) (fun _ _ _ => trivial) trivial).conduct
    exact hc.set hJ hx rfl hconduct fun ss h => (hkept _ (hcarried ss) h).holds

/-- Every history keeps what the moves of the kinds in it keep. -/
theorem run_keeps (hJ : Stable A J) (hA : A .orderly) :
    ∀ {es : List (Event π)} {c : State π}, (∀ e ∈ es, A e.manner) → Keeps A J c →
      run c es = some d → Keeps A J d
  | [], c, _, hc, hd => by
    obtain rfl := Option.some.inj hd
    exact hc
  | e :: es, c, hes, hc, hd => by
    obtain ⟨b, hb, hd⟩ := Option.bind_eq_some_iff.1 hd
    have hb := step_keeps hJ hA (hes e (by simp)) hc hb
    exact run_keeps hJ hA (fun e he => hes e (by simp [he])) hb hd

theorem after_eq_some {limit : Int} {es : List (Event π)} (hc : after limit es = some c) :
    1 ≤ limit ∧ run { pool := { maxPages := limit.toNat } } es = some c := by
  unfold after Pool.ofLimit at hc
  by_cases h : limit < 1
  · simp [h] at hc
  · simp only [h, if_false] at hc
    exact ⟨by omega, hc⟩

/-- What holds of an empty pool and is kept by every move of the kinds in a history holds after
it. -/
theorem after_keeps (hJ : Stable A J) (hA : A .orderly) {limit : Int} {es : List (Event π)}
    (hes : ∀ e ∈ es, A e.manner) (h0 : J { maxPages := limit.toNat } [])
    (hc : after limit es = some c) : J c.pool (stakes c) :=
  (run_keeps hJ hA hes ⟨h0, by simp⟩ (after_eq_some hc).2).holds

/-- Callers do nothing but call, wait and end: none ever starts a task or tells one to give up. -/
theorem after_ne_astray {limit : Int} {es : List (Event π)} (hc : after limit es = some c)
    {x : Caller π} (hx : x ∈ c.callers) (rest : Script π) : x.standing ≠ .astray rest := by
  have hJ : Stable (π := π) (fun _ => True) fun _ _ => True :=
    ⟨fun _ _ => trivial, fun _ => trivial, fun _ _ _ => trivial⟩
  have hkeeps := run_keeps hJ trivial (fun _ _ => trivial) ⟨trivial, by simp⟩ (after_eq_some hc).2
  exact (hkeeps.conduct x hx).ne_astray rest

end

end BrowserPlan.Pool.Crowd
