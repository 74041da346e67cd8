import BrowserPlan.Proofs.Pool.Release
import BrowserPlan.Proofs.Pool.Waiting

/-!
# Closing a pool

A pool that is closed has nobody in its queue and grants nothing any more (`Move.recedes`). What can
still be had of it was settled when it was closed: a page that somebody holds, a page that was granted
to a ticket, a page that is being created (`CanGet`). Whoever closes the pool goes through the pages
that it has then; `Doomed` follows one of them until somebody sets about closing it.

So `close_ends_lending`; and `close_misses` shows the two gaps that it leaves, a caller who was granted
a page shortly before, and a page whose creation was under way.
-/
namespace BrowserPlan.Pool

variable {π : Type} [DecidableEq π]

/-! ## Pools that are closed -/

/-- The pool is closed, and nobody is in the queue. -/
structure IsShut (p : Pool π) : Prop where
  closed : p.isClosed = true
  deserted : p.waiters = []

/-- Every page that `q` has granted to a ticket, `p` had granted to it. -/
def GrantsLess (p q : Pool π) : Prop :=
  ∀ k page, q.handout? k = some (.page page) → p.handout? k = some (.page page)

/-- Who has this at stake holds the page, or can get it without anything else being granted. -/
def Claims (p : Pool π) (page : π) : Stake π → Prop
  | .page r => r = page
  | .ticket k isTold => isTold = false ∧ p.handout? k = some (.page page)
  | .creation => True
  | .nothing => False

section
omit [DecidableEq π]
variable {p q r : Pool π} {k : Nat}

theorem GrantsLess.refl (p : Pool π) : GrantsLess p p := fun _ _ h => h

theorem GrantsLess.trans (h : GrantsLess p q) (h' : GrantsLess q r) : GrantsLess p r :=
  fun k page hk => h k page (h' k page hk)

theorem GrantsLess.of_granted (h : q.granted = p.granted) : GrantsLess p q :=
  fun k _ hk => (handout?_of_granted h k).symm.trans hk

theorem GrantsLess.claims (h : GrantsLess p q) {page : π} {s : Stake π} (hs : Claims q page s) :
    Claims p page s := by
  cases s with
  | nothing | creation | page => exact hs
  | ticket k b => exact ⟨hs.1, h k page hs.2⟩

theorem grantsLess_settle (p : Pool π) (k : Nat) : GrantsLess p (p.settle k) := by
  intro j page hj
  by_cases hjk : j = k
  · -- nothing is left for the ticket that was settled
    subst hjk
    have hnone : (p.settle j).handout? j = none := handout?_eq_none_iff.2 fun g hg => by
      simpa using (List.mem_filter.1 hg).2
    rw [hnone] at hj
    cases hj
  · exact (handout?_settle (Ne.symm hjk)).symm.trans hj

/-- Closing a pool grants no page. -/
theorem grantsLess_shut (p : Pool π) : GrantsLess p p.shut.1 := by
  intro k page hk
  have hnew : p.shut.1.granted =
      p.granted ++ ((p.waiters.filter fun w => !w.isCancelled).map (·.ticket)).map fun t =>
        (t, Handout.refused) := rfl
  rw [handout?, hnew, List.find?_append] at hk
  cases hold : p.granted.find? (fun g => g.1 == k) with
  | some g =>
    rw [hold, Option.some_or] at hk
    rw [handout?, hold]
    exact hk
  | none =>
    -- what is new are refusals
    rw [hold, Option.none_or] at hk
    obtain ⟨g, hg, hpage⟩ := Option.map_eq_some_iff.1 hk
    obtain ⟨t, -, rfl⟩ := List.mem_map.1 (List.mem_of_find?_eq_some hg)
    cases hpage

theorem IsShut.of_shut (p : Pool π) : IsShut p.shut.1 := ⟨rfl, rfl⟩

theorem IsShut.yieldRoom (h : IsShut p) : IsShut p.yieldRoom.1 ∧ GrantsLess p p.yieldRoom.1 := by
  have heq : p.yieldRoom.1 = { p with creating := p.creating - 1, waiters := [] } := by
    simp [Pool.yieldRoom, grantRoom, h.deserted, nextWaiter?]
  rw [heq]
  exact ⟨⟨h.closed, rfl⟩, .of_granted rfl⟩

end

section
variable {p : Pool π} {k : Nat}

theorem IsShut.release (h : IsShut p) (page : π) :
    IsShut (p.release page).1 ∧ GrantsLess p (p.release page).1 := by
  rcases release_cases p page with ⟨heq, -⟩ | ⟨-, -, ⟨k, rest, hw, -⟩ | ⟨-, heq⟩⟩
  · rw [heq]
    exact ⟨h, .refl p⟩
  · rw [h.deserted] at hw
    cases hw
  · rw [heq]
    exact ⟨⟨h.closed, rfl⟩, .of_granted rfl⟩

omit [DecidableEq π] in
theorem IsShut.redeem (h : IsShut p) (k : Nat) :
    IsShut (p.redeem k).1 ∧ GrantsLess p (p.redeem k).1 := by
  have hsettle : IsShut (p.settle k) := ⟨h.closed, h.deserted⟩
  unfold Pool.redeem
  split
  · exact ⟨hsettle, grantsLess_settle p k⟩
  · rw [if_pos h.closed]
    exact ⟨⟨h.closed, h.deserted⟩, grantsLess_settle p k⟩
  · exact ⟨hsettle, grantsLess_settle p k⟩
  · exact ⟨hsettle, grantsLess_settle p k⟩

theorem IsShut.renounce (h : IsShut p) (k : Nat) :
    IsShut (p.renounce k).1 ∧ GrantsLess p (p.renounce k).1 := by
  have hwithdraw : IsShut (p.withdraw k) := ⟨h.closed, by simp [withdraw, h.deserted]⟩
  have hless : GrantsLess p (p.withdraw k) := grantsLess_settle p k
  cases hx : p.handout? k with
  | none =>
    rw [renounce_none hx]
    exact ⟨hwithdraw, hless⟩
  | some x =>
    cases x with
    | page q =>
      rw [renounce_page hx]
      obtain ⟨hshut, hless'⟩ := hwithdraw.release q
      exact ⟨hshut, hless.trans hless'⟩
    | room =>
      rw [renounce_room hx]
      obtain ⟨hshut, hless'⟩ := hwithdraw.yieldRoom
      exact ⟨hshut, hless.trans hless'⟩
    | refused =>
      rw [renounce_refused hx]
      exact ⟨hwithdraw, hless⟩

theorem IsShut.acquire (h : IsShut p) : p.acquire = (p, .refused .closed) := by
  rw [Pool.acquire, if_pos h.closed]

omit [DecidableEq π] in
/-- Who was granted something gets it from a closed pool only if it is a page. -/
theorem IsShut.claims_of_redeem (h : IsShut p) {page : π}
    (hclaims : Claims (p.redeem k).1 page (stakeOf (p.redeem k).2)) :
    p.handout? k = some (.page page) := by
  cases hx : p.handout? k with
  | none =>
    rw [Pool.redeem, hx] at hclaims
    exact hclaims.elim
  | some x =>
    cases x with
    | page q =>
      rw [redeem_page hx] at hclaims
      exact congrArg (fun q => some (Handout.page q)) hclaims
    | room =>
      rw [redeem_room_closed hx h.closed] at hclaims
      exact hclaims.elim
    | refused =>
      rw [redeem_refused hx] at hclaims
      exact hclaims.elim

/-- No move in a closed pool opens it, has it grant a page, or gives the one who moves a claim that it
did not have. -/
theorem Move.recedes {m : Manner} {q : Pool π} {s t : Stake π} (hm : Move m p s q t)
    (h : IsShut p) : IsShut q ∧ GrantsLess p q ∧ ∀ page, Claims q page t → Claims p page s := by
  cases hm with
  | acquire =>
    rw [h.acquire]
    exact ⟨h, .refl p, fun _ => id⟩
  | redeem p k hk =>
    obtain ⟨hshut, hless⟩ := h.redeem k
    exact ⟨hshut, hless, fun page hclaims => ⟨rfl, h.claims_of_redeem hclaims⟩⟩
  | tell p k b =>
    refine ⟨⟨h.closed, ?_⟩, .of_granted rfl, fun page hclaims => absurd hclaims.1 nofun⟩
    simp [forsake, h.deserted]
  | renounce p k =>
    obtain ⟨hshut, hless⟩ := h.renounce k
    exact ⟨hshut, hless, fun _ hclaims => hclaims.elim⟩
  | created p page fresh =>
    rw [created_eq fresh]
    exact ⟨⟨h.closed, h.deserted⟩, .of_granted rfl, fun _ _ => trivial⟩
  | notCreated =>
    obtain ⟨hshut, hless⟩ := h.yieldRoom
    exact ⟨hshut, hless, fun _ hclaims => hclaims.elim⟩
  | bringBack p page | release p page =>
    obtain ⟨hshut, hless⟩ := h.release page
    exact ⟨hshut, hless, fun _ hclaims => hclaims.elim⟩
  | shut => exact ⟨.of_shut p, grantsLess_shut p, fun _ => id⟩
  | clear => exact ⟨⟨h.closed, h.deserted⟩, .of_granted rfl, fun _ => id⟩

end

namespace Crowd

open BrowserPlan.Task

theorem run_append (c : State π) (es es' : List (Event π)) :
    run c (es ++ es') = (run c es).bind fun d => run d es' := by
  induction es generalizing c with
  | nil => rfl
  | cons e es ih =>
    rw [List.cons_append, run, run]
    cases step c e with
    | none => rfl
    | some d => exact ih d

theorem after_append (limit : Int) (es es' : List (Event π)) :
    after limit (es ++ es') = (after limit es).bind fun c => run c es' := by
  unfold after
  cases Pool.ofLimit limit with
  | error => rfl
  | ok p => exact run_append _ es es'

/-! ## Who can still get a page -/

/-- The `i`-th caller holds the page or has a claim to it. -/
def CanGet (c : State π) (i : Nat) (page : π) : Prop :=
  ∃ x, c.callers[i]? = some x ∧ Claims c.pool page x.stake

/-- Callers stand where they can stand; some of them may be closing the pool. -/
def WellPlaced (c : State π) : Prop := ∀ x ∈ c.callers, Conduct (fun _ => True) x.standing

section
variable {c d : State π} {e : Event π} {i : Nat}

theorem stable_trivial {A : Manner → Prop} : Stable (π := π) A fun _ _ => True :=
  ⟨fun _ _ => trivial, fun _ => trivial, fun _ _ _ => trivial⟩

theorem wellPlaced_step (hc : WellPlaced c) (hd : step c e = some d) : WellPlaced d :=
  (step_keeps (A := fun _ => True) (J := fun _ _ => True) stable_trivial trivial trivial ⟨trivial, hc⟩
    hd).conduct

theorem wellPlaced_run {es : List (Event π)} (hc : WellPlaced c) (hd : run c es = some d) :
    WellPlaced d :=
  (run_keeps (A := fun _ => True) (J := fun _ _ => True)
    stable_trivial trivial (fun _ _ => trivial)
    ⟨trivial, hc⟩ hd).conduct

/-- After an event one caller, who may have just come, has moved from `s` to `y`; the others stand
where they stood. -/
structure Mover (c d : State π) (e : Event π) (i : Nat) (s : Stake π) (y : Caller π) : Prop where
  before : ∀ x, c.callers[i]? = some x → x.stake = s
  after : d.callers[i]? = some y
  others : ∀ j, j ≠ i → d.callers[j]? = c.callers[j]?
  newcomer : c.callers[i]? = none → s = .nothing
  moved : Moved (fun _ => True) (e.ends i) c.pool s d.pool y

theorem Mover.of_set {x y : Caller π} (hx : c.callers[i]? = some x)
    (hd : d.callers = c.callers.set i y)
    (h : Moved (fun _ => True) (e.ends i) c.pool x.stake d.pool y) : Mover c d e i x.stake y := by
  obtain ⟨hi, -⟩ := List.getElem?_eq_some_iff.1 hx
  refine ⟨fun x' hx' => ?_, ?_, fun j hj => ?_, fun hnone => ?_, h⟩
  · rw [hx] at hx'
    cases hx'
    rfl
  · rw [hd, List.getElem?_set_self hi]
  · rw [hd, List.getElem?_set_ne hj.symm]
  · rw [hx] at hnone
    cases hnone

theorem Mover.of_append {y : Caller π} (hd : d.callers = c.callers ++ [y])
    (h : Moved (fun _ => True) (fun _ => False) c.pool .nothing d.pool y) :
    Mover c d e c.callers.length .nothing y := by
  refine ⟨fun x hx => ?_, ?_, fun j hj => ?_, fun _ => rfl, h.carried, h.conduct, ?_⟩
  · obtain ⟨hlt, -⟩ := List.getElem?_eq_some_iff.1 hx
    exact absurd hlt (Nat.lt_irrefl _)
  · rw [hd]
    simp
  · rw [hd]
    rcases Nat.lt_or_gt_of_ne hj with hlt | hgt
    · exact List.getElem?_append_left hlt
    · rw [List.getElem?_eq_none (Nat.le_of_lt hgt)]
      exact List.getElem?_eq_none (by rw [List.length_append]; exact hgt)
  · intro s hs
    rcases h.ends s hs with hnone | hfault
    · exact hnone.elim
    · exact .inr hfault

/-- Every event is the move of one caller. -/
theorem exists_mover (hc : WellPlaced c) (hd : step c e = some d) : ∃ i s y, Mover c d e i s y := by
  have hall : ∀ {B p s q y}, Moved (π := π) e.allows B p s q y → Moved (fun _ => True) B p s q y :=
    fun h => ⟨fun K hK => h.carried K fun _ => hK trivial, h.conduct.mono fun _ _ => trivial, h.ends⟩
  cases step_stirs hc hd with
  | moves i x y hx _ hcallers _ h => exact ⟨i, _, y, .of_set hx hcallers (hall h)⟩
  | comes y hcallers _ h => exact ⟨_, _, y, .of_append hcallers (hall h)⟩
  | shuts hd =>
    obtain rfl := Option.some.inj hd
    exact ⟨_, _, _, .of_append rfl (.of_kept fun K hK h => kept_close hK trivial h)⟩
  | shutsNext i r page rest told hx hturn =>
    obtain rfl := hturn
    refine ⟨i, _, _, .of_set hx rfl (.of_kept fun K hK h => kept_closeNext hK trivial r ?_ h)⟩
    rintro s rfl
    exact ⟨rfl, rfl⟩

/-- In a closed pool nobody comes by a claim. -/
theorem canGet_of_step (hc : WellPlaced c) (hshut : IsShut c.pool) (hd : step c e = some d) :
    IsShut d.pool ∧ ∀ i page, CanGet d i page → CanGet c i page := by
  obtain ⟨i, s, y, hmover⟩ := exists_mover hc hd
  have hcarried := hmover.moved.carried
    (fun q t => IsShut q ∧ GrantsLess c.pool q ∧ ∀ page, Claims q page t → Claims c.pool page s)
    (fun _ hm h => by
      obtain ⟨hshut, hless, hclaims⟩ := hm.recedes h.1
      exact ⟨hshut, h.2.1.trans hless, fun page ht => h.2.2 page (hclaims page ht)⟩)
    ⟨hshut, .refl _, fun _ => id⟩
  obtain ⟨hshut', hless, hclaims⟩ := hcarried
  refine ⟨hshut', fun j page hj => ?_⟩
  obtain ⟨x, hx, hpage⟩ := hj
  by_cases hji : j = i
  · subst hji
    obtain rfl : y = x := Option.some.inj (hmover.after.symm.trans hx)
    have hs := hclaims page hpage
    cases hx₀ : c.callers[j]? with
    | none =>
      rw [hmover.newcomer hx₀] at hs
      exact hs.elim
    | some x₀ => exact ⟨x₀, hx₀, (hmover.before x₀ hx₀).symm ▸ hs⟩
  · exact ⟨x, (hmover.others j hji).symm.trans hx, hless.claims hpage⟩

/-- Who comes to a bad end does so because of the event or because the pool finds fault. -/
theorem ends_of_step (hc : WellPlaced c) (hd : step c e = some d) {x : Caller π} {s : Stop Fault}
    (hx : d.callers[i]? = some x) (hs : x.standing = .over (.error s)) :
    c.callers[i]? = some x ∨ e.ends i s ∨ ∃ fault, s = .failed (.pool fault) := by
  obtain ⟨j, t, y, hmover⟩ := exists_mover hc hd
  by_cases hij : i = j
  · subst hij
    obtain rfl : y = x := Option.some.inj (hmover.after.symm.trans hx)
    exact .inr (hmover.moved.ends s hs)
  · exact .inl ((hmover.others i hij).symm.trans hx)

/-- The pool is closed by an event: nobody gets a claim by that. -/
theorem canGet_of_close (hd : step c (.enter .close) = some d) :
    IsShut d.pool ∧ ∀ i page, CanGet d i page → CanGet c i page := by
  obtain rfl := Option.some.inj hd
  let K : Pool π → Stake π → Prop := fun q t =>
    IsShut q ∧ GrantsLess c.pool q ∧ ∀ page, ¬ Claims q page t
  have hK : Carried (fun m => m = .closing) K := by
    rintro m p s q t rfl hm ⟨hshut, hless, hnone⟩
    obtain ⟨hshut', hless', hclaims⟩ := hm.recedes hshut
    exact ⟨hshut', hless.trans hless', fun page ht => hnone page (hclaims page ht)⟩
  have hkept : Kept (fun m => m = .closing) (fun _ => True) K
      (advance (Visit.close : Visit π).script c.pool) := by
    rw [script_close]
    exact kept_closeRest hK rfl ⟨.of_shut c.pool, grantsLess_shut c.pool, fun _ => id⟩
  obtain ⟨hshut, hless, hnone⟩ := hkept.holds
  refine ⟨hshut, fun i page hi => ?_⟩
  obtain ⟨x, hx, hpage⟩ := hi
  dsimp only at hx
  rw [List.getElem?_append] at hx
  split at hx
  · exact ⟨x, hx, hless.claims hpage⟩
  · obtain rfl := List.mem_singleton.1 (List.mem_of_getElem? hx)
    exact absurd hpage (hnone page)

end

/-! ## The pages of a pool that is being closed -/

/-- Somebody sets about closing the page in the course of the history. -/
def SetsAbout (c : State π) (es : List (Event π)) (page : π) : Prop :=
  ∃ es₀, es₀ <+: es ∧ ∃ (d : State π) (i : Nat) (next : Outcome Fault Unit → Script π) (told : Bool),
    run c es₀ = some d ∧ d.callers[i]? = some ⟨.paused (.signal (.shut page)) next, told⟩

theorem SetsAbout.mono {c : State π} {es es' : List (Event π)} {page : π} (hes : es <+: es')
    (h : SetsAbout c es page) : SetsAbout c es' page := by
  obtain ⟨es₀, hprefix, hrest⟩ := h
  exact ⟨es₀, hprefix.trans hes, hrest⟩

/-- Where one stands who closes the pool: the page is in the pool and still to come, unless somebody has
set about closing it before (`begun`). -/
structure Due (page : π) (begun : Prop) (x : Pool π × Standing π) : Prop where
  kept : begun ∨ page ∈ x.1.entries.map (·.page)
  due : ∀ q next, x.2 = .paused (.signal (.shut q)) next →
    ∃ rest, next = unlessStopped (closeRest rest) ∧ (begun ∨ page = q ∨ page ∈ rest)
  stake : Caller.stake ⟨x.2, false⟩ = .nothing
  finished : x.2 = .over (.ok none) → begun

/-- The page is in the pool, and everybody who closes the pool has yet to come to it, unless somebody
has set about closing it before. -/
structure Doomed (page : π) (begun : Prop) (c : State π) : Prop where
  kept : begun ∨ page ∈ c.pool.entries.map (·.page)
  due : ∀ x ∈ c.callers, ∀ q next, x.standing = .paused (.signal (.shut q)) next →
    ∃ rest, next = unlessStopped (closeRest rest) ∧ (begun ∨ page = q ∨ page ∈ rest)

/-- The `j`-th caller has nothing at stake, and has come to its end only if somebody has set about
closing the page. -/
def Closer (begun : Prop) (c : State π) (j : Nat) : Prop :=
  ∃ x, c.callers[j]? = some x ∧ x.stake = .nothing ∧ (x.standing = .over (.ok none) → begun)

section
variable {c d : State π} {e : Event π} {page : π} {begun : Prop} {p : Pool π} {i j : Nat}

theorem due_closeRest {pages : List π} (hkept : begun ∨ page ∈ p.entries.map (·.page))
    (hdue : begun ∨ page ∈ pages) : Due page begun (advance (closeRest pages) p) := by
  cases pages with
  | nil =>
    have hbegun : begun := hdue.resolve_right List.not_mem_nil
    exact ⟨.inl hbegun, nofun, rfl, fun _ => hbegun⟩
  | cons q rest =>
    refine ⟨hkept, ?_, rfl, nofun⟩
    rintro _ _ ⟨⟩
    exact ⟨rest, rfl, by simpa using hdue⟩

theorem due_closeNext {rest : List π} (r : Outcome Fault Unit)
    (hkept : begun ∨ page ∈ p.entries.map (·.page)) (hdue : begun ∨ page ∈ rest) :
    Due page begun (advance (unlessStopped (closeRest rest) r) p) :=
  match r with
  | .ok _ | .error (.failed _) => due_closeRest hkept hdue
  | .error .cancelled | .error .interrupted => ⟨hkept, nofun, rfl, nofun⟩

omit [DecidableEq π] in
theorem Doomed.mono {begun' : Prop} (h : Doomed page begun c) (hbegun : begun → begun') :
    Doomed page begun' c := by
  refine ⟨h.kept.imp_left hbegun, fun x hx q next hstanding => ?_⟩
  obtain ⟨rest, hnext, hdue⟩ := h.due x hx q next hstanding
  exact ⟨rest, hnext, hdue.imp_left hbegun⟩

omit [DecidableEq π] in
theorem Closer.mono {begun' : Prop} (h : Closer begun c j) (hbegun : begun → begun') :
    Closer begun' c j := by
  obtain ⟨x, hx, hstake, hfinished⟩ := h
  exact ⟨x, hx, hstake, fun hover => hbegun (hfinished hover)⟩

omit [DecidableEq π] in
/-- One caller has moved, and what is due to others is due still. -/
theorem Doomed.set {y : Caller π} (h : Doomed page begun c)
    (hkept : begun ∨ page ∈ d.pool.entries.map (·.page))
    (hd : ∀ x ∈ d.callers, x ∈ c.callers ∨ x = y)
    (hy : ∀ q next, y.standing = .paused (.signal (.shut q)) next →
      ∃ rest, next = unlessStopped (closeRest rest) ∧ (begun ∨ page = q ∨ page ∈ rest)) :
    Doomed page begun d := by
  refine ⟨hkept, fun x hx => ?_⟩
  rcases hd x hx with hx | rfl
  · exact h.due x hx
  · exact hy

omit [DecidableEq π] in
theorem mem_callers_of_set {x y : Caller π} (hd : d.callers = c.callers.set i y) (hx : x ∈ d.callers) :
    x ∈ c.callers ∨ x = y := by
  rw [hd] at hx
  exact List.mem_or_eq_of_mem_set hx

omit [DecidableEq π] in
theorem mem_callers_of_append {x y : Caller π} (hd : d.callers = c.callers ++ [y])
    (hx : x ∈ d.callers) : x ∈ c.callers ∨ x = y := by
  rw [hd] at hx
  simpa using hx

omit [DecidableEq π] in
theorem Closer.append {y : Caller π} (hd : d.callers = c.callers ++ [y]) (h : Closer begun c j) :
    Closer begun d j := by
  obtain ⟨x, hx, hrest⟩ := h
  obtain ⟨hlt, -⟩ := List.getElem?_eq_some_iff.1 hx
  exact ⟨x, by rw [hd, List.getElem?_append_left hlt, hx], hrest⟩

omit [DecidableEq π] in
theorem Closer.set {y : Caller π} (hd : d.callers = c.callers.set i y) (hij : i ≠ j)
    (h : Closer begun c j) : Closer begun d j := by
  obtain ⟨x, hx, hrest⟩ := h
  exact ⟨x, by rw [hd, List.getElem?_set_ne hij, hx], hrest⟩

/-- What moves without closing the pool takes no page from it, and does not begin to close it. -/
theorem Moved.spares {B : Stop Fault → Prop} {s : Stake π} {q : Pool π} {y : Caller π} (page : π)
    (h : Moved e.allows B p s q y) :
    (page ∈ p.entries.map (·.page) → page ∈ q.entries.map (·.page)) ∧
      ∀ r next, y.standing ≠ .paused (.signal (.shut r)) next := by
  refine ⟨fun hp => ?_, fun r next hstanding => ?_⟩
  · have hcarried : Carried e.allows fun q (_ : Stake π) => page ∈ q.entries.map (·.page) :=
      fun hm hmove => @Stable.move _ _ _ _ (stable_page page) _ _ _ _ _ [] hm.1 hmove
    exact h.carried _ hcarried hp
  · have hconduct := h.conduct
    rw [hstanding] at hconduct
    exact hconduct.allowed.1 rfl

theorem doomed_of_close (h : Doomed page begun c) (hd : step c (.enter .close) = some d) :
    Doomed page begun d ∧ Closer begun d c.callers.length := by
  obtain rfl := Option.some.inj hd
  have hdue : Due page begun (advance (Visit.close : Visit π).script c.pool) := by
    rw [script_close]
    exact due_closeRest (p := c.pool.shut.1) h.kept h.kept
  refine ⟨h.set hdue.kept (fun _ => mem_callers_of_append rfl) hdue.due, ?_⟩
  exact ⟨_, List.getElem?_concat_length, hdue.stake, hdue.finished⟩

/-- No event saves a page from being closed. -/
theorem Doomed.step (hc : WellPlaced c) (h : Doomed page begun c)
    (hbegun : ∀ x ∈ c.callers, ∀ next, x.standing = .paused (.signal (.shut page)) next → begun)
    (hd : step c e = some d) :
    Doomed page begun d ∧ ∀ j, Closer begun c j → Closer begun d j := by
  cases step_stirs hc hd with
  | moves i x y hx hstake hcallers _ hmoved =>
    obtain ⟨hkept, hnot⟩ := hmoved.spares page
    refine ⟨h.set (h.kept.imp_right hkept) (fun _ => mem_callers_of_set hcallers)
      fun q next hq => absurd hq (hnot q next), fun j hj => ?_⟩
    by_cases hij : i = j
    · obtain ⟨x', hx', hnothing, -⟩ := hj
      subst hij
      obtain rfl : x = x' := Option.some.inj (hx.symm.trans hx')
      exact absurd hnothing hstake
    · exact hj.set hcallers hij
  | comes y hcallers _ hmoved =>
    obtain ⟨hkept, hnot⟩ := hmoved.spares page
    exact ⟨h.set (h.kept.imp_right hkept) (fun _ => mem_callers_of_append hcallers)
      fun q next hq => absurd hq (hnot q next), fun j hj => hj.append hcallers⟩
  | shuts hd =>
    refine ⟨(doomed_of_close h hd).1, fun j hj => ?_⟩
    obtain rfl := Option.some.inj hd
    exact hj.append rfl
  | shutsNext i r q rest told hx hturn =>
    obtain rfl := hturn
    have hmem := List.mem_of_getElem? hx
    obtain ⟨rest', hnext, hrest⟩ := h.due _ hmem q _ rfl
    have hdue : Due page begun (advance (unlessStopped (closeRest rest) r) c.pool) := by
      rw [hnext]
      refine due_closeNext r h.kept ?_
      rcases hrest with hrest | rfl | hrest
      · exact .inl hrest
      · exact .inl (hbegun _ hmem _ rfl)
      · exact .inr hrest
    refine ⟨h.set hdue.kept (fun _ => mem_callers_of_set rfl) hdue.due, fun j hj => ?_⟩
    by_cases hij : i = j
    · subst hij
      obtain ⟨hlt, -⟩ := List.getElem?_eq_some_iff.1 hx
      exact ⟨_, List.getElem?_set_self hlt, hdue.stake, hdue.finished⟩
    · exact hj.set rfl hij

/-- A whole history saves no page from being closed. -/
theorem Doomed.run {b : State π} {es₀ es : List (Event π)} (hb : run c es₀ = some b)
    (hplaced : WellPlaced b) (h : Doomed page (SetsAbout c es₀ page) b) (hd : run b es = some d) :
    Doomed page (SetsAbout c (es₀ ++ es) page) d ∧
      ∀ j, Closer (SetsAbout c es₀ page) b j → Closer (SetsAbout c (es₀ ++ es) page) d j := by
  induction es generalizing b es₀ with
  | nil =>
    obtain rfl := Option.some.inj hd
    rw [List.append_nil]
    exact ⟨h, fun _ => id⟩
  | cons e es ih =>
    obtain ⟨b', hb', hd⟩ := Option.bind_eq_some_iff.1 hd
    have hrun : Crowd.run c (es₀ ++ [e]) = some b' := by
      rw [run_append, hb, Option.bind_some, Crowd.run, hb']
      rfl
    have hmore : SetsAbout c es₀ page → SetsAbout c (es₀ ++ [e]) page :=
      SetsAbout.mono (List.prefix_append _ _)
    have hbegun : ∀ x ∈ b.callers, ∀ next, x.standing = .paused (.signal (.shut page)) next →
        SetsAbout c es₀ page := by
      rintro ⟨standing, told⟩ hx next rfl
      obtain ⟨i, hi⟩ := List.mem_iff_getElem?.1 hx
      exact ⟨es₀, List.prefix_refl _, b, i, next, told, hb, hi⟩
    obtain ⟨hdoomed, hclosers⟩ := h.step hplaced hbegun hb'
    obtain ⟨hdoomed', hclosers'⟩ := ih hrun (wellPlaced_step hplaced hb') (hdoomed.mono hmore) hd
    rw [List.append_assoc] at hdoomed' hclosers'
    exact ⟨hdoomed', fun j hj => hclosers' j ((hclosers j hj).mono hmore)⟩

/-- When one who closes the pool is through with it, somebody has set about closing the page. -/
theorem Doomed.setsAbout {b : State π} {es₁ es₂ : List (Event π)} {told : Bool}
    (h : Doomed page (SetsAbout c [] page) c) (hc : WellPlaced c) (hb : Crowd.run c es₁ = some b)
    (hd : Crowd.run b (.enter .close :: es₂) = some d)
    (hover : d.callers[b.callers.length]? = some ⟨.over (.ok none), told⟩) :
    SetsAbout c (es₁ ++ .enter .close :: es₂) page := by
  obtain ⟨b', hb', hd⟩ := Option.bind_eq_some_iff.1 hd
  have hplaced : WellPlaced b := wellPlaced_run hc hb
  obtain ⟨hdoomed, -⟩ := h.run rfl hc hb
  obtain ⟨hdoomed', hcloser⟩ := doomed_of_close hdoomed hb'
  have hmore : SetsAbout c es₁ page → SetsAbout c (es₁ ++ [.enter .close]) page :=
    SetsAbout.mono (List.prefix_append _ _)
  have hrun : Crowd.run c (es₁ ++ [.enter .close]) = some b' := by
    rw [run_append, hb, Option.bind_some, Crowd.run, hb']
    rfl
  -- the one who closes the pool is the last to have come, and is followed from there on
  obtain ⟨x, hx, -, hfinished⟩ := (Doomed.run hrun (wellPlaced_step hplaced hb')
    (hdoomed'.mono hmore) hd).2 _ (hcloser.mono hmore)
  obtain rfl : x = ⟨.over (.ok none), told⟩ := Option.some.inj (hx.symm.trans hover)
  simpa using hfinished rfl

/-- A page that a caller brings is one of the pool's. -/
theorem mem_of_make (hc : WellPlaced c) (hd : step c (.make i (.ok page)) = some d) :
    page ∈ d.pool.entries.map (·.page) := by
  cases happens_of_step hd with
  | make hx hfresh =>
    cases hc _ (List.mem_of_getElem? hx) with
    | creates u =>
      have hpool : (advance ((made (.ok page)).bind u.follow) c.pool).1 = c.pool.created page := by
        cases u <;> rfl
      have hlast : page ∈ (c.pool.created page).entries.map (·.page) := by
        rw [created_eq hfresh]
        simp
      change page ∈ (advance ((made (.ok page)).bind u.follow) c.pool).1.entries.map (·.page)
      rw [hpool]
      exact hlast

/-- Until somebody closes the pool it has every page that was created. -/
theorem mem_of_made {es : List (Event π)} (hes : ∀ e ∈ es, e.manner ≠ .closing)
    (hc : ∀ x ∈ c.callers, Conduct (· ≠ .closing) x.standing) (hd : run c es = some d)
    (hmade : .make i (.ok page) ∈ es) : page ∈ d.pool.entries.map (·.page) := by
  obtain ⟨es₁, es₂, rfl⟩ := List.append_of_mem hmade
  rw [run_append] at hd
  obtain ⟨b, hb, hd⟩ := Option.bind_eq_some_iff.1 hd
  obtain ⟨b', hb', hd⟩ := Option.bind_eq_some_iff.1 hd
  have hkeeps : Keeps (· ≠ .closing) (fun _ _ => True) b :=
    run_keeps stable_trivial (by decide)
      (fun e he => hes e (List.mem_append_left _ he)) ⟨trivial, hc⟩ hb
  have hthere : page ∈ b'.pool.entries.map (·.page) :=
    mem_of_make (fun x hx => (hkeeps.conduct x hx).mono fun _ _ => trivial) hb'
  have hkeeps' := step_keeps stable_trivial (by decide)
    (hes _ hmade) hkeeps hb'
  refine (run_keeps (stable_page page) (by decide) (fun e he => hes e ?_)
    ⟨hthere, hkeeps'.conduct⟩ hd).holds
  exact List.mem_append_right _ (List.mem_cons_of_mem _ he)

end

/-! ## Closing ends the lending -/

section
variable {c d : State π} {es : List (Event π)} {i : Nat}

/-- In a closed pool nobody comes by a claim, whatever happens. -/
theorem canGet_of_run (hc : WellPlaced c) (hshut : IsShut c.pool) (hd : run c es = some d) :
    WellPlaced d ∧ IsShut d.pool ∧ ∀ i page, CanGet d i page → CanGet c i page := by
  induction es generalizing c with
  | nil =>
    obtain rfl := Option.some.inj hd
    exact ⟨hc, hshut, fun _ _ => id⟩
  | cons e es ih =>
    obtain ⟨b, hb, hd⟩ := Option.bind_eq_some_iff.1 hd
    obtain ⟨hshut', hclaims⟩ := canGet_of_step hc hshut hb
    obtain ⟨hd, hshut'', hclaims'⟩ := ih (wellPlaced_step hc hb) hshut' hd
    exact ⟨hd, hshut'', fun i page h => hclaims i page (hclaims' i page h)⟩

/-- Who comes to a bad end in the course of a history does so because of an event in it, or because the
pool finds fault. -/
theorem ends_of_run (hc : WellPlaced c) (hd : run c es = some d) {x : Caller π} {s : Stop Fault}
    (hx : d.callers[i]? = some x) (hs : x.standing = .over (.error s)) :
    c.callers[i]? = some x ∨ (∃ e ∈ es, e.ends i s) ∨ ∃ fault, s = .failed (.pool fault) := by
  induction es generalizing c with
  | nil =>
    obtain rfl := Option.some.inj hd
    exact .inl hx
  | cons e es ih =>
    obtain ⟨b, hb, hd⟩ := Option.bind_eq_some_iff.1 hd
    rcases ih (wellPlaced_step hc hb) hd with hb' | ⟨e', he', hends⟩ | hfault
    · rcases ends_of_step hc hb hb' hs with hc' | hends | hfault
      · exact .inl hc'
      · exact .inr (.inl ⟨e, List.mem_cons_self, hends⟩)
      · exact .inr (.inr hfault)
    · exact .inr (.inl ⟨e', List.mem_cons_of_mem _ he', hends⟩)
    · exact .inr (.inr hfault)

/-- Who asks a closed pool for a page is refused at once. -/
theorem step_enter_of_isShut (h : IsShut d.pool) {v : Visit π} (hv : v = .acquire ∨ v = .lease) :
    step d (.enter v) = some { d with
      callers := d.callers ++ [⟨.over (.error (.failed (.pool .closed))), false⟩] } := by
  have hrefused : ∀ u : Purpose, advance (client.acquire.bind u.follow) d.pool =
      (d.pool, .over (.error (.failed (.pool .closed)))) := by
    intro u
    have hcall : advance (client.acquire.bind u.follow) d.pool =
        advance ((asked d.pool.acquire.2).bind u.follow) d.pool.acquire.1 := by
      rw [acquire_eq]
      rfl
    rw [hcall, h.acquire]
    rfl
  rcases hv with rfl | rfl
  · rw [step, show (Visit.acquire : Visit π).script = client.acquire.bind Purpose.keep.follow from rfl,
      hrefused]
  · rw [step, script_lease, hrefused]

/-- A caller closes a pool that nobody has closed before. From then on whoever asks for a page is refused
at once, and nobody waits in vain. A page is held only by those who held it, had been granted it or were
creating one when the pool was closed; the rest end because the pool finds fault, because they were told
to give up, or as what they waited for has ended. And when anybody who closes the pool is through with
it, every page that had been created before has been set about closing. -/
theorem close_ends_lending {limit : Int} {es' : List (Event π)}
    (hes : ∀ e ∈ es, e.manner ≠ .closing) (hc : after limit es = some c)
    (hd : run c (.enter .close :: es') = some d) :
    (∀ v, v = .acquire ∨ v = .lease → step d (.enter v) = some { d with
      callers := d.callers ++ [⟨.over (.error (.failed (.pool .closed))), false⟩] }) ∧
    (∀ i, ¬ Pending d i) ∧
    (∀ i (x : Caller π) page, d.callers[i]? = some x → x.stake = .page page → CanGet c i page) ∧
    (∀ i (x : Caller π) s, d.callers[i]? = some x → x.standing = .over (.error s) →
      c.callers[i]? = some x ∨ (∃ e ∈ es', e.ends i s) ∨ ∃ fault, s = .failed (.pool fault)) ∧
    ∀ es₁ es₂ b told, .enter .close :: es' = es₁ ++ .enter .close :: es₂ → run c es₁ = some b →
      d.callers[b.callers.length]? = some ⟨.over (.ok none), told⟩ →
        ∀ i page, .make i (.ok page) ∈ es → SetsAbout c (.enter .close :: es') page := by
  have hkeeps : Keeps (· ≠ .closing) Accounts c :=
    run_keeps (stable_accounts.mono fun _ _ => trivial) (by decide) hes ⟨accounts_empty _, by simp⟩
      (after_eq_some hc).2
  have hplaced : WellPlaced c := fun x hx => (hkeeps.conduct x hx).mono fun _ _ => trivial
  obtain ⟨b, hb, hrun⟩ := Option.bind_eq_some_iff.1 hd
  obtain ⟨hshut, hclaims⟩ := canGet_of_close hb
  obtain ⟨-, hshut', hclaims'⟩ := canGet_of_run (wellPlaced_step hplaced hb) hshut hrun
  refine ⟨fun v hv => step_enter_of_isShut hshut' hv, fun i hi => ?_, fun i x page hx hs => ?_,
    fun i x s hx hs => ?_, fun es₁ es₂ b₁ told hsplit hb₁ hover i page hmade => ?_⟩
  · have hacc := (run_keeps stable_accounts trivial (fun _ _ => trivial) ⟨hkeeps.holds, hplaced⟩ hd).holds
    obtain ⟨w, hw, -⟩ := (hasWaiter_iff_pending hacc).2 ⟨i, hi⟩
    rw [hshut'.deserted] at hw
    cases hw
  · have hcan : CanGet d i page := ⟨x, hx, hs ▸ rfl⟩
    exact hclaims i page (hclaims' i page hcan)
  · rcases ends_of_run hplaced hd hx hs with hold | ⟨e, he, hends⟩ | hfault
    · exact .inl hold
    · rcases List.mem_cons.1 he with rfl | he
      · exact hends.elim
      · exact .inr (.inl ⟨e, he, hends⟩)
    · exact .inr (.inr hfault)
  · have hdoomed : Doomed page (SetsAbout c [] page) c := by
      refine ⟨.inr ?_, fun x hx q next hstanding => ?_⟩
      · exact mem_of_made hes (by simp) (after_eq_some hc).2 hmade
      · have hconduct := hkeeps.conduct x hx
        rw [hstanding] at hconduct
        exact absurd rfl hconduct.allowed
    rw [hsplit, run_append, hb₁, Option.bind_some] at hd
    rw [hsplit]
    exact hdoomed.setsAbout hplaced hb₁ hd hover

end

/-- The only page is lent, a second caller waits, and a third one closes the pool and is through with
it before the second one hears of it. -/
def closedDown : List (Event Nat) := [.goOn 2 (.ok ()), .hear 1]

theorem close_ends_lending_oneWaits : ∃ c d, after 1 oneWaits = some c ∧
    run c (.enter .close :: closedDown) = some d ∧
    (d.callers[1]?).map Caller.stake = some .nothing ∧ SetsAbout c (.enter .close :: closedDown) 7 ∧
    (∀ i, ¬ Pending d i) ∧
    step d (.enter .acquire) = some { d with
      callers := d.callers ++ [⟨.over (.error (.failed (.pool .closed))), false⟩] } := by
  refine ⟨_, _, rfl, rfl, rfl, ?_⟩
  have hopen : ∀ e ∈ oneWaits, e.manner ≠ .closing := by decide
  obtain ⟨hrefused, hnobody, -, -, hclosed⟩ := close_ends_lending hopen
    (rfl : after 1 oneWaits = some _) (rfl : run _ (.enter .close :: closedDown) = some _)
  exact ⟨hclosed [] closedDown _ false rfl rfl rfl 0 7 (by simp [oneWaits]), hnobody,
    hrefused .acquire (.inl rfl)⟩

/-- A caller who was granted a page just before the pool is closed still gets it, after the page has been
closed; and a page that is being created meanwhile goes to its creator, and nobody closes it. -/
theorem close_misses :
    (∃ d, after 1 (oneWaits ++ [.bringBack 0, .enter .close, .goOn 2 (.ok ()), .hear 1]) = some d ∧
      d.pool.isClosed = true ∧ (d.callers[1]?).map Caller.stake = some (.page 7)) ∧
    ∃ c d, after 1 [.enter .acquire] = some c ∧ run c [.enter .close, .make 0 (.ok 7)] = some d ∧
      (d.callers[1]?).any (fun x => match x.standing with
        | .over (.ok none) => true
        | _ => false) = true ∧
      (d.callers[0]?).map Caller.stake = some (.page 7) ∧
      d.callers.all fun x => match x.standing with
        | .paused .. => false
        | _ => true := ⟨⟨_, rfl, rfl, rfl⟩, _, _, rfl, rfl, rfl, rfl, rfl⟩

end Crowd
end BrowserPlan.Pool
