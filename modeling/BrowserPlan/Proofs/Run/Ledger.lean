import BrowserPlan.Proofs.Pool.Granting
import BrowserPlan.Proofs.Pool.Ownership
import BrowserPlan.Proofs.Pool.Waiting
import BrowserPlan.Proofs.Run.Branch
import BrowserPlan.Proofs.Run.Venue

/-!
# What the tasks of a run have at stake

The steps of all tasks come in any order, and each of them may deal with the pool. `Ledger` says that
what the tasks have at stake agrees with the books of the pool. A step that spares the pool keeps it
(`Ledger.spare`), a step that deals with the pool is a move (`Ledger.move`), and so every step that is
in the rules keeps it (`Ledger.step`).
-/
namespace BrowserPlan.Run

open BrowserPlan.Task BrowserPlan.Browser
open BrowserPlan.Pool (Stake Move Stable Accounts Exclusive Busy heldPages stakeOf)

variable {W : Type} {m : Machine scene W} {F : Findings} {job : Job} {s s' : Stage} {d : Deed scene}

/-! ## What single steps do to the pool -/

theorem Stage.stake_admitted (a : Admission PageId) : (Stage.admitted a).stake = stakeOf a := by
  cases a <;> rfl

theorem Stage.stake_entered {a : Admission PageId} (h : ∀ j, a ≠ .queue j) :
    (Stage.entered a).stake = stakeOf a := by
  cases a with
  | queue j => exact absurd rfl (h j)
  | _ => rfl

/-- Steps that have nothing to do with the pool. -/
def Spares : Deed scene → Prop
  | .ask q _ => Call.sparesPool q = true
  | .wake (.signal _) _ => False
  | _ => True

theorem IsAside.spares (h : IsAside d) : Spares d := by
  cases h <;> rfl

theorem IsPause.spares (h : IsPause d) : Spares d := by
  cases h <;> trivial

theorem IsCall.spares {who : Party} {op : Operation} (h : IsCall who op d) : Spares d := by
  cases h <;> rfl

theorem IsQuiet.spares {p : PageId} (h : IsQuiet F p d) : Spares d := by
  cases h with
  | aside h => exact h.spares
  | pause h => exact h.spares
  | call hw hop h => exact h.spares
  | _ => rfl

/-- Whoever does not deal with the pool keeps what it has at stake. -/
theorem Next.spares (h : Next F job s d s') : Deals s d s' ∨ Spares d ∧ s'.stake = s.stake := by
  cases h with
  | deal h => exact .inl h
  | aside h => exact .inr ⟨h.spares, rfl⟩
  | make h | prepare h => exact .inr ⟨h.spares, rfl⟩
  | limit hop h => exact .inr ⟨h.spares, rfl⟩
  | quiet h | help h => exact .inr ⟨h.spares, rfl⟩
  | share h =>
    refine .inr ?_
    cases h <;> exact ⟨trivial, rfl⟩
  | _ => exact .inr ⟨rfl, rfl⟩

theorem Next.due {k : Nat} (h : Next F job s d (.due k)) (hd : ¬ Deals s d (.due k)) : s = .due k := by
  cases h with
  | aside => rfl
  | deal h => exact absurd h hd

theorem Next.made {p : PageId} (h : Next F job s d (.made p)) (hd : ¬ Deals s d (.made p)) :
    s = .made p ∨ ∃ landing, d = .ask (.complete .context landing .newPage) (.ok p) := by
  cases h with
  | aside | limit | prepare => exact .inl rfl
  | deal h => exact absurd h hd
  | opened landing => exact .inr ⟨landing, rfl⟩

/-- Only helpers and branches are started, never another task for steps. -/
theorem Next.starts {job' : Job} {u : TaskId} (h : Next F job s (.start job' u) s') :
    job'.IsPartOfRun ∧ (Stage.first job').stake = .nothing ∧
      (∀ page list index, job' ≠ .steps page list index) := by
  obtain ⟨w, w', -, -, hshares⟩ := h.shares trivial
  cases hshares with
  | engage u hs hhelp => cases hhelp <;> exact ⟨trivial, rfl, nofun⟩
  | dispatch u hl happ => exact ⟨happ, rfl, nofun⟩

/-! ## What single steps do to the world -/

section
variable {c c' : Crew scene W} {isTold : Bool} (V : Venue m)

/-- A step that spares the pool leaves it as it is and grants nothing. -/
theorem spared (ha : Crew.Allows m c isTold d c') (hd : Spares d) :
    V.pool c'.world = V.pool c.world ∧
      ∀ k r, (Signal.granted k, r) ∈ c'.given → (Signal.granted k, r) ∈ c.given := by
  cases ha with
  | ask now ha =>
    refine ⟨V.pool_spared now _ _ hd, fun k r hr => ?_⟩
    rcases List.mem_append.1 hr with hr | hr
    · exact hr
    · exact absurd hr (V.nothing_granted now _ _ hd k r)
  | breakOff on h =>
    cases on with
    | signal => exact hd.elim
    | timer | forever => exact ⟨rfl, fun _ _ => id⟩
  | _ => exact ⟨rfl, fun _ _ => id⟩

/-- A step in which the pool is asked. -/
theorem asked {q : PoolCall PageId} {a : q.Answer} (ha : Crew.Allows m c isTold (.ask (.pool q) a) c') :
    V.pool c'.world = ((V.pool c.world).perform q).1 ∧ a = ((V.pool c.world).perform q).2.1 ∧
      ∀ k r, (Signal.granted k, r) ∈ c'.given → (Signal.granted k, r) ∈ c.given ∨
        r = .ok () ∧ k ∈ ((V.pool c.world).perform q).2.2 := by
  cases ha with
  | ask now ha =>
    have hanswers := V.pool_answers now c.world q
    refine ⟨V.pool_asked now _ _, ha.trans (congrArg Prod.fst hanswers), fun k r hr => ?_⟩
    rcases List.mem_append.1 hr with hr | hr
    · exact .inl hr
    · rw [congrArg Prod.snd hanswers] at hr
      simp only [World.raised, List.mem_map] at hr
      obtain ⟨s, ⟨j, hj, rfl⟩, heq⟩ := hr
      simp only [Prod.mk.injEq, Signal.granted.injEq] at heq
      exact .inr ⟨heq.2.symm, heq.1 ▸ hj⟩
  | wait h => cases h
  | late h he hd =>
    cases he <;> cases hd

theorem knows_allows (ha : Crew.Allows m c isTold d c') {p : PageId} (hp : V.knows c.world p) :
    V.knows c'.world p := by
  cases ha with
  | ask now ha => exact V.knows_more now _ _ p hp
  | breakOff on h =>
    cases on with
    | signal s => exact V.knows_forsaken _ s p hp
    | timer | forever => exact hp
  | _ => exact hp

end

/-! ## The books -/

/-- The books of an open pool for `limit` pages and the stakes of the tasks. -/
def Books (limit : Nat) (p : Pool PageId) (ss : List (Stake PageId)) : Prop :=
  (Accounts p ss ∧ Exclusive p (heldPages ss)) ∧ (Accounts p ss ∧ p.isClosed = false ∧ Busy p) ∧
    p.maxPages = limit

theorem stable_books (limit : Nat) : Stable (· = .orderly) (Books limit) :=
  Pool.stable_exclusive.and ((Pool.stable_busy.mono (by rintro m rfl; decide)).and
    ((Pool.stable_limit limit).mono fun _ _ => trivial))

theorem books_empty (limit : Nat) : Books limit { maxPages := limit } [] :=
  ⟨⟨Pool.accounts_empty _, List.Perm.nil⟩,
    ⟨Pool.accounts_empty _, rfl, Busy.of_waiters_nil rfl⟩, rfl⟩

/-- What the first `n` tasks have at stake. -/
def stakes (n : Nat) (g : TaskId → Stage) : List (Stake PageId) :=
  (List.range n).map fun t => (g t).stake

theorem stakes_perm {n : Nat} {t : TaskId} (ht : t < n) (g : TaskId → Stage) (s : Stage) :
    (stakes n (Function.update g t s)).Perm
      (s.stake :: ((List.range n).erase t).map fun u => (g u).stake) := by
  have hmem : t ∈ List.range n := List.mem_range.2 ht
  refine ((List.perm_cons_erase hmem).map _).trans ?_
  rw [List.map_cons, Function.update_self]
  refine List.Perm.cons _ (List.Perm.of_eq (List.map_congr_left fun u hu => ?_))
  have hne : u ≠ t := fun h => (List.nodup_range.mem_erase_iff.1 hu).1 h
  rw [Function.update_of_ne hne]

theorem stakes_succ (n : Nat) (g : TaskId → Stage) :
    stakes (n + 1) g = stakes n g ++ [(g n).stake] := by
  rw [stakes, List.range_succ, List.map_append]
  rfl

theorem stakes_congr {n : Nat} {g g' : TaskId → Stage} (h : ∀ t < n, (g' t).stake = (g t).stake) :
    stakes n g' = stakes n g := List.map_congr_left fun t ht => h t (List.mem_range.1 ht)

theorem forsake_of_granted {p : Pool PageId} {ss : List (Stake PageId)} {k : Nat}
    (h : Accounts p ss) (hk : (p.handout? k).isSome = true) : p.forsake k = p := by
  obtain ⟨g, hg, rfl⟩ := Pool.isSome_handout?_iff.1 hk
  have hmap : p.waiters.map (fun w => if w.ticket == g.1 then { w with isCancelled := true } else w) =
      p.waiters := by
    refine (List.map_congr_left fun w hw => if_neg ?_).trans (List.map_id _)
    simpa using h.ticketed.apart g hg w hw
  rw [Pool.forsake, hmap]

theorem ticket_owner {p : Pool PageId} {n : Nat} {g : TaskId → Stage} (h : Accounts p (stakes n g))
    {t u : TaskId} (ht : t < n) (hu : u < n) {k : Nat} {a b : Bool} (hta : (g t).stake = .ticket k a)
    (hub : (g u).stake = .ticket k b) : t = u := by
  have hn := h.ticketed.distinct
  rw [Pool.tickets, List.map_filterMap] at hn
  have hget : ∀ {v : TaskId}, v < n → (stakes n g)[v]? = some (g v).stake := by
    intro v hv
    simp [stakes, hv]
  have hnumber : ∀ c, (Stake.ticket k c : Stake PageId).ticket?.map (·.1) = some k := fun _ => rfl
  exact Pool.index_unique hn (hget ht) (hget hu) (hta ▸ hnumber a) (hub ▸ hnumber b)

/-! ## The ledger -/

/-- The pages that a pool has. -/
def pagesOf (p : Pool PageId) : List PageId := p.entries.map (·.page)

/-- What the first `n` tasks, at the stages `g`, have at stake agrees with the pool: its books are
right; a ticket that was announced as granted was granted something; and a page that was made and not
yet handed to the pool is new to it. The page `home` is no page of the pool. -/
structure Ledger (V : Venue m) (limit : Nat) (home : PageId) (n : Nat) (w : W)
    (given : List (Signal × Outcome Fault Unit)) (g : TaskId → Stage) : Prop where
  books : Books limit (V.pool w) (stakes n g)
  granted : ∀ k r, (.granted k, r) ∈ given → r = .ok () ∧ k < (V.pool w).nextTicket ∧
    ∀ t < n, (g t).stake = .ticket k false → ((V.pool w).handout? k).isSome = true
  due : ∀ t < n, ∀ k, g t = .due k → ((V.pool w).handout? k).isSome = true
  away : V.knows w home ∧ home ∉ pagesOf (V.pool w)
  known : ∀ p ∈ pagesOf (V.pool w), V.knows w p
  made : ∀ t < n, ∀ p, g t = .made p → V.knows w p ∧ p ∉ pagesOf (V.pool w) ∧ p ≠ home
  apart : ∀ t < n, ∀ u < n, ∀ p, g t = .made p → g u = .made p → t = u

namespace Ledger

variable {V : Venue m} {limit : Nat} {home : PageId} {n : Nat} {w w' : W}
  {given given' : List (Signal × Outcome Fault Unit)} {g : TaskId → Stage} {t : TaskId}

/-- The pool is left alone, and one task goes on with the same at stake. -/
theorem spare (h : Ledger V limit home n w given g) (ht : t < n) (hpool : V.pool w' = V.pool w)
    (hgiven : ∀ k r, (Signal.granted k, r) ∈ given' → (Signal.granted k, r) ∈ given)
    (hknows : ∀ p, V.knows w p → V.knows w' p) (hstake : s'.stake = (g t).stake)
    (hdue : ∀ k, s' = .due k → ((V.pool w).handout? k).isSome = true)
    (hmade : ∀ p, s' = .made p → g t = .made p ∨ (¬ V.knows w p ∧ V.knows w' p)) :
    Ledger V limit home n w' given' (Function.update g t s') := by
  have hstakes : ∀ u, (Function.update g t s' u).stake = (g u).stake := by
    intro u
    by_cases hu : u = t
    · rw [hu, Function.update_self, hstake]
    · rw [Function.update_of_ne hu]
  -- a page that was opened in this step is not known to anybody else
  have hnew : ∀ u < n, u ≠ t → ∀ p, g u = .made p → s' = .made p → g t = .made p := by
    intro u hu hne p hgu hs
    rcases hmade p hs with hgt | ⟨hunknown, -⟩
    · exact hgt
    · exact absurd (h.made u hu p hgu).1 hunknown
  constructor
  case books =>
    rw [hpool, stakes_congr fun u _ => hstakes u]
    exact h.books
  case granted =>
    intro k r hr
    rw [hpool]
    obtain ⟨hok, hlt, hsome⟩ := h.granted k r (hgiven k r hr)
    exact ⟨hok, hlt, fun u hu hk => hsome u hu (hstakes u ▸ hk)⟩
  case due =>
    intro u hu k hk
    rw [hpool]
    by_cases hut : u = t
    · rw [hut, Function.update_self] at hk
      exact hdue k hk
    · rw [Function.update_of_ne hut] at hk
      exact h.due u hu k hk
  case away => exact hpool ▸ ⟨hknows _ h.away.1, h.away.2⟩
  case known => exact hpool ▸ fun p hp => hknows p (h.known p hp)
  case made =>
    intro u hu p hp
    rw [hpool]
    have hold : ∀ v < n, g v = .made p → V.knows w' p ∧ p ∉ pagesOf (V.pool w) ∧ p ≠ home := by
      intro v hv hgv
      obtain ⟨hk, hp, hh⟩ := h.made v hv p hgv
      exact ⟨hknows p hk, hp, hh⟩
    by_cases hut : u = t
    · rw [hut, Function.update_self] at hp
      rcases hmade p hp with hgt | ⟨hunknown, hknown⟩
      · exact hold t ht hgt
      · exact ⟨hknown, fun hmem => hunknown (h.known p hmem), fun heq => hunknown (heq.symm ▸ h.away.1)⟩
    · rw [Function.update_of_ne hut] at hp
      exact hold u hu hp
  case apart =>
    intro u hu v hv p hup hvp
    by_cases hut : u = t
    · by_cases hvt : v = t
      · exact hut.trans hvt.symm
      · rw [hut, Function.update_self] at hup
        rw [Function.update_of_ne hvt] at hvp
        exact hut.trans (h.apart t ht v hv p (hnew v hv hvt p hvp hup) hvp)
    · rw [Function.update_of_ne hut] at hup
      by_cases hvt : v = t
      · rw [hvt, Function.update_self] at hvp
        exact (h.apart u hu t ht p hup (hnew u hu hut p hup hvp)).trans hvt.symm
      · rw [Function.update_of_ne hvt] at hvp
        exact h.apart u hu v hv p hup hvp

/-- A task joins that has nothing at stake. -/
theorem enroll (h : Ledger V limit home n w given g) (hs : s.stake = .nothing) :
    Ledger V limit home (n + 1) w given (Function.update g n s) := by
  -- who has anything at stake was there before
  have hold : ∀ u < n + 1, (Function.update g n s u).stake ≠ .nothing →
      u < n ∧ Function.update g n s u = g u := by
    intro u hu hne
    have hun : u ≠ n := by
      rintro rfl
      rw [Function.update_self] at hne
      exact hne hs
    exact ⟨Nat.lt_of_le_of_ne (Nat.le_of_lt_succ hu) hun, Function.update_of_ne hun ..⟩
  have hmade : ∀ u < n + 1, ∀ p, Function.update g n s u = .made p → u < n ∧ g u = .made p := by
    intro u hu p hp
    obtain ⟨hlt, heq⟩ := hold u hu (by rw [hp]; nofun)
    exact ⟨hlt, heq ▸ hp⟩
  constructor
  case books =>
    rw [stakes_succ, Function.update_self, hs, stakes_congr fun u hu => by
      rw [Function.update_of_ne (Nat.ne_of_lt hu)]]
    exact (stable_books limit).perm (List.perm_append_singleton _ _).symm
      ((stable_books limit).join h.books)
  case granted =>
    intro k r hr
    obtain ⟨hok, hlt, hsome⟩ := h.granted k r hr
    refine ⟨hok, hlt, fun u hu hk => ?_⟩
    obtain ⟨hun, heq⟩ := hold u hu (by rw [hk]; nofun)
    exact hsome u hun (heq ▸ hk)
  case due =>
    intro u hu k hk
    obtain ⟨hun, heq⟩ := hold u hu (by rw [hk]; nofun)
    exact h.due u hun k (heq ▸ hk)
  case away => exact h.away
  case known => exact h.known
  case made =>
    intro u hu p hp
    obtain ⟨hun, hgu⟩ := hmade u hu p hp
    exact h.made u hun p hgu
  case apart =>
    intro u hu v hv p hup hvp
    obtain ⟨hun, hgu⟩ := hmade u hu p hup
    obtain ⟨hvn, hgv⟩ := hmade v hv p hvp
    exact h.apart u hun v hvn p hgu hgv

/-- One task makes a move. -/
theorem move (h : Ledger V limit home n w given g) (ht : t < n)
    (hmove : Move .orderly (V.pool w) (g t).stake (V.pool w') s'.stake)
    (hnext : (V.pool w).nextTicket ≤ (V.pool w').nextTicket)
    (hstay : ∀ k, ((V.pool w).handout? k).isSome = true → (∀ b, (g t).stake ≠ .ticket k b) →
      ((V.pool w').handout? k).isSome = true)
    (hpages : pagesOf (V.pool w') = pagesOf (V.pool w) ∨
      ∃ p, g t = .made p ∧ pagesOf (V.pool w') = pagesOf (V.pool w) ++ [p])
    (hgiven : ∀ k r, (Signal.granted k, r) ∈ given' → (Signal.granted k, r) ∈ given ∨
      r = .ok () ∧ ((V.pool w').handout? k).isSome = true)
    (hknows : ∀ p, V.knows w p → V.knows w' p)
    (hnew : ∀ k, s'.stake = .ticket k false → (V.pool w).nextTicket ≤ k)
    (hdue : ∀ k, s' ≠ .due k) (hmade : ∀ p, s' ≠ .made p) :
    Ledger V limit home n w' given' (Function.update g t s') := by
  have hbooks : Books limit (V.pool w') (stakes n (Function.update g t s')) := by
    have hbefore := stakes_perm ht g (g t)
    rw [Function.update_eq_self] at hbefore
    exact (stable_books limit).perm (stakes_perm ht g s').symm
      ((stable_books limit).move rfl hmove ((stable_books limit).perm hbefore h.books))
  -- what another task's ticket was granted stays
  have hother : ∀ u < n, u ≠ t → ∀ k b, (g u).stake = .ticket k b →
      ((V.pool w).handout? k).isSome = true → ((V.pool w').handout? k).isSome = true := by
    intro u hu hne k b hgu hsome
    exact hstay k hsome fun c hgt => hne (ticket_owner h.books.1.1 hu ht hgu hgt)
  have hpage : ∀ p ∈ pagesOf (V.pool w'), p ∈ pagesOf (V.pool w) ∨ g t = .made p := by
    intro p hp
    rcases hpages with heq | ⟨q, hq, heq⟩
    · exact .inl (heq ▸ hp)
    · rw [heq, List.mem_append, List.mem_singleton] at hp
      exact hp.imp_right fun hpq : p = q => hpq ▸ hq
  have hstill : ∀ u < n, ∀ p, Function.update g t s' u = .made p → u ≠ t ∧ g u = .made p := by
    intro u hu p hp
    have hne : u ≠ t := by
      rintro rfl
      rw [Function.update_self] at hp
      exact hmade p hp
    exact ⟨hne, Function.update_of_ne hne s' g ▸ hp⟩
  constructor
  case books => exact hbooks
  case granted =>
    intro k r hr
    rcases hgiven k r hr with hr | ⟨hok, hsome⟩
    · obtain ⟨hok, hlt, hsome⟩ := h.granted k r hr
      refine ⟨hok, Nat.lt_of_lt_of_le hlt hnext, fun u hu hk => ?_⟩
      by_cases hut : u = t
      · rw [hut, Function.update_self] at hk
        exact absurd hlt (Nat.not_lt_of_le (hnew k hk))
      · rw [Function.update_of_ne hut] at hk
        exact hother u hu hut k false hk (hsome u hu hk)
    · obtain ⟨x, hx, rfl⟩ := Pool.isSome_handout?_iff.1 hsome
      obtain ⟨b, hb⟩ := hbooks.1.1.ticketed.granted x hx
      exact ⟨hok, hbooks.1.1.ticketed.drawn _ hb, fun _ _ _ => hsome⟩
  case due =>
    intro u hu k hk
    by_cases hut : u = t
    · rw [hut, Function.update_self] at hk
      exact absurd hk (hdue k)
    · rw [Function.update_of_ne hut] at hk
      exact hother u hu hut k false (by rw [hk]; rfl) (h.due u hu k hk)
  case away =>
    refine ⟨hknows _ h.away.1, fun hmem => ?_⟩
    rcases hpage home hmem with hold | hgt
    · exact h.away.2 hold
    · exact (h.made t ht home hgt).2.2 rfl
  case known =>
    intro p hp
    rcases hpage p hp with hold | hgt
    · exact hknows p (h.known p hold)
    · exact hknows p (h.made t ht p hgt).1
  case made =>
    intro u hu p hp
    obtain ⟨hne, hgu⟩ := hstill u hu p hp
    obtain ⟨hk, hnot, hhome⟩ := h.made u hu p hgu
    refine ⟨hknows p hk, fun hmem => ?_, hhome⟩
    rcases hpage p hmem with hold | hgt
    · exact hnot hold
    · exact hne (h.apart u hu t ht p hgu hgt)
  case apart =>
    intro u hu v hv p hup hvp
    exact h.apart u hu v hv p (hstill u hu p hup).2 (hstill v hv p hvp).2

/-! ### Steps -/

section
variable {c c' : Crew scene W} {isTold : Bool}

/-- One task asks the pool. -/
theorem ask (h : Ledger V limit home n c.world c.given g) (ht : t < n) {q : PoolCall PageId}
    {a : q.Answer} (ha : Crew.Allows m c isTold (.ask (.pool q) a) c')
    (hmove : Move .orderly (V.pool c.world) (g t).stake ((V.pool c.world).perform q).1 s'.stake)
    (hsettled : ∀ k, Pool.settled? q = some k → ∃ b, (g t).stake = .ticket k b)
    (hpages : pagesOf ((V.pool c.world).perform q).1 = pagesOf (V.pool c.world) ∨
      ∃ p, g t = .made p ∧
        pagesOf ((V.pool c.world).perform q).1 = pagesOf (V.pool c.world) ++ [p])
    (hnew : ∀ k, s'.stake = .ticket k false → (V.pool c.world).nextTicket ≤ k)
    (hdue : ∀ k, s' ≠ .due k) (hmade : ∀ p, s' ≠ .made p) :
    Ledger V limit home n c'.world c'.given (Function.update g t s') := by
  obtain ⟨hpool, -, hgiven⟩ := asked V ha
  rw [← hpool] at hmove hpages
  refine h.move ht hmove ?_ ?_ hpages ?_ (fun p hp => knows_allows V ha hp) hnew hdue hmade
  · rw [hpool]
    exact Pool.nextTicket_perform q
  · intro k hk hne
    rw [hpool]
    refine Pool.granted_stays q hk fun hq => ?_
    obtain ⟨b, hb⟩ := hsettled k hq
    exact hne b hb
  · intro k r hr
    rw [hpool]
    exact (hgiven k r hr).imp_right fun ⟨hok, hk⟩ => ⟨hok, Pool.granted_of_told q hk⟩

theorem offered {k : Nat} {r : Outcome Fault Unit}
    (ho : c.Offers (.wake (.signal (.granted k)) r)) : (Signal.granted k, r) ∈ c.given := by
  cases ho with
  | signal hin => exact hin

/-- One task asks for a page. -/
theorem acquire (h : Ledger V limit home n c.world c.given g) (ht : t < n) (hs : g t = .fresh)
    {a : Admission PageId} (ha : Crew.Allows m c isTold (.ask (.pool .acquire) a) c') :
    Ledger V limit home n c'.world c'.given (Function.update g t (.admitted a)) := by
  obtain ⟨-, ha', -⟩ := asked V ha
  change a = (V.pool c.world).acquire.2 at ha'
  refine h.ask ht ha ?_ nofun (.inl (Pool.pages_perform nofun nofun)) ?_ ?_ ?_
  · rw [hs, Stage.stake_admitted, ha']
    exact .acquire _
  · intro k hk
    rw [Stage.stake_admitted] at hk
    cases a with
    | queue j =>
      cases hk
      exact Nat.le_of_eq (Pool.ticket_of_acquire ha'.symm).symm
    | _ => cases hk
  · exact fun k => by cases a <;> nofun
  · exact fun p => by cases a <;> nofun

theorem giveUp (h : Ledger V limit home n w given g) (ht : t < n) {k : Nat} (hs : g t = .drawn k)
    (hpool : V.pool w' = (V.pool w).forsake k) (hknows : ∀ p, V.knows w p → V.knows w' p) :
    Ledger V limit home n w' given (Function.update g t (.dropping k)) := by
  refine h.move ht ?_ ?_ ?_ ?_ (fun _ _ => .inl) hknows nofun nofun nofun
  · rw [hs, hpool]
    exact .tell _ k false
  · exact Nat.le_of_eq (by rw [hpool]; rfl)
  · exact fun j hj _ => by rw [hpool]; exact hj
  · exact .inl (by rw [hpool]; rfl)

/-- The wait of one task for its ticket ends otherwise than well. -/
theorem brokenOff (h : Ledger V limit home n c.world c.given g) (ht : t < n) {k : Nat}
    (hs : g t = .drawn k) {e : Stop Fault}
    (ha : Crew.Allows m c isTold (.wake (.signal (.granted k)) (.error e)) c') :
    Ledger V limit home n c'.world c'.given (Function.update g t (.dropping k)) := by
  cases ha with
  | wait ho => cases (h.granted k _ (offered ho)).1
  | breakOff on htold =>
    exact h.giveUp ht hs (V.pool_forsaken _ k) fun p hp => V.knows_forsaken _ _ p hp
  | late htold ho heq =>
    cases ho with
    | signal hin =>
      cases heq
      have hsome := (h.granted k _ hin).2.2 t ht (by rw [hs]; rfl)
      exact h.giveUp ht hs (forsake_of_granted h.books.1.1 hsome).symm fun _ => id
    | _ => cases heq

/-- One task takes what its ticket was granted. -/
theorem redeem (h : Ledger V limit home n c.world c.given g) (ht : t < n) {k : Nat}
    (hs : g t = .due k) {a : Admission PageId}
    (ha : Crew.Allows m c isTold (.ask (.pool (.redeem k)) a) c') :
    Ledger V limit home n c'.world c'.given (Function.update g t (.entered a)) := by
  obtain ⟨-, ha', -⟩ := asked V ha
  change a = ((V.pool c.world).redeem k).2 at ha'
  refine h.ask ht ha ?_ ?_ (.inl (Pool.pages_perform nofun nofun)) ?_ ?_ ?_
  · rw [hs, ha', Stage.stake_entered (Pool.redeem_ne_queue _ k)]
    exact .redeem _ k (h.due t ht k hs)
  · rintro j ⟨⟩
    exact ⟨false, by rw [hs]; rfl⟩
  · exact fun j => by cases a <;> nofun
  · exact fun j => by cases a <;> nofun
  · exact fun p => by cases a <;> nofun

/-- One task hands a page that it has made to the pool. -/
theorem created (h : Ledger V limit home n c.world c.given g) (ht : t < n) {p : PageId}
    (hs : g t = .made p) {a : PoolCall.Answer (.created p)}
    (ha : Crew.Allows m c isTold (.ask (.pool (.created p)) a) c') :
    Ledger V limit home n c'.world c'.given (Function.update g t (.lent p)) := by
  have hfresh := (h.made t ht p hs).2.1
  refine h.ask ht ha ?_ nofun (.inr ⟨p, hs, ?_⟩) nofun nofun nofun
  · rw [hs]
    exact .created _ p hfresh
  · change pagesOf ((V.pool c.world).created p) = _
    rw [Pool.created_eq hfresh]
    unfold pagesOf
    rw [List.map_append]
    rfl

/-- One task deals with the pool. -/
theorem deal (h : Ledger V limit home n c.world c.given g) (ht : t < n) (hd : Deals (g t) d s')
    (ha : Crew.Allows m c isTold d c') :
    Ledger V limit home n c'.world c'.given (Function.update g t s') := by
  generalize hs : g t = s at hd
  cases hd with
  | acquire a => exact h.acquire ht hs ha
  | granted k =>
    cases ha with
    | wait ho =>
      refine h.spare ht rfl (fun _ _ => id) (fun _ => id) (by rw [hs]; rfl) ?_ nofun
      rintro j ⟨⟩
      exact (h.granted k _ (offered ho)).2.2 t ht (by rw [hs]; rfl)
    | late htold ho heq =>
      cases ho <;> cases heq
  | brokenOff k e => exact h.brokenOff ht hs ha
  | redeem k a => exact h.redeem ht hs ha
  | renounce k a =>
    refine h.ask ht ha ?_ ?_ (.inl (Pool.pages_perform nofun nofun)) nofun nofun nofun
    · rw [hs]
      exact .renounce _ k
    · rintro j ⟨⟩
      exact ⟨true, by rw [hs]; rfl⟩
  | created p a => exact h.created ht hs ha
  | notMade a =>
    refine h.ask ht ha ?_ nofun (.inl (Pool.pages_perform nofun nofun)) nofun nofun nofun
    rw [hs]
    exact .notCreated _
  | notCreated p a =>
    refine h.ask ht ha ?_ nofun (.inl (Pool.pages_perform nofun nofun)) nofun nofun nofun
    rw [hs]
    exact .notCreated _
  | @release work a hleads hhelpers =>
    refine h.ask ht ha ?_ nofun (.inl (Pool.pages_perform nofun nofun)) nofun nofun nofun
    have hstake : (Stage.working work).stake = .page work.page := by simp [Stage.stake, hleads]
    rw [hs, hstake]
    exact .bringBack _ work.page

/-- One task takes a step. -/
theorem step (h : Ledger V limit home n c.world c.given g) (ht : t < n)
    (hnext : Next F job (g t) d s') (ha : Crew.Allows m c isTold d c') :
    Ledger V limit home n c'.world c'.given (Function.update g t s') := by
  by_cases hd : Deals (g t) d s'
  · exact h.deal ht hd ha
  · rcases hnext.spares with hdeal | ⟨hspares, hstake⟩
    · exact absurd hdeal hd
    · obtain ⟨hpool, hgiven⟩ := spared V ha hspares
      refine h.spare ht hpool hgiven (fun p hp => knows_allows V ha hp) hstake ?_ ?_
      · rintro k rfl
        exact h.due t ht k (hnext.due hd)
      · rintro p rfl
        refine (hnext.made hd).imp_right ?_
        rintro ⟨landing, rfl⟩
        cases ha with
        | ask now ha =>
          exact V.opened now _ _ _ p ha.symm
        | wait ho => cases ho
        | late htold ho heq => cases ho <;> cases heq

end

end Ledger

end BrowserPlan.Run
