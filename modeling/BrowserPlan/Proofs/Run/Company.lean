import BrowserPlan.Proofs.Run.Ledger

/-!
# The tasks of a run together

One task carries out the steps of a plan; it starts branches, and helpers are started by both. The
steps of all of them come in any order. `InOrder` is the invariant: every task stands where the rules
put it (`Fits`), and what the tasks have at stake agrees with the pool (`Ledger`). `Follows` is a
history in which it is told after each event where the tasks stand; `exists_follows` says that every
history of a run can be told so.
-/
namespace BrowserPlan.Run

open BrowserPlan.Task BrowserPlan.Browser

variable {W : Type} {m : Machine scene W}

/-! ## What a run is -/

/-- What a run is asked to do: to carry out steps on a page, with a pool for so many more. -/
structure Brief where
  home : PageId
  steps : List Step
  index : IterationIndex
  limit : Nat

/-- The job of the first task. -/
def Brief.job (b : Brief) : Job := .steps b.home b.steps b.index

/-- A run can begin: there is a page for it, and a new pool. -/
structure Brief.Opens (b : Brief) (V : Venue m) (w : W) : Prop where
  limit : 0 < b.limit
  pool : V.pool w = { maxPages := b.limit }
  home : V.knows w b.home

/-- Of the calls, only the browser goes away without any task. -/
def IsOutside (q : Call) : Prop := q = .goAway

/-- The history `h` leads from the beginning of the run to the crew `c`. -/
abbrev Brief.Reaches (b : Brief) (m : Machine scene W) (w : W) (h : List (Event scene))
    (c : Crew scene W) : Prop := Crew.Reaches m IsOutside (Crew.single m w b.job) h c

/-! ## Single tasks -/

section
variable {F : Findings} {job : Job} {s s' : Stage} {d : Deed scene}

/-- Stages at which a task with a job can be. -/
def Job.Suits : Job → Stage → Prop
  | .steps page .., s => ∃ w, s = .working w ∧ w.leads = true ∧ w.page = page
  | .wait page _, s | .click page _, s => s = .helping page
  | .branch .., s => (∀ w, s = .working w → w.leads = false) ∧ ∀ p, s ≠ .helping p
  | _, _ => True

theorem Job.suits_first (job : Job) : job.Suits (.first job) := by
  cases job with
  | steps page list index => exact ⟨_, rfl, rfl, rfl⟩
  | branch => exact ⟨nofun, nofun⟩
  | wait | click => rfl
  | _ => trivial

theorem Shares.leads {w w' : Work} (h : Shares w d w') : w'.leads = w.leads := by
  cases h <;> rfl

theorem Shares.page {w w' : Work} (h : Shares w d w') : w'.page = w.page := by
  cases h <;> rfl

theorem Deals.not_working (h : Deals s d s') :
    (∀ w, s' ≠ .working w) ∧ ∀ p, s' ≠ .helping p := by
  cases h with
  | acquire a | redeem k a => cases a <;> exact ⟨nofun, nofun⟩
  | _ => exact ⟨nofun, nofun⟩

theorem Next.suits (h : Next F job s d s') (hs : job.Suits s) : job.Suits s' := by
  cases job with
  | steps page list index =>
    obtain ⟨w, rfl, hleads, hpage⟩ := hs
    cases h with
    | deal h =>
      cases h with
      | release a hl hh => rw [hl] at hleads; cases hleads
    | share h => exact ⟨_, rfl, h.leads.symm ▸ hleads, h.page.symm ▸ hpage⟩
    | _ => exact ⟨_, rfl, hleads, hpage⟩
  | wait page condition | click page target =>
    obtain rfl : s = .helping page := hs
    cases h with
    | aside h | help h => rfl
    | deal h => cases h
  | branch link index list =>
    obtain ⟨hleads, hhelping⟩ := hs
    cases h with
    | deal h =>
      exact ⟨fun w hw => absurd hw (h.not_working.1 w), h.not_working.2⟩
    | enter p a hjob =>
      refine ⟨?_, nofun⟩
      rintro w ⟨⟩
      rfl
    | aside | quiet => exact ⟨hleads, hhelping⟩
    | make | opening | notOpened | opened | failed | limit | prepare | note => exact ⟨nofun, nofun⟩
    | help h => exact absurd rfl (hhelping _)
    | executed =>
      have hfalse := hleads _ rfl
      refine ⟨?_, nofun⟩
      rintro w ⟨⟩
      exact hfalse
    | share h =>
      have hfalse := hleads _ rfl
      refine ⟨?_, nofun⟩
      rintro w ⟨⟩
      exact h.leads.trans hfalse
  | _ => trivial

/-- Stages at which a task has nothing in hand that others wait for. -/
def Stage.IsAtRest : Stage → Prop
  | fresh | helping _ | through _ | noted _ => True
  | working w => w.leads = true
  | _ => False

theorem Stage.IsAtRest.stake (h : s.IsAtRest) : s.stake = .nothing := by
  cases s with
  | working w => simp [Stage.stake, show w.leads = true from h]
  | fresh | helping | through | noted => rfl
  | _ => exact h.elim

theorem Stage.first_isAtRest (job : Job) : (Stage.first job).IsAtRest := by
  cases job <;> trivial

theorem TaskEnds.isAtRest {R : Deed scene → Prop} {r : Outcome Fault Yield} (h : TaskEnds R job s r) :
    s.IsAtRest := by
  obtain ⟨-, h⟩ := h
  cases job with
  | steps page list index =>
    obtain ⟨w, rfl, hleads, -⟩ := h
    exact hleads
  | wait | click =>
    rw [show s = _ from h]
    trivial
  | _ =>
    obtain ⟨⟨past, rfl | rfl⟩, -⟩ := h <;> trivial

/-- The member `x`, which is task `t`, stands at the stage `s` after the history `h`. -/
structure Fits (F : Findings) (h : List (Event scene)) (t : TaskId) (x : Member scene) (s : Stage) :
    Prop where
  part : x.job.IsPartOfRun
  suits : x.job.Suits s
  obeys : x.result = none → x.rest.Obeys F.Cover (Next F x.job) (TaskEnds F.Cover x.job) s
  along : Along (Next F x.job) (.first x.job) (deedsOf h t) s
  path : Program.Path (program x.job) (deedsOf h t) x.rest
  unbegun : x.hasBegun = false → deedsOf h t = []
  ended : ∀ r, x.result = some r → s.IsAtRest ∧
    (x.rest = .done r ∨ r = .error .cancelled ∧ x.isTold = true)

namespace Fits

variable {h : List (Event scene)} {t : TaskId} {x y : Member scene} {c : Crew scene W}
  {e : Event scene}

theorem fresh (hjob : job.IsPartOfRun) (hh : deedsOf h t = []) :
    Fits F h t { job := job, rest := program job } (.first job) where
  part := hjob
  suits := job.suits_first
  obeys _ := program_obeys (fun _ => id) hjob
  along := hh ▸ .nil
  path := hh ▸ .nil _
  unbegun _ := hh
  ended := nofun

/-- A member that takes a step. -/
theorem acts (hx : Fits F h t x s) (hc : Crew.Continues c (.act t d) t x y)
    (hnext : Next F x.job s d s') {p : Program scene Yield} (hp : x.rest.Does d p)
    (hobeys : p.Obeys F.Cover (Next F x.job) (TaskEnds F.Cover x.job) s') :
    Fits F (h ++ [.act t d]) t y s' := by
  obtain ⟨hjob, -, -, hbecomes⟩ := hc
  cases hbecomes with
  | same hne => exact absurd rfl (hne d)
  | ends r he => cases he
  | balks he => cases he
  | acts d' he hgoes hd hbegun hresult =>
    cases he
    obtain rfl : p = y.rest := hp.unique hd
    constructor
    case part => rw [hjob]; exact hx.part
    case suits => rw [hjob]; exact hnext.suits hx.suits
    case obeys => rw [hjob]; exact fun _ => hobeys
    case along => rw [hjob, deedsOf_act]; exact hx.along.snoc hnext
    case path => rw [hjob, deedsOf_act]; exact hx.path.snoc hd
    case unbegun => rw [hbegun]; nofun
    case ended => rw [hresult]; nofun

/-- A member while others go on, or when it ends. -/
theorem idles (hx : Fits F h t x s) (hc : Crew.Continues c e t x y) (he : ∀ d, e ≠ .act t d) :
    Fits F (h ++ [e]) t y s := by
  obtain ⟨hjob, htold, -, hbecomes⟩ := hc
  have hdeeds := deedsOf_idle (h := h) he
  cases hbecomes with
  | acts d heq => exact absurd heq (he d)
  | same hne hrest hbegun hresult =>
    constructor
    case part => rw [hjob]; exact hx.part
    case suits => rw [hjob]; exact hx.suits
    case obeys => rw [hresult, hrest, hjob]; exact hx.obeys
    case along => rw [hjob, hdeeds]; exact hx.along
    case path => rw [hjob, hdeeds, hrest]; exact hx.path
    case unbegun => rw [hbegun, hdeeds]; exact hx.unbegun
    case ended =>
      rw [hresult, hrest]
      exact fun r hr => (hx.ended r hr).imp_right (Or.imp_right (And.imp_right htold))
  | ends r heq hgoes hrest hbegun hresult hdone =>
    have hrestful : s.IsAtRest := by
      have hobeys := hx.obeys hgoes
      rcases hdone with hdone | ⟨a, hdone, -⟩ <;> rw [hdone] at hobeys <;>
        exact TaskEnds.isAtRest hobeys
    constructor
    case part => rw [hjob]; exact hx.part
    case suits => rw [hjob]; exact hx.suits
    case obeys => rw [hresult]; nofun
    case along => rw [hjob, hdeeds]; exact hx.along
    case path => rw [hjob, hdeeds, hrest]; exact hx.path
    case unbegun => rw [hbegun, hdeeds]; exact hx.unbegun
    case ended =>
      rw [hresult, hrest]
      rintro r' ⟨⟩
      refine ⟨hrestful, hdone.imp_right ?_⟩
      rintro ⟨a, -, ht, rfl⟩
      exact ⟨rfl, htold ht⟩
  | balks heq hgoes hnew ht hrest hbegun hresult =>
    have hnone := hx.unbegun hnew
    have hfirst : s = .first x.job := by
      have halong := hx.along
      rw [hnone] at halong
      generalize hds : ([] : List (Deed scene)) = ds at halong
      cases halong with
      | nil => rfl
      | snoc _ _ => simp at hds
    constructor
    case part => rw [hjob]; exact hx.part
    case suits => rw [hjob]; exact hx.suits
    case obeys => rw [hresult]; nofun
    case along => rw [hjob, hdeeds]; exact hx.along
    case path => rw [hjob, hdeeds, hrest]; exact hx.path
    case unbegun => exact fun _ => hdeeds ▸ hnone
    case ended =>
      rw [hresult]
      rintro r' ⟨⟩
      exact ⟨hfirst ▸ Stage.first_isAtRest _, .inr ⟨rfl, htold ht⟩⟩

end Fits

end

/-! ## All tasks -/

/-- Where each task stands. -/
abbrev Stages := TaskId → Stage

/-- A task that is started is at its first stage. -/
def enroll : Deed scene → Stages → Stages
  | .start job u, g => Function.update g u (.first job)
  | _, g => g

/-- `Moves F c g e g'`: in the event `e`, who takes a step by the rules goes to another stage, and who
is started comes to its first. -/
inductive Moves (F : TaskId → Findings) (c : Crew scene W) (g : Stages) : Event scene → Stages → Prop
  | act {t x d s} (hx : c.members[t]? = some x) (hnext : Next (F t) x.job (g t) d s) :
    Moves F c g (.act t d) (enroll d (Function.update g t s))
  | idle {e} (he : ∀ t d, e ≠ .act t d) : Moves F c g e g

/-- After the history `h` all members of the crew `c` are where `g` tells. -/
structure InOrder (b : Brief) (V : Venue m) (F : TaskId → Findings) (h : List (Event scene))
    (c : Crew scene W) (g : Stages) : Prop where
  fits : ∀ t x, c.members[t]? = some x → Fits (F t) h t x (g t)
  chief : ∃ x, c.members[0]? = some x ∧ x.job = b.job
  others : ∀ t x, c.members[t]? = some x → t ≠ 0 → ∀ page list index, x.job ≠ .steps page list index
  later : ∀ t, c.members.length ≤ t → deedsOf h t = []
  ledger : Ledger V b.limit b.home c.members.length c.world c.given g

variable {b : Brief} {V : Venue m} {F : TaskId → Findings} {h : List (Event scene)}
  {c c' : Crew scene W} {g g' : Stages} {e : Event scene} {w : W}

theorem InOrder.member_of_deed (ho : InOrder b V F h c g) {t : TaskId} {d : Deed scene} (hd : .act t d ∈ h) :
    ∃ y, c.members[t]? = some y := by
  have hlt : t < c.members.length := by
    by_contra hle
    have hmem := mem_deedsOf.2 hd
    rw [ho.later t (Nat.le_of_not_lt hle)] at hmem
    cases hmem
  exact ⟨_, List.getElem?_eq_getElem hlt⟩

/-- The beginning of a run. -/
theorem Brief.Opens.inOrder (ho : b.Opens V w) (hsteps : Step.allKeepApart false b.steps = true) :
    InOrder b V F [] (Crew.single m w b.job) fun _ => .first b.job where
  fits := by
    intro t x hx
    obtain ⟨hlen, rfl⟩ := List.getElem?_eq_some_iff.1 hx
    obtain rfl : t = 0 := Nat.lt_one_iff.1 hlen
    have hfresh : Fits (F 0) [] 0 { job := b.job, rest := program b.job } (.first b.job) :=
      .fresh (show Job.IsPartOfRun b.job from hsteps) rfl
    rw [← V.program] at hfresh
    exact hfresh
  chief := ⟨_, rfl, rfl⟩
  others := by
    intro t x hx ht
    exact absurd (Nat.lt_one_iff.1 (Crew.lt_of_member hx)) ht
  later _ _ := rfl
  ledger := by
    constructor
    case books =>
      change Books b.limit (V.pool w) [.nothing]
      rw [ho.pool]
      exact (stable_books b.limit).join (books_empty b.limit)
    case granted => exact fun _ _ => nofun
    case due => exact fun _ _ => nofun
    case away =>
      refine ⟨ho.home, ?_⟩
      change b.home ∉ pagesOf (V.pool w)
      rw [ho.pool]
      exact List.not_mem_nil
    case known =>
      change ∀ p ∈ pagesOf (V.pool w), _
      rw [ho.pool]
      nofun
    case made => exact fun _ _ _ => nofun
    case apart => exact fun _ _ _ _ _ => nofun

/-- An event outside all tasks leaves the pool alone. -/
theorem Ledger.idle {limit : Nat} {home : PageId} {n : Nat}
    (hl : Ledger V limit home n c.world c.given g) (hs : Crew.Step m IsOutside c e c')
    (he : ∀ t d, e ≠ .act t d) : Ledger V limit home n c'.world c'.given g := by
  cases hs with
  | act => exact absurd rfl (he _ _)
  | happen now q hq =>
    obtain rfl := hq
    have hpool := V.pool_spared now c.world .goAway rfl
    constructor
    case books => exact hpool.symm ▸ hl.books
    case granted =>
      intro k r hr
      rcases List.mem_append.1 hr with hr | hr
      · exact hpool.symm ▸ hl.granted k r hr
      · exact absurd hr (V.nothing_granted now c.world .goAway rfl k r)
    case due => exact hpool.symm ▸ hl.due
    case away => exact ⟨V.knows_more now _ _ _ hl.away.1, hpool.symm ▸ hl.away.2⟩
    case known => exact hpool.symm ▸ fun p hp => V.knows_more now _ _ p (hl.known p hp)
    case made =>
      intro t ht p hp
      obtain ⟨hk, hnot, hhome⟩ := hl.made t ht p hp
      exact ⟨V.knows_more now _ _ p hk, hpool.symm ▸ hnot, hhome⟩
    case apart => exact hl.apart
  | _ => exact hl

theorem enroll_of_lt {isTold : Bool} {d : Deed scene} {u : TaskId}
    (ha : Crew.Allows m c isTold d c') (hu : u < c.members.length) : enroll d g u = g u := by
  cases d with
  | start job v =>
    obtain ⟨rfl, -⟩ := ha.started
    exact Function.update_of_ne (Nat.ne_of_lt hu) ..
  | _ => rfl

/-- A task that takes a step. -/
theorem InOrder.act {t : TaskId} {d : Deed scene} (ho : InOrder b V F h c g)
    (hs : Crew.Step m IsOutside c (.act t d) c') (hF : (F t).Cover d) :
    ∃ g', Moves F c g (.act t d) g' ∧ InOrder b V F (h ++ [.act t d]) c' g' := by
  have hmember := fun u y => hs.member (u := u) (y := y)
  have hlength := hs.length
  have hexists := fun u x => hs.exists_member (t := u) (x := x)
  cases hs with
  | @act _ x _ p c₁ hx hr hp ha =>
    obtain ⟨s, hnext, hobeys⟩ := ((ho.fits t x hx).obeys hr).does hp hF
    have ht : t < c.members.length := Crew.lt_of_member hx
    -- who is started in this step
    have hstarted : ∀ {job u}, d = .start job u → job.IsPartOfRun ∧
        (Stage.first job).stake = .nothing ∧ ∀ page list index, job ≠ .steps page list index := by
      rintro job u rfl
      exact hnext.starts
    refine ⟨_, .act hx hnext, ?_⟩
    constructor
    case fits =>
      intro u y hy
      rcases hmember u y hy with ⟨x', hx', hcont⟩ | ⟨v, job, he, hu, rfl⟩
      · rw [enroll_of_lt ha (Crew.lt_of_member hx')]
        by_cases hut : u = t
        · subst hut
          obtain rfl : x = x' := Option.some.inj (hx.symm.trans hx')
          rw [Function.update_self]
          exact (ho.fits u x hx).acts hcont hnext hp hobeys
        · rw [Function.update_of_ne hut]
          refine (ho.fits u x' hx').idles hcont fun d' he => hut ?_
          cases he
          rfl
      · cases he
        have hnone : deedsOf (h ++ [.act t (.start job u)]) u = [] := by
          rw [deedsOf_idle fun d' he => ?_]
          · exact ho.later u (Nat.le_of_eq hu.symm)
          · cases he
            exact absurd ht (hu ▸ Nat.lt_irrefl t)
        rw [V.program]
        change Fits (F u) _ u _ (Function.update (Function.update g t s) u (.first job) u)
        rw [Function.update_self]
        exact .fresh (hstarted rfl).1 hnone
    case chief =>
      obtain ⟨x₀, hx₀, hjob⟩ := ho.chief
      obtain ⟨y, hy⟩ := hexists 0 x₀ hx₀
      refine ⟨y, hy, ?_⟩
      rcases hmember 0 y hy with ⟨x', hx', hcont⟩ | ⟨v, job, he, hu, rfl⟩
      · obtain rfl : x₀ = x' := Option.some.inj (hx₀.symm.trans hx')
        exact hcont.job.trans hjob
      · exact absurd (hu ▸ Crew.lt_of_member hx₀) (Nat.lt_irrefl _)
    case others =>
      intro u y hy hu
      rcases hmember u y hy with ⟨x', hx', hcont⟩ | ⟨v, job, he, -, rfl⟩
      · rw [hcont.job]
        exact ho.others u x' hx' hu
      · cases he
        exact (hstarted rfl).2.2
    case later =>
      intro u hu
      have hle : c.members.length ≤ u := by
        rcases hlength with heq | ⟨-, heq⟩ <;> rw [heq] at hu
        · exact hu
        · exact Nat.le_of_succ_le hu
      rw [deedsOf_idle fun d' he => ?_]
      · exact ho.later u hle
      · cases he
        exact absurd ht (Nat.not_lt_of_le hle)
    case ledger =>
      have hledger := ho.ledger.step ht hnext ha
      change Ledger V b.limit b.home _ c₁.world c₁.given _
      rcases hlength with heq | ⟨⟨v, job, he⟩, heq⟩
      · rw [heq]
        cases d with
        | start job u =>
          obtain ⟨-, hmore⟩ := ha.started
          rw [Crew.goOn, Crew.length_alter, hmore] at heq
          exact absurd heq (Nat.succ_ne_self _)
        | _ => exact hledger
      · cases he
        rw [heq]
        exact hledger.enroll (hstarted rfl).2.1

/-- In each event some tasks move by the rules. -/
theorem InOrder.step (ho : InOrder b V F h c g) (hs : Crew.Step m IsOutside c e c')
    (hF : ∀ t d, e = .act t d → (F t).Cover d) :
    ∃ g', Moves F c g e g' ∧ InOrder b V F (h ++ [e]) c' g' := by
  by_cases hact : ∃ t d, e = .act t d
  · obtain ⟨t, d, rfl⟩ := hact
    exact ho.act hs (hF t d rfl)
  · have hact : ∀ t d, e ≠ .act t d := fun t d he => hact ⟨t, d, he⟩
    refine ⟨g, .idle hact, ?_⟩
    have hmember : ∀ {t y}, c'.members[t]? = some y →
        ∃ x, c.members[t]? = some x ∧ Crew.Continues c e t x y := by
      intro t y hy
      rcases hs.member hy with hcont | ⟨u, job, he, -⟩
      · exact hcont
      · exact absurd he (hact _ _)
    have hlength : c'.members.length = c.members.length := by
      rcases hs.length with heq | ⟨⟨t, job, he⟩, -⟩
      · exact heq
      · exact absurd he (hact _ _)
    constructor
    case fits =>
      intro t y hy
      obtain ⟨x, hx, hcont⟩ := hmember hy
      exact (ho.fits t x hx).idles hcont (hact t)
    case chief =>
      obtain ⟨x, hx, hjob⟩ := ho.chief
      obtain ⟨y, hy⟩ := hs.exists_member hx
      obtain ⟨x', hx', hcont⟩ := hmember hy
      obtain rfl : x = x' := Option.some.inj (hx.symm.trans hx')
      exact ⟨y, hy, hcont.job.trans hjob⟩
    case others =>
      intro t y hy ht
      obtain ⟨x, hx, hcont⟩ := hmember hy
      rw [hcont.job]
      exact ho.others t x hx ht
    case later =>
      intro t ht
      rw [deedsOf_idle (hact t)]
      exact ho.later t (hlength ▸ ht)
    case ledger =>
      rw [hlength]
      exact ho.ledger.idle hs hact

/-! ## Histories -/

/-- `Follows b V F w h c g`: the history `h` leads from the beginning of the run to `c`, by the rules
all the way, and `g` tells where the tasks are in the end. -/
inductive Follows (b : Brief) (V : Venue m) (F : TaskId → Findings) (w : W) :
    List (Event scene) → Crew scene W → Stages → Prop where
  | nil (ho : InOrder b V F [] (Crew.single m w b.job) fun _ => .first b.job) :
    Follows b V F w [] (Crew.single m w b.job) fun _ => .first b.job
  | snoc {h : List (Event scene)} {c c' : Crew scene W} {g g' : Stages} {e : Event scene}
    (hc : Follows b V F w h c g) (hs : Crew.Step m IsOutside c e c') (hg : Moves F c g e g')
    (ho : InOrder b V F (h ++ [e]) c' g') : Follows b V F w (h ++ [e]) c' g'

theorem Follows.reaches (hf : Follows b V F w h c g) : b.Reaches m w h c := by
  induction hf with
  | nil => exact .refl
  | snoc _ hs _ _ ih => exact ih.step hs

theorem Follows.inOrder (hf : Follows b V F w h c g) : InOrder b V F h c g := by
  cases hf with
  | nil ho => exact ho
  | snoc hc hs hg ho => exact ho

/-- What the steps of a history find counts as found. -/
def Findings.CoverAll (F : TaskId → Findings) (h : List (Event scene)) : Prop :=
  ∀ t d, .act t d ∈ h → (F t).Cover d

theorem coverAll_anything : Findings.CoverAll (fun _ _ _ => True) h := fun _ d _ => cover_anything d

/-- Every history of a run keeps to the rules. -/
theorem exists_follows (ho : b.Opens V w) (hsteps : Step.allKeepApart false b.steps = true)
    (hr : b.Reaches m w h c) (hF : Findings.CoverAll F h) : ∃ g, Follows b V F w h c g := by
  induction hr with
  | refl => exact ⟨_, .nil (ho.inOrder hsteps)⟩
  | step hd hs ih =>
    obtain ⟨g, hg⟩ := ih fun t d hd => hF t d (List.mem_append_left _ hd)
    obtain ⟨g', hmoves, ho'⟩ := hg.inOrder.step hs fun t d he =>
      hF t d (List.mem_append_right _ (by simp [he]))
    exact ⟨g', .snoc hg hs hmoves ho'⟩

end BrowserPlan.Run
