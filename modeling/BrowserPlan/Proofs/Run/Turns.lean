import BrowserPlan.Proofs.Run.Calm
import BrowserPlan.Proofs.Run.CallLog

/-!
# Branches take turns

A page of the pool is called by one branch at a time: after the time limits that its maker sets, the
calls on it are those of one branch after the other, each of them beginning with the branch's visit to
its link and lasting until it has brought the page back. `InTurns` is the invariant, and
`Follows.inTurns` says that it holds after every calm history.
-/
namespace BrowserPlan.Run

open BrowserPlan.Task BrowserPlan.Browser
open BrowserPlan.Pool (Stake heldPages)

/-! ## Turns -/

/-- A branch's turn on a page. -/
structure Turn where
  owner : TaskId
  calls : List Called

/-- In its turn on the page `p`, a branch goes to its link, and all calls are its own or those of its
helpers. -/
structure Turn.IsVisit (h : List (Event scene)) (p : PageId) (s : Turn) : Prop where
  begins : ∃ link index steps rest, (∃ u, .act u (.start (.branch link index steps) s.owner) ∈ h) ∧
    s.calls = ⟨s.owner, .page p, .goto link none none⟩ :: rest
  ours : ∀ x ∈ s.calls, x.caller = s.owner ∨ StartedBy h s.owner x.caller

/-- A branch at that stage has begun its turn on the page. -/
def Stage.HasEntered (p : PageId) : Stage → Prop
  | working w => w.leads = false ∧ w.page = p
  | through (.worked w) | noted (.worked w) => w.page = p
  | _ => False

section
variable {F : Findings} {job : Job} {s s' : Stage} {d : Deed scene} {p : PageId} {w' : Work}

theorem Next.entered (h : Next F job s d s') (hs : s.HasEntered p) : s'.HasEntered p := by
  cases h with
  | deal h =>
    cases h with
    | release => exact hs.2
    | _ => exact hs.elim
  | share h => exact ⟨h.leads.trans hs.1, h.page.trans hs.2⟩
  | aside | quiet | executed => exact hs
  | note past => cases past <;> exact hs
  | _ => exact hs.elim

theorem Next.works (h : Next F job s d (.working w')) :
    (∃ w, s = .working w ∧ w.page = w'.page ∧ w.leads = w'.leads) ∨
      s = .lent w'.page ∧ ∃ link a, d = .ask (.begin (.page w'.page) (.goto link none none)) a := by
  generalize hs : Stage.working w' = s' at h
  cases h with
  | deal h => exact absurd hs.symm (h.not_working.1 w')
  | enter p a h => cases hs; exact .inr ⟨rfl, _, a, rfl⟩
  | aside | quiet | executed => cases hs; exact .inl ⟨_, rfl, rfl, rfl⟩
  | share h => cases hs; exact .inl ⟨_, rfl, h.page.symm, h.leads.symm⟩
  | _ => cases hs

end

section
variable {W : Type} {m : Machine scene W} {V : Venue m} {b : Brief} {F : TaskId → Findings}
  {h : List (Event scene)} {c c' : Crew scene W} {g g' : Stages} {e : Event scene} {t u : TaskId}
  {p : PageId} {w₀ : W} {limits : List Called} {turns : List Turn}

/-! ## Pages in the hands of tasks -/

theorem InOrder.page_owner (ho : InOrder b V F h c g) (ht : t < c.members.length)
    (hu : u < c.members.length) (htp : (g t).stake = .page p) (hup : (g u).stake = .page p) :
    t = u := by
  have hn : (heldPages (stakes c.members.length g)).Nodup := by
    obtain ⟨⟨hacc, hex⟩, -⟩ := ho.ledger.books
    have hlent : (Pool.lentPages (V.pool c.world).entries).Nodup :=
      hacc.distinct.sublist (List.filter_sublist.map _)
    exact (List.nodup_append.1 (hex.nodup_iff.2 hlent)).1
  have hget : ∀ {v : TaskId}, v < c.members.length →
      (stakes c.members.length g)[v]? = some (g v).stake := by
    intro v hv
    simp [stakes, hv]
  exact Pool.index_unique hn (hget ht) (hget hu) (Stake.page?_eq_some.2 htp)
    (Stake.page?_eq_some.2 hup)

theorem InOrder.pooled (ho : InOrder b V F h c g) (ht : t < c.members.length)
    (hp : (g t).stake = .page p) : p ∈ pagesOf (V.pool c.world) := by
  have hheld : p ∈ heldPages (stakes c.members.length g) :=
    List.mem_filterMap.2 ⟨_, List.mem_map.2 ⟨t, List.mem_range.2 ht, rfl⟩, Stake.page?_eq_some.2 hp⟩
  obtain ⟨⟨-, hex⟩, -⟩ := ho.ledger.books
  obtain ⟨e, he, -, rfl⟩ := Pool.mem_lentPages.1 (hex.mem_iff.1 (List.mem_append_left _ hheld))
  exact List.mem_map_of_mem he

/-- The pool keeps its pages. -/
theorem Ledger.pages_grow {limit n : Nat} {home : PageId} {job : Job} {s' : Stage} {d : Deed scene}
    {isTold : Bool} (hl : Ledger V limit home n c.world c.given g) (ht : t < n)
    (hnext : Next (F t) job (g t) d s') (ha : Crew.Allows m c isTold d c')
    (hp : p ∈ pagesOf (V.pool c.world)) : p ∈ pagesOf (V.pool c'.world) := by
  have hsame : ∀ {q : PoolCall PageId} {a : q.Answer},
      Crew.Allows m c isTold (.ask (.pool q) a) c' → q ≠ .clear → (∀ r, q ≠ .created r) →
      p ∈ pagesOf (V.pool c'.world) := by
    intro q a ha hclear hcreated
    rw [(asked V ha).1]
    unfold pagesOf
    rw [Pool.pages_perform hclear hcreated]
    exact hp
  rcases hnext.spares with hd | ⟨hd, -⟩
  · generalize hs : g t = s at hd
    cases hd with
    | granted => cases ha <;> exact hp
    | brokenOff =>
      cases ha with
      | breakOff on htold =>
        change p ∈ pagesOf (V.pool (m.forsake c.world _))
        rw [V.pool_forsaken]
        exact hp
      | _ => exact hp
    | created q a =>
      rw [(asked V ha).1]
      change p ∈ pagesOf ((V.pool c.world).created q)
      rw [Pool.created_eq (hl.made t ht q hs).2.1]
      unfold pagesOf
      rw [List.map_append]
      exact List.mem_append_left _ hp
    | _ => exact hsame ha nofun nofun
  · rw [(spared V ha hd).1]
    exact hp

theorem InOrder.pages_grow (ho : InOrder b V F h c g) (hs : Crew.Step m IsOutside c e c')
    (hg : Moves F c g e g') (hp : p ∈ pagesOf (V.pool c.world)) : p ∈ pagesOf (V.pool c'.world) := by
  cases hs with
  | @act _ _ _ _ c₁ hx hr hd ha =>
    change p ∈ pagesOf (V.pool c₁.world)
    cases hg with
    | idle he => exact absurd rfl (he _ _)
    | act hx' hnext =>
      obtain rfl := Option.some.inj (hx.symm.trans hx')
      exact ho.ledger.pages_grow (Crew.lt_of_member hx') hnext ha hp
  | happen now q hq =>
    obtain rfl := hq
    change p ∈ pagesOf (V.pool (m.perform now c.world .goAway).1)
    rw [V.pool_spared now c.world .goAway rfl]
    exact hp
  | _ => exact hp

/-! ## The invariant -/

/-- The calls on the page `p` are the settings of time limits `limits` and then the `turns` of
branches, one after the other. -/
structure Turns (V : Venue m) (h : List (Event scene)) (c : Crew scene W) (g : Stages) (p : PageId)
    (limits : List Called) (turns : List Turn) : Prop where
  limits : ∀ x ∈ limits, x.party = .page p ∧ IsLimit x.operation
  visits : ∀ s ∈ turns, s.IsVisit h p
  owners : (turns.map (·.owner)).Nodup
  entered : ∀ s ∈ turns, (g s.owner).HasEntered p
  pooled : turns ≠ [] → p ∈ pagesOf (V.pool c.world)

/-- Whoever works on the page `p` has the last turn. -/
def IsLast (c : Crew scene W) (g : Stages) (p : PageId) (turns : List Turn) : Prop :=
  ∀ t < c.members.length, ∀ w, g t = .working w → w.page = p →
    turns.getLast?.map (·.owner) = some t

theorem Turn.IsVisit.snoc {s : Turn} (hs : s.IsVisit h p) (e : Event scene) : s.IsVisit (h ++ [e]) p where
  begins := by
    obtain ⟨link, index, steps, rest, ⟨u, hu⟩, hcalls⟩ := hs.begins
    exact ⟨link, index, steps, rest, ⟨u, List.mem_append_left _ hu⟩, hcalls⟩
  ours x hx := (hs.ours x hx).imp_right fun hst => hst.snoc e

theorem Turn.IsVisit.lt {s : Turn} (hs : s.IsVisit h p) (hf : Follows b V F w₀ h c g) :
    s.owner < c.members.length := by
  obtain ⟨link, index, steps, rest, ⟨u, hu⟩, -⟩ := hs.begins
  exact hf.reaches.started_lt hu

theorem Turns.none (hl : ∀ x ∈ limits, x.party = .page p ∧ IsLimit x.operation) :
    Turns V h c g p limits [] where
  limits := hl
  visits _ hs := absurd hs List.not_mem_nil
  owners := .nil
  entered _ hs := absurd hs List.not_mem_nil
  pooled h := absurd rfl h

/-- Turns that were begun stay. -/
theorem Turns.step (ht : Turns V h c g p limits turns) (hf : Follows b V F w₀ h c g)
    (hs : Crew.Step m IsOutside c e c') (hg : Moves F c g e g') :
    Turns V (h ++ [e]) c' g' p limits turns where
  limits := ht.limits
  visits s hs := (ht.visits s hs).snoc e
  owners := ht.owners
  entered s hin := by
    rcases hg.stage hs s.owner with ⟨heq, -⟩ | ⟨x, d, -, -, hnext⟩ | ⟨u, job, -, hlen, -⟩
    · exact heq ▸ ht.entered s hin
    · exact hnext.entered (ht.entered s hin)
    · exact absurd ((ht.visits s hin).lt hf) (hlen ▸ Nat.lt_irrefl _)
  pooled hne := hf.inOrder.pages_grow hs hg (ht.pooled hne)

theorem Moves.not_working (hg : Moves F c g e g') (hs : Crew.Step m IsOutside c e c')
    (ht : ¬ t < c.members.length) (ht' : t < c'.members.length) {w : Work} : g' t ≠ .working w := by
  rcases hs.length with hsame | ⟨⟨u, job, rfl⟩, hmore⟩
  · exact absurd (hsame ▸ ht') ht
  · obtain rfl : t = c.members.length :=
      Nat.le_antisymm (Nat.le_of_lt_succ (Nat.lt_of_lt_of_eq ht' hmore)) (Nat.le_of_not_lt ht)
    cases hg with
    | idle he => exact absurd rfl (he _ _)
    | act hx hnext =>
      intro hw
      rw [enroll, Function.update_self] at hw
      cases job with
      | steps page list index => exact hnext.starts.2.2 page list index rfl
      | _ => cases hw

/-- As long as nobody goes to the page, whoever works on it has worked on it. -/
theorem IsLast.step (hl : IsLast c g p turns) (hs : Crew.Step m IsOutside c e c')
    (hg : Moves F c g e g')
    (he : ∀ t link a, e = .act t (.ask (.begin (.page p) (.goto link none none)) a) →
      g t ≠ .lent p) : IsLast c' g' p turns := by
  intro t ht w hw hpage
  by_cases hlt : t < c.members.length
  · rcases hg.stage hs t with ⟨heq, -⟩ | ⟨x, d, rfl, -, hnext⟩ | ⟨u, job, -, hlen, -⟩
    · exact hl t hlt w (heq ▸ hw) hpage
    · rw [hw] at hnext
      rcases hnext.works with ⟨w₁, hw₁, hpage₁, -⟩ | ⟨hlent, link, a, rfl⟩
      · exact hl t hlt w₁ hw₁ (hpage₁.trans hpage)
      · subst hpage
        exact absurd hlent (he t link a rfl)
    · exact absurd hlt (hlen ▸ Nat.lt_irrefl _)
  · exact absurd hw (hg.not_working hs hlt ht)

/-! ## Single calls -/

/-- A call is made by the rules. -/
theorem Moves.calls {x : Called} (hg : Moves F c g e g') (hs : Crew.Step m IsOutside c e c')
    (hx : Event.called? e = some x) : ∃ y, c.members[x.caller]? = some y ∧ y.result = none ∧
      Calls (F x.caller) y.job (g x.caller) x.party x.operation (g' x.caller) := by
  obtain ⟨⟨a, rfl⟩, hne⟩ := called?_eq_some hx
  rcases hg.stage hs x.caller with ⟨-, hidle⟩ | ⟨y, d, heq, hy, hnext⟩ | ⟨u, job, heq, -⟩
  · exact absurd rfl (hidle _)
  · cases heq
    refine ⟨y, hy, ?_, hnext.calls.resolve_left hne⟩
    cases hs with
    | act hy' hr =>
      obtain rfl := Option.some.inj (hy.symm.trans hy')
      exact hr
  · cases heq

/-- Who helps on a page has the job to. -/
theorem Fits.isHelp {F : Findings} {x : Member scene} (hx : Fits F h t x (.helping p)) :
    IsHelp p x.job := by
  have hsuits := hx.suits
  have hpart := hx.part
  cases hjob : x.job with
  | steps page list index =>
    rw [hjob] at hsuits
    obtain ⟨w, hw, -⟩ := hsuits
    cases hw
  | branch link index list =>
    rw [hjob] at hsuits
    exact absurd rfl (hsuits.2 p)
  | wait page condition =>
    rw [hjob] at hsuits
    cases hsuits
    exact .wait condition
  | click page target =>
    rw [hjob] at hsuits
    cases hsuits
    exact .click target
  | _ =>
    rw [hjob] at hpart
    exact hpart.elim

theorem InOrder.not_leads (ho : InOrder b V F h c g) (ht : t < c.members.length) {w : Work}
    (hw : g t = .working w) (hp : w.page ≠ b.home) : w.leads = false := by
  cases hleads : w.leads with
  | false => rfl
  | true =>
    obtain rfl := ho.leader (List.getElem?_eq_getElem ht) hw hleads
    obtain ⟨w', hw', -, hpage⟩ := ho.home
    cases hw.symm.trans hw'
    exact absurd hpage hp

theorem Calm.helps (hc : Calm h c g) (hk : Kin h c g) (ho : InOrder b V F h c g) {x : Member scene}
    (hx : c.members[t]? = some x) (hr : x.result = none) (ht : g t = .helping p) :
    ∃ u < c.members.length, ∃ w, g u = .working w ∧ w.page = p ∧ StartedBy h u t := by
  have hhelp : IsHelp p x.job := (ht ▸ ho.fits t x hx : Fits (F t) h t x (.helping p)).isHelp
  obtain ⟨u, w, hw, hin⟩ := hc.helped t x p hx hhelp hr
  obtain ⟨hstart, y, hy, hhelp'⟩ := hk.helpers u w hw t hin
  obtain rfl := Option.some.inj (hx.symm.trans hy)
  refine ⟨u, hstart.lt ho, w, hw, ?_, hstart⟩
  generalize x.job = job at hhelp hhelp'
  cases hhelp <;> cases hhelp' <;> rfl

/-- The turn of who works goes on. -/
theorem Turns.extend {s : Turn} {x : Called} (ht : Turns V h c g p limits (turns ++ [s]))
    (hx : x.caller = s.owner ∨ StartedBy h s.owner x.caller) :
    Turns V h c g p limits (turns ++ [{ s with calls := s.calls ++ [x] }]) := by
  have hvisit : ({ s with calls := s.calls ++ [x] } : Turn).IsVisit h p := by
    obtain ⟨⟨link, index, steps, rest, hjob, hcalls⟩, hours⟩ :=
      ht.visits s (List.mem_append_right _ List.mem_cons_self)
    refine ⟨⟨link, index, steps, rest ++ [x], hjob, ?_⟩, fun y hy => ?_⟩
    · change s.calls ++ [x] = _
      rw [hcalls, List.cons_append]
    · rcases List.mem_append.1 hy with hy | hy
      · exact hours y hy
      · exact List.mem_singleton.1 hy ▸ hx
  constructor
  case limits => exact ht.limits
  case visits =>
    intro s' hs'
    rcases List.mem_append.1 hs' with hs' | hs'
    · exact ht.visits s' (List.mem_append_left _ hs')
    · exact List.mem_singleton.1 hs' ▸ hvisit
  case owners =>
    have howners := ht.owners
    rw [List.map_append] at howners ⊢
    exact howners
  case entered =>
    intro s' hs'
    rcases List.mem_append.1 hs' with hs' | hs'
    · exact ht.entered s' (List.mem_append_left _ hs')
    · rw [List.mem_singleton.1 hs']
      exact ht.entered s (List.mem_append_right _ List.mem_cons_self)
  case pooled => exact fun _ => ht.pooled (by simp)

/-- A branch begins its turn. -/
theorem Turns.enter {s : Turn} (ht : Turns V h c g p limits turns) (hs : s.IsVisit h p)
    (hnew : ∀ s' ∈ turns, s'.owner ≠ s.owner) (hentered : (g s.owner).HasEntered p)
    (hpooled : p ∈ pagesOf (V.pool c.world)) : Turns V h c g p limits (turns ++ [s]) := by
  constructor
  case limits => exact ht.limits
  case visits =>
    intro s' hs'
    rcases List.mem_append.1 hs' with hs' | hs'
    · exact ht.visits s' hs'
    · exact List.mem_singleton.1 hs' ▸ hs
  case owners =>
    rw [List.map_append, List.nodup_append]
    refine ⟨ht.owners, by simp, fun a ha b hb => ?_⟩
    obtain ⟨s', hs', rfl⟩ := List.mem_map.1 ha
    rw [List.mem_singleton.1 hb]
    exact hnew s' hs'
  case entered =>
    intro s' hs'
    rcases List.mem_append.1 hs' with hs' | hs'
    · exact ht.entered s' hs'
    · exact List.mem_singleton.1 hs' ▸ hentered
  case pooled => exact fun _ => hpooled

theorem IsLast.exists_turn (hl : IsLast c g p turns) (ht : t < c.members.length) {w : Work}
    (hw : g t = .working w) (hp : w.page = p) : ∃ before s, turns = before ++ [s] ∧ s.owner = t := by
  obtain ⟨s, hs, howner⟩ := Option.map_eq_some_iff.1 (hl t ht w hw hp)
  obtain ⟨before, rfl⟩ := List.getLast?_eq_some_iff.1 hs
  exact ⟨before, s, rfl, howner⟩

/-! ## Whole histories -/

/-- The log of the page `p` is in turns. -/
def InTurns (V : Venue m) (h : List (Event scene)) (c : Crew scene W) (g : Stages) (p : PageId)
    (log : List Called) : Prop :=
  ∃ limits turns, log = limits ++ turns.flatMap (·.calls) ∧ Turns V h c g p limits turns ∧
    IsLast c g p turns

namespace InTurns

variable {log : List Called} {x : Called}

theorem step (ht : InTurns V h c g p log) (hf : Follows b V F w₀ h c g)
    (hs : Crew.Step m IsOutside c e c') (hg : Moves F c g e g')
    (he : ∀ t link a, e = .act t (.ask (.begin (.page p) (.goto link none none)) a) →
      g t ≠ .lent p) : InTurns V (h ++ [e]) c' g' p log := by
  obtain ⟨limits, turns, hlog, hturns, hlast⟩ := ht
  exact ⟨limits, turns, hlog, hturns.step hf hs hg, hlast.step hs hg he⟩

/-- A time limit is set on a page that is new to the pool. -/
theorem limit (ht : InTurns V h c g p log) (hnew : p ∉ pagesOf (V.pool c.world))
    (hx : x.party = .page p ∧ IsLimit x.operation) : InTurns V h c g p (log ++ [x]) := by
  obtain ⟨limits, turns, hlog, hturns, hlast⟩ := ht
  obtain rfl : turns = [] := by
    by_contra hne
    exact hnew (hturns.pooled hne)
  refine ⟨limits ++ [x], [], ?_, .none fun y hy => ?_, hlast⟩
  · rw [hlog, List.flatMap_nil, List.append_nil, List.append_nil]
  · rcases List.mem_append.1 hy with hy | hy
    · exact hturns.limits y hy
    · exact List.mem_singleton.1 hy ▸ hx

theorem goOn (ht : InTurns V h c g p log) (hu : u < c.members.length) {w : Work}
    (hw : g u = .working w) (hp : w.page = p) (hx : x.caller = u ∨ StartedBy h u x.caller) :
    InTurns V h c g p (log ++ [x]) := by
  obtain ⟨limits, turns, hlog, hturns, hlast⟩ := ht
  obtain ⟨before, s, rfl, rfl⟩ := hlast.exists_turn hu hw hp
  refine ⟨limits, _, ?_, hturns.extend hx, fun t ht w hw hp => ?_⟩
  · rw [hlog, List.flatMap_append, List.flatMap_append, List.append_assoc, List.append_assoc]
    simp
  · have := hlast t ht w hw hp
    rwa [List.getLast?_concat] at this ⊢

/-- A branch goes to its link on the page that it was lent. -/
theorem enter {link : String} {index : IterationIndex} {steps : List Step}
    (ht : InTurns V h c g p log) (hf : Follows b V F w₀ h c g) (hp : p ≠ b.home)
    (hs : Crew.Step m IsOutside c e c') (hg : Moves F c g e g')
    (ho' : InOrder b V F (h ++ [e]) c' g') {y : Member scene} (hy : c.members[t]? = some y)
    (hjob : y.job = .branch link index steps) (hlent : g t = .lent p) {w : Work}
    (hw : g' t = .working w) (hpage : w.page = p) (hleads : w.leads = false) :
    InTurns V (h ++ [e]) c' g' p (log ++ [⟨t, .page p, .goto link none none⟩]) := by
  have ho := hf.inOrder
  have hlt := Crew.lt_of_member hy
  have hlt' : t < c'.members.length := Nat.lt_of_lt_of_le hlt hs.length_le
  obtain ⟨limits, turns, hlog, hturns, -⟩ := ht
  have hnew : ∀ s ∈ turns, s.owner ≠ t := by
    rintro s hin rfl
    have := hturns.entered s hin
    rw [hlent] at this
    exact this
  have hstarted : ∃ u, .act u (.start (.branch link index steps) t) ∈ h := by
    rcases Nat.eq_zero_or_pos t with rfl | hpos
    · obtain ⟨w', hw', -⟩ := ho.home
      rw [hlent] at hw'
      cases hw'
    · exact hjob ▸ hf.reaches.started_of_member hy hpos
  have hvisit : (⟨t, [⟨t, .page p, .goto link none none⟩]⟩ : Turn).IsVisit h p :=
    ⟨⟨link, index, steps, [], hstarted, rfl⟩, fun x hx => .inl (by rw [List.mem_singleton.1 hx])⟩
  refine ⟨limits, turns ++ [⟨t, [⟨t, .page p, .goto link none none⟩]⟩], ?_,
    (hturns.step hf hs hg).enter (hvisit.snoc e) hnew ?_ ?_, fun u hu w' hw' hp' => ?_⟩
  · rw [hlog, List.flatMap_append, List.append_assoc, List.flatMap_singleton]
  · rw [hw]
    exact ⟨hleads, hpage⟩
  · exact ho.pages_grow hs hg (ho.pooled hlt (by rw [hlent]; rfl))
  · have hstake : ∀ {u w'}, u < c'.members.length → g' u = .working w' → w'.page = p →
        (g' u).stake = .page p := by
      intro u w' hu hw' hp'
      rw [hw', Stage.stake, ho'.not_leads hu hw' (hp' ▸ hp), hp']
      rfl
    rw [List.getLast?_concat]
    exact congrArg some (ho'.page_owner hlt' hu (hstake hlt' hw hpage) (hstake hu hw' hp'))

/-- A call on the page. -/
theorem called (ht : InTurns V h c g p log) (hf : Follows b V F w₀ h c g)
    (hh : ∀ e ∈ h, Event.IsCalm e) (hp : p ≠ b.home) (hs : Crew.Step m IsOutside c e c')
    (hg : Moves F c g e g') (ho' : InOrder b V F (h ++ [e]) c' g') (hx : Event.called? e = some x)
    (hpage : (g' x.caller).page? = some p) : InTurns V (h ++ [e]) c' g' p (log ++ [x]) := by
  have ho := hf.inOrder
  obtain ⟨y, hy, hr, hcalls⟩ := hg.calls hs hx
  have hlt := Crew.lt_of_member hy
  have hstep : ∀ {log}, g x.caller ≠ .lent p → InTurns V h c g p log →
      InTurns V (h ++ [e]) c' g' p log := by
    intro log hne ht
    refine ht.step hf hs hg ?_
    rintro t link a rfl
    cases hx
    exact hne
  obtain ⟨caller, party, operation⟩ := x
  dsimp only at hcalls hpage hy hlt hstep
  generalize hs₁ : g caller = s at hcalls hstep
  generalize hs₂ : g' caller = s' at hcalls hpage
  cases hcalls with
  | limit hop =>
    cases hpage
    exact hstep nofun (ht.limit (ho.ledger.made caller hlt p hs₁).2.1 ⟨rfl, hop⟩)
  | enter q hjob =>
    cases hpage
    exact ht.enter hf hp hs hg ho' hy hjob hs₁ hs₂ rfl rfl
  | quiet hon =>
    cases hpage
    exact hstep nofun (ht.goOn hlt hs₁ rfl (.inl rfl))
  | help hon =>
    cases hpage
    obtain ⟨u, hu, w, hw, hwp, hstart⟩ := (hf.calm hh).helps hf.kin ho hy hr hs₁
    exact hstep nofun (ht.goOn hu hw hwp (.inr hstart))

end InTurns

/-- The log of every page but that of the plan is in turns. -/
theorem Follows.inTurns (hf : Follows b V F w₀ h c g) (hh : ∀ e ∈ h, Event.IsCalm e)
    (hp : p ≠ b.home) : InTurns V h c g p (callsAt h g p) := by
  induction hf with
  | nil =>
    refine ⟨[], [], rfl, .none fun x hx => absurd hx List.not_mem_nil, fun t ht w hw hpage => ?_⟩
    have hhome : w = { page := b.home, leads := true, remaining := Step.walkAll b.steps } :=
      (Stage.working.inj hw).symm
    exact absurd (by rw [← hpage, hhome]) hp
  | @snoc h c c' g g' e hc hs hg ho' ih =>
    have hh' : ∀ e ∈ h, Event.IsCalm e := fun e he => hh e (List.mem_append_left _ he)
    rw [callsAt_snoc hc.inOrder hs hg]
    cases hx : Event.called? e with
    | none =>
      rw [Option.toList_none, List.filter_nil, List.append_nil]
      refine (ih hh').step hc hs hg ?_
      rintro t link a rfl
      cases hx
    | some x =>
      rw [Option.toList_some]
      by_cases hpage : (g' x.caller).page? = some p
      · have hone : [x].filter (fun x => (g' x.caller).page? = some p) = [x] := by simp [hpage]
        rw [hone]
        exact (ih hh').called hc hh' hp hs hg ho' hx hpage
      · have hnone : [x].filter (fun x => (g' x.caller).page? = some p) = [] := by simp [hpage]
        rw [hnone, List.append_nil]
        -- who goes to this page has it from then on
        refine (ih hh').step hc hs hg fun t link a he hlent => hpage ?_
        subst he
        cases hx
        obtain ⟨y, hy, -⟩ := hg.calls hs rfl
        exact hg.page hs (Crew.lt_of_member hy) (by rw [hlent]; rfl)

end

end BrowserPlan.Run
