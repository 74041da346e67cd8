import BrowserPlan.Proofs.Run.HoldAndWait
import BrowserPlan.Proofs.Run.Turns

/-!
# Branches share the pool

Branches never mix on a page (`branches_never_mix`): the calls on a page of the pool are those of one
branch after the other, each branch calls one page only, no more branches are at work than the pool has
pages, and when a crawl is over the pool is at rest.
-/
namespace BrowserPlan.Run

open BrowserPlan.Task BrowserPlan.Browser
open BrowserPlan.Pool (Stake heldPages)

variable {W : Type} {m : Machine scene W} {V : Venue m} {b : Brief} {F : TaskId → Findings}
  {h : List (Event scene)} {c c' : Crew scene W} {g g' : Stages} {e : Event scene} {t u : TaskId}
  {p : PageId} {w : W}

/-! ## One page for each branch -/

/-- The task was started to follow a link. -/
def IsBranch (h : List (Event scene)) (t : TaskId) : Prop :=
  ∃ u link index steps, .act u (.start (.branch link index steps) t) ∈ h

theorem IsBranch.member (hf : Follows b V F w h c g) (ht : IsBranch h t) :
    ∃ x, c.members[t]? = some x ∧ x.job.IsBranch := by
  obtain ⟨u, link, index, steps, hstart⟩ := ht
  obtain ⟨x, hx, hjob⟩ := hf.reaches.job_of_started hstart
  exact ⟨x, hx, hjob ▸ trivial⟩

theorem Follows.helper (hf : Follows b V F w h c g) (ht : IsBranch h t) (hu : StartedBy h t u) :
    ∃ p, (g t).page? = some p ∧ g u = .helping p := by
  obtain ⟨x, hx, hbranch⟩ := ht.member hf
  obtain ⟨job, hstart⟩ := hu
  obtain ⟨y, hy, rfl⟩ := hf.reaches.job_of_started hstart
  obtain ⟨p, hhelp, hp⟩ :=
    Along.helps (hf.inOrder.fits t x hx).along hbranch (mem_deedsOf.2 hstart)
  exact ⟨p, hp, (hf.inOrder.fits u y hy).helping hhelp⟩

theorem Follows.one_page (hf : Follows b V (Found h) w h c g) (ht : IsBranch h t) :
    ∃ p, ∀ x ∈ callsOf h, x.caller = t ∨ StartedBy h t x.caller →
      ∀ q, IsOn (Found h x.caller) q x.party ↔ q = p := by
  refine ⟨(g t).page?.getD 0, fun x hx hcaller q => ?_⟩
  have ho := hf.inOrder
  obtain ⟨p, hp, -⟩ := ho.called hx
  have hsame : (g t).page? = some p := by
    rcases hcaller with rfl | hstart
    · exact hp
    · obtain ⟨p', hp', hhelping⟩ := hf.helper ht hstart
      rw [hhelping] at hp
      exact hp'.trans hp
  rw [ho.isOn_iff hx, hp, hsame, Option.getD_some, Option.some_inj, eq_comm]

/-! ## Open turns -/

/-- A branch has gone to its link and has not brought its page back. -/
structure IsOpen (h : List (Event scene)) (t : TaskId) : Prop where
  branch : IsBranch h t
  begun : ∃ p link, ⟨t, .page p, .goto link none none⟩ ∈ callsOf h
  kept : ∀ p a, .act t (.ask (.pool (.release p)) a) ∉ h

/-- Who has gone to a link and brought no page back is at work. -/
theorem Along.at_work {F : Findings} {job : Job} {ds : List (Deed scene)} {s s' : Stage} {link : String}
    {a : Course} (h : Along (Next F job) s ds s')
    (hd : .ask (.begin (.page p) (.goto link none none)) a ∈ ds)
    (hkept : ∀ p a, .ask (.pool (.release p)) a ∉ ds) :
    (∃ w, s' = .working w) ∨ ∃ p, s' = .helping p := by
  induction h with
  | nil => cases hd
  | snoc h hnext ih =>
    rcases List.mem_append.1 hd with hd | hd
    · rcases ih hd fun p a hin => hkept p a (List.mem_append_left _ hin) with ⟨w, rfl⟩ | ⟨p, rfl⟩
      · cases hnext with
        | deal h =>
          cases h with
          | release a => exact absurd (List.mem_append_right _ (List.mem_singleton_self _)) (hkept _ a)
        | _ => exact .inl ⟨_, rfl⟩
      · cases hnext with
        | deal h => cases h
        | _ => exact .inr ⟨_, rfl⟩
    · cases List.mem_singleton.1 hd
      rcases hnext.calls with hcontext | hcalls
      · cases hcontext
      · cases hcalls with
        | limit hop => exact hop.elim
        | enter | quiet => exact .inl ⟨_, rfl⟩
        | help => exact .inr ⟨_, rfl⟩

theorem Along.begun {F : Findings} {job : Job} {ds : List (Deed scene)} {s' : Stage} {w' : Work}
    (hjob : job.IsBranch) (h : Along (Next F job) (.first job) ds s') (hs : s' = .working w')
    (hp : w'.page = p) : ∃ link a, .ask (.begin (.page p) (.goto link none none)) a ∈ ds := by
  induction h generalizing w' with
  | nil =>
    cases job with
    | branch => cases hs
    | _ => exact hjob.elim
  | snoc h hnext ih =>
    subst hs
    rcases hnext.works with ⟨w, rfl, hpage, -⟩ | ⟨-, link, a, rfl⟩
    · obtain ⟨link, a, hin⟩ := ih rfl (hpage.trans hp)
      exact ⟨link, a, List.mem_append_left _ hin⟩
    · subst hp
      exact ⟨link, a, List.mem_append_right _ (List.mem_singleton_self _)⟩

/-- Who has brought a page back is done. -/
theorem Along.done {F : Findings} {job : Job} {ds : List (Deed scene)} {s s' : Stage}
    {a : Option PoolFault} (h : Along (Next F job) s ds s') (hd : .ask (.pool (.release p)) a ∈ ds) :
    ∃ past, s' = .through past ∨ s' = .noted past := by
  induction h with
  | nil => cases hd
  | snoc h hnext ih =>
    rcases List.mem_append.1 hd with hd | hd
    · obtain ⟨past, rfl | rfl⟩ := ih hd
      · cases hnext with
        | deal h => cases h
        | note => exact ⟨_, .inr rfl⟩
        | aside => exact ⟨_, .inl rfl⟩
      · cases hnext with
        | deal h => cases h
        | aside => exact ⟨_, .inr rfl⟩
    · cases List.mem_singleton.1 hd
      cases hnext with
      | deal h => cases h; exact ⟨_, .inl rfl⟩
      | aside h | make h | prepare h | share h => cases h
      | limit hop h => cases h
      | quiet h | help h =>
        cases h with
        | aside h | pause h => cases h
        | call hw hop h => cases h

theorem InOrder.isOpen (ho : InOrder b V F h c g) {x : Member scene} (hx : c.members[t]? = some x)
    (ht : IsBranch h t) (hjob : x.job.IsBranch) {w : Work} (hw : g t = .working w) : IsOpen h t := by
  have hfits := ho.fits t x hx
  refine ⟨ht, ?_, fun p a hd => ?_⟩
  · obtain ⟨link, a, hd⟩ := Along.begun hjob hfits.along hw rfl
    exact ⟨w.page, link, List.mem_filterMap.2 ⟨_, mem_deedsOf.1 hd, rfl⟩⟩
  · obtain ⟨past, hs | hs⟩ := Along.done hfits.along (mem_deedsOf.2 hd) <;>
      · rw [hw] at hs
        cases hs

/-- Who has an open turn has a page. -/
theorem IsOpen.stake (ht : IsOpen h t) (hf : Follows b V F w h c g) :
    t < c.members.length ∧ ∃ p, (g t).stake = .page p := by
  obtain ⟨x, hx, hbranch⟩ := ht.branch.member hf
  have hfits := hf.inOrder.fits t x hx
  obtain ⟨p, link, hcall⟩ := ht.begun
  obtain ⟨⟨a, hd⟩, -⟩ := begun_of_mem hcall
  refine ⟨Crew.lt_of_member hx, ?_⟩
  rcases Along.at_work hfits.along (mem_deedsOf.2 hd) fun q a hin => ht.kept q a (mem_deedsOf.1 hin)
    with ⟨w, hw⟩ | ⟨q, hq⟩
  · have hsuits := hfits.suits
    rw [hw] at hsuits
    exact ⟨w.page, by rw [hw, Stage.stake, hsuits.not_leads hbranch]; rfl⟩
  · have hsuits := hfits.suits
    rw [hq] at hsuits
    cases hjob : x.job with
    | branch =>
      rw [hjob] at hsuits
      exact absurd rfl (hsuits.2 q)
    | _ =>
      rw [hjob] at hbranch
      exact hbranch.elim

/-- No more tasks have pages than the pool may have. -/
theorem InOrder.holders (ho : InOrder b V F h c g) {ts : List TaskId} (hn : ts.Nodup)
    (hts : ∀ t ∈ ts, t < c.members.length ∧ ∃ p, (g t).stake = .page p) : ts.length ≤ b.limit := by
  obtain ⟨⟨hacc, -⟩, -, hmax⟩ := ho.ledger.books
  -- the pages that they have
  have hpages : (ts.map fun t => (g t).stake.page?).Nodup := by
    refine hn.map_on fun t ht u hu heq => ?_
    obtain ⟨hlt, p, hp⟩ := hts t ht
    obtain ⟨hlu, q, hq⟩ := hts u hu
    rw [hp, hq] at heq
    cases heq
    exact ho.page_owner hlt hlu hp hq
  have hsub : (ts.map fun t => (g t).stake.page?) ⊆ (pagesOf (V.pool c.world)).map some := by
    intro o ho'
    obtain ⟨t, ht, rfl⟩ := List.mem_map.1 ho'
    obtain ⟨hlt, p, hp⟩ := hts t ht
    rw [hp]
    exact List.mem_map_of_mem (ho.pooled hlt hp)
  have hlength := (List.subperm_of_subset hpages hsub).length_le
  rw [List.length_map, List.length_map, pagesOf, List.length_map] at hlength
  have hwithin := hacc.within
  have hslots := hacc.slots
  omega

/-! ## The pool at rest -/

/-- Nobody has anything of the pool, waits for it or makes a page for it, and it is within its limit. -/
def AtRest (limit : Nat) (p : Pool PageId) : Prop :=
  p.stats.inUse = 0 ∧ p.stats.waiting = 0 ∧ p.creating = 0 ∧ p.total ≤ limit

/-- When nobody has anything at stake the pool is at rest. -/
theorem Books.at_rest {limit : Nat} {p : Pool PageId} {ss : List (Stake PageId)}
    (hb : Books limit p ss) (hs : ∀ s ∈ ss, s = .nothing) : AtRest limit p := by
  obtain ⟨⟨hacc, hex⟩, -, hmax⟩ := hb
  have hnone : ∀ {α : Type} (f : Stake PageId → Option α), f .nothing = none → ss.filterMap f = [] :=
    fun f hf => List.filterMap_eq_nil_iff.2 fun s hin => by rw [hs s hin, hf]
  have htickets : Pool.tickets ss = [] := hnone _ rfl
  have hgranted : p.granted = [] := by
    refine List.eq_nil_iff_forall_not_mem.2 fun x hx => ?_
    obtain ⟨d, hd⟩ := hacc.ticketed.granted x hx
    rw [htickets] at hd
    cases hd
  have hwaiters : p.waiters = [] := by
    refine List.eq_nil_iff_forall_not_mem.2 fun x hx => ?_
    have hd := hacc.ticketed.queued x hx
    rw [htickets] at hd
    cases hd
  have hcreators : Pool.creators ss = 0 :=
    List.countP_eq_zero.2 fun s hin => by rw [hs s hin]; nofun
  refine ⟨?_, ?_, ?_, hmax ▸ hacc.within⟩
  · have hlent := hex.length_eq
    rw [hgranted, heldPages, hnone _ rfl] at hlent
    have hzero : (Pool.lentPages p.entries).length = 0 := hlent.symm
    rwa [Pool.lentPages, List.length_map] at hzero
  · simp [Pool.stats, hwaiters]
  · rw [hacc.slots, hcreators, hgranted]
    rfl

/-- No branch goes on. -/
def BranchesEnded (c : Crew scene W) : Prop :=
  ∀ (t : TaskId) (x : Member scene), c.members[t]? = some x → x.job.IsBranch → x.result ≠ none

theorem InOrder.at_rest (ho : InOrder b V F h c g) (hended : BranchesEnded c) :
    AtRest b.limit (V.pool c.world) := by
  refine ho.ledger.books.at_rest fun s hs => ?_
  obtain ⟨t, ht, rfl⟩ := List.mem_map.1 hs
  by_contra hne
  obtain ⟨x, hx, hbranch, hgoes⟩ := ho.goes_of_stake (List.mem_range.1 ht) hne
  exact hended t x hx hbranch hgoes

theorem Follows.last (hf : Follows b V F w (h ++ [e]) c' g') : ∃ c g, Follows b V F w h c g ∧
    Crew.Step m IsOutside c e c' ∧ Moves F c g e g' := by
  generalize hl : h ++ [e] = l at hf
  cases hf with
  | nil => simp at hl
  | snoc hc hs hg ho =>
    obtain ⟨rfl, heq⟩ := List.append_inj' hl rfl
    cases heq
    exact ⟨_, _, hc, hs, hg⟩

/-- When the first task has waited for others, all branches have ended. -/
theorem Follows.branches_ended {ts : List TaskId} {patient : Bool} {r : Outcome Fault Unit}
    (hf : Follows b V F w (h ++ [.act 0 (.meet ts patient r)]) c' g')
    (hh : ∀ e ∈ h, Event.IsCalm e) : BranchesEnded c' := by
  intro t y hy hbranch hgoes
  obtain ⟨c, g, hc, hs, hg⟩ := hf.last
  have ho := hc.inOrder
  have hcalm := hc.calm hh
  rcases hs.member hy with ⟨x, hx, hcont⟩ | ⟨_, _, he, -⟩
  · have hxgoes := hcont.goes hgoes
    obtain ⟨w₁, hw₁, hin⟩ := hc.kin.listed t x hx (hcont.job ▸ hbranch) hxgoes
    rcases hg.stage hs 0 with ⟨-, hne⟩ | ⟨z, d, he, hz, hnext⟩ | ⟨_, _, he, -⟩
    · exact absurd rfl (hne _)
    · cases he
      obtain ⟨w₂, hw₂, hts⟩ := hnext.meets
      cases hw₁.symm.trans hw₂
      have hoffers : c.Offers (.meet ts patient r) := by
        cases hs with
        | act hz' hr hp ha =>
          rw [hcalm.not_told_of_working ho hz' hw₁] at ha
          exact offers_of_allows ha
      rcases hcalm.meets ho hc.kin hw₁ hoffers hts with hok | ⟨hnone, -⟩
      · rcases hts with ⟨-, hnone, -⟩ | ⟨-, rfl⟩
        · rw [hnone] at hin
          cases hin
        · have hended := hcalm.met ho hw₁ hs (.inr hok) t hin
          rw [Crew.result?, hx, Option.bind_some, hxgoes] at hended
          cases hended
      · rw [hnone] at hin
        cases hin
    · cases he
  · cases he

/-- A branch calls in its turn, and its helpers too. -/
theorem Follows.called_in_turn {x : Called} (hf : Follows b V F w (h ++ [e]) c' g')
    (hh : ∀ e ∈ h, Event.IsCalm e) (hx : Event.called? e = some x) (ht : IsBranch (h ++ [e]) t)
    (hcaller : x.caller = t ∨ StartedBy (h ++ [e]) t x.caller) :
    IsLimit x.operation ∨ IsOpen (h ++ [e]) t := by
  have ho' := hf.inOrder
  obtain ⟨z, hz, hbranch⟩ := ht.member hf
  obtain ⟨c, g, hc, hs, hg⟩ := hf.last
  obtain ⟨y, hy, hr, hcalls⟩ := hg.calls hs hx
  have hopen : ∀ {w}, g' t = .working w → IsOpen (h ++ [e]) t := ho'.isOpen hz ht hbranch
  obtain ⟨⟨a, rfl⟩, -⟩ := called?_eq_some hx
  obtain ⟨caller, party, operation⟩ := x
  dsimp only at hcaller hcalls hy ⊢
  generalize hs₁ : g caller = s at hcalls
  rcases hcaller with rfl | hstart
  · have hfits := ho'.fits _ z hz
    generalize g' caller = s' at hcalls hopen hfits
    cases hcalls with
    | limit hop => exact .inl hop
    | enter | quiet => exact .inr (hopen rfl)
    | help => exact absurd hbranch hfits.isHelp.not_branch
  · obtain ⟨p, -, hhelping⟩ := hf.helper ht hstart
    rw [hhelping] at hcalls
    cases hcalls with
    | help =>
      -- the task that it helps works, and it goes on working
      obtain ⟨u, hu, w, hw, -, hstart'⟩ := (hc.calm hh).helps hc.kin hc.inOrder hy hr hs₁
      obtain ⟨job, hin⟩ := hstart
      obtain ⟨job', hin'⟩ := hstart'
      obtain ⟨rfl, -⟩ := hf.reaches.started_once hin (List.mem_append_left _ hin')
      rcases hg.stage hs t with ⟨heq, -⟩ | ⟨_, _, he, -⟩ | ⟨_, _, he, -⟩
      · exact .inr (hopen (heq.trans hw))
      · cases he
        rw [hs₁] at hw
        cases hw
      · cases he

/-! ## Branches never mix -/

/-- The calls on the page are settings of time limits and then the turns of branches, one after the
other; no branch has two. -/
def CalledInTurns (h : List (Event scene)) (p : PageId) : Prop :=
  ∃ (limits : List Called) (turns : List Turn), callsOn h p = limits ++ turns.flatMap (·.calls) ∧
    (∀ x ∈ limits, x.party = .page p ∧ IsLimit x.operation) ∧
    (∀ s ∈ turns, s.IsVisit h p) ∧ (turns.map (·.owner)).Nodup

/-- Branches never mix on a page, whatever order the tasks go on in and however branches end, as long
as nobody tells a task to give up and the user does not interrupt. All pages but that of the plan are
called in turns. A branch calls one page only, with its helpers, and only while its turn is open, after
the time limits. No more turns are open than the pool may have pages. And when the first task has
waited for its branches, the pool is at rest. -/
theorem branches_never_mix {W : Type} {m : Machine scene W} (V : Venue m) (w : W) (b : Brief)
    (ho : b.Opens V w) (hsteps : ¬ Step.Nested b.steps) (h : List (Event scene)) (c : Crew scene W)
    (hr : b.Reaches m w h c) (hh : ∀ e ∈ h, Event.IsCalm e) :
    (∀ p, p ≠ b.home → CalledInTurns h p) ∧
    (∀ t, IsBranch h t → ∃ p, ∀ x ∈ callsOf h, x.caller = t ∨ StartedBy h t x.caller →
      ∀ q, IsOn (Found h x.caller) q x.party ↔ q = p) ∧
    (∀ t, IsBranch h t → ∀ h' e x, h = h' ++ [e] → Event.called? e = some x →
      x.caller = t ∨ StartedBy h t x.caller → IsLimit x.operation ∨ IsOpen h t) ∧
    (∀ ts : List TaskId, ts.Nodup → (∀ t ∈ ts, IsOpen h t) → ts.length ≤ b.limit) ∧
    ∀ h' ts patient r, h = h' ++ [.act 0 (.meet ts patient r)] → AtRest b.limit (V.pool c.world) := by
  obtain ⟨g, hf⟩ := exists_follows ho (Step.allKeepApart_of_not_nested hsteps) hr (coverAll_found h)
  have hin := hf.inOrder
  have hbefore : ∀ {h' e}, h = h' ++ [e] → ∀ e ∈ h', Event.IsCalm e :=
    fun heq e he => hh e (heq ▸ List.mem_append_left _ he)
  refine ⟨fun p hp => ?_, fun t ht => hf.one_page ht, ?_, fun ts hn hts => ?_, ?_⟩
  · obtain ⟨limits, turns, hlog, hturns, -⟩ := hf.inTurns hh hp
    exact ⟨limits, turns, hin.callsOn_eq.trans hlog, hturns.limits, hturns.visits, hturns.owners⟩
  · intro t ht h' e x heq hx hcaller
    subst heq
    exact hf.called_in_turn (hbefore rfl) hx ht hcaller
  · exact hin.holders hn fun t ht => (hts t ht).stake hf
  · intro h' ts patient r heq
    subst heq
    exact hin.at_rest (hf.branches_ended (hbefore rfl))

/-- The first task has just waited for others. -/
def hasMet (h : List (Event scene)) : Bool :=
  match h.getLast? with
  | some (.act 0 (.meet ..)) => true
  | _ => false

theorem exists_of_hasMet (hm : hasMet h = true) :
    ∃ h' ts patient r, h = h' ++ [.act 0 (.meet ts patient r)] := by
  rw [hasMet] at hm
  split at hm
  · rename_i ts patient r heq
    obtain ⟨h', rfl⟩ := List.getLast?_eq_some_iff.1 heq
    exact ⟨h', ts, patient, r, rfl⟩
  · cases hm

/-- Two branches have followed their links on one page, the second one when the first one brought it
back. -/
theorem branches_never_mix_twoLinks : ∃ h c, (crawlBrief 1).Reaches machine (twoLinks 1) h c ∧
    (∀ e ∈ h, Event.IsCalm e) ∧ (callsOf h).length = 5 ∧ CalledInTurns h 1 ∧
      AtRest 1 c.world.pool := by
  have hplay : (Crew.rehearse machine (List.replicate 9 0 ++ [1, 2, 2, 2] ++ List.replicate 17 1 ++
      List.replicate 12 2 ++ [0]) (Crew.single machine (twoLinks 1) (crawlBrief 1).job)).any (fun x =>
        x.1.all (fun e => Event.IsCalm e) && hasMet x.1 && (callsOf x.1).length == 5) = true := by
    decide +kernel
  obtain ⟨⟨h, c⟩, hrun, hall⟩ := (Option.any_eq_true _ _).1 hplay
  simp only [Bool.and_eq_true, List.all_eq_true, decide_eq_true_eq, beq_iff_eq] at hall
  obtain ⟨⟨hcalm, hmet⟩, hcalls⟩ := hall
  have hr : (crawlBrief 1).Reaches machine (twoLinks 1) h c := Crew.reaches_of_rehearse .refl hrun
  obtain ⟨hturns, -, -, -, hrest⟩ := branches_never_mix World.venue (twoLinks 1) (crawlBrief 1)
    (opens_crawlBrief 1 Nat.zero_lt_one) (Step.not_nested (b := false) rfl) h c hr hcalm
  obtain ⟨h', ts, patient, r, heq⟩ := exists_of_hasMet hmet
  exact ⟨h, c, hr, hcalm, hcalls, hturns 1 Nat.one_ne_zero, hrest h' ts patient r heq⟩

end BrowserPlan.Run
