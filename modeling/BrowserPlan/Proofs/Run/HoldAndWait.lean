import BrowserPlan.Proofs.Plan.Nesting
import BrowserPlan.Proofs.Run.Kin
import BrowserPlan.Proofs.Task.Rehearsal
import BrowserPlan.Run.Scenario

/-!
# No hold and wait

A task that has a page of the pool does not wait for another one, and whenever a task waits for a page,
another task has one, or makes one, or is about to take one, and that task does not wait for the pool,
neither by itself nor through others (`Follows.supplier`). So branches cannot come to wait for each
other. It rests on crawls being kept apart: no branch starts branches.
-/
namespace BrowserPlan.Run

open BrowserPlan.Task BrowserPlan.Browser
open BrowserPlan.Pool (Stake Accounts heldPages)

variable {W : Type} {m : Machine scene W}

/-! ## What tasks have in hand -/

/-- What a task has of the pool. -/
inductive Hand where
  | nothing
  | ticket (k : Nat)
  | page (p : PageId)
  /-- Room for a page that it makes. -/
  | room
  deriving DecidableEq, Repr

namespace Hand

/-- What who asks for a page gets. -/
def admitted : Admission PageId → Hand
  | .page p => page p
  | .create => room
  | .queue k => ticket k
  | .refused _ => nothing

/-- What who takes what a ticket was granted gets. -/
def entered : Admission PageId → Hand
  | .page p => page p
  | .create => room
  | .queue _ | .refused _ => nothing

/-- What a task has after a step. -/
def after (hand : Hand) : Deed scene → Hand
  | .ask (.pool .acquire) a => admitted a
  | .ask (.pool (.redeem _)) a => entered a
  | .ask (.pool (.created p)) _ => page p
  | .ask (.pool (.renounce _)) _ | .ask (.pool .notCreated) _ | .ask (.pool (.release _)) _ => nothing
  | _ => hand

end Hand

/-- What a task has of the pool, by what it has done in a history. -/
def handOf (h : List (Event scene)) (t : TaskId) : Hand := (deedsOf h t).foldl Hand.after .nothing

/-- What is at stake is what is in hand. -/
def handOfStake : Stake PageId → Hand
  | .nothing => .nothing
  | .ticket k _ => .ticket k
  | .creation => .room
  | .page p => .page p

section
variable {F : Findings} {job : Job} {s s' : Stage} {d : Deed scene}

theorem Hand.after_spares (hd : Spares d) (hand : Hand) : hand.after d = hand := by
  cases d with
  | ask q a =>
    cases q with
    | pool q => cases hd
    | _ => rfl
  | _ => rfl

theorem Next.hand (h : Next F job s d s') : (handOfStake s.stake).after d = handOfStake s'.stake := by
  rcases h.spares with hd | ⟨hd, heq⟩
  · cases hd with
    | acquire a | redeem k a => cases a <;> rfl
    | _ => rfl
  · rw [Hand.after_spares hd, heq]

theorem Along.hand {ds : List (Deed scene)} (hs : s.stake = .nothing)
    (h : Along (Next F job) s ds s') : ds.foldl Hand.after .nothing = handOfStake s'.stake := by
  induction h with
  | nil => rw [hs]; rfl
  | snoc h hd ih => rw [List.foldl_append, ih]; exact hd.hand

theorem Fits.hand {h : List (Event scene)} {t : TaskId} {x : Member scene} (hx : Fits F h t x s) :
    handOf h t = handOfStake s.stake :=
  Along.hand (Stage.first_isAtRest x.job).stake hx.along

end

/-! ## Who waits -/

/-- The ticket that a task is paused for. -/
def ticket? (c : Crew scene W) (t : TaskId) : Option Nat :=
  match c.members[t]? with
  | some ⟨_, .pause (.signal (.granted k)) _, _, _, none⟩ => some k
  | _ => none

/-- A task waits for the pool: it is paused for a ticket that was granted nothing. -/
def Queued (V : Venue m) (c : Crew scene W) (t : TaskId) : Prop :=
  ∃ k, ticket? c t = some k ∧ (V.pool c.world).handout? k = none

/-- A task waits for the pool, or for a task that does, and so on. -/
inductive AwaitsPage (V : Venue m) (c : Crew scene W) : TaskId → Prop where
  | queued {t} (h : Queued V c t) : AwaitsPage V c t
  | through {t u x} (hx : c.members[t]? = some x) (hr : x.result = none) (hw : x.rest.WaitsFor u)
    (h : AwaitsPage V c u) : AwaitsPage V c t

/-- A branch goes on that has a page, or makes one, or was granted one or the room for one. -/
def Supplies (V : Venue m) (h : List (Event scene)) (c : Crew scene W) (t : TaskId) : Prop :=
  (∃ x, c.members[t]? = some x ∧ x.job.IsBranch ∧ x.result = none) ∧
    ((∃ p, handOf h t = .page p) ∨ handOf h t = .room ∨
      ∃ k, handOf h t = .ticket k ∧ ((V.pool c.world).handout? k).isSome = true)

section
variable {F : Findings} {job : Job} {s s' : Stage} {h : List (Event scene)} {t u : TaskId}
  {x : Member scene}

theorem Fits.paused (hx : Fits F h t x s) (hr : x.result = none) {σ : Signal}
    {next : Outcome Fault Unit → Program scene Yield} (hrest : x.rest = .pause (.signal σ) next) :
    ∃ k, σ = .granted k ∧ s = .drawn k := by
  have hdoes : x.rest.Does (.wake (.signal σ) (.ok ())) (next (.ok ())) :=
    hrest ▸ Program.Does.wake (I := scene) _ next _
  obtain ⟨s', hnext, -⟩ := (hx.obeys hr).does hdoes trivial
  exact hnext.wakes

end

/-! ## Who waits and who does not -/

section
variable {b : Brief} {V : Venue m} {F : TaskId → Findings} {h : List (Event scene)}
  {c : Crew scene W} {g : Stages} {t u : TaskId} {w : W}

theorem InOrder.queued (ho : InOrder b V F h c g) (hq : Queued V c t) :
    ∃ k, t < c.members.length ∧ g t = .drawn k ∧ (V.pool c.world).handout? k = none := by
  obtain ⟨k, hk, hnone⟩ := hq
  rw [ticket?] at hk
  split at hk
  · rename_i hx
    cases hk
    obtain ⟨_, ⟨⟩, hdrawn⟩ := (ho.fits t _ hx).paused rfl rfl
    exact ⟨k, Crew.lt_of_member hx, hdrawn, hnone⟩
  · cases hk

theorem InOrder.hand (ho : InOrder b V F h c g) (ht : t < c.members.length) :
    handOf h t = handOfStake (g t).stake :=
  (ho.fits t _ (List.getElem?_eq_getElem ht)).hand

theorem InOrder.not_queued_of_page (ho : InOrder b V F h c g) {p : PageId} (hp : handOf h t = .page p) :
    ¬ Queued V c t := by
  intro hq
  obtain ⟨k, ht, hk, -⟩ := ho.queued hq
  rw [ho.hand ht, hk] at hp
  cases hp

theorem InOrder.helper_not_awaits (ho : InOrder b V F h c g) {x : Member scene} {p : PageId}
    (hx : c.members[u]? = some x) (hjob : IsHelp p x.job) : ¬ AwaitsPage V c u := by
  have hstage := (ho.fits u x hx).helping hjob
  intro ha
  cases ha with
  | queued hq =>
    obtain ⟨k, -, hk, -⟩ := ho.queued hq
    rw [hk] at hstage
    cases hstage
  | through hx' hr hw =>
    obtain ⟨w, hs, -⟩ := (ho.fits u _ hx').waits hr hw
    rw [hs] at hstage
    cases hstage

/-- Who has a page in hand, or room, or a ticket that was granted something, does not wait for the
pool, neither by itself nor through others. -/
theorem InOrder.not_awaits (ho : InOrder b V F h c g) (hk : Kin h c g)
    (hs : (g u).stake ≠ .nothing)
    (hgranted : ∀ k d, (g u).stake = .ticket k d → ((V.pool c.world).handout? k).isSome = true) :
    ¬ AwaitsPage V c u := by
  intro ha
  cases ha with
  | queued hq =>
    obtain ⟨k, -, hdrawn, hnone⟩ := ho.queued hq
    have hsome := hgranted k false (by rw [hdrawn]; rfl)
    rw [hnone] at hsome
    cases hsome
  | through hx hr hw hv =>
    obtain ⟨w, hwork, hin⟩ := (ho.fits u _ hx).waits hr hw
    rw [hwork] at hs
    rcases hin with hin | ⟨hleads, -⟩
    · obtain ⟨-, y, hy, hhelp⟩ := hk.helpers u w hwork _ hin
      exact ho.helper_not_awaits hy hhelp hv
    · simp [Stage.stake, hleads] at hs

/-- Who has something at stake is a branch that goes on. -/
theorem InOrder.goes_of_stake (ho : InOrder b V F h c g) (hu : u < c.members.length)
    (hs : (g u).stake ≠ .nothing) :
    ∃ x, c.members[u]? = some x ∧ x.job.IsBranch ∧ x.result = none := by
  have hx := List.getElem?_eq_getElem hu
  have hfits := ho.fits u _ hx
  refine ⟨_, hx, ?_, Option.eq_none_iff_forall_ne_some.2 fun r hr => hs ?_⟩
  · have hsuits := hfits.suits
    have hpart := hfits.part
    cases hjob : c.members[u].job with
    | branch => trivial
    | steps page list index =>
      rw [hjob] at hsuits
      obtain ⟨w, hw, hleads, -⟩ := hsuits
      rw [hw] at hs
      exact absurd (Stage.IsAtRest.stake (s := .working w) hleads) hs
    | wait page condition | click page target =>
      rw [hjob] at hsuits
      rw [show g u = .helping page from hsuits] at hs
      exact absurd rfl hs
    | _ =>
      rw [hjob] at hpart
      exact hpart.elim
  · exact (hfits.ended r hr).1.stake

/-- While somebody waits for the pool, somebody else has a page at stake, makes one, or has a ticket
that was granted something. -/
theorem exists_stake {limit : Nat} (hlimit : 0 < limit) {p : Pool PageId} {n : Nat}
    (hb : Books limit p (stakes n g)) {k : Nat} {t : TaskId} (ht : t < n)
    (hk : (g t).stake = .ticket k false) (hnone : p.handout? k = none) :
    ∃ u < n, (∃ q, (g u).stake = .page q) ∨ (g u).stake = .creation ∨
      ∃ j d, (g u).stake = .ticket j d ∧ (p.handout? j).isSome = true := by
  obtain ⟨⟨hacc, hex⟩, ⟨-, -, hbusy⟩, hmax⟩ := hb
  have hmem : ∀ {s}, s ∈ stakes n g → ∃ u < n, (g u).stake = s := by
    intro s hs
    obtain ⟨u, hu, rfl⟩ := List.mem_map.1 hs
    exact ⟨u, List.mem_range.1 hu, rfl⟩
  -- what was granted was granted to the ticket of somebody
  have hgranted : ∀ {x}, x ∈ p.granted → ∃ u < n, (∃ q, (g u).stake = .page q) ∨
      (g u).stake = .creation ∨ ∃ j d, (g u).stake = .ticket j d ∧ (p.handout? j).isSome = true := by
    intro x hx
    obtain ⟨d, hd⟩ := hacc.ticketed.granted x hx
    obtain ⟨s, hs, hticket⟩ := List.mem_filterMap.1 hd
    obtain ⟨u, hu, rfl⟩ := hmem hs
    exact ⟨u, hu, .inr (.inr ⟨_, _, Stake.ticket?_eq_some.1 hticket,
      Pool.isSome_handout?_iff.2 ⟨x, hx, rfl⟩⟩)⟩
  have hwaits : Pool.HasWaiter p.waiters := by
    have hticket : (k, false) ∈ Pool.tickets (stakes n g) := by
      refine List.mem_filterMap.2 ⟨(g t).stake, List.mem_map.2 ⟨t, List.mem_range.2 ht, rfl⟩, ?_⟩
      rw [hk]
      rfl
    rcases hacc.ticketed.served k hticket with ⟨x, hx, rfl⟩ | ⟨x, hx, rfl⟩
    · exact ⟨x, hx, hacc.ticketed.unique (hacc.ticketed.queued x hx) hticket⟩
    · rw [Pool.handout?_eq_none_iff] at hnone
      exact absurd rfl (hnone x hx)
  obtain ⟨hnobody, htotal⟩ := hbusy hwaits
  cases hentries : p.entries with
  | cons e rest =>
    -- nobody has brought a page back, so the pages there are are lent
    have hlent : e.page ∈ Pool.lentPages p.entries := by
      have hin : e ∈ p.entries := hentries ▸ List.mem_cons_self
      refine Pool.mem_lentPages.2 ⟨e, hin, ?_, rfl⟩
      by_contra hidle
      have hidle : e.page ∈ Pool.idlePages p.entries :=
        Pool.mem_idlePages.2 ⟨e, hin, by simpa using hidle, rfl⟩
      rw [← hacc.shelved.mem_iff, hnobody] at hidle
      cases hidle
    rcases List.mem_append.1 (hex.mem_iff.2 hlent) with hheld | hgr
    · obtain ⟨s, hs, hpage⟩ := List.mem_filterMap.1 hheld
      obtain ⟨u, hu, rfl⟩ := hmem hs
      exact ⟨u, hu, .inl ⟨_, Stake.page?_eq_some.1 hpage⟩⟩
    · obtain ⟨j, hj⟩ := Pool.mem_grantedPages.1 hgr
      exact hgranted hj
  | nil =>
    have hslots := hacc.slots
    rw [Pool.total, hentries, hmax] at htotal
    by_cases hrooms : Pool.rooms p.granted = 0
    · have hcreators : 0 < Pool.creators (stakes n g) := by
        simp only [List.length_nil] at htotal
        omega
      obtain ⟨s, hs, hcreation⟩ := List.countP_pos_iff.1 hcreators
      obtain ⟨u, hu, rfl⟩ := hmem hs
      refine ⟨u, hu, .inr (.inl ?_)⟩
      cases hst : (g u).stake with
      | creation => rfl
      | _ => rw [hst] at hcreation; cases hcreation
    · obtain ⟨x, hx, -⟩ := List.countP_pos_iff.1 (Nat.pos_of_ne_zero hrooms)
      exact hgranted hx

/-- Whenever a task waits for the pool, another one supplies it, and that one does not wait. -/
theorem Follows.supplier (ho : b.Opens V w) (hf : Follows b V F w h c g) (hq : Queued V c t) :
    ∃ u, u ≠ t ∧ Supplies V h c u ∧ ¬ AwaitsPage V c u := by
  have hin := hf.inOrder
  obtain ⟨k, ht, hdrawn, hnone⟩ := hin.queued hq
  have hstake : (g t).stake = .ticket k false := by rw [hdrawn]; rfl
  obtain ⟨u, hu, hsupplies⟩ := exists_stake ho.limit hin.ledger.books ht hstake hnone
  have hne : u ≠ t := by
    rintro rfl
    rw [hstake] at hsupplies
    rcases hsupplies with ⟨q, hq⟩ | hq | ⟨j, d, hq, hsome⟩
    · cases hq
    · cases hq
    · cases hq
      rw [hnone] at hsome
      cases hsome
  have hany : (g u).stake ≠ .nothing := by
    rcases hsupplies with ⟨q, hq⟩ | hq | ⟨j, d, hq, -⟩ <;> rw [hq] <;> nofun
  refine ⟨u, hne, ⟨hin.goes_of_stake hu hany, ?_⟩, hin.not_awaits hf.kin hany ?_⟩
  · rw [hin.hand hu]
    rcases hsupplies with ⟨q, hq⟩ | hq | ⟨j, d, hq, hsome⟩ <;> rw [hq]
    · exact .inl ⟨q, rfl⟩
    · exact .inr (.inl rfl)
    · exact .inr (.inr ⟨j, rfl, hsome⟩)
  · intro j d hj
    rcases hsupplies with ⟨q, hq⟩ | hq | ⟨i, d', hq, hsome⟩ <;> rw [hq] at hj <;> cases hj
    exact hsome

/-- No task holds a page and waits for one, and whoever waits is supplied. -/
theorem Brief.Reaches.supplied (ho : b.Opens V w)
    (hsteps : Step.allKeepApart false b.steps = true) (hr : b.Reaches m w h c) :
    (∀ t p, handOf h t = .page p → ¬ Queued V c t) ∧
      ∀ t, Queued V c t → ∃ u, u ≠ t ∧ Supplies V h c u ∧ ¬ AwaitsPage V c u := by
  obtain ⟨g, hg⟩ := exists_follows ho hsteps hr coverAll_anything
  exact ⟨fun t p hp => hg.inOrder.not_queued_of_page hp, fun t hq => hg.supplier ho hq⟩

end

/-! ## Plans -/

/-- A document with a crawl below a crawl is refused, as a fault of the document unless another fault
comes first, that of a number no pattern can have; and no other document is refused for nesting. In a
run of a plan that is accepted, whatever the browser does and in whatever order the tasks go on, no
task that has a page of the pool waits for one, and while a task waits, another branch has a page, makes
one, or was granted one, and does not wait. -/
theorem no_hold_and_wait (settings : Settings) (source : Option String) (v : Json) :
    (Json.Nested v.planSteps → ∃ fault, Plan.ofJson settings source v = .error fault ∧
      (fault.isPlaced = true ∨ (∃ place f, fault = .badWait place (.unreadable f)) ∨
        ∃ f, fault = .badSpec (.unreadable f))) ∧
    (¬ Json.Nested v.planSteps →
      ∀ place, Plan.ofJson settings source v ≠ .error (.nestedCrawl place)) ∧
    ∀ plan, Plan.ofJson settings source v = .ok plan → ¬ Step.Nested plan.steps ∧
      ∀ {W : Type} {m : Machine scene W} (V : Venue m) (w : W) (b : Brief), b.steps = plan.steps →
        b.Opens V w → ∀ h c, b.Reaches m w h c →
          (∀ t p, handOf h t = .page p → ¬ Queued V c t) ∧
            ∀ t, Queued V c t → ∃ u, u ≠ t ∧ Supplies V h c u ∧ ¬ AwaitsPage V c u := by
  refine ⟨fun hnested => ?_, fun hapart place hrefused => ?_, fun plan hplan => ⟨?_, ?_⟩⟩
  · cases hv : Plan.ofJson settings source v with
    | ok plan => exact absurd hnested (Plan.kept_of_ofJson hv).2
    | error fault =>
      refine ⟨fault, rfl, ?_⟩
      cases hplaced : fault.isPlaced with
      | true => exact .inl rfl
      | false => exact .inr (Plan.unreadable_of_not_isPlaced hplaced)
  · exact hapart (Plan.nested_of_refused hrefused)
  · exact Step.not_nested (Plan.kept_of_ofJson hplan).1
  · intro W m V w b hsteps ho h c hr
    exact hr.supplied ho (hsteps ▸ (Plan.kept_of_ofJson hplan).1)

/-- A plan with a crawl, as a document. -/
def crawlDocument : Json :=
  .obj [("url", .str "http://a/"), ("steps", .arr [.obj [("action", .str "crawl"),
    ("selector", .str "a"), ("subSteps", .arr [.obj [("action", .str "click"),
      ("selector", .str "b")]])]])]

/-- The steps of the plan. -/
def crawlSteps : List Step := [.crawl (some "a") none "href" [.click (some "b") none none]]

/-- A world whose first page shows two links, with a pool for so many pages. -/
def twoLinks (limit : Nat) : World :=
  let linkTo (url : String) : Markup := { props := [("href", .str url)] }
  let listing : Markup := { children := [("a", [linkTo "http://a/1", linkTo "http://a/2"])] }
  let w := (World.ofSite { documents := [("http://a/", listing)] } ⟨[]⟩).withPage "main" "http://a/"
  { w with pool := { maxPages := limit }, session := { hasContext := true } }

/-- The run of these steps on that page. -/
def crawlBrief (limit : Nat) : Brief :=
  { home := 0, steps := crawlSteps, index := .root, limit := limit }

theorem opens_crawlBrief (limit : Nat) (h : 0 < limit) :
    (crawlBrief limit).Opens World.venue (twoLinks limit) :=
  ⟨h, rfl, Nat.zero_lt_one⟩

/-- While the first branch makes the only page, the second one waits for it. -/
theorem no_hold_and_wait_twoLinks : ∃ plan h c, Plan.ofJson {} none crawlDocument = .ok plan ∧
    (crawlBrief 1).Reaches machine (twoLinks 1) h c ∧ Queued World.venue c 2 ∧
      ∃ u, u ≠ 2 ∧ Supplies World.venue h c u ∧ ¬ AwaitsPage World.venue c u := by
  have hplan : ∃ plan, Plan.ofJson {} none crawlDocument = .ok plan ∧ plan.steps = crawlSteps :=
    ⟨_, rfl, rfl⟩
  have hplay : (Crew.rehearse machine (List.replicate 9 0 ++ [1, 2, 2, 2])
      (Crew.single machine (twoLinks 1) (crawlBrief 1).job)).any (fun x => ticket? x.2 2 = some 0 ∧
        (x.2.world.pool.handout? 0).isNone) = true := rfl
  obtain ⟨plan, hok, hsteps⟩ := hplan
  obtain ⟨⟨h, c⟩, hrun, hqueued⟩ := (Option.any_eq_true _ _).1 hplay
  have hr : (crawlBrief 1).Reaches machine (twoLinks 1) h c :=
    Crew.reaches_of_rehearse .refl hrun
  have hq : Queued World.venue c 2 := by
    simp only [decide_eq_true_eq, Option.isNone_iff_eq_none] at hqueued
    exact ⟨0, hqueued⟩
  refine ⟨plan, h, c, hok, hr, hq, ?_⟩
  exact (((no_hold_and_wait {} none crawlDocument).2.2 plan hok).2 World.venue (twoLinks 1)
    (crawlBrief 1) hsteps.symm (opens_crawlBrief 1 Nat.zero_lt_one) h c hr).2 2 hq

end BrowserPlan.Run
