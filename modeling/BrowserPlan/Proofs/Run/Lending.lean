import BrowserPlan.Proofs.Pool.Order
import BrowserPlan.Proofs.Run.Turns

/-!
# Nobody is turned away

The pool of a run is open as long as steps are carried out. What a ticket is granted is then never a
refusal (`Follows.unrefused`), so who asks for a page is never turned away: not by an acquire, not with a
ticket that was granted something, and not when it brings its page back (`InOrder.lends`).
-/
namespace BrowserPlan.Run

open BrowserPlan.Task BrowserPlan.Browser
open BrowserPlan.Pool (Turnover)

/-- An answer of the pool that turns nobody away. -/
def PoolCall.Lends : (q : PoolCall PageId) → q.Answer → Prop
  | .acquire, a => ∀ fault, a ≠ .refused fault
  | .redeem _, a => (∀ fault, a ≠ .refused fault) ∧ ∀ k, a ≠ .queue k
  | .release _, fault => fault = none
  | _, _ => True

variable {W : Type} {m : Machine scene W} {V : Venue m} {b : Brief} {F : TaskId → Findings}
  {h : List (Event scene)} {c c' : Crew scene W} {g g' : Stages} {e : Event scene} {t : TaskId} {w₀ : W}
  {job : Job} {d : Deed scene} {s' : Stage} {isTold : Bool}

/-- What a step makes of the line at the pool. -/
theorem Ledger.turnover {limit n : Nat} {home : PageId} (hl : Ledger V limit home n c.world c.given g)
    (ht : t < n) (hnext : Next (F t) job (g t) d s') (ha : Crew.Allows m c isTold d c') :
    Turnover (V.pool c.world) (V.pool c'.world) := by
  have hsame : ∀ {p : Pool PageId}, p = V.pool c.world → Turnover (V.pool c.world) p := by
    rintro _ rfl
    exact .leaves (.refl _) (.refl _)
  rcases hnext.spares with hd | ⟨hd, -⟩
  · generalize hs : g t = s at hd
    cases hd with
    | acquire a =>
      rw [(asked V ha).1]
      exact .acquire _
    | granted k =>
      cases ha with
      | wait => exact hsame rfl
      | late _ _ heq => exact hsame rfl
    | brokenOff k e =>
      cases ha with
      | breakOff on htold =>
        change Turnover _ (V.pool (m.forsake c.world (.granted k)))
        rw [V.pool_forsaken]
        exact .leaves (.refl _) (by rw [Pool.queue_forsake])
      | _ => exact hsame rfl
    | redeem k a =>
      rw [(asked V ha).1]
      exact .redeem _ k
    | renounce k a =>
      rw [(asked V ha).1]
      exact .renounce _ k
    | created p a =>
      rw [(asked V ha).1]
      change Turnover _ ((V.pool c.world).created p)
      rw [Pool.created_eq (hl.made t ht p hs).2.1]
      exact .leaves (.refl _) (.refl _)
    | notMade a | notCreated p a =>
      rw [(asked V ha).1]
      exact .yieldRoom (.refl _) (.refl _)
    | @release work a hleads hhelpers =>
      rw [(asked V ha).1]
      exact .release (.refl _) (.refl _) work.page
  · exact hsame (spared V ha hd).1

/-- No ticket is granted a refusal. -/
theorem Follows.unrefused (ho : b.Opens V w₀) (hf : Follows b V F w₀ h c g) :
    ∀ x ∈ (V.pool c.world).granted, x.2 ≠ .refused := by
  induction hf with
  | nil =>
    change ∀ x ∈ (V.pool w₀).granted, _
    rw [ho.pool]
    exact fun _ hx => absurd hx List.not_mem_nil
  | @snoc h c c' g g' e hc hs hg _ ih =>
    cases hs with
    | @act _ _ _ _ c₁ hx hr hd ha =>
      cases hg with
      | idle he => exact absurd rfl (he _ _)
      | act hx' hnext =>
        obtain rfl := Option.some.inj (hx.symm.trans hx')
        exact (hc.inOrder.ledger.turnover (Crew.lt_of_member hx) hnext ha).unrefused ih
    | happen now q hq =>
      obtain rfl := hq
      change ∀ x ∈ (V.pool (m.perform now c.world .goAway).1).granted, _
      rw [V.pool_spared now c.world .goAway rfl]
      exact ih
    | _ => exact ih

/-- The pool turns nobody away. -/
theorem InOrder.lends (ho : InOrder b V F h c g) (hgranted : ∀ x ∈ (V.pool c.world).granted, x.2 ≠ .refused)
    (ht : t < c.members.length) {q : PoolCall PageId} {a : q.Answer}
    (hnext : Next (F t) job (g t) (.ask (.pool q) a) s') (ha : Crew.Allows m c isTold (.ask (.pool q) a) c') :
    PoolCall.Lends q a := by
  obtain ⟨⟨hacc, hex⟩, ⟨-, hopen, -⟩, -⟩ := ho.ledger.books
  obtain ⟨-, ha', -⟩ := asked V ha
  have hd : Deals (g t) (.ask (.pool q) a) s' := hnext.spares.resolve_right fun h => nomatch h.1
  generalize hs : g t = s at hd
  cases hd with
  | acquire a =>
    rintro fault rfl
    change Admission.refused fault = (V.pool c.world).acquire.2 at ha'
    rcases Pool.acquire_cases (V.pool c.world) with
      ⟨hclosed, -⟩ | ⟨-, page, rest, -, heq⟩ | ⟨-, -, -, heq⟩ | ⟨-, -, -, heq⟩
    · rw [hopen] at hclosed
      cases hclosed
    all_goals
      rw [heq] at ha'
      cases ha'
  | redeem k a =>
    change a = ((V.pool c.world).redeem k).2 at ha'
    obtain ⟨x, hx⟩ := Option.isSome_iff_exists.1 (ho.ledger.due t ht k hs)
    cases x with
    | page p =>
      rw [ha', Pool.redeem_page hx]
      exact ⟨nofun, nofun⟩
    | room =>
      rw [ha', Pool.redeem_room hx hopen]
      exact ⟨nofun, nofun⟩
    | refused =>
      have hmem := (Pool.handout?_eq_some_iff hacc.ticketed.granted_distinct).1 hx
      exact absurd rfl (hgranted _ hmem)
  | @release work a hleads hhelpers =>
    have hstake : (g t).stake = .page work.page := by rw [hs]; simp [Stage.stake, hleads]
    have hheld : work.page ∈ Pool.heldPages (stakes c.members.length g) :=
      List.mem_filterMap.2 ⟨_, List.mem_map.2 ⟨t, List.mem_range.2 ht, rfl⟩, Pool.Stake.page?_eq_some.2 hstake⟩
    have hlent : work.page ∈ Pool.lentPages (V.pool c.world).entries :=
      hex.mem_iff.1 (List.mem_append_left _ hheld)
    exact ha'.trans (Pool.release_of_mem_lentPages hacc.distinct hlent)
  | renounce | created | notMade | notCreated => trivial

end BrowserPlan.Run
