import BrowserPlan.Proofs.Run.Lending
import BrowserPlan.Proofs.Run.Reunion
import BrowserPlan.Proofs.Run.Solo

/-!
# Smooth histories

In a smooth history pages are made and files are written whenever somebody wants them to be. If nobody
interrupts besides, a task in a steady world meets nothing but what is wont to be met (`Steady.meets`), and
its page is where the habits of the site say (`Steady.leads_on`). Nobody else moves the page that a task
works on, as long as it has no helpers (`InOrder.undisturbed`).
-/
namespace BrowserPlan.Run

open BrowserPlan.Task BrowserPlan.Browser

/-- No page could not be made, and no file could not be written. -/
def Event.IsSmooth : Event scene → Prop
  | .act _ (.ask (.pool .notCreated) _) => False
  | .act _ (.ask (.ensureParent _) fault) | .act _ (.ask (.writeRecords _ _) fault) => fault = none
  | .act _ (.ask (.complete _ _ _) a) => ∀ fault, a ≠ .error (.file fault)
  | _ => True

/-- Nothing goes wrong with pages or files in the event. -/
def Event.isSmooth : Event scene → Bool
  | .act _ (.ask (.pool .notCreated) _) => false
  | .act _ (.ask (.ensureParent _) fault) | .act _ (.ask (.writeRecords _ _) fault) => fault.isNone
  | .act _ (.ask (.complete _ _ _) (.error (.file _))) => false
  | _ => true

theorem Event.isSmooth_iff (e : Event scene) : Event.isSmooth e = true ↔ Event.IsSmooth e := by
  cases e with
  | act t d =>
    cases d with
    | ask q a =>
      cases q with
      | ensureParent | writeRecords => exact Option.isNone_iff_eq_none
      | pool q => cases q <;> first | exact iff_of_true rfl trivial | exact iff_of_false Bool.false_ne_true id
      | complete who landing op =>
        match a with
        | .error (.file fault) => exact iff_of_false Bool.false_ne_true fun h => h fault rfl
        | .error (.raised _ _) | .ok _ => exact iff_of_true rfl nofun
      | _ => exact iff_of_true rfl trivial
    | _ => exact iff_of_true rfl trivial
  | _ => exact iff_of_true rfl trivial

instance (e : Event scene) : Decidable (Event.IsSmooth e) := decidable_of_iff _ (Event.isSmooth_iff e)

variable {W : Type} {m : Machine scene W} {V : Venue m} {B : Habits} {b : Brief} {F : TaskId → Findings}
  {h : List (Event scene)} {c c' : Crew scene W} {g g' : Stages} {e : Event scene} {t u : TaskId} {w₀ : W}
  {x : Member scene} {w w' : Work} {p : PageId} {d : Deed scene} {s s' : Stage} {job : Job} {isTold : Bool}

/-! ## What moves pages -/

theorem Call.Moves.eq_complete {q : Call} (h : Call.Moves p q) : ∃ landing op, q = .complete (.page p) landing op ∧
    (op.isLocal = true ∨ op.looksBack = true) := by
  cases q with
  | complete who landing op =>
    cases who with
    | page p' =>
      obtain ⟨rfl, hop⟩ := h
      exact ⟨landing, op, rfl, hop⟩
    | _ => exact h.elim
  | _ => exact h.elim

theorem Sight.exists_of?_page (place : PageId → String) (p : PageId) {op : Operation} (h : op.isLocal = true) :
    ∃ σ, Sight.of? place (.page p) op = some σ := by
  cases op <;> first | exact ⟨_, rfl⟩ | cases h

theorem Sight.of?_congr {place place' : PageId → String} {who : Party} (h : ∀ p, who = .page p → place p = place' p)
    (op : Operation) : Sight.of? place who op = Sight.of? place' who op := by
  cases who with
  | page p =>
    cases op <;> simp only [Sight.of?, h p rfl]
  | _ => rfl

theorem after_of_not_moves (B : Habits) (here : String)
    (hd : ∀ p q a, d = .ask q a → ¬ Call.Moves p q) : B.after here d = here := by
  cases d with
  | ask q a =>
    cases q with
    | complete who landing op =>
      cases who with
      | page p =>
        rw [Habits.after]
        split
        · rename_i σ hσ
          exact absurd ⟨rfl, .inl (Sight.of_of? hσ).isLocal⟩ (hd p _ a rfl)
        · rfl
      | _ => rfl
    | _ => rfl
  | _ => rfl

/-! ## What events do to a steady world -/

theorem answer_of_allows {q : Call} {a : q.Answer} (ha : Crew.Allows m c isTold (.ask q a) c') :
    ∃ now, a = (m.perform now c.world q).2.1 ∧ c'.world = (m.perform now c.world q).1 := by
  cases ha with
  | ask now ha => exact ⟨now, ha, rfl⟩
  | wait ho => cases ho
  | late _ ho heq => cases ho <;> cases heq

namespace Steady

variable (S : Steady V B)

theorem holds_step (hs : Crew.Step m IsOutside c e c') (hholds : S.holds c.world) : S.holds c'.world := by
  cases hs with
  | act hx hr hd ha =>
    cases ha with
    | ask now => exact S.holds_on now _ _ hholds
    | breakOff on =>
      cases on with
      | signal σ => exact S.holds_forsaken _ σ hholds
      | timer | forever => exact hholds
    | _ => exact hholds
  | happen now q => exact S.holds_on now _ q hholds
  | _ => exact hholds

/-- A page stays where it is unless it is moved. -/
theorem place_step (hs : Crew.Step m IsOutside c e c') (hholds : S.holds c.world)
    (he : ∀ t q a, e = .act t (.ask q a) → ¬ Call.Moves p q) : S.place c'.world p = S.place c.world p := by
  cases hs with
  | act hx hr hd ha =>
    cases ha with
    | ask now => exact S.stays now _ _ p hholds (he _ _ _ rfl)
    | breakOff on =>
      cases on with
      | signal σ => exact S.stays_forsaken _ σ p
      | timer | forever => rfl
    | _ => rfl
  | happen now q hq =>
    obtain rfl := hq
    exact S.stays now _ .goAway p hholds id
  | _ => rfl

end Steady

/-! ## Whose page it is -/

/-- Nobody else works on the page of a task that works. -/
theorem InOrder.works_alone (ho : InOrder b V F h c g) (ht : t < c.members.length) (hu : u < c.members.length)
    (hw : g t = .working w) (hw' : g u = .working w') (hpage : w.page = w'.page) : t = u := by
  have hstake : ∀ {v : TaskId} {k : Work}, g v = .working k → k.leads = false → (g v).stake = .page k.page := by
    intro v k hk hleads
    rw [hk, Stage.stake, hleads]
    rfl
  -- the first task works on no page of the pool
  have hchief : ∀ {v v' : TaskId} {k k' : Work}, v < c.members.length → v' < c.members.length →
      g v = .working k → g v' = .working k' → k.leads = true → k'.leads = false → k.page ≠ k'.page := by
    intro v v' k k' hv hv' hk hk' hleads hleads' hsame
    obtain rfl := ho.leader (List.getElem?_eq_getElem hv) hk hleads
    obtain ⟨k₀, hk₀, -, hhome⟩ := ho.home
    cases hk.symm.trans hk₀
    exact ho.ledger.away.2 (hhome ▸ hsame ▸ ho.pooled hv' (hstake hk' hleads'))
  cases hl : w.leads <;> cases hl' : w'.leads
  · exact ho.page_owner ht hu (hstake hw hl) (hpage ▸ hstake hw' hl')
  · exact absurd hpage.symm (hchief hu ht hw' hw hl' hl)
  · exact absurd hpage (hchief ht hu hw hw' hl hl')
  · exact (ho.leader (List.getElem?_eq_getElem ht) hw hl).trans
      (ho.leader (List.getElem?_eq_getElem hu) hw' hl').symm

/-- Who moves a page works or helps there. -/
theorem Next.moves {F : Findings} {q : Call} {a : q.Answer} (h : Next F job s (.ask q a) s') (hq : Call.Moves p q) :
    (∃ w, s = .working w ∧ w.page = p) ∨ s = .helping p := by
  obtain ⟨landing, op, rfl, hop⟩ := hq.eq_complete
  have hcall : IsCall (.page p) op (.ask (.complete (.page p) landing op) a) := .complete landing a
  cases h with
  | quiet h =>
    cases h.isOn hcall
    exact .inl ⟨_, rfl, rfl⟩
  | help h =>
    cases h.isOn hcall
    exact .inr rfl
  | limit hlimit h =>
    cases h with
    | complete => cases op <;> first | exact hlimit.elim | simp [Operation.isLocal, Operation.looksBack] at hop
  | aside h | deal h | make h | prepare h | share h => cases h

/-- Who asks where a page is works or helps there. -/
theorem Next.locates {F : Findings} {a : String} (h : Next F job s (.ask (.urlOf p) a) s') :
    (∃ w, s = .working w ∧ w.page = p) ∨ s = .helping p := by
  cases h with
  | quiet h =>
    cases h with
    | urlOf => exact .inl ⟨_, rfl, rfl⟩
    | aside h | pause h | call _ _ h => cases h
  | help h =>
    cases h with
    | urlOf => exact .inr rfl
    | aside h | pause h | call _ _ h => cases h
  | aside h | deal h | make h | prepare h | share h | limit _ h => cases h

/-- As long as nobody helps, nobody else moves the page of a task that works. -/
theorem InOrder.undisturbed (ho : InOrder b V F h c g) (hs : Crew.Step m IsOutside c e c') (hg : Moves F c g e g')
    (hhelp : ∀ (v : TaskId) (y : Member scene) p, c.members[v]? = some y → y.result = none → ¬ IsHelp p y.job)
    (ht : t < c.members.length) (hw : g t = .working w) (he : ∀ d, e ≠ .act t d) :
    ∀ v q a, e = .act v (.ask q a) → ¬ Call.Moves w.page q := by
  rintro v q a rfl hmoves
  rcases hg.stage hs v with ⟨-, hidle⟩ | ⟨y, d, heq, hy, hnext⟩ | ⟨_, _, heq, -⟩
  · exact hidle _ rfl
  · cases heq
    rcases hnext.moves hmoves with ⟨w', hw', hpage⟩ | hhelping
    · obtain rfl := ho.works_alone (Crew.lt_of_member hy) ht hw' hw hpage
      exact he _ rfl
    · have hfits := ho.fits v y hy
      rw [hhelping] at hfits
      refine hhelp v y w.page hy ?_ hfits.isHelp
      cases hs with
      | act hy' hgoes =>
        obtain rfl := Option.some.inj (hy.symm.trans hy')
        exact hgoes
  · cases heq

/-! ## What a task meets -/

/-- What a task looks at that knows where it works. -/
theorem Next.sight {F : Findings} {place : PageId → String} {here : String} {who : Party} {op : Operation} {σ : Sight}
    (hnext : Next F job s d s') (hd : IsCall who op d) (hhelp : ∀ p, s ≠ .helping p)
    (hhere : ∀ w, s = .working w → here = place w.page) (hσ : Sight.of? (fun _ => here) who op = some σ) :
    Sight.of? place who op = some σ := by
  have hnone : ∀ {place : PageId → String} {op : Operation}, Sight.of? place .context op = none := by
    intro place op
    simp [Sight.of?]
  cases hnext with
  | quiet h =>
    refine (Sight.of?_congr ?_ op).symm.trans hσ
    rintro p rfl
    cases h.isOn hd
    exact hhere _ rfl
  | help h => exact absurd rfl (hhelp _)
  | enter => cases hd; exact hσ
  | limit hop h =>
    cases h <;> cases hd <;> cases op <;> first | exact hop.elim | cases hσ
  | opening | notOpened | opened | failed =>
    cases hd
    rw [hnone] at hσ
    cases hσ
  | aside h | deal h | make h | prepare h | share h => cases h <;> cases hd
  | _ => cases hd

theorem InOrder.knows_page (ho : InOrder b V F h c g) (ht : t < c.members.length) (hw : g t = .working w) :
    V.knows c.world w.page := by
  cases hl : w.leads with
  | true =>
    obtain rfl := ho.leader (List.getElem?_eq_getElem ht) hw hl
    obtain ⟨k, hk, -, hhome⟩ := ho.home
    cases hw.symm.trans hk
    exact hhome ▸ ho.ledger.away.1
  | false =>
    refine ho.ledger.known _ (ho.pooled ht ?_)
    rw [hw, Stage.stake, hl]
    rfl

namespace Steady

variable (S : Steady V B) {here : String}

/-- Who is not told to give up meets nothing but what is wont to be met, if it helps nobody. -/
theorem meets (ho : InOrder b V F h c g) (hgranted : ∀ x ∈ (V.pool c.world).granted, x.2 ≠ .refused)
    (hholds : S.holds c.world) (ht : t < c.members.length) (hnext : Next (F t) job (g t) d s')
    (ha : Crew.Allows m c false d c') (hcalm : Event.IsCalm (.act t d)) (hsmooth : Event.IsSmooth (.act t d))
    (hhelp : ∀ p, g t ≠ .helping p) (hhere : ∀ w, g t = .working w → here = S.place c.world w.page)
    (hforeseen : B.Foresees here d) : B.Meets here d := by
  cases d with
  | ask q a =>
    cases q with
    | «begin» who op =>
      obtain ⟨now, ha, -⟩ := answer_of_allows ha
      refine ⟨hcalm, fun σ hσ => ?_⟩
      have hbegins := S.begins now c.world who op σ hholds (hnext.sight (.begin a) hhelp hhere hσ)
      rwa [← ha] at hbegins
    | complete who landing op =>
      obtain ⟨now, ha, -⟩ := answer_of_allows ha
      intro σ hσ
      obtain rfl := hforeseen.2 σ hσ
      have hsight := hnext.sight (.complete _ a) hhelp hhere hσ
      have hhas : V.Has c.world who := by
        cases who with
        | page p =>
          have hlocal := (Sight.of_of? hσ).isLocal
          rcases hnext.moves (p := p) ⟨rfl, .inl hlocal⟩ with ⟨w, hw, rfl⟩ | hhelping
          · exact ho.knows_page ht hw
          · exact absurd hhelping (hhelp p)
        | _ => trivial
      rcases S.completes now c.world who op σ hholds hhas hsight with hends | ⟨fault, hfault⟩
      · rwa [← ha] at hends
      · exact absurd (ha.trans hfault) (hsmooth fault)
    | urlOf p =>
      obtain ⟨now, ha, -⟩ := answer_of_allows ha
      rcases hnext.locates with ⟨w, hw, rfl⟩ | hhelping
      · exact ha.trans ((S.placed now c.world w.page).trans (hhere w hw).symm)
      · exact absurd hhelping (hhelp p)
    | pool q =>
      have hlends := ho.lends hgranted ht hnext ha
      cases q with
      | acquire | redeem | release => exact hlends
      | notCreated => exact hsmooth
      | _ => trivial
    | ensureParent | writeRecords => exact hsmooth
    | _ => trivial
  | wake on r =>
    cases ha with
    | wait hoffers =>
      cases hoffers with
      | timer => rfl
      | signal hin =>
        obtain ⟨k, rfl, -⟩ := hnext.wakes
        exact (ho.ledger.granted k r hin).1
    | breakOff on htold => cases htold
    | late htold => cases htold
  | start | stop | learn | meet => trivial

/-- Where the page of a task that works is after a step of it is told by the habits of the site. -/
theorem leads_on (ho : InOrder b V F h c g) (hholds : S.holds c.world) (ht : t < c.members.length)
    (hw : g t = .working w) (hs : Crew.Step m IsOutside c (.act t d) c')
    (hnext : Next (F t) job (g t) d s') (hforeseen : B.Foresees (S.place c.world w.page) d) :
    S.place c'.world w.page = B.after (S.place c.world w.page) d := by
  by_cases hmoves : ∃ p q a, d = .ask q a ∧ Call.Moves p q
  · obtain ⟨p, q, a, rfl, hq⟩ := hmoves
    obtain ⟨landing, op, rfl, hop⟩ := hq.eq_complete
    obtain rfl : p = w.page := by
      rcases hnext.moves hq with ⟨w', hw', hpage⟩ | hhelping
      · cases hw.symm.trans hw'
        exact hpage.symm
      · cases hw.symm.trans hhelping
    have hlocal : op.isLocal = true := hop.resolve_right (by rw [hforeseen.1]; nofun)
    obtain ⟨σ, hσ⟩ := Sight.exists_of?_page (fun _ => S.place c.world w.page) w.page hlocal
    obtain rfl := hforeseen.2 σ hσ
    rw [Habits.after, hσ]
    cases hs with
    | act hx hr hd ha =>
      obtain ⟨now, -, hworld⟩ := answer_of_allows ha
      have hleads := S.leads now c.world w.page op σ hholds (ho.knows_page ht hw)
        ((Sight.of?_congr (by rintro p ⟨⟩; rfl) op).trans hσ)
      rwa [← hworld] at hleads
  · rw [after_of_not_moves B _ fun p q a hd hq => hmoves ⟨p, q, a, hd, hq⟩]
    refine S.place_step hs hholds ?_
    rintro _ q a ⟨⟩ hq
    exact hmoves ⟨w.page, q, a, rfl, hq⟩

end Steady

end BrowserPlan.Run
