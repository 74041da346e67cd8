import BrowserPlan.Proofs.Run.Calls
import BrowserPlan.Proofs.Run.Ledger
import BrowserPlan.Proofs.Run.Premises

/-!
# Keeping tally

Before the steps of a plan and after them a run goes about its business by itself: it starts a launcher,
launches a browser, opens a page and a pool, and closes all of it in the end. A `Tally` is what it knows
of all this as long as nobody interferes, and `Tallies` says how a program ends by the tally, given what
it is told agrees with it.
-/
namespace BrowserPlan.Run

open BrowserPlan.Task BrowserPlan.Browser

/-! ## What is opened and closed -/

/-- What a run opens and has to close. -/
inductive Resource where
  | launcher
  | browser (b : BrowserId)
  | page (p : PageId)
  deriving DecidableEq

/-- What a call is an attempt to close. -/
def closing? : Party → Operation → Option Resource
  | .launcher, .stop => some .launcher
  | .browser b, .close => some (.browser b)
  | .page p, .close => some (.page p)
  | _, _ => none

/-- What an attempt to close is made of in a step. -/
def Deed.closing? : Deed scene → Option Resource
  | .ask (.begin who op) _ => Run.closing? who op
  | _ => none

/-- What the launcher has brought about in a step: it has started, or a browser was launched. -/
def Deed.opened? : Deed scene → Option Resource
  | .ask (.complete .launcher _ .start) (.ok _) => some .launcher
  | .ask (.complete .launcher _ (.launch ..)) (.ok b) => some (.browser b)
  | _ => none

/-- The page that a step has opened. -/
def Deed.page? : Deed scene → Option PageId
  | .ask (.complete _ _ .newPage) (.ok p) => some p
  | _ => none

/-- What is attempted to be closed in an event, whoever attempts it. -/
def Event.closing? : Event scene → Option Resource
  | .act _ d => Deed.closing? d
  | _ => none

/-- What the launcher has brought about in an event. -/
def Event.opened? : Event scene → Option Resource
  | .act _ d => Deed.opened? d
  | _ => none

/-- The attempts to close something in a history, in their order. -/
def closings (h : List (Event scene)) : List Resource := h.filterMap Event.closing?

/-- What the launcher has brought about in a history, in that order. -/
def openings (h : List (Event scene)) : List Resource := h.filterMap Event.opened?

theorem closings_snoc (h : List (Event scene)) (e : Event scene) :
    closings (h ++ [e]) = closings h ++ (Event.closing? e).toList := by
  rw [closings, closings, List.filterMap_append]
  cases hc : Event.closing? e <;> simp [hc]

theorem openings_snoc (h : List (Event scene)) (e : Event scene) :
    openings (h ++ [e]) = openings h ++ (Event.opened? e).toList := by
  rw [openings, openings, List.filterMap_append]
  cases ho : Event.opened? e <;> simp [ho]

/-- What the session has to close, in that order. -/
def Session.resources (s : Session) : List Resource :=
  (s.browser.map Resource.browser).toList ++ if s.isLauncherStarted then [.launcher] else []

/-! ## The tally -/

/-- What a task knows of the session and the pool when nobody else touches them, and what it has opened
and closed so far. -/
structure Tally where
  session : Session
  pool : Pool PageId
  /-- A pool was opened. -/
  hasPool : Bool := false
  /-- The tickets that were told that they were granted something. -/
  told : List Nat := []
  /-- The pages that were left when the pool was closed. -/
  shut : Option (List PageId) := none
  opened : List Resource := []
  closed : List Resource := []
  made : List PageId := []

namespace Tally

/-- The tally after a call that is answered in some way. -/
def asked (t : Tally) : (q : Call) → q.Answer → Tally
  | .setSession s, _ => { t with session := s }
  | .openPool limit, none => { t with pool := { maxPages := limit.toNat }, hasPool := true }
  | .pool .shut, ps => { t with
      pool := (t.pool.perform .shut).1, told := t.told ++ (t.pool.perform .shut).2.2, shut := some ps }
  | .pool q, _ => { t with
      pool := (t.pool.perform q).1, told := t.told ++ (t.pool.perform q).2.2 }
  | q, a => { t with
      opened := t.opened ++ (Deed.opened? (.ask q a)).toList
      closed := t.closed ++ (Deed.closing? (.ask q a)).toList
      made := t.made ++ (Deed.page? (.ask q a)).toList }

/-- The tally after a step. -/
def after (t : Tally) : Deed scene → Tally
  | .ask q a => t.asked q a
  | _ => t

/-- The answer agrees with the tally, and nobody interrupts. -/
def Believes (t : Tally) : (q : Call) → q.Answer → Prop
  | .session, s => s = t.session
  | .openPool limit, a => (∃ p, Pool.ofLimit (π := PageId) limit = .ok p ∧ a = none) ∨
      ∃ fault, Pool.ofLimit (π := PageId) limit = .error fault ∧ a = some fault
  | .pool q, a => a = (t.pool.perform q).2.1
  | .begin (.browser _) (.on _), course => Course.IsImmediate course
  | .begin _ _, course => course.interrupts = false
  | .complete (.browser _) _ (.on _), a => ∃ l, a = .ok l
  | _, _ => True

/-- What is met in the step agrees with the tally, and nobody is told to give up. -/
def Agrees (t : Tally) : Deed scene → Prop
  | .ask q a => t.Believes q a
  | .wake _ r => r = .ok ()
  | _ => True

theorem closed_after (t : Tally) (d : Deed scene) :
    (t.after d).closed = t.closed ++ (Deed.closing? d).toList := by
  cases d with
  | ask q a =>
    cases q with
    | openPool limit =>
      cases a with
      | none => exact (List.append_nil _).symm
      | some fault => rfl
    | setSession => exact (List.append_nil _).symm
    | pool q => cases q <;> exact (List.append_nil _).symm
    | _ => rfl
  | _ => exact (List.append_nil _).symm

theorem opened_after (t : Tally) (d : Deed scene) :
    (t.after d).opened = t.opened ++ (Deed.opened? d).toList := by
  cases d with
  | ask q a =>
    cases q with
    | openPool limit =>
      cases a with
      | none => exact (List.append_nil _).symm
      | some fault => rfl
    | setSession => exact (List.append_nil _).symm
    | pool q => cases q <;> exact (List.append_nil _).symm
    | _ => rfl
  | _ => exact (List.append_nil _).symm

end Tally

/-! ## Programs that keep tally -/

variable {α β : Type}

/-- From the tally `t` on, the program only makes calls and pauses for a time, and ends as `Q` says, if
every call is answered as it believes and every pause ends well. -/
def Program.Tallies (Q : Tally → Outcome Fault α → Prop) :
    Program scene α → Tally → Prop
  | .done r, t => Q t r
  | .call q next, t => ∀ a, t.Believes q a → Tallies Q (next a) (t.asked q a)
  | .pause on next, t => (∀ s, on ≠ .signal s) ∧ Tallies Q (next (.ok ())) t
  | .fork .., _ | .cancel .., _ | .await .., _ | .gather .., _ => False

namespace Tallies

variable {Q P : Tally → Outcome Fault α → Prop} {t : Tally} {p : Program scene α}

theorem weaken (hQ : ∀ t r, Q t r → P t r) (h : Program.Tallies Q p t) :
    Program.Tallies P p t := by
  induction p generalizing t with
  | done r => exact hQ t r h
  | call q next ih => exact fun a ha => ih a (h a ha)
  | pause on next ih => exact ⟨h.1, ih _ h.2⟩
  | _ => exact h

theorem bind {P : Tally → Outcome Fault β → Prop} {f : α → Program scene β}
    (h : Program.Tallies (fun t r => match r with
      | .ok a => Program.Tallies P (f a) t
      | .error e => P t (.error e)) p t) : Program.Tallies P (p.bind f) t := by
  induction p generalizing t with
  | done r =>
    cases r with
    | ok a => exact h
    | error e => exact h
  | call q next ih => exact fun a ha => ih a (h a ha)
  | pause on next ih => exact ⟨h.1, ih _ h.2⟩
  | _ => exact h.elim

theorem attempt {P : Tally → Outcome Fault (Outcome Fault α) → Prop}
    (h : Program.Tallies (fun t r => P t (.ok r)) p t) : Program.Tallies P p.attempt t := by
  induction p generalizing t with
  | done r => exact h
  | call q next ih => exact fun a ha => ih a (h a ha)
  | pause on next ih => exact ⟨h.1, ih _ h.2⟩
  | _ => exact h.elim

theorem tolerating {P : Tally → Outcome Fault Unit → Prop} {p : Program scene Unit}
    (h : Program.Tallies (fun t r => IsCalm r ∧ P t (.ok ())) p t) :
    Program.Tallies P (Program.tolerating (I := scene) p) t := by
  refine bind (attempt (weaken ?_ h))
  rintro t r ⟨hr, hP⟩
  match r with
  | .ok () => exact hP
  | .error (.failed fault) => exact hP

end Tallies

/-- From the tally `t` on, the program keeps tally until it comes to one that `H` holds of. -/
def Program.TalliesUntil (H : Tally → Program scene α → Prop) : Program scene α → Tally → Prop
  | .call q next, t => H t (.call q next) ∨
      ∀ a, t.Believes q a → TalliesUntil H (next a) (t.asked q a)
  | .pause on next, t => H t (.pause on next) ∨
      (∀ s, on ≠ .signal s) ∧ TalliesUntil H (next (.ok ())) t
  | p, t => H t p

/-- The program makes a call, or pauses for a time, and keeps tally after that. -/
structure Program.KeepsTally (H : Tally → Program scene α → Prop) (p : Program scene α) (t : Tally) :
    Prop where
  asks : (∃ q next, p = .call q next) ∨ ∃ on next, p = .pause on next ∧ ∀ s, on ≠ .signal s
  next : ∀ d p', p.Does d p' → t.Agrees d → Program.TalliesUntil H p' (t.after d)

namespace TalliesUntil

variable {H : Tally → Program scene β → Prop} {t : Tally} {p : Program scene β}

theorem now (h : H t p) : Program.TalliesUntil H p t := by
  cases p with
  | call | pause => exact .inl h
  | _ => exact h

theorem next (h : Program.TalliesUntil H p t) : H t p ∨ Program.KeepsTally H p t := by
  cases p with
  | call q next =>
    rcases h with h | h
    · exact .inl h
    · refine .inr ⟨.inl ⟨q, next, rfl⟩, fun d p' hd ha => ?_⟩
      cases hd
      exact h _ ha
  | pause on next =>
    rcases h with h | ⟨hon, h⟩
    · exact .inl h
    · refine .inr ⟨.inr ⟨on, next, rfl, hon⟩, fun d p' hd ha => ?_⟩
      cases hd
      obtain rfl : _ = Except.ok () := ha
      exact h
  | _ => exact .inl h

theorem bind {q : Program scene α} {f : α → Program scene β}
    (h : Program.Tallies (fun t r => Program.TalliesUntil H ((Program.done r).bind f) t) q t) :
    Program.TalliesUntil H (q.bind f) t := by
  induction q generalizing t with
  | done r => exact h
  | call q next ih => exact .inr fun a ha => ih a (h a ha)
  | pause on next ih => exact .inr ⟨h.1, ih _ h.2⟩
  | _ => exact h.elim

/-- A program that keeps tally to its end, which is one that `H` holds of. -/
theorem ends (h : Program.Tallies (fun t r => H t (.done r)) p t) : Program.TalliesUntil H p t := by
  rw [← Program.bind_pure p]
  refine bind (Tallies.weaken ?_ h)
  intro t r hr
  cases r <;> exact hr

theorem mono {G : Tally → Program scene β → Prop} (hG : ∀ t p, H t p → G t p)
    (h : Program.TalliesUntil H p t) : Program.TalliesUntil G p t := by
  induction p generalizing t with
  | call q next ih => exact h.imp (hG _ _) fun h a ha => ih a (h a ha)
  | pause on next ih => exact h.imp (hG _ _) fun h => ⟨h.1, ih _ h.2⟩
  | _ => exact hG _ _ h

end TalliesUntil

/-! ## Calls -/

section
variable {Q : Tally → Outcome Fault α → Prop} {t : Tally}

theorem tallies_ask {q : Call} {Q : Tally → Outcome Fault q.Answer → Prop}
    (h : ∀ a, t.Believes q a → Q (t.asked q a) (.ok a)) : Program.Tallies Q (ask q) t := h

theorem tallies_settleFor {ε : Type} {toFault : ε → Fault} {r : Except ε α}
    (hok : ∀ a, r = .ok a → Q t (.ok a)) (hfail : ∀ fault, Q t (.error (.failed fault))) :
    Program.Tallies Q (settleFor toFault r) t := by
  cases r with
  | ok a => exact hok a rfl
  | error e => exact hfail _

theorem tallies_sitOut {who : Party} {op : Operation} {course : Course}
    {Q : Tally → Outcome Fault Unit → Prop} (h : Q t (.ok ())) :
    Program.Tallies Q (sitOut who op course) t := by
  rw [sitOut]
  cases hon : holdUp course with
  | none => exact h
  | some on =>
    refine ⟨?_, h⟩
    rintro s rfl
    rw [holdUp] at hon
    split at hon
    · cases hon
    · split at hon <;> cases hon

/-- The tally when a call has begun. -/
def Tally.beginning (t : Tally) (who : Party) (op : Operation) : Tally :=
  { t with closed := t.closed ++ (closing? who op).toList }

theorem Tally.beginning_of_none {who : Party} {op : Operation} (h : closing? who op = none) :
    t.beginning who op = t := by
  simp [Tally.beginning, h]

/-- A call that neither opens nor closes anything leaves the tally as it is. -/
theorem Tally.completed_of_none {who : Party} {op : Operation} {landing : Option String}
    {a : Except CallFault op.Answer} (hopen : Deed.opened? (.ask (.complete who landing op) a) = none)
    (hpage : Deed.page? (.ask (.complete who landing op) a) = none) :
    t.asked (.complete who landing op) a = t := by
  simp [Tally.asked, hopen, hpage, Deed.closing?]

/-- A call to the browser fails, or it is completed. -/
theorem tallies_invoke {who : Party} {op : Operation} {Q : Tally → Outcome Fault op.Answer → Prop}
    (hfail : ∀ course fault, t.Believes (.begin who op) course → course.fault = some fault →
      Q (t.beginning who op) (.error (.failed (.call fault))))
    (hend : ∀ landing a, (t.beginning who op).Believes (.complete who landing op) a →
      Q ((t.beginning who op).asked (.complete who landing op) a)
        (a.mapError fun f => .failed (.call f))) :
    Program.Tallies Q (invoke who op) t := by
  intro course hcourse
  have hcalm : course.interrupts = false := by
    cases who <;> cases op <;> first | exact hcourse | exact hcourse.2.1
  have hbegun : t.asked (.begin who op) course = t.beginning who op := by
    simp [Tally.asked, Tally.beginning, Deed.opened?, Deed.closing?, Deed.page?]
  change Program.Tallies Q (proceed who op course) (t.asked (.begin who op) course)
  rw [hbegun]
  refine Tallies.bind (tallies_sitOut ?_)
  dsimp only
  rw [hcalm]
  cases hfault : course.fault with
  | some fault => exact hfail course fault hcourse hfault
  | none =>
    intro a ha
    have hQ := hend course.landing a ha
    cases a with
    | ok v => exact hQ
    | error f => exact hQ

/-- A call to the browser that neither opens nor closes anything leaves the tally as it is. -/
theorem tallies_call {who : Party} {op : Operation} {Q : Tally → Outcome Fault op.Answer → Prop}
    (hclose : closing? who op = none)
    (hopen : ∀ landing a, Deed.opened? (.ask (.complete who landing op) a) = none)
    (hpage : ∀ landing a, Deed.page? (.ask (.complete who landing op) a) = none)
    (hQ : ∀ r, IsCalm r → Q t r) : Program.Tallies Q (invoke who op) t := by
  have hbegun := Tally.beginning_of_none (t := t) hclose
  refine tallies_invoke (fun course fault _ _ => ?_) fun landing a _ => ?_
  · rw [hbegun]
    exact hQ _ trivial
  · rw [hbegun, Tally.completed_of_none (hopen landing a) (hpage landing a)]
    cases a with
    | ok v => exact hQ _ trivial
    | error f => exact hQ _ trivial

theorem tallies_say {level : Log.Level} {speaker : Log.Speaker} {message : String}
    {Q : Tally → Outcome Fault Unit → Prop} (h : Q t (.ok ())) :
    Program.Tallies Q (say level speaker message) t := by
  refine tallies_ask fun a _ => ?_
  have hsame : t.asked (.log ⟨level, speaker, message⟩) a = t := by
    simp [Tally.asked, Deed.opened?, Deed.closing?, Deed.page?]
  rw [hsame]
  exact h

theorem tallies_current {Q : Tally → Outcome Fault Session → Prop} (h : Q t (.ok t.session)) :
    Program.Tallies Q Session.current t := by
  refine tallies_ask fun s hs => ?_
  obtain rfl : s = t.session := hs
  have hsame : t.asked .session t.session = t := by
    simp [Tally.asked, Deed.opened?, Deed.closing?, Deed.page?]
  rw [hsame]
  exact h

theorem tallies_update {f : Session → Session} {Q : Tally → Outcome Fault Unit → Prop}
    (h : Q { t with session := f t.session } (.ok ())) :
    Program.Tallies Q (Session.update f) t :=
  Tallies.bind (tallies_current (tallies_ask fun _ _ => h))

end

/-! ## Opening a session -/

section
variable {t : Tally}

/-- The session agrees with what the launcher has brought about, and nothing was closed yet. -/
structure Tally.IsReady (t : Tally) : Prop where
  isOpen : t.session.isClosed = false
  resources : t.session.resources = t.opened.reverse
  /-- Browsers are launched by a launcher that has started. -/
  launched : t.session.browser.isSome = true → t.session.isLauncherStarted = true
  closed : t.closed = []
  told : t.told = []
  shut : t.shut = none

/-- Time limits change nothing. -/
theorem tallies_applyTimeouts {who : Party} {Q : Tally → Outcome Fault Unit → Prop}
    (hQ : ∀ r, IsCalm r → Q t r) : Program.Tallies Q (Session.applyTimeouts who) t := by
  have hlimit : ∀ op : Operation, IsLimit op → ∀ Q : Tally → Outcome Fault op.Answer → Prop,
      (∀ r, IsCalm r → Q t r) → Program.Tallies Q (invoke who op) t := by
    intro op hop Q hQ
    cases op with
    | setDefaultTimeout | setDefaultNavigationTimeout =>
      exact tallies_call (by cases who <;> rfl) (fun _ _ => by cases who <;> rfl)
        (fun _ _ => by cases who <;> rfl) hQ
    | _ => exact hop.elim
  have hlater : ∀ s : Session, Program.Tallies Q (Session.limitNavigation who s) t := by
    intro s
    unfold Session.limitNavigation
    split
    · exact hlimit (.setDefaultNavigationTimeout _) trivial Q hQ
    · exact hQ _ trivial
  rw [Session.applyTimeouts_eq]
  refine Tallies.bind (tallies_current ?_)
  dsimp only
  split
  · refine Tallies.bind (hlimit (.setDefaultTimeout _) trivial _ fun r hr => ?_)
    cases r with
    | ok u => exact hlater _
    | error e => exact hQ _ hr
  · exact hlater _

/-- How opening a session leaves the tally: it can be closed as far as it got, and a browser was launched
if all went well. -/
structure Opening {α : Type} (t t' : Tally) (r : Outcome Fault α) : Prop where
  ready : t'.IsReady
  calm : IsCalm r
  launched : ∀ a, r = .ok a → t'.session.browser.isSome = true
  pool : t'.hasPool = t.hasPool

/-- A session is started. -/
theorem tallies_start (ht : t.IsReady) (hb : t.session.browser = none)
    (hl : t.session.isLauncherStarted = false) :
    Program.Tallies (Opening t) Session.start t := by
  have hnone : t.opened = [] := by
    simpa [Session.resources, hb, hl] using ht.resources.symm
  obtain ⟨hopen, -, -, hclosed, htold, hshut⟩ := id ht
  have hfailed : ∀ {t' : Tally} {fault}, t'.IsReady → t'.hasPool = t.hasPool →
      Opening t t' (.error (.failed fault) : Outcome Fault Unit) :=
    fun hready hpool => ⟨hready, trivial, nofun, hpool⟩
  refine Tallies.bind (tallies_current ?_)
  refine Tallies.bind (tallies_say ?_)
  refine Tallies.bind (tallies_invoke (fun course fault _ _ => ?_) fun landing a _ => ?_) <;>
    rw [Tally.beginning_of_none rfl]
  · exact hfailed ht rfl
  cases a with
  | error fault =>
    rw [Tally.completed_of_none rfl rfl]
    exact hfailed ht rfl
  | ok a =>
  generalize ht₀ : t.asked (.complete .launcher landing .start) (.ok a) = t₀
  refine Tallies.bind (tallies_update ?_)
  -- the launcher has started
  generalize ht₁ : ({ t₀ with session := { t₀.session with isLauncherStarted := true } } : Tally) = t₁
  have hready₁ : t₁.IsReady := by
    subst ht₁ ht₀
    constructor <;> simp [Session.resources, Tally.asked, Deed.opened?, Deed.closing?, *]
  refine Tallies.bind (tallies_invoke (fun course fault _ _ => ?_) fun landing b _ => ?_) <;>
    rw [Tally.beginning_of_none rfl]
  · exact hfailed hready₁ (by rw [← ht₁, ← ht₀]; rfl)
  cases b with
  | error fault =>
    rw [Tally.completed_of_none rfl rfl]
    exact hfailed hready₁ (by rw [← ht₁, ← ht₀]; rfl)
  | ok b =>
  generalize ht₂ : t₁.asked (.complete .launcher landing (.launch _ _)) (.ok b) = t₂
  refine Tallies.bind (tallies_update ?_)
  -- a browser was launched
  generalize ht₃ : ({ t₂ with session := { t₂.session with browser := some b } } : Tally) = t₃
  have hready₃ : t₃.IsReady := by
    subst ht₃ ht₂ ht₁ ht₀
    constructor <;> simp [Session.resources, Tally.asked, Deed.opened?, Deed.closing?, *]
  have hpool₃ : t₃.hasPool = t.hasPool := by rw [← ht₃, ← ht₂, ← ht₁, ← ht₀]; rfl
  have hbrowser : t₃.session.browser.isSome = true := by rw [← ht₃]; rfl
  refine Tallies.bind (tallies_call rfl (fun _ _ => rfl) (fun _ _ => rfl) fun r hr => ?_)
  match r with
  | .error (.failed fault) => exact hfailed hready₃ hpool₃
  | .ok () =>
  refine Tallies.bind (tallies_update ?_)
  exact tallies_applyTimeouts fun r hr => ⟨⟨hready₃.isOpen, hready₃.resources, hready₃.launched,
    hready₃.closed, hready₃.told, hready₃.shut⟩, hr, fun _ _ => hbrowser, hpool₃⟩

/-- A page is opened in a session that has a browser. -/
theorem tallies_newPage (ht : t.IsReady) (hb : t.session.browser.isSome = true) :
    Program.Tallies (fun t' r => Opening t t' r ∧ ∀ p, r = .ok p → p ∈ t'.made)
      Session.newPage t := by
  refine Tallies.bind (tallies_current ?_)
  dsimp only
  split
  · exact ⟨⟨ht, trivial, nofun, rfl⟩, nofun⟩
  refine Tallies.bind (tallies_invoke (fun course fault _ _ => ?_) fun landing a _ => ?_) <;>
    rw [Tally.beginning_of_none rfl]
  · exact ⟨⟨ht, trivial, nofun, rfl⟩, nofun⟩
  cases a with
  | error fault =>
    rw [Tally.completed_of_none rfl rfl]
    exact ⟨⟨ht, trivial, nofun, rfl⟩, nofun⟩
  | ok p =>
  generalize ht₁ : t.asked (.complete .context landing .newPage) (.ok p) = t₁
  have hready : t₁.IsReady := by
    obtain ⟨hopen, hres, hlaunched, hclosed, htold, hshut⟩ := ht
    subst ht₁
    constructor <;> simp [Tally.asked, Deed.opened?, Deed.closing?, *]
  have hmade : p ∈ t₁.made := by
    rw [← ht₁]
    exact List.mem_append_right _ (List.mem_singleton_self p)
  have hsame : t₁.session = t.session ∧ t₁.hasPool = t.hasPool := by
    rw [← ht₁]
    exact ⟨rfl, rfl⟩
  refine Tallies.bind (tallies_applyTimeouts fun r hr => ?_)
  match r with
  | .ok () =>
    refine ⟨⟨hready, trivial, fun _ _ => hsame.1.symm ▸ hb, hsame.2⟩, ?_⟩
    rintro q ⟨⟩
    exact hmade
  | .error (.failed fault) => exact ⟨⟨hready, trivial, nofun, hsame.2⟩, nofun⟩

/-- How the browser, the page and the pool of a run are opened: there is a pool if, and only if, all went
well. -/
structure OpenedUp (limit : Int) (t : Tally) (r : Outcome Fault PageId) : Prop where
  ready : t.IsReady
  calm : IsCalm r
  hasPool : t.hasPool = true ↔ ∃ page, r = .ok page
  well : ∀ page, r = .ok page → t.session.browser.isSome = true ∧ page ∈ t.made ∧ 1 ≤ limit ∧
    t.pool = { maxPages := limit.toNat }

theorem tallies_openUp {plan : Plan} (ht : t.IsReady) (hb : t.session.browser = none)
    (hl : t.session.isLauncherStarted = false) (hp : t.hasPool = false) :
    Program.Tallies (OpenedUp plan.maxPages) (openUp plan) t := by
  have hfailed : ∀ {t' : Tally} {e : Stop Fault}, t'.IsReady → IsCalm (.error e : Outcome Fault Unit) →
      t'.hasPool = t.hasPool → OpenedUp plan.maxPages t' (.error e) := by
    intro t' e hready he hpool
    exact ⟨hready, by cases e <;> exact he, by simp [hpool, hp], nofun⟩
  refine Tallies.bind (Tallies.weaken ?_ (tallies_start ht hb hl))
  rintro t₁ r ⟨hready₁, hr, hbrowser, hpool₁⟩
  cases r with
  | error e => exact hfailed hready₁ hr hpool₁
  | ok u =>
  refine Tallies.bind (Tallies.weaken ?_ (tallies_newPage hready₁ (hbrowser u rfl)))
  rintro t₂ r ⟨⟨hready₂, hr, hbrowser₂, hpool₂⟩, hmade⟩
  cases r with
  | error e => exact hfailed hready₂ (by cases e <;> exact hr) (hpool₂.trans hpool₁)
  | ok page =>
  refine Tallies.bind (tallies_ask fun a ha => ?_)
  rcases ha with ⟨pool, hpool, rfl⟩ | ⟨fault, -, rfl⟩
  · rw [Pool.ofLimit] at hpool
    split at hpool
    · cases hpool
    · rename_i hlimit
      refine ⟨⟨hready₂.isOpen, hready₂.resources, hready₂.launched, hready₂.closed, hready₂.told, hready₂.shut⟩, trivial,
        ⟨fun _ => ⟨page, rfl⟩, fun _ => rfl⟩, ?_⟩
      rintro _ ⟨⟩
      exact ⟨hbrowser₂ page rfl, hmade page rfl, Int.not_lt.1 hlimit, rfl⟩
  · refine hfailed ?_ trivial (hpool₂.trans hpool₁)
    obtain ⟨hopen, hres, hlaunched, hclosed, htold, hshut⟩ := hready₂
    constructor <;> simp [Tally.asked, Deed.opened?, Deed.closing?, *]

end

/-! ## Closing -/

section
variable {t : Tally}

/-- What is closed now is closed, and the rest is as it was. -/
def Tally.closing (t : Tally) (resources : List Resource) : Tally :=
  { t with closed := t.closed ++ resources }

theorem tallies_shutting {who : Party} {op : Operation} {resource : Resource}
    {Q : Tally → Outcome Fault op.Answer → Prop} (hclose : closing? who op = some resource)
    (hQ : ∀ r, IsCalm r → Q (t.closing [resource]) r) : Program.Tallies Q (invoke who op) t := by
  have hbegun : t.beginning who op = t.closing [resource] := by
    simp [Tally.beginning, Tally.closing, hclose]
  refine tallies_invoke (fun course fault _ _ => hbegun ▸ hQ _ trivial) fun landing a _ => ?_
  have hsame : (t.closing [resource]).asked (.complete who landing op) a = t.closing [resource] := by
    refine Tally.completed_of_none ?_ ?_
    · cases who <;> cases op <;> first | rfl | cases hclose
    · cases op <;> first | rfl | cases who <;> cases hclose
  rw [hbegun, hsame]
  cases a with
  | ok v => exact hQ _ trivial
  | error f => exact hQ _ trivial

theorem tallies_closeAll {Q : Tally → Outcome Fault Unit → Prop} (ps : List PageId) :
    ∀ {t : Tally}, Q (t.closing (ps.map .page)) (.ok ()) →
      Program.Tallies Q (Program.each (I := scene)
        (fun p => Program.tolerating (I := scene) (invoke (.page p) .close)) ps) t := by
  induction ps with
  | nil =>
    intro t h
    have hsame : t.closing [] = t := by simp [Tally.closing]
    exact hsame ▸ h
  | cons p ps ih =>
    intro t h
    refine Tallies.bind (Tallies.tolerating (tallies_shutting rfl fun r hr => ⟨hr, ?_⟩))
    refine ih ?_
    have hmore : (t.closing [.page p]).closing (ps.map .page) = t.closing ((p :: ps).map .page) := by
      simp [Tally.closing]
    exact hmore ▸ h

/-- How closing the pool leaves the tally. -/
structure PagesClosed (t t' : Tally) (r : Outcome Fault Unit) : Prop where
  closed : t'.closed = t.closed ++ (pagesOf t.pool).map .page
  opened : t'.opened = t.opened
  shut : t'.shut = some (pagesOf t.pool)
  session : t'.session = t.session
  hasPool : t'.hasPool = t.hasPool
  well : r = .ok ()

theorem tallies_closePages : Program.Tallies (PagesClosed t) closePages t := by
  refine Tallies.bind (tallies_ask fun ps hps => ?_)
  obtain rfl : ps = pagesOf t.pool := hps
  refine Tallies.bind (tallies_closeAll _ ?_)
  refine Tallies.bind (tallies_ask fun a _ => ?_)
  exact tallies_say ⟨rfl, rfl, rfl, rfl, rfl, rfl⟩

/-- How closing the session leaves the tally. -/
structure SessionClosed (t t' : Tally) : Prop where
  closed : t'.closed = t.closed ++ t.session.resources
  opened : t'.opened = t.opened
  shut : t'.shut = t.shut
  hasPool : t'.hasPool = t.hasPool

/-- A session that was not closed before is closed, and whatever goes wrong is passed over. -/
theorem tallies_close (ht : t.session.isClosed = false) :
    Program.Tallies (fun t' r => SessionClosed t t' ∧ r = .ok ()) Session.close t := by
  -- what closing leaves as it is
  have hstop : ∀ t' : Tally, (t'.opened = t.opened ∧ t'.shut = t.shut ∧ t'.hasPool = t.hasPool) →
      (t'.closed ++ if t'.session.isLauncherStarted then [.launcher] else []) =
        t.closed ++ t.session.resources →
      Program.Tallies (fun t' r => SessionClosed t t' ∧ r = .ok ()) (do
        if (← Session.current).isLauncherStarted then
          Program.tolerating (I := scene) (invoke .launcher .stop)
        Session.update fun s =>
          { s with browser := none, hasContext := false, isLauncherStarted := false }
        say .info .session "Browser session closed") t' := by
    intro t' hkept hclosed
    have hend : ∀ t'' : Tally, (t''.opened = t.opened ∧ t''.shut = t.shut ∧ t''.hasPool = t.hasPool) →
        t''.closed = t.closed ++ t.session.resources →
        Program.Tallies (fun t' r => SessionClosed t t' ∧ r = .ok ()) (do
          Session.update fun s =>
            { s with browser := none, hasContext := false, isLauncherStarted := false }
          say .info .session "Browser session closed") t'' :=
      fun t'' hkept hclosed =>
        Tallies.bind (tallies_update (tallies_say ⟨⟨hclosed, hkept.1, hkept.2.1, hkept.2.2⟩, rfl⟩))
    refine Tallies.bind (tallies_current ?_)
    dsimp only
    split
    · rename_i hstarted
      rw [if_pos hstarted] at hclosed
      exact Tallies.bind (Tallies.tolerating (tallies_shutting rfl fun r hr =>
        ⟨hr, hend _ hkept hclosed⟩))
    · rename_i hstarted
      rw [if_neg hstarted, List.append_nil] at hclosed
      exact hend _ hkept hclosed
  refine Tallies.bind (tallies_current ?_)
  dsimp only
  rw [ht]
  refine Tallies.bind (tallies_update ?_)
  refine Tallies.bind (tallies_current ?_)
  dsimp only
  split
  · rename_i b hb
    refine Tallies.bind (Tallies.tolerating (tallies_shutting rfl fun r hr => ⟨hr, hstop _ ⟨rfl, rfl, rfl⟩ ?_⟩))
    simp [Tally.closing, Session.resources, show t.session.browser = some b from hb]
  · rename_i hb
    refine hstop _ ⟨rfl, rfl, rfl⟩ ?_
    simp [Session.resources, show t.session.browser = none from hb]

theorem tallies_giveUp {α : Type} (ht : t.session.isClosed = false) (s : Stop Fault) :
    Program.Tallies (fun t' r => SessionClosed t t' ∧ r = .error s) (giveUp (α := α) s) t := by
  refine Tallies.bind (Tallies.weaken ?_ (tallies_close ht))
  rintro t' r ⟨hclosed, rfl⟩
  exact ⟨hclosed, rfl⟩

end
end BrowserPlan.Run
