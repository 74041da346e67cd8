import BrowserPlan.Proofs.Run.Venue

/-!
# Sites that have habits

On many a site what comes of a call depends on little: going to an address, on the address; any other
call to a page, on the address that the page is at; a call to an element, on the element. `Habits` says
what comes of calls there, and `Steady` that a world keeps to them, however long calls take. The world of
a run does so when the rules of its site do not change and are the same for all pages
(`World.steady`).
-/
namespace BrowserPlan.Browser

/-! ## What calls look at -/

/-- Calls whose end depends on where a page is now, or goes. -/
def Operation.isLocal : Operation → Bool
  | .goto .. | .click _ | .type .. | .screenshot .. | .query _ | .read .. | .content | .evaluate _
  | .waitForEvent .. | .waitForLoadState .. | .waitForSelector .. | .waitForTimeout _
  | .waitForFunction .. | .expect .. | .awaitHalf _ => true
  | _ => false

/-- Calls whose end depends on where a page has been. -/
def Operation.looksBack : Operation → Bool
  | .back .. | .forward .. => true
  | _ => false

/-- Calls that go to an address. -/
def Operation.isGoto : Operation → Bool
  | .goto .. => true
  | _ => false

theorem Operation.looksBack_of_isLocal {op : Operation} (h : op.isLocal = true) : op.looksBack = false := by
  cases op <;> first | rfl | cases h

/-- What a call looks at. -/
inductive Sight where
  | nothing
  /-- The address that a page is at. -/
  | page (here : String)
  | element (m : Markup)

/-- What a call looks at, if it is a local one; `at` tells where the pages are. -/
def Sight.of? (place : PageId → String) (who : Party) (op : Operation) : Option Sight :=
  if op.isLocal then
    match who, op with
    | .page _, .goto .. => some .nothing
    | .page p, _ => some (.page (place p))
    | .element e, _ => some (.element e.markup)
    | _, _ => none
  else none

/-- The three ways of looking at something. -/
inductive Sight.Of (place : PageId → String) : Party → Operation → Sight → Prop where
  | goto (p url waitUntil timeout) : Of place (.page p) (.goto url waitUntil timeout) .nothing
  | page (p) {op} (hop : op.isLocal = true) (hgoto : op.isGoto = false) :
    Of place (.page p) op (.page (place p))
  | element (e : Element) {op} (hop : op.isLocal = true) : Of place (.element e) op (.element e.markup)

theorem Sight.of_of? {place : PageId → String} {who : Party} {op : Operation} {s : Sight}
    (h : Sight.of? place who op = some s) : Sight.Of place who op s := by
  cases who with
  | page p =>
    cases op with
    | goto url waitUntil timeout =>
      cases h
      exact .goto ..
    | _ =>
      simp only [Sight.of?, Operation.isLocal, if_true, Bool.false_eq_true, if_false, Option.some.injEq,
        reduceCtorEq] at h
      all_goals exact h ▸ .page p rfl rfl
  | element e =>
    cases op <;> simp only [Sight.of?, Operation.isLocal, if_true, Bool.false_eq_true, if_false, Option.some.injEq,
      reduceCtorEq] at h <;> exact h ▸ .element e rfl
  | _ => simp [Sight.of?] at h

theorem Sight.of?_page (here : String) (p : PageId) {op : Operation} (hop : op.isLocal = true)
    (hgoto : op.isGoto = false) : Sight.of? (fun _ => here) (.page p) op = some (.page here) := by
  cases op with
  | goto => cases hgoto
  | _ => first | rfl | exact nomatch hop

theorem Sight.of?_element (here : String) (e : Element) {op : Operation} (hop : op.isLocal = true) :
    Sight.of? (fun _ => here) (.element e) op = some (.element e.markup) := by
  rw [Sight.of?, if_pos hop]

theorem Sight.Of.isLocal {place : PageId → String} {who : Party} {op : Operation} {s : Sight}
    (h : Sight.Of place who op s) : op.isLocal = true := by
  cases h with
  | goto => rfl
  | page p hop => exact hop
  | element e hop => exact hop

/-- The same course, but for the time that it takes. -/
def Course.SameButForTime (c c' : Course) : Prop := { c with delay := 0 } = { c' with delay := 0 }

theorem Course.SameButForTime.fault {c c' : Course} (h : c.SameButForTime c') : c.fault = c'.fault := by
  have hfault := congrArg Course.fault h
  exact hfault

theorem Course.SameButForTime.landing {c c' : Course} (h : c.SameButForTime c') :
    c.landing = c'.landing := by
  have hlanding := congrArg Course.landing h
  exact hlanding

/-- Two pages, or two elements that look the same. -/
inductive Party.Alike : Party → Party → Prop where
  | page (p p') : Alike (.page p) (.page p')
  | element {e e' : Element} (h : e.markup = e'.markup) : Alike (.element e) (.element e')

/-- The same answer, but for the names of elements. -/
def Operation.Alike : (op : Operation) → op.Answer → op.Answer → Prop
  | .query _, es, es' => es.map (·.markup) = es'.map (·.markup)
  | _, a, a' => a = a'

/-- The same end of a call, but for the names of elements. -/
def Operation.EndsAlike (op : Operation) : Except CallFault op.Answer → Except CallFault op.Answer → Prop
  | .ok a, .ok a' => op.Alike a a'
  | .error f, .error f' => f = f'
  | _, _ => False

/-- What comes of calls on a site, by what they look at. -/
structure Habits where
  course : Sight → Operation → Course
  ending : Sight → (op : Operation) → Except CallFault op.Answer
  /-- Where a call to a page leads. -/
  leads : Sight → Operation → String

end BrowserPlan.Browser

namespace BrowserPlan.Run

open BrowserPlan.Task BrowserPlan.Browser

/-- The call may move the page. -/
def Call.Moves (p : PageId) : Call → Prop
  | .complete (.page q) _ op => q = p ∧ (op.isLocal = true ∨ op.looksBack = true)
  | _ => False

/-- The party is there: a page was opened before it is called. -/
def Venue.Has {W : Type} {m : Machine scene W} (V : Venue m) (w : W) : Party → Prop
  | .page p => V.knows w p
  | _ => True

/-- A world that keeps to the habits of a site. It holds on to what that takes (`holds`), and it is told
where each of its pages is (`place`). Only files can come in the way. -/
structure Steady {W : Type} {m : Machine scene W} (V : Venue m) (B : Habits) where
  holds : W → Prop
  place : W → PageId → String
  holds_on : ∀ now w q, holds w → holds (m.perform now w q).1
  holds_forsaken : ∀ w s, holds w → holds (m.forsake w s)
  placed : ∀ now w p, (m.perform now w (.urlOf p)).2.1 = place w p
  stays : ∀ now w q p, holds w → ¬ Call.Moves p q → place (m.perform now w q).1 p = place w p
  stays_forsaken : ∀ w s p, place (m.forsake w s) p = place w p
  begins : ∀ now w who op s, holds w → Sight.of? (place w) who op = some s →
    Course.SameButForTime (m.perform now w (.begin who op)).2.1 (B.course s op)
  completes : ∀ now w who op s, holds w → V.Has w who → Sight.of? (place w) who op = some s →
    op.EndsAlike (m.perform now w (.complete who (B.course s op).landing op)).2.1 (B.ending s op) ∨
      ∃ fault, (m.perform now w (.complete who (B.course s op).landing op)).2.1 = .error (.file fault)
  leads : ∀ now w p op s, holds w → V.knows w p → Sight.of? (place w) (.page p) op = some s →
    place (m.perform now w (.complete (.page p) (B.course s op).landing op)).1 p = B.leads s op

/-- The same world, of the same habits. -/
def Steady.copy {W : Type} {m : Machine scene W} {V : Venue m} {B B' : Habits} (S : Steady V B) (h : B = B') :
    Steady V B' :=
  { S with begins := h ▸ S.begins, completes := h ▸ S.completes, leads := h ▸ S.leads }

end BrowserPlan.Run

/-! ## Sites whose rules do not change -/

namespace BrowserPlan.Browser

/-- The rule is good for any number of calls, to any page. -/
def Rule.IsPlain (r : Rule) : Prop := r.party = none ∧ r.skip ≤ 0 ∧ r.times = none

/-- Asking plain rules does not change them, and who asks does not matter. -/
theorem Rule.consult_plain {rules : List Rule} (h : ∀ r ∈ rules, r.IsPlain) (name party party' : String)
    (key : Option String) : (consult name party key rules).1 = rules ∧
      (consult name party key rules).2 = (consult name party' key rules).2 := by
  induction rules with
  | nil => exact ⟨rfl, rfl⟩
  | cons r rest ih =>
    obtain ⟨hparty, hskip, htimes⟩ := h r List.mem_cons_self
    obtain ⟨hrules, hcourse⟩ := ih fun r' hr' => h r' (List.mem_cons_of_mem _ hr')
    have happlies : ∀ party, r.appliesTo name party key = (r.on == name && r.key.all fun k => key == some k) := by
      intro party
      simp [appliesTo, hparty]
    simp only [consult, happlies]
    split
    · exact ⟨by rw [hrules], hcourse⟩
    · rw [if_neg (Int.not_lt.2 hskip), if_neg (Int.not_lt.2 hskip)]
      obtain ⟨on, party₀, key₀, skip, times, course⟩ := r
      obtain rfl : times = none := htimes
      exact ⟨rfl, rfl⟩

/-- The rule without the time that its calls take. -/
def Rule.withoutDelay (r : Rule) : Rule := { r with course := { r.course with delay := 0 } }

/-- What a call takes, but for the time, does not depend on how long the rules say that calls take. -/
theorem Rule.consult_withoutDelay (name party : String) (key : Option String) (rules : List Rule) :
    { (consult name party key rules).2 with delay := 0 } =
      (consult name party key (rules.map Rule.withoutDelay)).2 := by
  induction rules with
  | nil => rfl
  | cons r rest ih =>
    have happlies : r.withoutDelay.appliesTo name party key = r.appliesTo name party key := rfl
    have hskip : r.withoutDelay.skip = r.skip := rfl
    have htimes : r.withoutDelay.times = r.times := rfl
    rw [List.map_cons, consult, consult, happlies, hskip, htimes]
    split
    · exact ih
    · split
      · exact ih
      · split
        · exact ih
        · rfl

namespace Page

/-- The page is somewhere in its history. -/
def IsSomewhere (p : Page) : Prop := p.position < p.history.length

theorem visit_isSomewhere {p : Page} (h : p.IsSomewhere) (url : String) : (p.visit url).IsSomewhere := by
  simp only [IsSomewhere, visit, List.length_append, List.length_take, List.length_singleton] at h ⊢
  omega

theorem back_isSomewhere {p : Page} (h : p.IsSomewhere) : p.back.IsSomewhere :=
  Nat.lt_of_le_of_lt (Nat.sub_le _ _) h

theorem forward_isSomewhere {p : Page} (h : p.IsSomewhere) : p.forward.IsSomewhere := by
  simp only [IsSomewhere, forward] at h ⊢
  omega

theorem url_visit {p : Page} (h : p.IsSomewhere) (url : String) : (p.visit url).url = url := by
  have hlength : (p.history.take (p.position + 1)).length = p.position + 1 := List.length_take_of_le h
  have hlast : (p.history.take (p.position + 1) ++ [url])[p.position + 1]? = some url := by
    rw [← List.getElem?_concat_length (l := p.history.take (p.position + 1)) (a := url), hlength]
  rw [Page.url, visit, hlast, Option.getD_some]

end Page

namespace State

variable {s : State} {p q : PageId}

theorem page_adjust (s : State) (q p : PageId) (f : Page → Page) (hp : p < s.pages.size) :
    (s.adjust (.page q) f).page p = if q = p then f (s.page p) else s.page p := by
  have hsize : p < (s.pages.modify q f).size := by rwa [Array.size_modify]
  rw [adjust, page, page, Array.getD_eq_getD_getElem?, Array.getD_eq_getD_getElem?,
    Array.getElem?_eq_getElem hsize, Array.getElem?_eq_getElem hp, Array.getElem_modify]
  split <;> rfl

theorem page_adjust_other (s : State) {who : Party} (f : Page → Page) (hp : who ≠ .page p) :
    (s.adjust who f).page p = s.page p := by
  cases who with
  | page q =>
    have hne : q ≠ p := fun h => hp (h ▸ rfl)
    rw [adjust, page, page, Array.getD_eq_getD_getElem?, Array.getD_eq_getD_getElem?,
      Array.getElem?_modify, if_neg hne]
  | _ => rfl

theorem page_lead_other (s : State) {who : Party} (landing : Option String) (hp : who ≠ .page p) :
    (s.lead who landing).page p = s.page p := by
  cases landing with
  | none => rfl
  | some url => exact page_adjust_other s _ hp

theorem url_addPage (s : State) (name : String) (p : PageId) :
    ((s.addPage name Page.blank).1.page p).url = (s.page p).url := by
  rw [addPage, page, page, Array.getD_eq_getD_getElem?, Array.getD_eq_getD_getElem?, Array.getElem?_push]
  split
  · rename_i hp
    rw [hp, Array.getElem?_eq_none (Nat.le_refl _)]
    rfl
  · rfl

/-- A call to somebody else leaves a page where it is, and so does one that moves nothing. -/
theorem url_complete_other (s : State) {who : Party} (landing : Option String) {op : Operation}
    (h : who = .page p → op.isLocal = false ∧ op.looksBack = false) :
    ((s.complete who landing op).1.page p).url = (s.page p).url := by
  have hother : op.isLocal = true ∨ op.looksBack = true → who ≠ .page p := by
    rintro hmoves rfl
    obtain ⟨hlocal, hback⟩ := h rfl
    rw [hlocal, hback] at hmoves
    simp at hmoves
  cases op with
  | newPage => exact url_addPage s _ p
  | goto => exact congrArg Page.url (page_adjust_other s _ (hother (.inl rfl)))
  | back | forward => exact congrArg Page.url (page_adjust_other s _ (hother (.inr rfl)))
  | click | type | waitForEvent => exact congrArg Page.url (page_lead_other s _ (hother (.inl rfl)))
  | screenshot path fullPage =>
    rw [complete]
    split <;> rfl
  | close | on => cases who <;> rfl
  | evaluate script => cases script <;> rfl
  | awaitHalf half => cases half <;> rfl
  | _ => rfl

/-- Where a call leads, from an address. -/
def landsAt (landing : Option String) (here : String) : Operation → String
  | .goto url .. => landing.getD url
  | .click _ | .type .. | .waitForEvent .. => landing.getD here
  | _ => here

/-- All pages are somewhere in their histories. -/
def IsSound (s : State) : Prop := ∀ p < s.pages.size, (s.page p).IsSomewhere

theorem url_adjust_visit (hs : s.IsSound) (hp : p < s.pages.size) (url : String) :
    ((s.adjust (.page p) (·.visit url)).page p).url = url := by
  rw [page_adjust s p p _ hp, if_pos rfl]
  exact Page.url_visit (hs p hp) url

/-- Where a local call leads the page that it goes to. -/
theorem url_complete (hs : s.IsSound) (hp : p < s.pages.size) (landing : Option String) {op : Operation}
    (hop : op.isLocal = true) :
    ((s.complete (.page p) landing op).1.page p).url = landsAt landing (s.page p).url op := by
  have hlead : ((s.lead (.page p) landing).page p).url = landing.getD (s.page p).url := by
    cases landing with
    | none => rfl
    | some url => exact url_adjust_visit hs hp url
  cases op with
  | goto url => exact url_adjust_visit hs hp _
  | click | type | waitForEvent => exact hlead
  | screenshot path fullPage =>
    rw [complete]
    split <;> rfl
  | evaluate script => cases script <;> rfl
  | awaitHalf half => cases half <;> rfl
  | query | read | content | waitForLoadState | waitForSelector | waitForTimeout | waitForFunction
  | expect => rfl
  | _ => cases hop

theorem isSound_adjust (hs : s.IsSound) (who : Party) {f : Page → Page}
    (hf : ∀ q : Page, q.IsSomewhere → (f q).IsSomewhere) : (s.adjust who f).IsSound := by
  cases who with
  | page q =>
    intro p hp
    have hp' : p < s.pages.size := by rwa [adjust, Array.size_modify] at hp
    rw [page_adjust s q p f hp']
    split
    · exact hf _ (hs p hp')
    · exact hs p hp'
  | _ => exact hs

theorem isSound_lead (hs : s.IsSound) (who : Party) (landing : Option String) : (s.lead who landing).IsSound := by
  cases landing with
  | none => exact hs
  | some url => exact isSound_adjust hs who fun _ hq => Page.visit_isSomewhere hq url

theorem isSound_addPage (hs : s.IsSound) (name url : String) : (s.addPage name url).1.IsSound := by
  intro p hp
  rw [addPage, page, Array.getD_eq_getD_getElem?, Array.getElem?_push]
  split
  · exact Nat.zero_lt_one
  · have hlt : p < s.pages.size := by
      rw [addPage, Array.size_push] at hp
      omega
    rw [← Array.getD_eq_getD_getElem?]
    exact hs p hlt

theorem isSound_complete (hs : s.IsSound) (who : Party) (landing : Option String) (op : Operation) :
    (s.complete who landing op).1.IsSound := by
  cases op with
  | newPage => exact isSound_addPage hs _ _
  | goto => exact isSound_adjust hs who fun _ hq => Page.visit_isSomewhere hq _
  | back => exact isSound_adjust hs who fun _ => Page.back_isSomewhere
  | forward => exact isSound_adjust hs who fun _ => Page.forward_isSomewhere
  | click | type | waitForEvent => exact isSound_lead hs who landing
  | screenshot path fullPage =>
    rw [complete]
    split <;> exact hs
  | close | on => cases who <;> exact hs
  | evaluate script => cases script <;> exact hs
  | awaitHalf half => cases half <;> exact hs
  | _ => exact hs

theorem site_complete (s : State) (who : Party) (landing : Option String) (op : Operation) :
    (s.complete who landing op).1.site = s.site := by
  have hlead : (s.lead who landing).site = s.site := by
    cases landing with
    | none => rfl
    | some url => cases who <;> rfl
  cases op with
  | click | type | waitForEvent => exact hlead
  | goto | back | forward | close | on => cases who <;> rfl
  | screenshot path fullPage =>
    rw [complete]
    split <;> rfl
  | evaluate script => cases script <;> rfl
  | awaitHalf half => cases half <;> rfl
  | _ => rfl

theorem site_begin (hs : ∀ r ∈ s.site.rules, r.IsPlain) (now : Nat) (who : Party) (op : Operation) :
    (s.begin now who op).1.site = s.site := by
  cases who with
  | element | document => rfl
  | _ =>
    unfold State.begin
    dsimp only
    split
    · rfl
    · exact congrArg (fun rules => ({ s.site with rules := rules } : Site)) (Rule.consult_plain hs _ _ "" _).1

end State

/-! ### The habits of a site -/

namespace Site

/-- The course that a site with plain rules lays down for calls to pages. -/
def courseOf (s : Site) (here : String) (op : Operation) : Course :=
  if op.onlyNotes then {} else { (Rule.consult op.name "" (op.key? here) s.rules).2 with delay := 0 }

/-- A browser on the site whose one page is at an address. -/
def window (s : Site) (here : String) : State :=
  { site := s, files := ⟨[]⟩, pages := #[{ name := "", history := [here] }] }

/-- What comes of calls on a site with plain rules, as long as files can be written. -/
def habits (s : Site) : Habits where
  course
    | .element _, _ => {}
    | .page here, op => s.courseOf here op
    | .nothing, op => s.courseOf Page.blank op
  ending
    | _, .screenshot .. => .ok ()
    | .element m, op => ((s.window Page.blank).complete (.element ⟨"", m⟩) none op).2
    | .page here, op => ((s.window here).complete (.page 0) none op).2
    | .nothing, op => ((s.window Page.blank).complete (.page 0) none op).2
  leads
    | .page here, op => State.landsAt (s.courseOf here op).landing here op
    | .nothing, op | .element _, op => State.landsAt (s.courseOf Page.blank op).landing Page.blank op

/-- The sites show the same documents by the same rules, but for how long calls take. -/
structure SameButForTime (s s' : Site) : Prop where
  documents : s.documents = s'.documents
  rules : s.rules.map Rule.withoutDelay = s'.rules.map Rule.withoutDelay

namespace SameButForTime

variable {s s' : Site}

theorem courseOf_eq (h : s.SameButForTime s') (here : String) (op : Operation) :
    s.courseOf here op = s'.courseOf here op := by
  rw [courseOf, courseOf, Rule.consult_withoutDelay, Rule.consult_withoutDelay, h.rules]

theorem markupOf_window (h : s.SameButForTime s') (here : String) (who : Party) :
    (s.window here).markupOf who = (s'.window here).markupOf who := by
  have hdocument : s.documentAt = s'.documentAt := by
    funext url
    rw [documentAt, documentAt, h.documents]
  cases who with
  | page p => exact congrFun hdocument _
  | _ => rfl

theorem window_ending (h : s.SameButForTime s') (here : String) (who : Party) {op : Operation}
    (hfile : ∀ path fullPage, op ≠ .screenshot path fullPage) :
    ((s.window here).complete who none op).2 = ((s'.window here).complete who none op).2 := by
  have hmarkup := h.markupOf_window here who
  have hcontent : (s.window here).contentOf who = (s'.window here).contentOf who := by
    funext part
    simp only [State.contentOf, hmarkup]
  cases op with
  | query target =>
    have hfound : (s.window here).found who target = (s'.window here).found who target := by
      rw [State.found, State.found, hmarkup]
      cases who <;> rfl
    rw [State.complete, State.complete, hmarkup, hfound]
  | read target attributeName =>
    rw [State.complete, State.complete]
    dsimp only
    rw [hmarkup]
  | content => exact congrFun hcontent _
  | evaluate script => cases script <;> exact congrFun hcontent _
  | screenshot path fullPage => exact absurd rfl (hfile path fullPage)
  | close | on => cases who <;> rfl
  | awaitHalf half => cases half <;> rfl
  | _ => rfl

theorem habits_eq (h : s.SameButForTime s') : s.habits = s'.habits := by
  have hcourse : s.courseOf = s'.courseOf := funext fun here => funext (h.courseOf_eq here)
  rw [habits, habits, hcourse]
  congr 1
  funext x op
  cases op with
  | screenshot => cases x <;> rfl
  | _ => cases x <;> first | rfl | exact h.window_ending _ _ nofun

end SameButForTime

end Site

namespace State

variable {s s' : State} {who who' : Party}

/-- Two parties of one kind that look the same. -/
inductive LookAlike (s s' : State) : Party → Party → Prop where
  | page {p p'} (h : s.markupOf (.page p) = s'.markupOf (.page p')) : LookAlike s s' (.page p) (.page p')
  | element {e e' : Element} (h : e.markup = e'.markup) : LookAlike s s' (.element e) (.element e')

theorem LookAlike.markupOf (h : LookAlike s s' who who') : s.markupOf who = s'.markupOf who' := by
  cases h with
  | page h => exact h
  | element h => exact h

theorem found_markup (s : State) (who : Party) (target : String) :
    (s.found who target).map (·.markup) = (s.markupOf who).find target := by
  refine List.ext_getElem (by simp [found]) fun n h₁ h₂ => ?_
  simp [found]

theorem unlessBroken_alike {op : Operation} (m : Markup) {a a' : op.Answer} (h : op.Alike a a') :
    op.EndsAlike (unlessBroken m a) (unlessBroken m a') := by
  rw [unlessBroken, unlessBroken]
  split
  · rfl
  · exact h

theorem contentOf_alike (h : LookAlike s s' who who') (part : Markup → Option String) :
    s.contentOf who part = s'.contentOf who' part := by
  have hlooks := h.markupOf
  cases h with
  | page => exact congrArg (fun m => Except.ok (part m)) hlooks
  | element => exact congrArg (fun m => unlessBroken m (part m)) hlooks

theorem endsAlike_of_eq {op : Operation} {a a' : Except CallFault op.Answer} (h : a = a')
    (hop : ∀ b : op.Answer, op.Alike b b) : op.EndsAlike a a' := by
  subst h
  cases a with
  | ok b => exact hop b
  | error f => rfl

/-- How a local call ends depends on what it looks at, and a screenshot on its file besides. -/
theorem complete_alike (h : LookAlike s s' who who') (landing landing' : Option String) {op : Operation}
    (hop : op.isLocal = true) (hfile : ∀ path fullPage, op ≠ .screenshot path fullPage) :
    op.EndsAlike (s.complete who landing op).2 (s'.complete who' landing' op).2 := by
  have hlooks := h.markupOf
  cases op with
  | screenshot path fullPage => exact absurd rfl (hfile path fullPage)
  | query target =>
    rw [complete, complete, hlooks]
    refine unlessBroken_alike _ ?_
    change (s.found who target).map _ = (s'.found who' target).map _
    rw [found_markup, found_markup, hlooks]
  | read target attributeName =>
    rw [complete, complete]
    dsimp only
    rw [hlooks]
    exact unlessBroken_alike _ rfl
  | content => exact endsAlike_of_eq (contentOf_alike h _) fun _ => rfl
  | evaluate script => cases script <;> exact endsAlike_of_eq (contentOf_alike h _) fun _ => rfl
  | awaitHalf half => cases half <;> rfl
  | goto | click | type | waitForEvent | waitForLoadState | waitForSelector | waitForTimeout
  | waitForFunction | expect => rfl
  | _ => cases hop

end State
end BrowserPlan.Browser

/-! ## The world of a run -/

namespace BrowserPlan.Run.World

open BrowserPlan.Task BrowserPlan.Browser

/-- The world shows a site, and no page of it is lost. -/
def Shows (s : Site) (w : World) : Prop := w.browser.site = s ∧ w.browser.IsSound

theorem shows_perform {s : Site} (hs : ∀ r ∈ s.rules, r.IsPlain) (now : Nat) {w : World} (q : Call)
    (h : w.Shows s) : (w.perform now q).1.Shows s := by
  obtain ⟨rfl, hsound⟩ := h
  cases q with
  | «begin» who op =>
    refine ⟨State.site_begin hs now who op, ?_⟩
    change State.IsSound (w.browser.begin now who op).1
    intro p hp
    rw [State.pages_begin] at hp
    rw [State.page, State.pages_begin]
    exact hsound p hp
  | complete who landing op =>
    exact ⟨State.site_complete w.browser who landing op, State.isSound_complete hsound who landing op⟩
  | goAway =>
    change State.site (w.browser.goAway now).1 = _ ∧ State.IsSound (w.browser.goAway now).1
    rw [State.goAway]
    split <;> exact ⟨rfl, hsound⟩
  | openPool limit =>
    rw [perform]
    split <;> exact ⟨rfl, hsound⟩
  | ensureParent path =>
    rw [perform]
    split <;> exact ⟨rfl, hsound⟩
  | writeRecords path data =>
    rw [perform]
    split <;> exact ⟨rfl, hsound⟩
  | _ => exact ⟨rfl, hsound⟩

/-- A call that does not move a page leaves it where it is. -/
theorem url_perform (now : Nat) (w : World) (q : Call) (p : PageId) (h : ¬ Call.Moves p q) :
    ((w.perform now q).1.browser.page p).url = (w.browser.page p).url := by
  cases q with
  | «begin» who op =>
    change (State.page (w.browser.begin now who op).1 p).url = _
    rw [State.page, State.pages_begin]
    rfl
  | complete who landing op =>
    refine State.url_complete_other w.browser landing fun hwho => ?_
    subst hwho
    simpa [Call.Moves] using h
  | goAway =>
    change (State.page (w.browser.goAway now).1 p).url = _
    rw [State.page, State.pages_goAway]
    rfl
  | openPool limit =>
    rw [perform]
    split <;> rfl
  | ensureParent path =>
    rw [perform]
    split <;> rfl
  | writeRecords path data =>
    rw [perform]
    split <;> rfl
  | _ => rfl

variable {s : Site} {w : World} {who : Party} {op : Operation} {x : Sight}

theorem lookAlike_window (h : w.browser.site = s) (p : PageId) : State.LookAlike w.browser
    (s.window (w.browser.page p).url) (.page p) (.page 0) := by
  refine .page ?_
  rw [State.markupOf, h]
  rfl

theorem begins_alike (hs : ∀ r ∈ s.rules, r.IsPlain) (now : Nat) (h : w.browser.site = s)
    (hx : Sight.of? (fun p => (w.browser.page p).url) who op = some x) :
    Course.SameButForTime (w.perform now (.begin who op)).2.1 (s.habits.course x op) := by
  have hpage : ∀ p, Course.SameButForTime (w.browser.begin now (.page p) op).2
      (s.courseOf (w.browser.page p).url op) := by
    intro p
    unfold State.begin Site.courseOf
    dsimp only
    split
    · rfl
    · subst h
      exact congrArg (fun c : Course => { c with delay := 0 }) (Rule.consult_plain hs _ _ _ _).2
  cases Sight.of_of? hx with
  | goto p url waitUntil timeout => exact hpage p
  | page p hop hgoto => exact hpage p
  | element e hop => rfl

theorem completes_alike (now : Nat) (h : w.browser.site = s) (landing : Option String)
    (hx : Sight.of? (fun p => (w.browser.page p).url) who op = some x) :
    op.EndsAlike (w.perform now (.complete who landing op)).2.1 (s.habits.ending x op) ∨
      ∃ fault, (w.perform now (.complete who landing op)).2.1 = .error (.file fault) := by
  by_cases hfile : ∃ path fullPage, op = .screenshot path fullPage
  · obtain ⟨path, fullPage, rfl⟩ := hfile
    change Operation.EndsAlike _ (w.browser.complete who landing (.screenshot path fullPage)).2 _ ∨
      ∃ fault, (w.browser.complete who landing (.screenshot path fullPage)).2 = .error (.file fault)
    rw [State.complete]
    split
    · refine .inl ?_
      cases x <;> rfl
    · exact .inr ⟨_, rfl⟩
  · have hfile : ∀ path fullPage, op ≠ .screenshot path fullPage :=
      fun path fullPage heq => hfile ⟨path, fullPage, heq⟩
    refine .inl ?_
    cases Sight.of_of? hx with
    | goto p url waitUntil timeout => rfl
    | page p hop hgoto =>
      have := State.complete_alike (lookAlike_window h p) landing none hop hfile
      cases op with
      | screenshot path fullPage => exact absurd rfl (hfile path fullPage)
      | _ => exact this
    | element e hop =>
      have hlook : State.LookAlike w.browser (s.window Page.blank) (.element e) (.element ⟨"", e.markup⟩) :=
        .element rfl
      have := State.complete_alike hlook landing none hop hfile
      cases op with
      | screenshot path fullPage => exact absurd rfl (hfile path fullPage)
      | _ => exact this

theorem leads_alike {p : PageId} (now : Nat) (h : w.Shows s) (hp : p < w.pageCount)
    (hx : Sight.of? (fun p => (w.browser.page p).url) (.page p) op = some x) :
    ((w.perform now (.complete (.page p) (s.habits.course x op).landing op)).1.browser.page p).url =
      s.habits.leads x op := by
  obtain ⟨rfl, hsound⟩ := h
  cases Sight.of_of? hx with
  | goto p url waitUntil timeout => exact State.url_complete hsound hp _ (show (Operation.goto url waitUntil timeout).isLocal = true from rfl)
  | page p hop hgoto => exact State.url_complete hsound hp _ hop

/-- The world of a run keeps to the habits of its site, if the rules of the site do not change and are
the same for all pages. -/
def steady (s : Site) (hs : ∀ r ∈ s.rules, r.IsPlain) : Steady venue s.habits where
  holds := Shows s
  place w p := (w.browser.page p).url
  holds_on now _ q h := shows_perform hs now q h
  holds_forsaken w σ h := by cases σ <;> exact h
  placed _ _ _ := rfl
  stays now w q p _ hq := url_perform now w q p hq
  stays_forsaken w σ p := by cases σ <;> rfl
  begins now _ _ _ _ h hx := begins_alike hs now h.1 hx
  completes now _ _ _ _ h _ hx := completes_alike now h.1 _ hx
  leads now _ _ _ _ h hp hx := leads_alike now h hp hx

end BrowserPlan.Run.World
