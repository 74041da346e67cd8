import BrowserPlan.Proofs.Run.Kin

/-!
# Who calls which page

The log of a history lists the calls that its tasks have begun on pages and on what was found on them.
A call counts for a page if it goes to the page or to something its caller has found there. Each task
calls one page only, which is told by where it stands (`InOrder.isOn_iff`), so the calls on a page are
the calls of the tasks that are on it (`InOrder.callsOn_eq`).
-/
namespace BrowserPlan.Run

open BrowserPlan.Task BrowserPlan.Browser

/-! ## The log -/

/-- A call to a page or to what was found on one. -/
structure Called where
  caller : TaskId
  party : Party
  operation : Operation

/-- The call that an event begins. -/
def Event.called? : Event scene → Option Called
  | .act t (.ask (.begin (.page p) op) _) => some ⟨t, .page p, op⟩
  | .act t (.ask (.begin (.element e) op) _) => some ⟨t, .element e, op⟩
  | _ => none

/-- The calls that were begun, in their order. -/
def callsOf (h : List (Event scene)) : List Called := h.filterMap Event.called?

/-- The task `t` has found an element on the page `p`, by asking the page or what it had found
there. -/
inductive Found (h : List (Event scene)) (t : TaskId) (p : PageId) : Element → Prop where
  | there {landing target es e}
    (hq : .act t (.ask (.complete (.page p) landing (.query target)) (.ok es)) ∈ h) (he : e ∈ es) :
    Found h t p e
  | within {outer landing target es e} (ho : Found h t p outer)
    (hq : .act t (.ask (.complete (.element outer) landing (.query target)) (.ok es)) ∈ h)
    (he : e ∈ es) : Found h t p e

open Classical in
/-- The calls on a page. -/
noncomputable def callsOn (h : List (Event scene)) (p : PageId) : List Called :=
  (callsOf h).filter fun x => IsOn (Found h x.caller) p x.party

theorem coverAll_found (h : List (Event scene)) : Findings.CoverAll (Found h) h := by
  intro t d hd
  cases d with
  | ask q a =>
    cases q with
    | complete who landing op =>
      cases op with
      | query target =>
        cases a with
        | ok es =>
          intro p hp e he
          cases hp with
          | page => exact .there hd he
          | element ho => exact .within ho hd he
        | error => trivial
      | _ => trivial
    | _ => trivial
  | _ => trivial

/-! ## The page of a task -/

/-- The page that a task calls, as far as it has one. -/
def Stage.page? : Stage → Option PageId
  | fresh | drawn _ | due _ | dropping _ | making => none
  | made p | lent p | helping p => some p
  | working w => some w.page
  | through past | noted past => past.page?

/-- A call by the rules: a time limit is set on a new page, a branch goes to its link, or work goes
on. -/
inductive Calls (F : Findings) (job : Job) : Stage → Party → Operation → Stage → Prop where
  | limit {p op} (hop : IsLimit op) : Calls F job (.made p) (.page p) op (.made p)
  | enter {link index steps} (p) (h : job = .branch link index steps) :
    Calls F job (.lent p) (.page p) (.goto link none none)
      (.working { page := p, leads := false, remaining := Step.walkAll steps })
  | quiet {w who op} (hw : IsOn F w.page who) : Calls F job (.working w) who op (.working w)
  | help {p who op} (hw : IsOn F p who) : Calls F job (.helping p) who op (.helping p)

section
variable {F : Findings} {job : Job} {s s' : Stage} {d : Deed scene} {who : Party} {op : Operation}
  {p : PageId}

/-- Which page a task calls is settled once. -/
theorem Next.page (h : Next F job s d s') (hp : s.page? = some p) : s'.page? = some p := by
  cases h with
  | deal h =>
    cases h with
    | created | notCreated | release => exact hp
    | _ => cases hp
  | opened => cases hp
  | share h => exact (congrArg some h.page).trans hp
  | _ => exact hp

/-- A call in the course of work. -/
theorem IsQuiet.isOn (h : IsQuiet F p d) (hc : IsCall who op d) : IsOn F p who := by
  cases h with
  | call hw hop h => cases h <;> cases hc <;> exact hw
  | aside h | pause h => cases h <;> cases hc
  | _ => cases hc

/-- Calls go to the page of who makes them. -/
theorem Next.isOn (h : Next F job s d s') (hc : IsCall who op d) :
    who = .context ∨ ∃ p, s'.page? = some p ∧ IsOn F p who := by
  cases h with
  | quiet h | help h => exact .inr ⟨_, rfl, h.isOn hc⟩
  | limit hop h => cases h <;> cases hc <;> exact .inr ⟨_, rfl, .page⟩
  | enter => cases hc; exact .inr ⟨_, rfl, .page⟩
  | opening | notOpened | opened | failed => cases hc; exact .inl rfl
  | aside h | deal h | make h | prepare h | share h => cases h <;> cases hc
  | _ => cases hc

theorem Along.isOn {ds : List (Deed scene)} (h : Along (Next F job) s ds s') (hd : d ∈ ds)
    (hc : IsCall who op d) : who = .context ∨ ∃ p, s'.page? = some p ∧ IsOn F p who := by
  induction h with
  | nil => cases hd
  | snoc h hnext ih =>
    rcases List.mem_append.1 hd with hd | hd
    · exact (ih hd).imp_right fun ⟨p, hp, hon⟩ => ⟨p, hnext.page hp, hon⟩
    · cases List.mem_singleton.1 hd
      exact hnext.isOn hc

theorem Along.suits {ds : List (Deed scene)} (h : Along (Next F job) s ds s') (hs : job.Suits s) :
    job.Suits s' := by
  induction h with
  | nil => exact hs
  | snoc h hnext ih => exact hnext.suits ih

theorem Job.Suits.not_leads {w : Work} (hs : job.Suits (.working w)) (hjob : job.IsBranch) :
    w.leads = false := by
  cases job with
  | branch => exact hs.1 w rfl
  | _ => exact hjob.elim

theorem Along.helps {ds : List (Deed scene)} {job' : Job} {u : TaskId}
    (h : Along (Next F job) (.first job) ds s') (hjob : job.IsBranch) (hd : .start job' u ∈ ds) :
    ∃ p, IsHelp p job' ∧ s'.page? = some p := by
  induction h with
  | nil => cases hd
  | snoc h hnext ih =>
    rcases List.mem_append.1 hd with hd | hd
    · obtain ⟨p, hhelp, hp⟩ := ih hd
      exact ⟨p, hhelp, hnext.page hp⟩
    · cases List.mem_singleton.1 hd
      obtain ⟨w, w', rfl, rfl, hshares⟩ := hnext.shares trivial
      cases hshares with
      | engage u hs hhelp => exact ⟨w.page, hhelp, rfl⟩
      | dispatch u hl =>
        have hsuits : job.Suits (.working w) := Along.suits h job.suits_first
        rw [hsuits.not_leads hjob] at hl
        cases hl

/-- Calls to pages and elements. -/
theorem Next.calls {a : Course} (h : Next F job s (.ask (.begin who op) a) s') :
    who = .context ∨ Calls F job s who op s' := by
  cases h with
  | aside h | deal h | make h | prepare h | share h => cases h
  | opening => exact .inl rfl
  | limit hop h => cases h; exact .inr (.limit hop)
  | enter p a h => exact .inr (.enter p h)
  | quiet h => exact .inr (.quiet (h.isOn (.begin a)))
  | help h => exact .inr (.help (h.isOn (.begin a)))

end

/-! ## The calls of a history -/

section
variable {h : List (Event scene)} {t u : TaskId} {e : Event scene} {x : Called} {d : Deed scene}

theorem callsOf_snoc (h : List (Event scene)) (e : Event scene) :
    callsOf (h ++ [e]) = callsOf h ++ (Event.called? e).toList := by
  rw [callsOf, List.filterMap_append, ← callsOf]
  cases he : Event.called? e <;> simp [he]

theorem called?_eq_some (hx : Event.called? e = some x) :
    (∃ a, e = .act x.caller (.ask (.begin x.party x.operation) a)) ∧ x.party ≠ .context := by
  unfold Event.called? at hx
  split at hx <;> cases hx <;> exact ⟨⟨_, rfl⟩, nofun⟩

theorem begun_of_mem (hx : x ∈ callsOf h) :
    (∃ a, .act x.caller (.ask (.begin x.party x.operation) a) ∈ h) ∧ x.party ≠ .context := by
  obtain ⟨e, he, hx⟩ := List.mem_filterMap.1 hx
  obtain ⟨⟨a, rfl⟩, hne⟩ := called?_eq_some hx
  exact ⟨⟨a, he⟩, hne⟩

end

section
variable {W : Type} {m : Machine scene W} {V : Venue m} {b : Brief} {F : TaskId → Findings}
  {h : List (Event scene)} {c c' : Crew scene W} {g g' : Stages} {e : Event scene} {t u : TaskId}
  {x : Called} {p : PageId} {w₀ : W}

/-- Calls to pages go to the page of who makes them. -/
theorem InOrder.isOn (ho : InOrder b V F h c g) {d : Deed scene} {who : Party} {op : Operation}
    (hd : .act t d ∈ h) (hc : IsCall who op d) (hwho : who ≠ .context) :
    ∃ p, (g t).page? = some p ∧ IsOn (F t) p who := by
  obtain ⟨y, hy⟩ := ho.member_of_deed hd
  exact (Along.isOn (ho.fits t y hy).along (mem_deedsOf.2 hd) hc).resolve_left hwho

theorem InOrder.called (ho : InOrder b V F h c g) (hx : x ∈ callsOf h) :
    ∃ p, (g x.caller).page? = some p ∧ IsOn (F x.caller) p x.party := by
  obtain ⟨⟨a, hd⟩, hne⟩ := begun_of_mem hx
  exact ho.isOn hd (.begin a) hne

/-- What a task has found is on its page. -/
theorem InOrder.found (ho : InOrder b V (Found h) h c g) {el : Element} (hf : Found h t p el) :
    (g t).page? = some p := by
  induction hf with
  | there hq he =>
    obtain ⟨q, hq, hon⟩ := ho.isOn hq (.complete _ _) nofun
    cases hon
    exact hq
  | within hfound hq he ih => exact ih

/-- A call is on the page of its caller. -/
theorem InOrder.isOn_iff (ho : InOrder b V (Found h) h c g) (hx : x ∈ callsOf h) :
    IsOn (Found h x.caller) p x.party ↔ (g x.caller).page? = some p := by
  obtain ⟨q, hq, hon⟩ := ho.called hx
  constructor
  · intro hp
    generalize x.party = who at hp hon
    cases hp with
    | page => cases hon; exact hq
    | element hf => exact ho.found hf
  · intro hp
    rw [hq] at hp
    cases hp
    exact hon

/-- The calls of tasks that are on a page. -/
def callsAt (h : List (Event scene)) (g : Stages) (p : PageId) : List Called :=
  (callsOf h).filter fun x => (g x.caller).page? = some p

theorem InOrder.callsOn_eq (ho : InOrder b V (Found h) h c g) : callsOn h p = callsAt h g p := by
  classical
  refine List.filter_congr fun x hx => ?_
  simp only [decide_eq_decide]
  exact ho.isOn_iff hx

/-- Who has a page keeps it. -/
theorem Moves.page (hg : Moves F c g e g') (hs : Crew.Step m IsOutside c e c')
    (ht : t < c.members.length) (hp : (g t).page? = some p) : (g' t).page? = some p := by
  rcases hg.stage hs t with ⟨heq, -⟩ | ⟨x, d, -, -, hnext⟩ | ⟨u, job, -, hlen, -⟩
  · rw [heq, hp]
  · exact hnext.page hp
  · exact absurd ht (hlen ▸ Nat.lt_irrefl _)

theorem callsAt_snoc (ho : InOrder b V F h c g) (hs : Crew.Step m IsOutside c e c')
    (hg : Moves F c g e g') : callsAt (h ++ [e]) g' p =
      callsAt h g p ++ (Event.called? e).toList.filter fun x => (g' x.caller).page? = some p := by
  rw [callsAt, callsOf_snoc, List.filter_append, callsAt]
  congr 1
  refine List.filter_congr fun x hx => ?_
  obtain ⟨⟨a, hd⟩, -⟩ := begun_of_mem hx
  obtain ⟨y, hy⟩ := ho.member_of_deed hd
  obtain ⟨q, hq, -⟩ := ho.called hx
  rw [hq, hg.page hs (Crew.lt_of_member hy) hq]

end

end BrowserPlan.Run
