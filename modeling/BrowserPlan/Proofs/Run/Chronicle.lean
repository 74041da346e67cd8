import BrowserPlan.Proofs.Run.Endings
import BrowserPlan.Proofs.Run.Sole
import BrowserPlan.Proofs.Task.Faults

/-!
# The chronicle of a run

What the history of a run tells: which tasks were started to close its session later (`closers`), when
the time for that has come (`Deferral.IsDue`), and how its pool was closed (`WasShut`). `Chronicle` ties
the history to a tally, event by event.
-/
namespace BrowserPlan.Run

open BrowserPlan.Task BrowserPlan.Browser

variable {W : Type} {m : Machine scene W} {P : Premises m} {plan : Plan} {engine : String} {w : W}
  {job : Job} {h h' : List (Event scene)} {c c' c₀ : Crew scene W} {t t' : Tally} {e : Event scene}
  {d : Deed scene} {a u : TaskId} {pages : List PageId}

/-! ## Closing later -/

/-- The task that is started in an event to close the session later, and when it is to do so. -/
def Event.closer? : Event scene → Option (Deferral × TaskId)
  | .act _ (.start (.close d) u) => some (d, u)
  | _ => none

/-- The tasks that were started to close the session later. -/
def closers (h : List (Event scene)) : List (Deferral × TaskId) := h.filterMap Event.closer?

theorem closers_snoc (h : List (Event scene)) (e : Event scene) :
    closers (h ++ [e]) = closers h ++ (Event.closer? e).toList := by
  rw [closers, closers, List.filterMap_append]
  cases hc : Event.closer? e <;> simp [hc]

theorem closers_idle (hstart : ∀ v job u, e ≠ .act v (.start job u)) : closers (h ++ [e]) = closers h := by
  have hnone : Event.closer? e = none := by
    cases e with
    | act v d =>
      cases d with
      | start job u => exact absurd rfl (hstart v job u)
      | _ => rfl
    | _ => rfl
  rw [closers_snoc, hnone]
  exact List.append_nil _

/-- In the event the browser goes away. -/
inductive Event.IsDeparture : Event scene → Prop
  | happen : IsDeparture (.happen .goAway)
  | act (v a) : IsDeparture (.act v (.ask .goAway a))

/-- Who is told that the browser has gone is told so when it has. -/
theorem gone_of_given (P : Premises m) (hr : Crew.Reaches m IsOutside (Crew.single m w job) h c) {l : Nat}
    {r : Outcome Fault Unit} (hin : (Signal.gone l, r) ∈ c.given) :
    r = .ok () ∧ ∃ e ∈ h, Event.IsDeparture e := by
  induction hr with
  | refl => cases hin
  | @step h c e c' hd he ih =>
    have hold : (Signal.gone l, r) ∈ c.given → r = .ok () ∧ ∃ e' ∈ h ++ [e], Event.IsDeparture e' := by
      intro hin
      obtain ⟨hr, e', he', hgone⟩ := ih hin
      exact ⟨hr, e', List.mem_append_left _ he', hgone⟩
    have hnew : ∀ {now q}, (Signal.gone l, r) ∈ (m.perform now c.world q).2.2 →
        (q = .goAway → Event.IsDeparture e) → r = .ok () ∧ ∃ e' ∈ h ++ [e], Event.IsDeparture e' := by
      intro now q hin hgone
      obtain ⟨hq, hr⟩ := P.gone now c.world q l r hin
      exact ⟨hr, e, List.mem_append_right _ (List.mem_singleton_self _), hgone hq⟩
    cases he with
    | act hx _ _ ha =>
      cases ha with
      | @ask q a now _ =>
        refine (List.mem_append.1 hin).elim hold fun hin => hnew hin ?_
        rintro rfl
        exact .act _ a
      | breakOff on => cases on <;> exact hold hin
      | _ => exact hold hin
    | happen now q _ =>
      refine (List.mem_append.1 hin).elim hold fun hin => hnew hin ?_
      rintro rfl
      exact .happen
    | _ => exact hold hin

/-- In the history `h` the time of a deferral has come for the task `u`: it has learned that the browser
has gone, or the milliseconds have passed, unless they are more than any clock can tell. -/
inductive Deferral.IsDue (h : List (Event scene)) (u : TaskId) : Deferral → Prop
  | gone {b} (ha : .act u (.ask (.isConnected b) false) ∈ h) : IsDue h u .whenGone
  | told {l e} (ht : .act u (.wake (.signal (.gone l)) (.ok ())) ∈ h) (he : e ∈ h)
    (hgone : Event.IsDeparture e) : IsDue h u .whenGone
  | elapsed {n} (ht : .act u (.wake (.timer (n * 1000).toNat) (.ok ())) ∈ h) : IsDue h u (.after (.int n))
  | beyond {n} (hn : clockLimit ≤ n) : IsDue h u (.after (.int n))

theorem given_of_wake (hr : Crew.Reaches m IsOutside (Crew.single m w job) h c) {l : Nat}
    (hin : .act u (.wake (.signal (.gone l)) (.ok ())) ∈ h) : (Signal.gone l, .ok ()) ∈ c.given := by
  induction hr with
  | refl => cases hin
  | step hd he ih =>
    rcases List.mem_append.1 hin with hin | hin
    · rcases he.given with heq | ⟨now, q, heq⟩ <;> rw [heq]
      · exact ih hin
      · exact List.mem_append_left _ (ih hin)
    · cases List.mem_singleton.1 hin
      cases he with
      | act _ _ _ ha =>
        cases ha with
        | wait ho =>
          cases ho with
          | signal hin => exact hin
        | late _ ho hd => cases ho <;> cases hd

theorem Deferral.HasCome.isDue {d : Deferral} (P : Premises m)
    (hr : Crew.Reaches m IsOutside (Crew.single m w job) h c) (hd : d.HasCome (deedsOf h u)) :
    d.IsDue h u := by
  cases hd with
  | gone hin => exact .gone (mem_deedsOf.1 hin)
  | told hin =>
    have hwake := mem_deedsOf.1 hin
    obtain ⟨-, e, he, hgone⟩ := gone_of_given P hr (given_of_wake hr hwake)
    exact .told hwake he hgone
  | elapsed hin => exact .elapsed (mem_deedsOf.1 hin)
  | beyond hlimit => exact .beyond hlimit

/-! ## Closing the pool -/

/-- Nobody has opened a pool. -/
def NeverPooled (h : List (Event scene)) : Prop := ∀ v limit, .act v (.ask (.openPool limit) none) ∉ h

/-- On the way from `c₀` to `c` the first task closed the pool, in which were `pages`, and no other task
was going on any more. -/
def WasShut (P : Premises m) (c₀ : Crew scene W) (h : List (Event scene)) (c : Crew scene W)
    (pages : List PageId) : Prop :=
  ∃ h₁ h₂ c₁, h = h₁ ++ .act 0 (.ask (.pool .shut) pages) :: h₂ ∧ Crew.Reaches m IsOutside c₀ h₁ c₁ ∧
    Crew.Reaches m IsOutside c₁ (.act 0 (.ask (.pool .shut) pages) :: h₂) c ∧
    pages = pagesOf (P.pool c₁.world) ∧
    ∀ (v : TaskId) (y : Member scene), v ≠ 0 → c₁.members[v]? = some y → y.result.isSome = true

theorem WasShut.snoc (hs : WasShut P c₀ h c pages) (he : Crew.Step m IsOutside c e c') :
    WasShut P c₀ (h ++ [e]) c' pages := by
  obtain ⟨h₁, h₂, c₁, rfl, hr, hr', hpages, hothers⟩ := hs
  exact ⟨h₁, h₂ ++ [e], c₁, List.append_assoc .., hr, hr'.step he, hpages, hothers⟩

theorem WasShut.now (hr : Crew.Reaches m IsOutside c₀ h c)
    (he : Crew.Step m IsOutside c (.act 0 (.ask (.pool .shut) pages)) c')
    (hpages : pages = pagesOf (P.pool c.world))
    (hothers : ∀ (v : TaskId) (y : Member scene), v ≠ 0 → c.members[v]? = some y → y.result.isSome = true) :
    WasShut P c₀ (h ++ [.act 0 (.ask (.pool .shut) pages)]) c' pages :=
  ⟨h, [], c, rfl, hr, .step .refl he, hpages, hothers⟩

namespace Tally

theorem hasPool_after (hp : (t.after d).hasPool = false) :
    t.hasPool = false ∧ ∀ limit, d ≠ .ask (.openPool limit) none := by
  cases d with
  | ask q x =>
    cases q with
    | openPool limit =>
      cases x with
      | none => cases hp
      | some fault => exact ⟨hp, nofun⟩
    | pool q => cases q <;> exact ⟨hp, nofun⟩
    | _ => exact ⟨hp, nofun⟩
  | _ => exact ⟨hp, nofun⟩

theorem shut_after (hs : (t.after d).shut = some pages) :
    t.shut = some pages ∨ d = .ask (.pool .shut) pages := by
  cases d with
  | ask q x =>
    cases q with
    | openPool limit => cases x <;> exact .inl hs
    | pool q =>
      cases q with
      | shut =>
        obtain rfl : x = pages := Option.some.inj hs
        exact .inr rfl
      | _ => exact .inl hs
    | _ => exact .inl hs
  | _ => exact .inl hs

end Tally

/-- What the history tells of the pool agrees with the tally. -/
structure Shelved (P : Premises m) (c₀ : Crew scene W) (h : List (Event scene)) (c : Crew scene W)
    (t : Tally) : Prop where
  never : t.hasPool = false → NeverPooled h
  shut : ∀ pages, t.shut = some pages → WasShut P c₀ h c pages

theorem NeverPooled.snoc (hn : NeverPooled h) (he : ∀ v limit, e ≠ .act v (.ask (.openPool limit) none)) :
    NeverPooled (h ++ [e]) := by
  intro v limit hin
  rcases List.mem_append.1 hin with hin | hin
  · exact hn v limit hin
  · exact he v limit (List.mem_singleton.1 hin).symm

theorem Shelved.idle (hs : Shelved P c₀ h c t) (he : Crew.Step m IsOutside c e c')
    (hidle : Event.IsIdle a e) : Shelved P c₀ (h ++ [e]) c' t where
  never hp := by
    refine (hs.never hp).snoc ?_
    rintro v limit rfl
    obtain ⟨-, q, x, heq, hq⟩ := hidle v _ rfl
    cases heq
    cases hq
  shut pages hp := (hs.shut pages hp).snoc he

/-- The first task takes a step when all others have ended. -/
theorem Shelved.act (hs : Shelved P c₀ h c t) (hr : Crew.Reaches m IsOutside c₀ h c)
    (he : Crew.Step m IsOutside c (.act 0 d) c') (hd : t.Agrees d) (hpool : P.pool c.world = t.pool)
    (hothers : ∀ (v : TaskId) (y : Member scene), v ≠ 0 → c.members[v]? = some y → y.result.isSome = true) :
    Shelved P c₀ (h ++ [.act 0 d]) c' (t.after d) where
  never hp := by
    obtain ⟨hp, hopen⟩ := Tally.hasPool_after hp
    refine (hs.never hp).snoc fun v limit heq => ?_
    cases heq
    exact hopen limit rfl
  shut pages hp := by
    rcases Tally.shut_after hp with hp | rfl
    · exact (hs.shut pages hp).snoc he
    · refine .now hr he ?_ hothers
      rw [hpool]
      exact hd

/-! ## The tally and the history -/

/-- The history `h` of a run, which has led to `c`, agrees with the tally `t`. -/
structure Chronicle (m : Machine scene W) (plan : Plan) (engine : String) (w : W)
    (h : List (Event scene)) (c : Crew scene W) (t : Tally) : Prop where
  reaches : Crew.Reaches m IsOutside (Crew.single m w (.automation plan engine)) h c
  ended : ∀ (x : Member scene), c.members[0]? = some x → ∀ r, x.result = some r → x.rest = .done r
  calm : ∀ d ∈ deedsOf h 0, Deed.IsCalm d
  closed : closings h = t.closed
  opened : openings h = t.opened

namespace Chronicle

theorem exists_chief (hc : Chronicle m plan engine w h c t) :
    ∃ x, c.members[0]? = some x ∧ x.job = .automation plan engine := by
  obtain ⟨x, hx, hjob⟩ := hc.reaches.job (t := 0) rfl
  exact ⟨x, hx, hjob⟩

/-- An event is added to the history and to the tally. -/
theorem step (hc : Chronicle m plan engine w h c t) (he : Crew.Step m IsOutside c e c')
    (huntold : ∀ (x : Member scene), c.members[0]? = some x → x.result = none → x.isTold = false)
    (hcalm : ∀ d, e = .act 0 d → Deed.IsCalm d)
    (hclosed : t'.closed = t.closed ++ (Event.closing? e).toList)
    (hopened : t'.opened = t.opened ++ (Event.opened? e).toList) :
    Chronicle m plan engine w (h ++ [e]) c' t' where
  reaches := hc.reaches.step he
  ended y hy r hr := by
    rcases he.member hy with ⟨x, hx, hcont⟩ | ⟨_, _, -, -, rfl⟩
    · cases hcont.becomes with
      | same _ hrest _ hresult => exact hrest ▸ hc.ended x hx r (hresult ▸ hr)
      | acts d _ _ _ _ hresult => cases hresult.symm.trans hr
      | ends r' _ hgoes hrest _ hresult hdone =>
        cases hresult.symm.trans hr
        rcases hdone with hdone | ⟨-, -, htold, -⟩
        · exact hrest ▸ hdone
        · cases (huntold x hx hgoes).symm.trans htold
      | balks _ hgoes _ htold => cases (huntold x hx hgoes).symm.trans htold
    · cases hr
  calm d hd := by
    by_cases hact : ∃ d', e = .act 0 d'
    · obtain ⟨d', rfl⟩ := hact
      rw [deedsOf_act] at hd
      rcases List.mem_append.1 hd with hd | hd
      · exact hc.calm d hd
      · exact List.mem_singleton.1 hd ▸ hcalm d' rfl
    · rw [deedsOf_idle fun d' heq => hact ⟨d', heq⟩] at hd
      exact hc.calm d hd
  closed := by rw [closings_snoc, hclosed, hc.closed]
  opened := by rw [openings_snoc, hopened, hc.opened]

/-- In an ordinary event the tally stays as it is. -/
theorem idle (hc : Chronicle m plan engine w h c t) (he : Crew.Step m IsOutside c e c')
    (huntold : ∀ (x : Member scene), c.members[0]? = some x → x.result = none → x.isTold = false)
    (hcalm : ∀ d, e = .act 0 d → Deed.IsCalm d) (hord : Event.IsOrdinary e) :
    Chronicle m plan engine w (h ++ [e]) c' t := by
  refine hc.step he huntold hcalm ?_ ?_
  · rw [hord.closing?]
    exact (List.append_nil _).symm
  · rw [hord.opened?]
    exact (List.append_nil _).symm

theorem act (hc : Chronicle m plan engine w h c t) (he : Crew.Step m IsOutside c (.act a d) c')
    (huntold : ∀ (x : Member scene), c.members[0]? = some x → x.result = none → x.isTold = false)
    (hcalm : a = 0 → Deed.IsCalm d) : Chronicle m plan engine w (h ++ [.act a d]) c' (t.after d) := by
  refine hc.step he huntold ?_ (t.closed_after d) (t.opened_after d)
  rintro d' ⟨⟩
  exact hcalm rfl

end Chronicle
end BrowserPlan.Run
