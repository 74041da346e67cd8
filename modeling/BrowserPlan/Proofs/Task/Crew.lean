import BrowserPlan.Task.Loop

/-!
# Tasks in any order

A crew is a number of tasks and the world they share. Unlike a task loop it has no queue and no
clock: at any time any member may take the next step of its program that the world lets it take,
and what others do comes between any two steps. So the histories of a crew are all the orders in
which tasks can be carried out.

A pause for a time may end at any time, and a signal that was given is remembered. Who is told to
give up may learn of it in any wait from then on, or when it ends; nobody has to.
-/
namespace BrowserPlan.Task

variable {I : Interface} {W α : Type}

/-- One step of a program, with what it meets. -/
inductive Deed (I : Interface) where
  | ask (q : I.Call) (answer : I.Answer q)
  | wake (on : Pause I.Signal) (r : Outcome I.Fault Unit)
  | start (job : I.Job) (t : TaskId)
  | stop (t : TaskId)
  | learn (t : TaskId) (r : Outcome I.Fault I.Result)
  | meet (ts : List TaskId) (patient : Bool) (r : Outcome I.Fault Unit)

/-- The same step, taken by who learns in it that it is to give up. -/
def Deed.cancelled : Deed I → Deed I
  | wake on _ => wake on (.error .cancelled)
  | learn t _ => learn t (.error .cancelled)
  | meet ts patient _ => meet ts patient (.error .cancelled)
  | d => d

namespace Program

/-- `p.Does d q`: the program `p` takes the step `d` and goes on as `q`. -/
inductive Does : Program I α → Deed I → Program I α → Prop where
  | ask (q next a) : Does (.call q next) (.ask q a) (next a)
  | wake (on next r) : Does (.pause on next) (.wake on r) (next r)
  | start (job next t) : Does (.fork job next) (.start job t) (next t)
  | stop (t next) : Does (.cancel t next) (.stop t) next
  | learn (t next r) : Does (.await t next) (.learn t r) (next r)
  | meet (ts patient next r) : Does (.gather ts patient next) (.meet ts patient r) (next r)

/-- The program waits for the end of a task. -/
inductive WaitsFor (t : TaskId) : Program I α → Prop where
  | await (next) : WaitsFor t (.await t next)
  | gather {ts} (patient next) (h : t ∈ ts) : WaitsFor t (.gather ts patient next)

end Program

/-- A member of a crew. -/
structure Member (I : Interface) where
  job : I.Job
  /-- What is left of its program. -/
  rest : Program I I.Result
  hasBegun : Bool := false
  /-- Told to give up at some time. -/
  isTold : Bool := false
  /-- How it has ended, none while it goes on. -/
  result : Option (Outcome I.Fault I.Result) := none

/-- A crew. Members are numbered in the order in which they were started. -/
structure Crew (I : Interface) (W : Type) where
  world : W
  /-- The signals that were given, and how. -/
  given : List (I.Signal × Outcome I.Fault Unit) := []
  members : List (Member I) := []

/-- What can happen in a crew. -/
inductive Event (I : Interface) where
  /-- A member takes a step. -/
  | act (t : TaskId) (d : Deed I)
  | finish (t : TaskId) (r : Outcome I.Fault I.Result)
  /-- A member that was told to give up does not even begin. -/
  | balk (t : TaskId)
  /-- Somebody outside tells a member to give up. -/
  | tell (t : TaskId)
  /-- A member that was told to give up tells one of those it waits for. -/
  | pass (t u : TaskId)
  /-- Something happens in the world, outside any member. -/
  | happen (q : I.Call)

namespace Crew

/-! ## Single changes -/

/-- How a member has ended. -/
def result? (c : Crew I W) (t : TaskId) : Option (Outcome I.Fault I.Result) :=
  (c.members[t]?).bind (·.result)

/-- Changes a member. -/
def alter (c : Crew I W) (t : TaskId) (f : Member I → Member I) : Crew I W :=
  { c with members := c.members.modify t f }

/-- Tells a member to give up. -/
def tell (c : Crew I W) (t : TaskId) : Crew I W := c.alter t fun x => { x with isTold := true }

/-- Ends a member. -/
def finish (c : Crew I W) (t : TaskId) (r : Outcome I.Fault I.Result) : Crew I W :=
  c.alter t fun x => { x with result := some r }

/-- Lets a member go on as `p`. -/
def goOn (c : Crew I W) (t : TaskId) (p : Program I I.Result) : Crew I W :=
  c.alter t fun x => { x with rest := p, hasBegun := true }

/-- Starts a member. -/
def start (m : Machine I W) (c : Crew I W) (job : I.Job) : Crew I W :=
  { c with members := c.members ++ [{ job := job, rest := m.program job }] }

/-- Asks the world. -/
def perform (m : Machine I W) (now : Nat) (c : Crew I W) (q : I.Call) : Crew I W :=
  { c with world := (m.perform now c.world q).1, given := c.given ++ (m.perform now c.world q).2.2 }

/-- Nobody waits any more for what a pause was for. -/
def forsake (m : Machine I W) (c : Crew I W) : Pause I.Signal → Crew I W
  | .signal s => { c with world := m.forsake c.world s }
  | .timer _ | .forever => c

/-! ## Steps -/

/-- The wait that `d` is about can end as `d` says. -/
inductive Offers (c : Crew I W) : Deed I → Prop where
  | timer (micros) : Offers c (.wake (.timer micros) (.ok ()))
  | signal {s r} (h : (s, r) ∈ c.given) : Offers c (.wake (.signal s) r)
  | learn {t r} (h : c.result? t = some r) : Offers c (.learn t r)
  | all {ts} (h : ∀ t ∈ ts, (c.result? t).isSome) : Offers c (.meet ts true (.ok ()))
  | good {ts} (h : ∀ t ∈ ts, ∃ a, c.result? t = some (.ok a)) : Offers c (.meet ts false (.ok ()))
  | bad {ts t s} (ht : t ∈ ts) (h : c.result? t = some (.error s)) :
    Offers c (.meet ts false (.error s))

/-- `Allows m c isTold d c'`: a member can take the step `d`, which makes `c'` of the crew apart from
what is left of the member's program; `isTold` says whether the member was told to give up. -/
inductive Allows (m : Machine I W) (c : Crew I W) (isTold : Bool) : Deed I → Crew I W → Prop where
  | ask {q a} (now) (ha : a = (m.perform now c.world q).2.1) :
    Allows m c isTold (.ask q a) (c.perform m now q)
  | start {t} (job) (ht : t = c.members.length) : Allows m c isTold (.start job t) (c.start m job)
  | stop (t : TaskId) : Allows m c isTold (.stop t) (c.tell t)
  | wait {d} (h : c.Offers d) : Allows m c isTold d c
  /-- The pause is broken off. -/
  | breakOff (on) (h : isTold = true) :
    Allows m c isTold (.wake on (.error .cancelled)) (c.forsake m on)
  /-- The wait was over when the member learned that it is to give up. -/
  | late {d e} (h : isTold = true) (he : c.Offers e) (hd : d = e.cancelled) :
    Allows m c isTold d c

/-- What can happen next, and what comes of it. Of the calls, those that are `outside` can be made
by nobody. -/
inductive Step (m : Machine I W) (outside : I.Call → Prop) (c : Crew I W) :
    Event I → Crew I W → Prop where
  | act {t x d p c'} (hx : c.members[t]? = some x) (hr : x.result = none) (hd : x.rest.Does d p)
    (ha : Allows m c x.isTold d c') : Step m outside c (.act t d) (c'.goOn t p)
  | finish {t x r} (hx : c.members[t]? = some x) (hr : x.result = none) (hd : x.rest = .done r) :
    Step m outside c (.finish t r) (c.finish t r)
  /-- Who was told to give up has given up after all. -/
  | giveUp {t x a} (hx : c.members[t]? = some x) (hr : x.result = none)
    (hd : x.rest = .done (.ok a)) (ht : x.isTold = true) :
    Step m outside c (.finish t (.error .cancelled)) (c.finish t (.error .cancelled))
  | balk {t x} (hx : c.members[t]? = some x) (hr : x.result = none) (hb : x.hasBegun = false)
    (ht : x.isTold = true) : Step m outside c (.balk t) (c.finish t (.error .cancelled))
  | tell (t : TaskId) : Step m outside c (.tell t) (c.tell t)
  | pass {t x u} (hx : c.members[t]? = some x) (hr : x.result = none) (ht : x.isTold = true)
    (hu : x.rest.WaitsFor u) : Step m outside c (.pass t u) (c.tell u)
  | happen (now q) (hq : outside q) : Step m outside c (.happen q) (c.perform m now q)

/-- `Reaches m outside c h d`: the history `h` leads from the crew `c` to the crew `d`. -/
inductive Reaches (m : Machine I W) (outside : I.Call → Prop) (c : Crew I W) :
    List (Event I) → Crew I W → Prop where
  | refl : Reaches m outside c [] c
  | step {h d e d'} (hd : Reaches m outside c h d) (he : Step m outside d e d') :
    Reaches m outside c (h ++ [e]) d'

/-- A crew of one. -/
def single (m : Machine I W) (w : W) (job : I.Job) : Crew I W := Crew.start m { world := w } job

/-! ## What a step does to members -/

/-- What an event can make of the member `t`. -/
inductive Becomes (e : Event I) (t : TaskId) (x y : Member I) : Prop where
  /-- Nothing, or the member was told to give up. -/
  | same (hd : ∀ d, e ≠ .act t d) (hrest : y.rest = x.rest) (hbegun : y.hasBegun = x.hasBegun)
    (hresult : y.result = x.result)
  | acts (d) (he : e = .act t d) (hgoes : x.result = none) (hd : x.rest.Does d y.rest)
    (hbegun : y.hasBegun = true) (hresult : y.result = none)
  | ends (r) (he : e = .finish t r) (hgoes : x.result = none) (hrest : y.rest = x.rest)
    (hbegun : y.hasBegun = x.hasBegun) (hresult : y.result = some r)
    (hdone : x.rest = .done r ∨
      ∃ a, x.rest = .done (.ok a) ∧ x.isTold = true ∧ r = .error .cancelled)
  | balks (he : e = .balk t) (hgoes : x.result = none) (hnew : x.hasBegun = false)
    (htold : x.isTold = true) (hrest : y.rest = x.rest) (hbegun : y.hasBegun = false)
    (hresult : y.result = some (.error .cancelled))

/-- Why a member is told to give up. -/
inductive Tells (c : Crew I W) (t : TaskId) : Event I → Prop where
  | outside : Tells c t (.tell t)
  | stops (u) : Tells c t (.act u (.stop t))
  | passes {u x} (hx : c.members[u]? = some x) (ht : x.isTold = true) : Tells c t (.pass u t)

/-- What an event makes of the member `t`. -/
structure Continues (c : Crew I W) (e : Event I) (t : TaskId) (x y : Member I) : Prop where
  job : y.job = x.job
  told : x.isTold = true → y.isTold = true
  why : y.isTold = true → x.isTold = true ∨ Tells c t e
  becomes : Becomes e t x y

section
variable {m : Machine I W} {outside : I.Call → Prop} {c c' d : Crew I W} {e : Event I}
  {t u : TaskId} {isTold : Bool} {y : Member I}

theorem members_alter (c : Crew I W) (t u : TaskId) (f : Member I → Member I) :
    (c.alter t f).members[u]? = if t = u then (c.members[u]?).map f else c.members[u]? := by
  rw [alter, List.getElem?_modify]
  split <;> simp

theorem members_alter_self {x : Member I} (hx : c.members[t]? = some x) (f : Member I → Member I) :
    (c.alter t f).members[t]? = some (f x) := by
  rw [members_alter, if_pos rfl, hx]
  rfl

theorem Offers.mono {d : Deed I} (h : c.Offers d) (hgiven : ∀ g ∈ c.given, g ∈ c'.given)
    (hresult : ∀ t r, c.result? t = some r → c'.result? t = some r) : c'.Offers d := by
  cases h with
  | timer micros => exact .timer micros
  | signal h => exact .signal (hgiven _ h)
  | learn h => exact .learn (hresult _ _ h)
  | all h =>
    refine .all fun t ht => ?_
    obtain ⟨r, hr⟩ := Option.isSome_iff_exists.1 (h t ht)
    exact Option.isSome_iff_exists.2 ⟨r, hresult t r hr⟩
  | good h => exact .good fun t ht => (h t ht).imp fun a ha => hresult t _ ha
  | bad ht h => exact .bad ht (hresult _ _ h)

section
variable {x : Member I} {r : Outcome I.Fault I.Result} (hx : c.members[t]? = some x)

theorem members_finish_of_ne (hne : u ≠ t) : (c.finish t r).members[u]? = c.members[u]? := by
  rw [finish, members_alter, if_neg hne.symm]

include hx

theorem result?_finish_self : (c.finish t r).result? t = some r := by
  rw [result?, finish, members_alter_self hx, Option.bind_some]

theorem result?_finish (hgoes : x.result = none) {o : Outcome I.Fault I.Result} (ho : c.result? u = some o) :
    (c.finish t r).result? u = some o := by
  have hne : u ≠ t := by
    rintro rfl
    rw [result?, hx, Option.bind_some, hgoes] at ho
    cases ho
  rwa [result?, members_finish_of_ne hne]

theorem offers_finish (hgoes : x.result = none) {d : Deed I} (ho : c.Offers d) : (c.finish t r).Offers d :=
  ho.mono (fun _ => id) fun _ _ => result?_finish hx hgoes

end

theorem member_tell (hy : (c.tell t).members[u]? = some y) :
    ∃ x, c.members[u]? = some x ∧ y = { x with isTold := y.isTold } ∧
      (x.isTold = true → y.isTold = true) ∧ (y.isTold = true → x.isTold = true ∨ t = u) := by
  rw [tell, members_alter] at hy
  split at hy
  · rename_i htu
    obtain ⟨x, hx, rfl⟩ := Option.map_eq_some_iff.1 hy
    exact ⟨x, hx, rfl, fun _ => rfl, fun _ => .inr htu⟩
  · exact ⟨y, hy, rfl, id, .inl⟩

/-- What becomes of members when one of them takes a step, apart from what is left of its program. -/
theorem Allows.member {d : Deed I} (ha : Allows m c isTold d c')
    (hy : c'.members[u]? = some y) :
    (∃ x, c.members[u]? = some x ∧ y = { x with isTold := y.isTold } ∧
      (x.isTold = true → y.isTold = true) ∧ (y.isTold = true → x.isTold = true ∨ d = .stop u)) ∨
    ∃ job, d = .start job u ∧ u = c.members.length ∧ y = { job := job, rest := m.program job } := by
  have hsame : c'.members = c.members → ∃ x, c.members[u]? = some x ∧
      y = { x with isTold := y.isTold } ∧ (x.isTold = true → y.isTold = true) ∧
        (y.isTold = true → x.isTold = true ∨ d = .stop u) :=
    fun h => ⟨y, h ▸ hy, rfl, id, .inl⟩
  cases ha with
  | ask => exact .inl (hsame rfl)
  | wait => exact .inl (hsame rfl)
  | late => exact .inl (hsame rfl)
  | breakOff on h => exact .inl (hsame (by cases on <;> rfl))
  | stop t =>
    obtain ⟨x, hx, heq, htold, hwhy⟩ := member_tell hy
    exact .inl ⟨x, hx, heq, htold, fun h => (hwhy h).imp_right (congrArg Deed.stop)⟩
  | start job ht =>
    change (c.members ++ [_])[u]? = some y at hy
    rw [List.getElem?_append] at hy
    split at hy
    · exact .inl ⟨y, hy, rfl, id, .inl⟩
    · rename_i hlen
      obtain ⟨hzero, hnew⟩ := List.getElem?_eq_some_iff.1 hy
      have hu : u = c.members.length := Nat.le_antisymm
        (Nat.sub_eq_zero_iff_le.1 (Nat.lt_one_iff.1 hzero)) (Nat.le_of_not_lt hlen)
      refine .inr ⟨job, by rw [ht, hu], hu, ?_⟩
      rw [← hnew, List.getElem_singleton]

/-- What becomes of members in a step: each goes on, or it has just been started. -/
theorem Step.member (h : Step m outside c e d) (hy : d.members[u]? = some y) :
    (∃ x, c.members[u]? = some x ∧ Continues c e u x y) ∨
    ∃ t job, e = .act t (.start job u) ∧ u = c.members.length ∧
      y = { job := job, rest := m.program job } := by
  have hidle : d.members = c.members → (∀ d, e ≠ .act u d) → ∃ x, c.members[u]? = some x ∧
      Continues c e u x y :=
    fun h hne => ⟨y, h ▸ hy, rfl, id, .inl, .same hne rfl rfl rfl⟩
  have htell : ∀ {t}, d = c.tell t → (∀ d, e ≠ .act u d) → (t = u → Tells c u e) →
      ∃ x, c.members[u]? = some x ∧ Continues c e u x y := by
    rintro t rfl hne htells
    obtain ⟨x, hx, heq, htold, hwhy⟩ := member_tell hy
    refine ⟨x, hx, heq ▸ rfl, htold, fun h => (hwhy h).imp_right htells, .same hne ?_ ?_ ?_⟩ <;>
      rw [heq]
  -- a member that ends
  have hends : ∀ {t x r}, c.members[t]? = some x → d = c.finish t r → (∀ d, e ≠ .act u d) →
      (∀ y', y' = { x with result := some r } → Becomes e t x y') →
      ∃ x, c.members[u]? = some x ∧ Continues c e u x y := by
    rintro t x r hx rfl hne hbecomes
    rw [Crew.finish, members_alter] at hy
    split at hy
    · rename_i htu
      subst htu
      rw [hx] at hy
      obtain rfl := Option.some.inj hy
      exact ⟨x, hx, rfl, id, .inl, hbecomes _ rfl⟩
    · exact ⟨y, hy, rfl, id, .inl, .same hne rfl rfl rfl⟩
  cases h with
  | tell t => exact .inl (htell rfl nofun fun h => h ▸ .outside)
  | pass hx hr ht hu => exact .inl (htell rfl nofun fun h => h ▸ .passes hx ht)
  | happen now q hq => exact .inl (hidle rfl nofun)
  | finish hx hr hd =>
    exact .inl (hends hx rfl nofun fun y' hy' => by
      subst hy'; exact .ends _ rfl hr rfl rfl rfl (.inl hd))
  | giveUp hx hr hd ht =>
    exact .inl (hends hx rfl nofun fun y' hy' => by
      subst hy'; exact .ends _ rfl hr rfl rfl rfl (.inr ⟨_, hd, ht, rfl⟩))
  | balk hx hr hb ht =>
    exact .inl (hends hx rfl nofun fun y' hy' => by
      subst hy'; exact .balks rfl hr hb ht rfl hb rfl)
  | @act t x deed p c' hx hr hd ha =>
    rw [goOn, members_alter] at hy
    have hstops : deed = .stop u → Tells c u (.act t deed) := by
      rintro rfl
      exact .stops t
    have hwhy : ∀ {x' y' : Member I}, (y'.isTold = true → x'.isTold = true ∨ deed = .stop u) →
        y'.isTold = true → x'.isTold = true ∨ Tells c u (.act t deed) :=
      fun h hy' => (h hy').imp_right hstops
    split at hy
    · rename_i htu
      subst htu
      obtain ⟨y', hy', rfl⟩ := Option.map_eq_some_iff.1 hy
      rcases ha.member hy' with ⟨x', hx', heq, htold, hw⟩ | ⟨job, hdeed, hlen, rfl⟩
      · obtain rfl : x = x' := Option.some.inj (hx.symm.trans hx')
        refine .inl ⟨x, hx, by rw [heq], htold, hwhy hw, .acts deed rfl hr hd rfl ?_⟩
        rw [heq]
        exact hr
      · rw [hlen] at hx
        simp at hx
    · rename_i htu
      rcases ha.member hy with ⟨x', hx', heq, htold, hw⟩ | ⟨job, hdeed, hlen, rfl⟩
      · refine .inl ⟨x', hx', by rw [heq], htold, hwhy hw, .same ?_ (by rw [heq]) (by rw [heq])
          (by rw [heq])⟩
        intro d hact
        exact htu (by cases hact; rfl)
      · exact .inr ⟨t, job, by rw [hdeed], hlen, rfl⟩

theorem length_alter (c : Crew I W) (t : TaskId) (f : Member I → Member I) :
    (c.alter t f).members.length = c.members.length := List.length_modify ..

theorem Allows.length {d : Deed I} (ha : Allows m c isTold d c') :
    c'.members.length = c.members.length ∨
      (∃ job, d = .start job c.members.length) ∧ c'.members.length = c.members.length + 1 := by
  cases ha with
  | ask | wait | late => exact .inl rfl
  | breakOff on h => cases on <;> exact .inl rfl
  | stop t => exact .inl (length_alter ..)
  | start job ht => exact .inr ⟨⟨job, by rw [ht]⟩, List.length_append⟩

theorem Allows.started {job : I.Job} (ha : Allows m c isTold (.start job u) c') :
    u = c.members.length ∧ c'.members.length = c.members.length + 1 := by
  cases ha with
  | start job ht => exact ⟨ht, List.length_append⟩
  | wait ho => cases ho
  | late h ho hd => cases ho <;> cases hd

theorem Step.length (h : Step m outside c e d) : d.members.length = c.members.length ∨
    (∃ t job, e = .act t (.start job c.members.length)) ∧
      d.members.length = c.members.length + 1 := by
  cases h with
  | happen => exact .inl rfl
  | finish | giveUp | balk | tell | pass => exact .inl (length_alter ..)
  | act hx hr hd ha =>
    rw [goOn, length_alter]
    exact ha.length.imp_right fun h => ⟨⟨_, h.1.imp fun job hj => congrArg _ hj⟩, h.2⟩

theorem Step.length_le (h : Step m outside c e d) : c.members.length ≤ d.members.length := by
  rcases h.length with h | ⟨-, h⟩ <;> omega

theorem lt_of_member {x : Member I} (hx : c.members[t]? = some x) : t < c.members.length :=
  (List.getElem?_eq_some_iff.1 hx).1

theorem Step.exists_member (h : Step m outside c e d) {x : Member I} (hx : c.members[t]? = some x) :
    ∃ y, d.members[t]? = some y := by
  exact ⟨_, List.getElem?_eq_getElem (Nat.lt_of_lt_of_le (lt_of_member hx) h.length_le)⟩

theorem Step.job (h : Step m outside c e d) {x : Member I} (hx : c.members[t]? = some x) :
    ∃ y, d.members[t]? = some y ∧ y.job = x.job := by
  obtain ⟨y, hy⟩ := h.exists_member hx
  refine ⟨y, hy, ?_⟩
  rcases h.member hy with ⟨x', hx', hcont⟩ | ⟨_, _, _, hlen, _⟩
  · obtain rfl : x = x' := Option.some.inj (hx.symm.trans hx')
    exact hcont.job
  · exact absurd (lt_of_member hx) (hlen ▸ Nat.lt_irrefl t)

theorem Continues.goes {x y : Member I} (h : Continues c e t x y) (hy : y.result = none) :
    x.result = none := by
  cases h.becomes with
  | same _ _ _ hresult => exact hresult ▸ hy
  | acts _ _ hgoes | ends _ _ hgoes | balks _ hgoes => exact hgoes

theorem Step.started {job : I.Job} (h : Step m outside c (.act t (.start job u)) d) :
    d.members[u]? = some { job := job, rest := m.program job } := by
  cases h with
  | act hx hr hd ha =>
    obtain ⟨rfl, -⟩ := ha.started
    have hne : t ≠ c.members.length := Nat.ne_of_lt (lt_of_member hx)
    rw [goOn, members_alter, if_neg hne]
    cases ha with
    | start job ht => exact List.getElem?_concat_length
    | wait ho => cases ho
    | late h ho hd => cases ho <;> cases hd

theorem Step.started_last {job : I.Job} (h : Step m outside c (.act t (.start job u)) d) :
    u = c.members.length ∧ t < u ∧ d.members.length = u + 1 := by
  cases h with
  | act hx hr hd ha =>
    obtain ⟨rfl, hlength⟩ := ha.started
    exact ⟨rfl, lt_of_member hx, (length_alter ..).trans hlength⟩

theorem Step.result (h : Step m outside c e d) {r : Outcome I.Fault I.Result}
    (hr : c.result? t = some r) : d.result? t = some r := by
  obtain ⟨x, hx, hxr⟩ := Option.bind_eq_some_iff.1 hr
  obtain ⟨y, hy⟩ := h.exists_member hx
  rcases h.member hy with ⟨x', hx', hcont⟩ | ⟨_, _, _, hlen, _⟩
  · obtain rfl : x = x' := Option.some.inj (hx.symm.trans hx')
    have hyr : y.result = some r := by
      cases hcont.becomes with
      | same _ _ _ hresult => exact hresult.trans hxr
      | acts _ _ hgoes | ends _ _ hgoes | balks _ hgoes =>
        rw [hgoes] at hxr
        cases hxr
    exact Option.bind_eq_some_iff.2 ⟨y, hy, hyr⟩
  · exact absurd (lt_of_member hx) (hlen ▸ Nat.lt_irrefl t)

theorem Reaches.started_lt {h : List (Event I)} {job : I.Job} (hr : Reaches m outside c h d)
    (hu : .act t (.start job u) ∈ h) : u < d.members.length := by
  induction hr with
  | refl => cases hu
  | step hd he ih =>
    rcases List.mem_append.1 hu with hu | hu
    · exact Nat.lt_of_lt_of_le (ih hu) he.length_le
    · cases List.mem_singleton.1 hu
      exact lt_of_member he.started

theorem Reaches.act_lt {h : List (Event I)} {deed : Deed I} (hr : Reaches m outside c h d)
    (ht : .act t deed ∈ h) : t < d.members.length := by
  induction hr with
  | refl => cases ht
  | step hd he ih =>
    rcases List.mem_append.1 ht with ht | ht
    · exact Nat.lt_of_lt_of_le (ih ht) he.length_le
    · cases List.mem_singleton.1 ht
      have hle := he.length_le
      cases he with
      | act hx => exact Nat.lt_of_lt_of_le (lt_of_member hx) hle

/-- A task is started once. -/
theorem Reaches.started_once {h : List (Event I)} {v : TaskId} {job job' : I.Job}
    (hr : Reaches m outside c h d) (hu : .act t (.start job u) ∈ h)
    (hv : .act v (.start job' u) ∈ h) : t = v ∧ job = job' := by
  -- who has just been started was not there before
  have hnew : ∀ {d d' : Crew I W} {h t job}, Reaches m outside c h d →
      Step m outside d (.act t (.start job u)) d' → ∀ v job', .act v (.start job' u) ∉ h := by
    intro d d' h t job hd he v job' hv
    have hlt := hd.started_lt hv
    cases he with
    | act _ _ _ ha => exact absurd (ha.started.1 ▸ hlt) (Nat.lt_irrefl _)
  induction hr with
  | refl => cases hu
  | step hd he ih =>
    rcases List.mem_append.1 hu with hin | hlast
    · rcases List.mem_append.1 hv with hin' | hlast'
      · exact ih hin hin'
      · cases List.mem_singleton.1 hlast'
        exact absurd hin (hnew hd he _ _)
    · cases List.mem_singleton.1 hlast
      rcases List.mem_append.1 hv with hin' | hlast'
      · exact absurd hin' (hnew hd he _ _)
      · cases List.mem_singleton.1 hlast'
        exact ⟨rfl, rfl⟩

theorem Reaches.job_of_started {h : List (Event I)} {job : I.Job} (hr : Reaches m outside c h d)
    (hu : .act t (.start job u) ∈ h) : ∃ x, d.members[u]? = some x ∧ x.job = job := by
  induction hr with
  | refl => cases hu
  | step hd he ih =>
    rcases List.mem_append.1 hu with hu | hu
    · obtain ⟨x, hx, rfl⟩ := ih hu
      exact he.job hx
    · cases List.mem_singleton.1 hu
      exact ⟨_, he.started, rfl⟩

theorem Reaches.started_of_member {h : List (Event I)} {x : Member I} (hr : Reaches m outside c h d)
    (hx : d.members[u]? = some x) (hu : c.members.length ≤ u) :
    ∃ t, .act t (.start x.job u) ∈ h := by
  induction hr generalizing x with
  | refl => exact absurd (lt_of_member hx) (Nat.not_lt_of_le hu)
  | step hd he ih =>
    rcases he.member hx with ⟨y, hy, hcont⟩ | ⟨t, job, rfl, -, rfl⟩
    · obtain ⟨t, ht⟩ := ih hy
      exact ⟨t, List.mem_append_left _ (hcont.job ▸ ht)⟩
    · exact ⟨t, List.mem_append_right _ (List.mem_singleton_self _)⟩

theorem Reaches.length_le {h : List (Event I)} (hr : Reaches m outside c h d) :
    c.members.length ≤ d.members.length := by
  induction hr with
  | refl => exact Nat.le_refl _
  | step _ hs ih => exact Nat.le_trans ih hs.length_le

theorem Reaches.job {h : List (Event I)} {x : Member I} (hr : Reaches m outside c h d)
    (hx : c.members[t]? = some x) : ∃ y, d.members[t]? = some y ∧ y.job = x.job := by
  induction hr with
  | refl => exact ⟨x, hx, rfl⟩
  | step _ hs ih =>
    obtain ⟨y, hy, hjob⟩ := ih
    obtain ⟨z, hz, hjob'⟩ := hs.job hy
    exact ⟨z, hz, hjob'.trans hjob⟩

theorem Reaches.trans {h h' : List (Event I)} {d' : Crew I W} (hr : Reaches m outside c h d)
    (hr' : Reaches m outside d h' d') : Reaches m outside c (h ++ h') d' := by
  induction hr' with
  | refl => rwa [List.append_nil]
  | step _ hs ih =>
    rw [← List.append_assoc]
    exact ih.step hs

theorem Reaches.last {h : List (Event I)} (hr : Reaches m outside c (h ++ [e]) d) :
    ∃ d₀, Reaches m outside c h d₀ ∧ Step m outside d₀ e d := by
  generalize hl : h ++ [e] = l at hr
  cases hr with
  | refl => simp at hl
  | step hd hs =>
    obtain ⟨rfl, heq⟩ := List.append_inj' hl rfl
    cases heq
    exact ⟨_, hd, hs⟩

theorem Reaches.split {h h' : List (Event I)} (hr : Reaches m outside c (h ++ h') d) :
    ∃ d₀, Reaches m outside c h d₀ ∧ Reaches m outside d₀ h' d := by
  generalize hl : h ++ h' = l at hr
  induction hr generalizing h' with
  | refl =>
    obtain ⟨rfl, rfl⟩ := List.append_eq_nil_iff.1 hl
    exact ⟨c, .refl, .refl⟩
  | step hd hs ih =>
    rcases List.eq_nil_or_concat h' with rfl | ⟨h'', e, rfl⟩
    · rw [List.append_nil] at hl
      exact ⟨_, hl ▸ hd.step hs, .refl⟩
    · rw [List.concat_eq_append, ← List.append_assoc] at hl
      obtain ⟨rfl, heq⟩ := List.append_inj' hl rfl
      cases heq
      obtain ⟨d₀, hfirst, hlater⟩ := ih rfl
      exact ⟨d₀, hfirst, List.concat_eq_append ▸ hlater.step hs⟩

theorem Reaches.head {h : List (Event I)} (hr : Reaches m outside c (e :: h) d) :
    ∃ d₀, Step m outside c e d₀ ∧ Reaches m outside d₀ h d := by
  obtain ⟨d₀, hfirst, hlater⟩ := Reaches.split (List.singleton_append ▸ hr)
  obtain ⟨d₁, hnil, hs⟩ := Reaches.last (h := []) hfirst
  generalize hl : [] = l at hnil
  cases hnil with
  | refl => exact ⟨d₀, hs, hlater⟩
  | step => simp at hl

/-- Who has ended takes no more steps, and it has ended as it has. -/
theorem Reaches.ended {h : List (Event I)} {r : Outcome I.Fault I.Result}
    (hr : Reaches m outside c h d) (ht : c.result? t = some r) :
    d.result? t = some r ∧ ∀ deed, .act t deed ∉ h := by
  induction hr with
  | refl => exact ⟨ht, fun _ => List.not_mem_nil⟩
  | step hd hs ih =>
    obtain ⟨hended, hnone⟩ := ih
    refine ⟨hs.result hended, fun deed hin => ?_⟩
    rcases List.mem_append.1 hin with hin | hin
    · exact hnone deed hin
    · cases List.mem_singleton.1 hin
      cases hs with
      | act hx hgoes =>
        rw [result?, hx, Option.bind_some, hgoes] at hended
        cases hended

end

end Crew

/-- The task that is started in a step. -/
def Deed.started? : Deed I → Option TaskId
  | .start _ u => some u
  | _ => none

/-- The task that is started in an event. -/
def Event.started? : Event I → Option TaskId
  | .act _ d => d.started?
  | _ => none

/-- The tasks that were started, in their order. -/
def startedIn (h : List (Event I)) : List TaskId := h.filterMap Event.started?

/-- The step that a task takes in an event, if it takes one. -/
def Event.deedOf? (t : TaskId) : Event I → Option (Deed I)
  | act u d => if u = t then some d else none
  | _ => none

/-- The steps of one task in a history. -/
def deedsOf (h : List (Event I)) (t : TaskId) : List (Deed I) := h.filterMap (Event.deedOf? t)

section
variable {h h' : List (Event I)} {t : TaskId} {e : Event I} {d : Deed I}

theorem deedsOf_append : deedsOf (h ++ h') t = deedsOf h t ++ deedsOf h' t := List.filterMap_append

theorem deedsOf_act (h : List (Event I)) (t : TaskId) (d : Deed I) :
    deedsOf (h ++ [.act t d]) t = deedsOf h t ++ [d] := by
  simp [deedsOf, Event.deedOf?]

theorem deedsOf_idle (he : ∀ d, e ≠ .act t d) : deedsOf (h ++ [e]) t = deedsOf h t := by
  rw [deedsOf, List.filterMap_append, ← deedsOf]
  cases e with
  | act u d =>
    have hne : u ≠ t := by
      rintro rfl
      exact he d rfl
    simp [Event.deedOf?, hne]
  | _ => simp [Event.deedOf?]

theorem deedsOf_split {l : List (Event I)} {ds es : List (Deed I)} (h : deedsOf l t = ds ++ es) :
    ∃ h₁ h₂, l = h₁ ++ h₂ ∧ deedsOf h₁ t = ds ∧ deedsOf h₂ t = es := by
  obtain ⟨h₁, h₂, heq, hds, hes⟩ := List.filterMap_eq_append_iff.1 h
  exact ⟨h₁, h₂, heq, hds, hes⟩

theorem deedsOf_head {l : List (Event I)} {ds : List (Deed I)} (h : deedsOf l t = d :: ds) :
    ∃ h₁ h₂, l = h₁ ++ .act t d :: h₂ ∧ deedsOf h₁ t = [] ∧ deedsOf h₂ t = ds := by
  obtain ⟨h₁, e, h₂, rfl, hnone, he, hds⟩ := List.filterMap_eq_cons_iff.1 h
  refine ⟨h₁, h₂, ?_, List.filterMap_eq_nil_iff.2 hnone, hds⟩
  cases e with
  | act u d' =>
    by_cases hu : u = t
    · rw [Event.deedOf?, if_pos hu] at he
      rw [hu, Option.some.inj he]
    · rw [Event.deedOf?, if_neg hu] at he
      cases he
  | _ => cases he

theorem mem_deedsOf : d ∈ deedsOf h t ↔ .act t d ∈ h := by
  rw [deedsOf, List.mem_filterMap]
  constructor
  · rintro ⟨e, he, hd⟩
    cases e with
    | act u d' =>
      rw [Event.deedOf?] at hd
      split at hd
      · rename_i hut
        cases hd
        exact hut ▸ he
      · cases hd
    | _ => cases hd
  · exact fun h => ⟨_, h, if_pos rfl⟩

/-- What is started by one task is started in the same order. -/
theorem starts_sublist (h : List (Event I)) (t : TaskId) :
    ((deedsOf h t).filterMap Deed.started?).Sublist (startedIn h) := by
  rw [deedsOf, startedIn, List.filterMap_filterMap]
  induction h with
  | nil => exact .slnil
  | cons e h ih =>
    rw [List.filterMap_cons, List.filterMap_cons]
    have hsame : (Event.deedOf? t e).bind Deed.started? = none ∨
        (Event.deedOf? t e).bind Deed.started? = e.started? := by
      cases e with
      | act u d =>
        rw [Event.deedOf?]
        split
        · exact .inr rfl
        · exact .inl rfl
      | _ => exact .inl rfl
    rcases hsame with heq | heq <;> cases hu : e.started? <;> simp only [heq, hu]
    · exact ih
    · exact ih.cons _
    · exact ih
    · exact ih.cons_cons _

/-- Tasks are numbered in the order in which they are started. -/
theorem Crew.Reaches.starts {m : Machine I W} {outside : I.Call → Prop} {c c' : Crew I W}
    (hr : Crew.Reaches m outside c h c') : (startedIn h).Nodup ∧
      ∀ u ∈ startedIn h, c.members.length ≤ u ∧ u < c'.members.length := by
  induction hr with
  | refl => exact ⟨.nil, fun _ hu => absurd hu List.not_mem_nil⟩
  | @step h d e d' hd hs ih =>
    obtain ⟨hnodup, hbounds⟩ := ih
    have hgrown := hs.length_le
    have hold : ∀ u ∈ startedIn h, c.members.length ≤ u ∧ u < d'.members.length :=
      fun u hu => ⟨(hbounds u hu).1, Nat.lt_of_lt_of_le (hbounds u hu).2 hgrown⟩
    rw [startedIn, List.filterMap_append, ← startedIn]
    cases hu : e.started? with
    | none =>
      rw [List.filterMap_cons_none hu, List.filterMap_nil, List.append_nil]
      exact ⟨hnodup, hold⟩
    | some u =>
      rw [List.filterMap_cons_some hu, List.filterMap_nil]
      obtain ⟨t, job, rfl⟩ : ∃ t job, e = .act t (.start job u) := by
        cases e with
        | act t deed =>
          cases deed with
          | start job v => cases hu; exact ⟨t, job, rfl⟩
          | _ => cases hu
        | _ => cases hu
      have hnew : u = d.members.length := by
        cases hs with
        | act _ _ _ ha => exact ha.started.1
      refine ⟨List.nodup_append.2 ⟨hnodup, List.pairwise_singleton _ u, fun v hv w hw heq => ?_⟩,
        fun v hv => ?_⟩
      · rw [List.mem_singleton.1 hw] at heq
        exact absurd (heq ▸ (hbounds v hv).2) (hnew ▸ Nat.lt_irrefl _)
      · rcases List.mem_append.1 hv with hv | hv
        · exact hold v hv
        · rw [List.mem_singleton.1 hv]
          exact ⟨hnew ▸ hd.length_le, Crew.lt_of_member hs.started⟩

end

end BrowserPlan.Task
