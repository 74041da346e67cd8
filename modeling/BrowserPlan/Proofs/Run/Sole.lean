import BrowserPlan.Proofs.Run.Reunion

/-!
# Alone in a run

Before the steps of a plan, after them, and while its close is put off, one task of a run has the session
and the pool to itself: all others have ended, or they only have something to say. What that task is
answered agrees with its tally, and the tally stays true (`Sole.act`), whatever the others do meanwhile
(`Sole.idle`).
-/
namespace BrowserPlan.Run

open BrowserPlan.Task BrowserPlan.Browser

variable {W : Type} {m : Machine scene W} {P : Premises m} {c c' : Crew scene W} {t : Tally}
  {a v : TaskId} {p p' : Program scene Yield} {d : Deed scene} {e : Event scene}

/-! ## Who only has something to say -/

/-- Calls that only read the report or write to the log. -/
def Call.isMute : Call → Bool
  | .log _ | .report => true
  | _ => false

/-- A program that only reads the report and writes to the log. -/
def Program.IsMute {α : Type} : Program scene α → Prop
  | .done _ => True
  | .call q next => Call.isMute q = true ∧ ∀ a, IsMute (next a)
  | .pause .. | .fork .. | .cancel .. | .await .. | .gather .. => False

/-- A step that only reads the report or writes to the log. -/
def Deed.IsMute (d : Deed scene) : Prop := ∃ q a, d = .ask q a ∧ Call.isMute q = true

theorem Program.IsMute.does {α : Type} {p q : Program scene α} (hp : Program.IsMute p)
    (hd : p.Does d q) : Deed.IsMute d ∧ Program.IsMute q := by
  cases hd with
  | ask q next a => exact ⟨⟨q, a, rfl, hp.1⟩, hp.2 a⟩
  | _ => exact hp.elim

theorem Deed.IsMute.spares (hd : Deed.IsMute d) : Spares d := by
  obtain ⟨q, x, rfl, hq⟩ := hd
  cases q with
  | log | report => rfl
  | _ => cases hq

theorem Deed.IsMute.calm (hd : Deed.IsMute d) : Deed.IsCalm d := by
  obtain ⟨q, x, rfl, hq⟩ := hd
  cases q with
  | log | report => trivial
  | _ => cases hq

theorem Deed.IsMute.ordinary (hd : Deed.IsMute d) : Deed.IsOrdinary d := by
  obtain ⟨q, x, rfl, hq⟩ := hd
  cases q with
  | log | report => exact ⟨rfl, rfl, rfl⟩
  | _ => cases hq

/-- Who reads the report or writes to the log leaves the tally as it is. -/
theorem Deed.IsMute.after (hd : Deed.IsMute d) (t : Tally) : t.after d = t := by
  obtain ⟨q, x, rfl, hq⟩ := hd
  cases q with
  | log | report => simp [Tally.after, Tally.asked, Deed.opened?, Deed.closing?, Deed.page?]
  | _ => cases hq

/-- Events in which nothing is opened, closed or started. -/
def Event.IsIdle (a : TaskId) (e : Event scene) : Prop := ∀ v d, e = .act v d → v ≠ a ∧ Deed.IsMute d

theorem Event.IsIdle.ordinary (he : Event.IsIdle a e) : Event.IsOrdinary e := by
  intro v d hd
  obtain ⟨-, q, x, rfl, hq⟩ := he v d hd
  cases q with
  | log | report => exact ⟨rfl, rfl, rfl⟩
  | _ => cases hq

theorem Event.IsIdle.not_starts (he : Event.IsIdle a e) (u v : TaskId) (job : Job) :
    e ≠ .act v (.start job u) := by
  rintro rfl
  obtain ⟨-, q, x, heq, -⟩ := he v _ rfl
  cases heq

/-! ## What the world does to a tally -/

/-- Calls that have nothing to do with the session, or only read it. -/
def Call.keepsSession : Call → Bool
  | .setSession _ => false
  | _ => true

theorem Call.not_sets {q : Call} (h : Call.keepsSession q = true) : ∀ s, q ≠ .setSession s := by
  rintro s rfl
  cases h

theorem session_allows (P : Premises m) {isTold : Bool} (ha : Crew.Allows m c isTold d c')
    (hd : ∀ s x, d ≠ .ask (.setSession s) x) : P.session c'.world = P.session c.world := by
  cases ha with
  | @ask q x now ha =>
    refine P.session_kept now c.world q fun s hs => ?_
    subst hs
    exact hd s _ rfl
  | breakOff on h =>
    cases on with
    | signal s => exact P.session_forsaken c.world s
    | _ => rfl
  | _ => rfl

theorem session_step (P : Premises m) (he : Crew.Step m IsOutside c e c') (hord : Event.IsOrdinary e) :
    P.session c'.world = P.session c.world := by
  cases he with
  | @act u _ d _ c₁ hx hr hd ha =>
    refine (session_allows P ha fun s x hset => ?_ : P.session c₁.world = _)
    subst hset
    cases (hord u _ rfl).spares
  | happen now q hq =>
    obtain rfl := hq
    exact P.session_kept now c.world .goAway (Call.not_sets rfl)
  | _ => rfl

theorem knows_step (P : Premises m) (he : Crew.Step m IsOutside c e c') {q : PageId}
    (hq : P.knows c.world q) : P.knows c'.world q := by
  cases he with
  | act hx hr hd ha =>
    cases ha with
    | ask now => exact P.knows_more now c.world _ q hq
    | breakOff on =>
      cases on with
      | signal s => exact P.knows_forsaken c.world s q hq
      | _ => exact hq
    | _ => exact hq
  | happen now call => exact P.knows_more now c.world call q hq
  | _ => exact hq

theorem Tally.asked_plain (t : Tally) {q : Call} (hs : Call.keepsSession q = true)
    (hq : Call.sparesPool q = true) (x : q.Answer) :
    (t.asked q x).session = t.session ∧ (t.asked q x).pool = t.pool := by
  cases q with
  | setSession s => cases hs
  | pool | openPool => cases hq
  | _ => exact ⟨rfl, rfl⟩

/-- Calls begin as believed. -/
theorem Tally.believes_begin {who : Party} {op : Operation} {course : Course}
    (hcalm : course.interrupts = false)
    (hon : ∀ b event, who = .browser b → op = .on event → Course.IsImmediate course) :
    t.Believes (.begin who op) course := by
  cases who with
  | browser b =>
    cases op with
    | on event => exact hon b event rfl rfl
    | _ => exact hcalm
  | _ => exact hcalm

/-- Calls are completed as believed. -/
theorem Tally.believes_complete {who : Party} {op : Operation} {landing : Option String}
    {x : Except CallFault op.Answer}
    (hon : ∀ b event, who = .browser b → op = .on event → ∃ v, x = .ok v) :
    t.Believes (.complete who landing op) x := by
  cases who with
  | browser b =>
    cases op with
    | on event => exact hon b event rfl rfl
    | _ => trivial
  | _ => trivial

/-- What the world answers is believed, and the tally stays true. -/
theorem Tally.answered (P : Premises m) {w : W} (hsession : P.session w = t.session)
    (hpool : P.pool w = t.pool) (now : Nat) (q : Call)
    (hcalm : Call.answersCalmly q (m.perform now w q).2.1) :
    t.Believes q (m.perform now w q).2.1 ∧
      P.session (m.perform now w q).1 = (t.asked q (m.perform now w q).2.1).session ∧
      P.pool (m.perform now w q).1 = (t.asked q (m.perform now w q).2.1).pool ∧
      ∀ k r, (Signal.granted k, r) ∈ (m.perform now w q).2.2 →
        k ∈ (t.asked q (m.perform now w q).2.1).told := by
  have hkept : Call.keepsSession q = true → P.session (m.perform now w q).1 = t.session :=
    fun hq => (P.session_kept now w q (Call.not_sets hq)).trans hsession
  have hspared : Call.sparesPool q = true → P.pool (m.perform now w q).1 = t.pool ∧
      ∀ k r, (Signal.granted k, r) ∉ (m.perform now w q).2.2 :=
    fun hq => ⟨(P.pool_spared now w q hq).trans hpool, P.nothing_granted now w q hq⟩
  have hplain : Call.keepsSession q = true → Call.sparesPool q = true →
      P.session (m.perform now w q).1 = (t.asked q (m.perform now w q).2.1).session ∧
        P.pool (m.perform now w q).1 = (t.asked q (m.perform now w q).2.1).pool ∧
        ∀ k r, (Signal.granted k, r) ∈ (m.perform now w q).2.2 →
          k ∈ (t.asked q (m.perform now w q).2.1).told := by
    intro hs hq
    obtain ⟨hsame, hsame'⟩ := t.asked_plain hs hq (m.perform now w q).2.1
    exact ⟨(hkept hs).trans hsame.symm, (hspared hq).1.trans hsame'.symm,
      fun k r hin => absurd hin ((hspared hq).2 k r)⟩
  cases q with
  | session =>
    exact ⟨(P.session_answered now w).trans hsession, hplain rfl rfl⟩
  | setSession s =>
    exact ⟨trivial, P.session_set now w s, (hspared rfl).1,
      fun k r hin => absurd hin ((hspared rfl).2 k r)⟩
  | openPool limit =>
    cases hlimit : Pool.ofLimit (π := PageId) limit with
    | ok pool =>
      obtain ⟨hopened, hanswer⟩ := P.pool_opened now w limit pool hlimit
      have hpool' : pool = { maxPages := limit.toNat } := by
        rw [Pool.ofLimit] at hlimit
        split at hlimit <;> cases hlimit
        rfl
      rw [congrArg Prod.fst hanswer, congrArg Prod.snd hanswer]
      exact ⟨.inl ⟨pool, hlimit, rfl⟩, hkept rfl, hopened.trans hpool', by rintro _ _ ⟨⟩⟩
    | error fault =>
      obtain ⟨hrefused, hanswer⟩ := P.pool_refused now w limit fault hlimit
      rw [congrArg Prod.fst hanswer, congrArg Prod.snd hanswer]
      exact ⟨.inr ⟨fault, hlimit, rfl⟩, hkept rfl, hrefused.trans hpool, by rintro _ _ ⟨⟩⟩
  | pool q =>
    have hanswers := P.pool_answers now w q
    have hasked := P.pool_asked now w q
    rw [hpool] at hanswers hasked
    have htold : ∀ k r, (Signal.granted k, r) ∈ (m.perform now w (.pool q)).2.2 →
        k ∈ t.told ++ (t.pool.perform q).2.2 := by
      intro k r hin
      rw [congrArg Prod.snd hanswers] at hin
      obtain ⟨s, hs, heq⟩ := List.mem_map.1 hin
      obtain ⟨j, hj, rfl⟩ := List.mem_map.1 hs
      cases heq
      exact List.mem_append_right _ hj
    refine ⟨congrArg Prod.fst hanswers, ?_⟩
    cases q <;> exact ⟨hkept rfl, hasked, htold⟩
  | «begin» who op =>
    refine ⟨Tally.believes_begin hcalm ?_, hplain rfl rfl⟩
    rintro b event rfl rfl
    exact P.listens now w b event
  | complete who landing op =>
    refine ⟨Tally.believes_complete ?_, hplain rfl rfl⟩
    rintro b event rfl rfl
    exact P.listened now w b landing event
  | _ => exact ⟨trivial, hplain rfl rfl⟩

theorem Tally.told_after (t : Tally) (d : Deed scene) {k : Nat} (hk : k ∈ t.told) :
    k ∈ (t.after d).told := by
  cases d with
  | ask q x =>
    cases q with
    | openPool limit => cases x <;> exact hk
    | pool q => cases q <;> exact List.mem_append_left _ hk
    | _ => exact hk
  | _ => exact hk

/-- A page that was made was opened in the step, or it was made before. -/
theorem Tally.made_after (t : Tally) (d : Deed scene) {q : PageId} (hq : q ∈ (t.after d).made) :
    q ∈ t.made ∨ ∃ who landing, d = .ask (.complete who landing .newPage) (.ok q) := by
  cases d with
  | ask call x =>
    cases call with
    | complete who landing op =>
      refine (List.mem_append.1 hq).imp_right fun hnew => ?_
      cases op with
      | newPage =>
        cases x with
        | ok p => exact ⟨who, landing, by rw [List.mem_singleton.1 hnew]⟩
        | error fault => cases hnew
      | _ => cases hnew
    | openPool limit =>
      cases x with
      | none => exact .inl hq
      | some fault => exact .inl (by simpa [Tally.after, Tally.asked, Deed.page?] using hq)
    | pool call => cases call <;> exact .inl hq
    | setSession => exact .inl hq
    | _ => exact .inl (by simpa [Tally.after, Tally.asked, Deed.page?] using hq)
  | _ => exact .inl hq

/-! ## Being alone -/

/-- Calls, and pauses other than for the pool. -/
inductive Deed.IsSolitary : Deed scene → Prop where
  | ask (q x) : IsSolitary (.ask q x)
  | wake (on r) (h : ∀ k, on ≠ .signal (.granted k)) : IsSolitary (.wake on r)

theorem Deed.IsSolitary.not_starts (hd : Deed.IsSolitary d) (u v : TaskId) (job : Job) :
    Event.act a d ≠ .act v (.start job u) := by
  rintro ⟨⟩
  cases hd

/-- The task `a` is at `p` and has the session and the pool to itself; `t` is its tally. -/
structure Sole (P : Premises m) (a : TaskId) (c : Crew scene W) (t : Tally)
    (p : Program scene Yield) : Prop where
  member : ∃ x, c.members[a]? = some x ∧ x.rest = p ∧ ∀ r, x.result = some r → p = .done r
  untold : ∀ (v : TaskId) (y : Member scene), c.members[v]? = some y → y.result = none →
    y.isTold = false
  others : ∀ (v : TaskId) (y : Member scene), v ≠ a → c.members[v]? = some y → y.result = none →
    Program.IsMute y.rest
  session : P.session c.world = t.session
  pool : P.pool c.world = t.pool
  granted : ∀ k r, (Signal.granted k, r) ∈ c.given → k ∈ t.told
  made : ∀ q ∈ t.made, P.knows c.world q

namespace Sole

theorem does (hs : Sole P a c t p) (he : Crew.Step m IsOutside c (.act a d) c') : ∃ p', p.Does d p' := by
  obtain ⟨x, hx, rfl, -⟩ := hs.member
  cases he with
  | act hx' _ hd =>
    obtain rfl := Option.some.inj (hx.symm.trans hx')
    exact ⟨_, hd⟩

/-- As long as nobody is told to give up by a task, nobody who goes on is told to give up. -/
theorem untold_step (hs : Sole P a c t p) (he : Crew.Step m IsOutside c e c')
    (hcalm : Event.IsCalm e) (hstop : ∀ u v, e ≠ .act u (.stop v)) (v : TaskId) (y : Member scene)
    (hy : c'.members[v]? = some y) (hgoes : y.result = none) : y.isTold = false := by
  rcases he.member hy with ⟨x, hx, hcont⟩ | ⟨_, _, _, _, rfl⟩
  · cases htold : y.isTold with
    | false => rfl
    | true =>
      rcases hcont.why htold with hxt | htells
      · rw [hs.untold v x hx (hcont.goes hgoes)] at hxt
        cases hxt
      · cases htells with
        | outside => exact hcalm.elim
        | stops u => exact absurd rfl (hstop u v)
        | passes hu ht =>
          cases he with
          | pass hu' hr =>
            obtain rfl := Option.some.inj (hu.symm.trans hu')
            rw [hs.untold _ _ hu hr] at ht
            cases ht
  · rfl

theorem others_step (hs : Sole P a c t p) (he : Crew.Step m IsOutside c e c')
    (hstart : ∀ u job v, e ≠ .act u (.start job v)) (v : TaskId) (y : Member scene) (hv : v ≠ a)
    (hy : c'.members[v]? = some y) (hgoes : y.result = none) : Program.IsMute y.rest := by
  rcases he.member hy with ⟨z, hz, hcont⟩ | ⟨u, job, heq, -, -⟩
  · have hmute := hs.others v z hv hz (hcont.goes hgoes)
    cases hcont.becomes with
    | same _ hrest | ends _ _ _ hrest | balks _ _ _ _ hrest => exact hrest ▸ hmute
    | acts d heq _ hd => exact (hmute.does hd).2
  · exact absurd heq (hstart u job v)

/-- The task takes a step. -/
theorem act (hs : Sole P a c t p) (he : Crew.Step m IsOutside c (.act a d) c')
    (hcalm : Event.IsCalm (.act a d)) (hgone : ∀ l r, (Signal.gone l, r) ∈ c.given → r = .ok ())
    (hd : Deed.IsSolitary d) : ∃ p', p.Does d p' ∧ t.Agrees d ∧ Sole P a c' (t.after d) p' := by
  obtain ⟨x, hx, rfl, -⟩ := hs.member
  have hstop : ∀ u v, Event.act a d ≠ .act u (.stop v) := by
    rintro u v ⟨⟩
    cases hd
  have huntold := hs.untold_step he hcalm hstop
  have hothers := hs.others_step he fun u job v => hd.not_starts v u job
  have hmade : ∀ q ∈ t.made, P.knows c'.world q := fun q hq => knows_step P he (hs.made q hq)
  cases he with
  | @act _ x' _ p' c₁ hx' hr hp ha =>
    obtain rfl : x = x' := Option.some.inj (hx.symm.trans hx')
    rw [hs.untold a x hx hr] at ha
    have hself : ∀ {c₂ : Crew scene W}, c₂.members = c.members →
        ∃ y, (c₂.goOn a p').members[a]? = some y ∧ y.rest = p' ∧ ∀ r, y.result = some r → p' = .done r := by
      intro c₂ hc₂
      refine ⟨_, Crew.members_alter_self (hc₂ ▸ hx) _, rfl, fun r hr' => ?_⟩
      rw [show x.result = some r from hr'] at hr
      cases hr
    refine ⟨p', hp, ?_⟩
    cases hd with
    | ask q ans =>
      cases ha with
      | wait ho => cases ho
      | late htold => cases htold
      | ask now hans =>
        have hanswered := Tally.answered P hs.session hs.pool now q (hans ▸ (by cases q <;> exact hcalm))
        rw [← hans] at hanswered
        obtain ⟨hbelieves, hsession, hpool, htold⟩ := hanswered
        refine ⟨hbelieves, hself rfl, huntold, hothers, hsession, hpool, fun k r hin => ?_, fun q' hq => ?_⟩
        · rcases List.mem_append.1 hin with hin | hin
          · exact Tally.told_after t (.ask q ans) (hs.granted k r hin)
          · exact htold k r hin
        · rcases t.made_after (.ask q ans) hq with hold | ⟨who, landing, heq⟩
          · exact hmade q' hold
          · cases heq
            exact (P.opened now c.world who landing q' hans.symm).2
    | wake on r hon =>
      cases ha with
      | breakOff on htold => cases htold
      | late htold => cases htold
      | wait ho =>
        refine ⟨?_, hself rfl, huntold, hothers, hs.session, hs.pool, hs.granted, hmade⟩
        cases ho with
        | timer => rfl
        | @signal s r hin =>
          cases s with
          | gone l => exact hgone l r hin
          | granted k => exact absurd rfl (hon k)

/-- Whatever happens while the task takes no step, nothing changes for it. -/
theorem idle (hs : Sole P a c t p) (he : Crew.Step m IsOutside c e c') (hcalm : Event.IsCalm e)
    (hact : ∀ d, e ≠ .act a d) : Event.IsIdle a e ∧ Sole P a c' t p := by
  obtain ⟨x, hx, rfl, hdone⟩ := hs.member
  have hidle : Event.IsIdle a e := by
    rintro v d rfl
    have hv : v ≠ a := by
      rintro rfl
      exact hact d rfl
    cases he with
    | act hy hr hd => exact ⟨hv, ((hs.others v _ hv hy hr).does hd).1⟩
  have hstop : ∀ u v, e ≠ .act u (.stop v) := by
    rintro u v rfl
    obtain ⟨-, q, y, hq, -⟩ := hidle u _ rfl
    cases hq
  refine ⟨hidle, ?_, hs.untold_step he hcalm hstop, hs.others_step he fun u job v => hidle.not_starts v u job, ?_, ?_, ?_,
    fun q hq => knows_step P he (hs.made q hq)⟩
  · obtain ⟨y, hy⟩ := he.exists_member hx
    refine ⟨y, hy, ?_⟩
    rcases he.member hy with ⟨z, hz, hcont⟩ | ⟨u, job, -, hlen, -⟩
    · obtain rfl : x = z := Option.some.inj (hx.symm.trans hz)
      cases hcont.becomes with
      | same _ hrest _ hresult => exact ⟨hrest, fun r hr => hdone r (hresult ▸ hr)⟩
      | acts d heq => exact absurd heq (hact d)
      | ends r _ hgoes hrest _ hresult hend =>
        refine ⟨hrest, fun r' hr' => ?_⟩
        rcases hend with hend | ⟨-, -, htold, -⟩
        · rw [hresult] at hr'
          cases hr'
          exact hend
        · rw [hs.untold a x hx hgoes] at htold
          cases htold
      | balks _ hgoes _ htold =>
        rw [hs.untold a x hx hgoes] at htold
        cases htold
    · exact absurd (Crew.lt_of_member hx) (hlen ▸ Nat.lt_irrefl _)
  · exact (session_step P he hidle.ordinary).trans hs.session
  · refine Eq.trans ?_ hs.pool
    cases he with
    | @act u _ d _ c₁ hy hr hd ha => exact (spared P.toVenue ha (hidle u d rfl).2.spares).1
    | happen now q hq =>
      obtain rfl := hq
      exact P.pool_spared now c.world .goAway rfl
    | _ => rfl
  · intro k r hin
    refine hs.granted k r ?_
    cases he with
    | @act u _ d _ c₁ hy hr hd ha => exact (spared P.toVenue ha (hidle u d rfl).2.spares).2 k r hin
    | happen now q hq =>
      obtain rfl := hq
      refine (List.mem_append.1 hin).resolve_right (P.nothing_granted now c.world .goAway rfl k r)
    | _ => exact hin

/-- The task starts another one and has only something to say after that: now the other one has the
session and the pool to itself. -/
theorem fork {job : Job} {next : TaskId → Program scene Yield} {u : TaskId}
    (hs : Sole P a c t (.fork job next)) (he : Crew.Step m IsOutside c (.act a (.start job u)) c')
    (hmute : Program.IsMute (next u)) : Sole P u c' t (program job) := by
  have huntold := hs.untold_step he trivial nofun
  have hmember := fun (v : TaskId) (y : Member scene) => he.member (u := v) (y := y)
  have hstarted := he.started
  have hknows := fun q hq => knows_step P he (hs.made q hq)
  obtain ⟨x, hx, hrest, hdone⟩ := hs.member
  have hothers : ∀ (v : TaskId) (y : Member scene), v ≠ u → c'.members[v]? = some y → y.result = none →
      Program.IsMute y.rest := by
    intro v y hv hy hgoes
    rcases hmember v y hy with ⟨z, hz, hcont⟩ | ⟨_, _, heq, -, -⟩
    · by_cases hva : v = a
      · subst hva
        obtain rfl : x = z := Option.some.inj (hx.symm.trans hz)
        cases hcont.becomes with
        | same hne => exact absurd rfl (hne _)
        | acts d heq _ hd =>
          cases heq
          rw [hrest] at hd
          exact (Program.Does.start job next u).unique hd ▸ hmute
        | ends _ heq | balks heq => cases heq
      · have hold := hs.others v z hva hz (hcont.goes hgoes)
        cases hcont.becomes with
        | acts d heq =>
          cases heq
          exact absurd rfl hva
        | same _ hrest | ends _ _ _ hrest | balks _ _ _ _ hrest => exact hrest ▸ hold
    · cases heq
      exact absurd rfl hv
  rw [P.program] at hstarted
  cases he with
  | act _ _ _ ha =>
    cases ha with
    | start job ht =>
      exact ⟨⟨_, hstarted, rfl, nofun⟩, huntold, hothers, hs.session, hs.pool, hs.granted, hknows⟩
    | wait ho => cases ho
    | late _ ho hd => cases ho <;> cases hd

/-- As long as somebody can move, somebody does; otherwise all others have ended, and the task has ended
too, or it pauses for ever or is blocked. -/
theorem exists_move (hs : Sole P a c t p) : c.CanMove m IsOutside ∨
    (∀ (v : TaskId) (y : Member scene), v ≠ a → c.members[v]? = some y → y.result.isSome = true) ∧
      ∃ x, c.members[a]? = some x ∧ x.rest = p ∧
        (x.result.isSome = true ∨ x.result = none ∧ ((∃ next, p = .pause .forever next) ∨ c.IsBlocked p)) := by
  by_cases hothers : ∃ (v : TaskId) (y : Member scene), v ≠ a ∧ c.members[v]? = some y ∧ y.result = none
  · obtain ⟨v, y, hv, hy, hgoes⟩ := hothers
    have hmute := hs.others v y hv hy hgoes
    have hstuck : c.CanMove m IsOutside ∨ _ := Crew.exists_move hy hgoes
    rcases hstuck with hmove | ⟨next, hrest⟩ | ⟨s, next, hrest, -⟩ | ⟨u, hw, -⟩
    · exact .inl hmove
    · exact (hrest ▸ hmute : Program.IsMute (.pause .forever next)).elim
    · exact (hrest ▸ hmute : Program.IsMute (.pause (.signal s) next)).elim
    · cases hrest : y.rest with
      | await | gather =>
        rw [hrest] at hmute
        exact hmute.elim
      | _ =>
        rw [hrest] at hw
        cases hw
  · obtain ⟨x, hx, rfl, -⟩ := hs.member
    have hended : ∀ (v : TaskId) (y : Member scene), v ≠ a → c.members[v]? = some y →
        y.result.isSome = true :=
      fun v y hv hy => Option.isSome_iff_ne_none.2 fun hgoes => hothers ⟨v, y, hv, hy, hgoes⟩
    cases hr : x.result with
    | some r => exact .inr ⟨hended, x, hx, rfl, .inl (by rw [hr]; rfl)⟩
    | none =>
      exact (Crew.exists_move hx hr).imp_right fun hstuck => ⟨hended, x, hx, rfl, .inr ⟨hr, hstuck⟩⟩

theorem perform (hs : Sole P a c t p) (now : Nat) {q : Call} (hq : Call.isMute q = true) :
    Sole P a (c.perform m now q) t p := by
  obtain ⟨hsession, hpool⟩ : Call.keepsSession q = true ∧ Call.sparesPool q = true := by
    cases q with
    | log | report => exact ⟨rfl, rfl⟩
    | _ => cases hq
  refine ⟨hs.member, hs.untold, hs.others, ?_, ?_, fun k r hin => ?_, fun q' hq' => ?_⟩
  · exact (P.session_kept now c.world q (Call.not_sets hsession)).trans hs.session
  · exact (P.pool_spared now c.world q hpool).trans hs.pool
  · exact hs.granted k r ((List.mem_append.1 hin).resolve_right (P.nothing_granted now c.world q hpool k r))
  · exact P.knows_more now c.world q q' (hs.made q' hq')

/-- It does not matter what the first task does if it is taken to have ended. -/
theorem but_first (hs : Sole P a c t p) (ha : a ≠ 0) (hworld : c'.world = c.world)
    (hgiven : c'.given = c.given) (hothers : ∀ v, v ≠ 0 → c'.members[v]? = c.members[v]?)
    (r : Outcome Fault Yield) : Sole P a (c'.finish 0 r) t p := by
  have hgoing : ∀ (v : TaskId) (y : Member scene), (c'.finish 0 r).members[v]? = some y → y.result = none →
      c.members[v]? = some y := by
    intro v y hy hgoes
    rw [Crew.finish, Crew.members_alter] at hy
    split at hy
    · obtain ⟨z, -, rfl⟩ := Option.map_eq_some_iff.1 hy
      cases hgoes
    · rename_i hv
      rwa [hothers v (Ne.symm hv)] at hy
  refine ⟨?_, fun v y hy hgoes => hs.untold v y (hgoing v y hy hgoes) hgoes,
    fun v y hv hy hgoes => hs.others v y hv (hgoing v y hy hgoes) hgoes, ?_, ?_, ?_, ?_⟩
  · rw [Crew.finish, Crew.members_alter, if_neg ha.symm, hothers a ha]
    exact hs.member
  · exact (congrArg P.session hworld).trans hs.session
  · exact (congrArg P.pool hworld).trans hs.pool
  · exact fun k r hin => hs.granted k r (hgiven ▸ hin)
  · exact fun q hq => (congrArg (P.knows · q) hworld).mpr (hs.made q hq)

/-- When all others have ended, another task has the session to itself, wherever it is. -/
theorem passOn (hs : Sole P a c t p) (hworld : c'.world = c.world) (hgiven : c'.given = c.given)
    {x : Member scene} (hx : c'.members[u]? = some x) (hgoes : x.result = none) (htold : x.isTold = false)
    (hothers : ∀ (v : TaskId) (y : Member scene), v ≠ u → c'.members[v]? = some y →
      y.result.isSome = true) : Sole P u c' t x.rest where
  member := ⟨x, hx, rfl, fun r hr => by rw [hgoes] at hr; cases hr⟩
  untold v y hy hr := by
    by_cases hv : v = u
    · subst hv
      obtain rfl : x = y := Option.some.inj (hx.symm.trans hy)
      exact htold
    · exact absurd hr (Option.isSome_iff_ne_none.1 (hothers v y hv hy))
  others v y hv hy hr := absurd hr (Option.isSome_iff_ne_none.1 (hothers v y hv hy))
  session := hworld ▸ hs.session
  pool := hworld ▸ hs.pool
  granted k r hin := hs.granted k r (hgiven ▸ hin)
  made q hq := hworld ▸ hs.made q hq

end Sole

theorem Program.KeepsTally.solitary {H : Tally → Program scene Yield → Prop}
    (hp : Program.KeepsTally H p t) (hd : p.Does d p') : Deed.IsSolitary d := by
  rcases hp.asks with ⟨q, next, rfl⟩ | ⟨on, next, rfl, hon⟩
  · cases hd
    exact .ask _ _
  · cases hd
    exact .wake _ _ fun k => hon _

theorem Deed.IsSolitary.calm (hd : Deed.IsSolitary d) (he : Event.IsCalm (.act a d)) (ht : t.Agrees d) :
    Deed.IsCalm d := by
  cases hd with
  | ask q x => exact he
  | wake on r =>
    obtain rfl : r = .ok () := ht
    trivial

end BrowserPlan.Run
