import BrowserPlan.Proofs.Pool.Ledger

/-!
# The accounts of a pool

`Accounts` is what holds of a pool and the stakes of its callers whatever the callers do, closing
included: the shelf, the bound, the tickets and the count of room kept for pages. `Ticketed` is the
part about tickets. Each has one lemma for every operation; `stable_accounts` puts them together.
-/
namespace BrowserPlan.Pool

variable {π : Type} [DecidableEq π]

/-! ## Tickets -/

/-- The queue `ws`, what was granted `gs` and the next ticket `n` agree with the tickets `tk` at
stake: each of them is in the queue or was granted something, never both, unless its owner was told
to give up and has left the queue. -/
structure Ticketed (ws : List PoolWaiter) (gs : List (Nat × Handout π)) (n : Nat)
    (tk : List (Nat × Bool)) : Prop where
  drawn : ∀ t ∈ tk, t.1 < n
  distinct : (tk.map (·.1)).Nodup
  queued : ∀ w ∈ ws, (w.ticket, w.isCancelled) ∈ tk
  queue_distinct : (ws.map (·.ticket)).Nodup
  granted : ∀ g ∈ gs, ∃ b, (g.1, b) ∈ tk
  granted_distinct : (gs.map (·.1)).Nodup
  apart : ∀ g ∈ gs, ∀ w ∈ ws, w.ticket ≠ g.1
  served : ∀ k, (k, false) ∈ tk → (∃ w ∈ ws, w.ticket = k) ∨ ∃ g ∈ gs, g.1 = k

section
omit [DecidableEq π]
variable {ws rest : List PoolWaiter} {gs : List (Nat × Handout π)} {n k : Nat}
  {tk : List (Nat × Bool)} {b : Bool}

theorem Ticketed.perm {tl : List (Nat × Bool)} (hp : tk.Perm tl) (h : Ticketed ws gs n tk) :
    Ticketed ws gs n tl := by
  have hm : ∀ t, t ∈ tk ↔ t ∈ tl := fun t => hp.mem_iff
  have hd := (hp.map (·.1)).nodup_iff.1 h.distinct
  obtain ⟨h1, -, h3, h4, h5, h6, h7, h8⟩ := h
  simp only [hm] at h1 h3 h5 h8
  exact ⟨h1, hd, h3, h4, h5, h6, h7, h8⟩

/-- The owner of a ticket is the only one. -/
theorem Ticketed.unique (h : Ticketed ws gs n tk) {b c : Bool} (hb : (k, b) ∈ tk)
    (hc : (k, c) ∈ tk) : b = c := by
  have := List.inj_on_of_nodup_map h.distinct hb hc rfl
  simpa using this

/-- The oldest waiter is granted something. -/
theorem Ticketed.grant (h : Ticketed ws gs n tk) (hw : nextWaiter? ws = some (k, rest))
    (x : Handout π) : Ticketed rest (gs ++ [(k, x)]) n tk := by
  obtain ⟨gone, rfl, hgone⟩ := nextWaiter?_eq_some hw
  have hk : (k, false) ∈ tk := h.queued ⟨k, false⟩ (by simp)
  have hq := h.queue_distinct
  simp only [List.map_append, List.map_cons, List.nodup_append, List.nodup_cons,
    List.mem_cons] at hq
  constructor
  case drawn => exact h.drawn
  case distinct => exact h.distinct
  case queued => exact fun w hw' => h.queued w (by simp [hw'])
  case queue_distinct => exact hq.2.1.2
  case granted =>
    intro g hg
    rcases List.mem_append.1 hg with hg | hg
    · exact h.granted g hg
    · obtain rfl := List.mem_singleton.1 hg
      exact ⟨false, hk⟩
  case granted_distinct =>
    rw [List.map_append, List.nodup_append]
    refine ⟨h.granted_distinct, by simp, ?_⟩
    intro a ha c hc
    obtain ⟨g, hg, rfl⟩ := List.mem_map.1 ha
    obtain rfl : c = k := by simpa using hc
    exact fun hac => h.apart g hg ⟨c, false⟩ (by simp) hac.symm
  case apart =>
    intro g hg w hw'
    rcases List.mem_append.1 hg with hg | hg
    · exact h.apart g hg w (by simp [hw'])
    · obtain rfl := List.mem_singleton.1 hg
      exact fun hwk => hq.2.1.1 (List.mem_map.2 ⟨w, hw', hwk⟩)
  case served =>
    intro j hj
    rcases h.served j hj with ⟨w, hw', rfl⟩ | ⟨g, hg, rfl⟩
    · rcases List.mem_append.1 hw' with hw' | hw'
      · -- a waiter who has given up cannot be an owner who was not told
        have := h.unique (h.queued w (by simp [hw'])) hj
        exact absurd (hgone w hw') (by simp [this])
      · rcases List.mem_cons.1 hw' with rfl | hw'
        · exact .inr ⟨(k, x), by simp, rfl⟩
        · exact .inl ⟨w, hw', rfl⟩
    · exact .inr ⟨g, by simp [hg], rfl⟩

/-- All who are in the queue have given up. -/
theorem Ticketed.dissolve (h : Ticketed ws gs n tk) (hw : nextWaiter? ws = none) :
    Ticketed [] gs n tk := by
  refine ⟨h.drawn, h.distinct, by simp, by simp, h.granted, h.granted_distinct, by simp, ?_⟩
  intro k hk
  rcases h.served k hk with ⟨w, hw', rfl⟩ | hg
  · have := h.unique (h.queued w hw') hk
    exact absurd (nextWaiter?_eq_none_iff.1 hw w hw') (by simp [this])
  · exact .inr hg

/-- The owner of a ticket has its turn: the ticket is settled. -/
theorem Ticketed.settle (h : Ticketed ws gs n ((k, b) :: tk)) :
    Ticketed (ws.filter fun w => w.ticket != k) (gs.filter fun g => g.1 != k) n tk := by
  have hd := h.distinct
  rw [List.map_cons, List.nodup_cons] at hd
  have hne : ∀ t ∈ tk, t.1 ≠ k := fun t ht htk => hd.1 (List.mem_map.2 ⟨t, ht, htk⟩)
  constructor
  case drawn => exact fun t ht => h.drawn t (List.mem_cons_of_mem _ ht)
  case distinct => exact hd.2
  case queued =>
    intro w hw
    obtain ⟨hw, hwk⟩ := List.mem_filter.1 hw
    rcases List.mem_cons.1 (h.queued w hw) with heq | hmem
    · simp only [Prod.mk.injEq] at heq
      simp [heq.1] at hwk
    · exact hmem
  case queue_distinct => exact h.queue_distinct.sublist (List.filter_sublist.map _)
  case granted =>
    intro g hg
    obtain ⟨hg, hgk⟩ := List.mem_filter.1 hg
    obtain ⟨c, hc⟩ := h.granted g hg
    rcases List.mem_cons.1 hc with heq | hmem
    · simp only [Prod.mk.injEq] at heq
      simp [heq.1] at hgk
    · exact ⟨c, hmem⟩
  case granted_distinct => exact h.granted_distinct.sublist (List.filter_sublist.map _)
  case apart =>
    intro g hg w hw
    exact h.apart g (List.mem_filter.1 hg).1 w (List.mem_filter.1 hw).1
  case served =>
    intro j hj
    have hjk : j ≠ k := hne (j, false) hj
    rcases h.served j (List.mem_cons_of_mem _ hj) with ⟨w, hw, rfl⟩ | ⟨g, hg, rfl⟩
    · exact .inl ⟨w, List.mem_filter.2 ⟨hw, by simpa using hjk⟩, rfl⟩
    · exact .inr ⟨g, List.mem_filter.2 ⟨hg, by simpa using hjk⟩, rfl⟩

/-- The owner of a ticket is told to give up. -/
theorem Ticketed.tell (h : Ticketed ws gs n ((k, b) :: tk)) :
    Ticketed (ws.map fun w => if w.ticket == k then { w with isCancelled := true } else w) gs n
      ((k, true) :: tk) := by
  have hfst : (ws.map fun w => if w.ticket == k then { w with isCancelled := true } else w).map
      (·.ticket) = ws.map (·.ticket) := by
    rw [List.map_map]
    refine List.map_congr_left fun w _ => ?_
    simp only [Function.comp]
    split <;> rfl
  have hmem : ∀ {j c}, j ≠ k → (j, c) ∈ (k, b) :: tk → (j, c) ∈ (k, true) :: tk := by
    intro j c hjk hj
    rcases List.mem_cons.1 hj with heq | hj
    · exact absurd (congrArg Prod.fst heq) hjk
    · exact List.mem_cons_of_mem _ hj
  constructor
  case drawn =>
    intro t ht
    rcases List.mem_cons.1 ht with rfl | ht
    · exact h.drawn (k, b) (by simp)
    · exact h.drawn t (List.mem_cons_of_mem _ ht)
  case distinct => simpa using h.distinct
  case queued =>
    intro w' hw'
    obtain ⟨w, hw, rfl⟩ := List.mem_map.1 hw'
    by_cases hk : w.ticket = k
    · simp [hk]
    · simpa [hk] using hmem hk (h.queued w hw)
  case queue_distinct =>
    rw [hfst]
    exact h.queue_distinct
  case granted =>
    intro g hg
    obtain ⟨c, hc⟩ := h.granted g hg
    by_cases hk : g.1 = k
    · exact ⟨true, by simp [hk]⟩
    · exact ⟨c, hmem hk hc⟩
  case granted_distinct => exact h.granted_distinct
  case apart =>
    intro g hg w' hw'
    have : w'.ticket ∈ ws.map (·.ticket) := hfst ▸ List.mem_map_of_mem hw'
    obtain ⟨w, hw, hww⟩ := List.mem_map.1 this
    exact hww ▸ h.apart g hg w hw
  case served =>
    intro j hj
    have hj' : (j, false) ∈ tk := by simpa using hj
    rcases h.served j (List.mem_cons_of_mem _ hj') with ⟨w, hw, rfl⟩ | hg
    · have : w.ticket ∈ ws.map (·.ticket) := List.mem_map_of_mem hw
      rw [← hfst] at this
      obtain ⟨w', hw', hww⟩ := List.mem_map.1 this
      exact .inl ⟨w', hw', hww⟩
    · exact .inr hg

/-- A caller draws the next ticket and joins the queue. -/
theorem Ticketed.draw (h : Ticketed ws gs n tk) :
    Ticketed (ws ++ [⟨n, false⟩]) gs (n + 1) ((n, false) :: tk) := by
  have hlt : ∀ w ∈ ws, w.ticket ≠ n := fun w hw =>
    Nat.ne_of_lt (h.drawn _ (h.queued w hw))
  constructor
  case drawn =>
    intro t ht
    rcases List.mem_cons.1 ht with rfl | ht
    · exact Nat.lt_succ_self _
    · exact Nat.lt_succ_of_lt (h.drawn t ht)
  case distinct =>
    rw [List.map_cons, List.nodup_cons]
    refine ⟨fun hn => ?_, h.distinct⟩
    obtain ⟨t, ht, htn⟩ := List.mem_map.1 hn
    exact Nat.ne_of_lt (h.drawn t ht) htn
  case queued =>
    intro w hw
    rcases List.mem_append.1 hw with hw | hw
    · exact List.mem_cons_of_mem _ (h.queued w hw)
    · obtain rfl := List.mem_singleton.1 hw
      simp
  case queue_distinct =>
    rw [List.map_append, List.nodup_append]
    refine ⟨h.queue_distinct, by simp, ?_⟩
    intro a ha c hc
    obtain ⟨w, hw, rfl⟩ := List.mem_map.1 ha
    obtain rfl : c = n := by simpa using hc
    exact hlt w hw
  case granted =>
    intro g hg
    obtain ⟨c, hc⟩ := h.granted g hg
    exact ⟨c, List.mem_cons_of_mem _ hc⟩
  case granted_distinct => exact h.granted_distinct
  case apart =>
    intro g hg w hw
    obtain ⟨c, hc⟩ := h.granted g hg
    rcases List.mem_append.1 hw with hw | hw
    · exact h.apart g hg w hw
    · obtain rfl := List.mem_singleton.1 hw
      exact (Nat.ne_of_lt (h.drawn _ hc)).symm
  case served =>
    intro k hk
    rcases List.mem_cons.1 hk with heq | hk
    · obtain rfl : k = n := congrArg Prod.fst heq
      exact .inl ⟨⟨k, false⟩, by simp, rfl⟩
    · rcases h.served k hk with ⟨w, hw, rfl⟩ | hg
      · exact .inl ⟨w, by simp [hw], rfl⟩
      · exact .inr hg

/-- All who wait and have not given up are granted `x`. -/
theorem Ticketed.grantAll (h : Ticketed ws gs n tk) (x : Handout π) :
    Ticketed [] (gs ++ ((ws.filter fun w => !w.isCancelled).map (·.ticket)).map fun t => (t, x)) n
      tk := by
  have hmem : ∀ {g},
      g ∈ ((ws.filter fun w => !w.isCancelled).map (·.ticket)).map (fun t => (t, x)) ↔
        ∃ w ∈ ws, w.isCancelled = false ∧ (w.ticket, x) = g := by simp [and_assoc]
  refine ⟨h.drawn, h.distinct, by simp, by simp, ?_, ?_, by simp, ?_⟩
  · intro g hg
    rcases List.mem_append.1 hg with hg | hg
    · exact h.granted g hg
    · obtain ⟨w, hw, -, rfl⟩ := hmem.1 hg
      exact ⟨_, h.queued w hw⟩
  · rw [List.map_append, List.nodup_append]
    refine ⟨h.granted_distinct, ?_, ?_⟩
    · rw [List.map_map, show ((·.1) ∘ fun t : Nat => (t, x)) = id from rfl, List.map_id]
      exact h.queue_distinct.sublist (List.filter_sublist.map _)
    · intro a ha c hc
      obtain ⟨g, hg, rfl⟩ := List.mem_map.1 ha
      obtain ⟨g', hg', rfl⟩ := List.mem_map.1 hc
      obtain ⟨w, hw, -, rfl⟩ := hmem.1 hg'
      exact (h.apart g hg w hw).symm
  · intro k hk
    rcases h.served k hk with ⟨w, hw, rfl⟩ | ⟨g, hg, rfl⟩
    · have hc := h.unique (h.queued w hw) hk
      exact .inr ⟨(w.ticket, x), List.mem_append_right _ (hmem.2 ⟨w, hw, hc, rfl⟩), rfl⟩
    · exact .inr ⟨g, by simp [hg], rfl⟩

/-- A ticket that was granted something is not in the queue. -/
theorem Ticketed.filter_waiters (h : Ticketed ws gs n tk) (hk : ∃ g ∈ gs, g.1 = k) :
    (ws.filter fun w => w.ticket != k) = ws := by
  obtain ⟨g, hg, rfl⟩ := hk
  exact List.filter_eq_self.2 fun w hw => by simpa using h.apart g hg w hw

end

/-! ## What was granted -/

section
omit [DecidableEq π]

theorem handout?_eq_none_iff {p : Pool π} {k : Nat} :
    p.handout? k = none ↔ ∀ g ∈ p.granted, g.1 ≠ k := by
  simp [handout?]

/-- What one ticket was granted, apart from the rest. -/
theorem granted_perm {p : Pool π} (hn : (p.granted.map (·.1)).Nodup) {k : Nat} {x : Handout π}
    (h : p.handout? k = some x) :
    p.granted.Perm ((k, x) :: (p.settle k).granted) := by
  obtain ⟨g, hg, rfl⟩ := Option.map_eq_some_iff.1 h
  have hgk : g.1 = k := by simpa using List.find?_some hg
  obtain ⟨before, after, hsplit⟩ := List.append_of_mem (List.mem_of_find?_eq_some hg)
  rw [settle, hsplit]
  rw [hsplit, List.map_append, List.map_cons, List.nodup_append, List.nodup_cons] at hn
  have hb : before.filter (fun g => g.1 != k) = before := List.filter_eq_self.2 fun a ha => by
    simpa [hgk] using hn.2.2 a.1 (List.mem_map_of_mem ha) g.1 (by simp)
  have ha : after.filter (fun g => g.1 != k) = after := List.filter_eq_self.2 fun a ha => by
    simp only [bne_iff_ne, ne_eq]
    exact fun hak => hn.2.1.1 (List.mem_map.2 ⟨a, ha, hak.trans hgk.symm⟩)
  simp only [List.filter_append, List.filter_cons, hb, ha, hgk, bne_self_eq_false,
    Bool.false_eq_true, if_false]
  rw [show (k, g.2) = g from by rw [← hgk]]
  exact List.perm_middle

theorem granted_of_handout? {p : Pool π} {k : Nat} {x : Handout π} (h : p.handout? k = some x) :
    ∃ g ∈ p.granted, g.1 = k := by
  obtain ⟨g, hg, -⟩ := Option.map_eq_some_iff.1 h
  exact ⟨g, List.mem_of_find?_eq_some hg, by simpa using List.find?_some hg⟩

/-- What was granted to a ticket is what its owner can take. -/
theorem handout?_eq_some_iff {p : Pool π} (hn : (p.granted.map (·.1)).Nodup) {k : Nat}
    {x : Handout π} : p.handout? k = some x ↔ (k, x) ∈ p.granted := by
  constructor
  · intro h
    exact (granted_perm hn h).mem_iff.2 (by simp)
  · intro h
    cases hx : p.handout? k with
    | none => exact absurd rfl (handout?_eq_none_iff.1 hx _ h)
    | some y =>
      have hy := (granted_perm hn hx).mem_iff.2 (List.mem_cons_self)
      have := List.inj_on_of_nodup_map hn hy h rfl
      simpa using this

theorem handout?_of_granted {p q : Pool π} (h : q.granted = p.granted) (k : Nat) :
    q.handout? k = p.handout? k := by
  rw [handout?, h, handout?]

/-- What a ticket was granted stays when another ticket is settled. -/
theorem handout?_settle {p : Pool π} {k l : Nat} (hlk : l ≠ k) :
    (p.settle l).handout? k = p.handout? k := by
  have hsame : (p.granted.filter fun g => g.1 != l).find? (fun g => g.1 == k) =
      p.granted.find? fun g => g.1 == k := by
    rw [List.find?_filter]
    refine congrArg (List.find? · p.granted) (funext fun g => ?_)
    by_cases hg : g.1 = k
    · simp [hg, hlk.symm]
    · simp [hg]
  exact congrArg (Option.map _) hsame

/-- What a ticket was granted stays when other tickets are granted something. -/
theorem handout?_append {p q : Pool π} {k : Nat} {hs : List (Nat × Handout π)}
    (hq : q.granted = p.granted ++ hs) (hhs : ∀ g ∈ hs, g.1 ≠ k) : q.handout? k = p.handout? k := by
  have hnone : hs.find? (fun g => g.1 == k) = none := by simpa using hhs
  rw [handout?, hq, List.find?_append, hnone, Option.or_none, handout?]

theorem settle_creating (p : Pool π) (k : Nat) : (p.settle k).creating = p.creating := rfl

theorem settle_of_handout?_eq_none {p : Pool π} {k : Nat} (h : p.handout? k = none) :
    p.settle k = p := by
  have : p.granted.filter (fun g => g.1 != k) = p.granted := List.filter_eq_self.2 fun g hg => by
    simpa using handout?_eq_none_iff.1 h g hg
  rw [settle, this]

theorem grantedPages_append (gs hs : List (Nat × Handout π)) :
    grantedPages (gs ++ hs) = grantedPages gs ++ grantedPages hs := by
  simp [grantedPages]

theorem rooms_append (gs hs : List (Nat × Handout π)) : rooms (gs ++ hs) = rooms gs + rooms hs := by
  simp [rooms]

theorem rooms_perm {gs hs : List (Nat × Handout π)} (h : gs.Perm hs) : rooms gs = rooms hs :=
  h.countP_eq _

theorem rooms_cons (k : Nat) (x : Handout π) (gs : List (Nat × Handout π)) :
    rooms ((k, x) :: gs) = rooms gs + rooms [(k, x)] := by
  rw [← List.singleton_append, rooms_append, Nat.add_comm]

theorem rooms_room (k : Nat) : rooms [(k, (.room : Handout π))] = 1 := rfl

theorem rooms_page (k : Nat) (page : π) : rooms [(k, .page page)] = 0 := rfl

theorem rooms_refusals (ks : List Nat) :
    rooms (ks.map fun k => (k, (.refused : Handout π))) = 0 := by
  simp [rooms, Handout.isRoom]

theorem creators_creation (ss : List (Stake π)) : creators (.creation :: ss) = creators ss + 1 :=
  List.countP_cons_of_pos rfl

end

/-! ## The accounts -/

/-- The accounts of a pool and of the stakes `ss` of its callers: the shelf holds the idle pages,
each once; there are never more pages than allowed, those under creation included; the queue and
what was granted belong to the tickets; and `creating` counts the callers who create a page and the
tickets that were granted room for one. -/
structure Accounts (p : Pool π) (ss : List (Stake π)) : Prop where
  distinct : (p.entries.map (·.page)).Nodup
  shelved : p.available.Perm (idlePages p.entries)
  within : p.entries.length + p.creating ≤ p.maxPages
  ticketed : Ticketed p.waiters p.granted p.nextTicket (tickets ss)
  slots : p.creating = creators ss + rooms p.granted

namespace Accounts

variable {p : Pool π} {ss ts : List (Stake π)} {k : Nat} {b : Bool}

section
omit [DecidableEq π]

theorem perm (hp : ss.Perm ts) (h : Accounts p ss) : Accounts p ts :=
  ⟨h.distinct, h.shelved, h.within, h.ticketed.perm (hp.filterMap _), by
    rw [h.slots, creators, hp.countP_eq, creators]⟩

/-- Neither an idle caller nor one who holds a page matters to the accounts. -/
theorem of_nothing (h : Accounts p (.nothing :: ss)) : Accounts p ss :=
  ⟨h.distinct, h.shelved, h.within, h.ticketed, h.slots⟩

theorem nothing (h : Accounts p ss) : Accounts p (.nothing :: ss) :=
  ⟨h.distinct, h.shelved, h.within, h.ticketed, h.slots⟩

theorem of_page {page : π} (h : Accounts p (.page page :: ss)) : Accounts p ss :=
  ⟨h.distinct, h.shelved, h.within, h.ticketed, h.slots⟩

theorem page (page : π) (h : Accounts p ss) : Accounts p (.page page :: ss) :=
  ⟨h.distinct, h.shelved, h.within, h.ticketed, h.slots⟩

/-! ### One lemma for each operation -/

/-- Room that was free is granted to the oldest waiter, if there is one. -/
theorem grantRoom (h : Accounts p ss) (hroom : p.entries.length + p.creating < p.maxPages) :
    Accounts p.grantRoom.1 ss := by
  rcases grantRoom_cases p with ⟨k, rest, hw, heq⟩ | ⟨hw, heq⟩
  · rw [heq]
    have := h.slots
    refine ⟨h.distinct, h.shelved, by simp only; omega, h.ticketed.grant hw _, ?_⟩
    simp only [rooms_append, rooms_room]
    omega
  · rw [heq]
    exact ⟨h.distinct, h.shelved, h.within, h.ticketed.dissolve hw, h.slots⟩

/-- Somebody gives up room for a page. -/
theorem yieldRoom (h : Accounts { p with creating := p.creating - 1 } ss)
    (hroom : p.entries.length + p.creating ≤ p.maxPages) : Accounts p.yieldRoom.1 ss :=
  grantRoom h (by simp only; omega)

theorem notCreated (h : Accounts p (.creation :: ss)) : Accounts p.yieldRoom.1 ss := by
  have hslots := h.slots
  have hwithin := h.within
  rw [creators_creation] at hslots
  refine yieldRoom ⟨h.distinct, h.shelved, ?_, h.ticketed, ?_⟩ hwithin
  · simp only; omega
  · simp only; omega

/-- A ticket is settled: its owner is no longer waited for, and what it was granted is left to be
accounted for. -/
theorem settled (h : Accounts p (.ticket k b :: ss)) :
    Ticketed (p.waiters.filter fun w => w.ticket != k) (p.settle k).granted p.nextTicket
        (tickets ss) ∧
      (∀ x, p.handout? k = some x → p.creating = creators ss + rooms (p.settle k).granted +
        rooms [(k, x)]) ∧
      (p.handout? k = none → p.creating = creators ss + rooms (p.settle k).granted) := by
  have hslots : p.creating = creators ss + rooms p.granted := h.slots
  refine ⟨h.ticketed.settle, fun x hx => ?_, fun hx => ?_⟩
  · have := rooms_perm (granted_perm h.ticketed.granted_distinct hx)
    rw [rooms_cons] at this
    omega
  · rw [settle_of_handout?_eq_none hx]
    exact hslots

/-- The owner of a ticket takes what it was granted. -/
theorem redeem (h : Accounts p (.ticket k b :: ss)) (hk : (p.handout? k).isSome = true) :
    Accounts (p.redeem k).1 (stakeOf (p.redeem k).2 :: ss) := by
  obtain ⟨x, hx⟩ := Option.isSome_iff_exists.1 hk
  obtain ⟨ht, hslots, -⟩ := h.settled
  have hslots := hslots x hx
  have hwithin := h.within
  -- the ticket was granted something, so it is not in the queue any more
  rw [h.ticketed.filter_waiters (granted_of_handout? hx)] at ht
  cases x with
  | page q =>
    rw [redeem_page hx]
    exact Accounts.page q ⟨h.distinct, h.shelved, hwithin, ht, hslots⟩
  | room =>
    rw [rooms_room] at hslots
    by_cases hc : p.isClosed = true
    · rw [redeem_room_closed hx hc]
      exact nothing ⟨h.distinct, h.shelved, by simp only [settle]; omega, ht, by simp only; omega⟩
    · rw [redeem_room hx (by simpa using hc)]
      refine ⟨h.distinct, h.shelved, hwithin, ht, ?_⟩
      simp only [stakeOf, creators_creation, settle_creating]
      omega
  | refused =>
    rw [redeem_refused hx]
    exact nothing ⟨h.distinct, h.shelved, hwithin, ht, hslots⟩

/-- The owner of a ticket is told to give up. -/
theorem tell (h : Accounts p (.ticket k b :: ss)) : Accounts (p.forsake k) (.ticket k true :: ss) :=
  ⟨h.distinct, h.shelved, h.within, h.ticketed.tell, h.slots⟩

end

theorem acquire (h : Accounts p ss) : Accounts p.acquire.1 (stakeOf p.acquire.2 :: ss) := by
  rcases acquire_cases p with ⟨-, heq⟩ | ⟨-, q, rest, ha, heq⟩ | ⟨-, ha, hroom, heq⟩ |
    ⟨-, ha, -, heq⟩
  · rw [heq]
    exact h.nothing
  · rw [heq]
    have hmem : q ∈ idlePages p.entries := h.shelved.mem_iff.1 (by simp [ha])
    obtain ⟨-, hidle⟩ := lentPages_checkOut h.distinct hmem
    refine Accounts.page q ⟨?_, ?_, ?_, h.ticketed, h.slots⟩
    · exact (pages_checkOut p q).symm ▸ h.distinct
    · exact (List.perm_cons q).1 ((ha ▸ h.shelved).trans hidle)
    · simpa [checkOut, adjust] using h.within
  · rw [heq]
    have := h.slots
    simp only [total] at hroom
    refine ⟨h.distinct, h.shelved, by simp only; omega, h.ticketed, ?_⟩
    simp only [stakeOf, creators_creation]
    omega
  · rw [heq]
    exact ⟨h.distinct, h.shelved, h.within, h.ticketed.draw, h.slots⟩

theorem release (h : Accounts p ss) (page : π) : Accounts (p.release page).1 ss := by
  rcases release_cases p page with ⟨heq, -⟩ | ⟨hl, -, ⟨k, rest, hw, heq⟩ | ⟨hw, heq⟩⟩
  · exact heq.symm ▸ h
  · rw [heq]
    refine ⟨?_, ?_, ?_, h.ticketed.grant hw _, ?_⟩
    · exact (pages_handOn p page k rest).1.symm ▸ h.distinct
    · exact (pages_handOn p page k rest).2.1.symm ▸ h.shelved
    · simpa [handOn, adjust] using h.within
    · simpa [handOn, adjust, rooms_append, rooms_page] using h.slots
  · rw [heq]
    obtain ⟨-, hidle⟩ := lentPages_putBack h.distinct hl
    refine ⟨?_, ?_, ?_, h.ticketed.dissolve hw, h.slots⟩
    · exact (pages_putBack p page).symm ▸ h.distinct
    · exact (List.perm_append_singleton page _).trans ((h.shelved.cons page).trans hidle.symm)
    · simpa [putBack, adjust] using h.within

/-- The owner of a ticket gives up and passes on what it was granted. -/
theorem renounce (h : Accounts p (.ticket k b :: ss)) : Accounts (p.renounce k).1 ss := by
  obtain ⟨ht, hslots, hnone⟩ := h.settled
  have hwithin := h.within
  cases hx : p.handout? k with
  | none =>
    rw [renounce_none hx]
    exact ⟨h.distinct, h.shelved, hwithin, ht, hnone hx⟩
  | some x =>
    have hslots := hslots x hx
    cases x with
    | page q =>
      rw [renounce_page hx]
      have hq : Accounts (p.withdraw k) ss := ⟨h.distinct, h.shelved, hwithin, ht, hslots⟩
      exact hq.release q
    | room =>
      rw [rooms_room] at hslots
      rw [renounce_room hx]
      refine yieldRoom ⟨h.distinct, h.shelved, ?_, ht, ?_⟩ hwithin
      · simp only [withdraw, settle]; omega
      · simp only [withdraw, settle_creating]; omega
    | refused =>
      rw [renounce_refused hx]
      exact ⟨h.distinct, h.shelved, hwithin, ht, hslots⟩

/-- A page that is new to the pool is created and taken. -/
theorem created (h : Accounts p (.creation :: ss)) {page : π}
    (hp : page ∉ p.entries.map (·.page)) : Accounts (p.created page) (.page page :: ss) := by
  have hslots := h.slots
  have hwithin := h.within
  rw [creators_creation] at hslots
  rw [created_eq hp]
  refine Accounts.page page ⟨?_, ?_, ?_, h.ticketed, ?_⟩
  · rw [List.map_append, List.nodup_append]
    refine ⟨h.distinct, by simp, ?_⟩
    intro a ha c hc
    obtain rfl : c = page := by simpa using hc
    exact fun hac => hp (hac ▸ ha)
  · simpa [idlePages] using h.shelved
  · simp only [List.length_append, List.length_singleton]
    omega
  · simp only
    omega

omit [DecidableEq π] in
theorem shut (h : Accounts p ss) : Accounts p.shut.1 ss := by
  refine ⟨h.distinct, h.shelved, h.within, h.ticketed.grantAll .refused, ?_⟩
  simp only [Pool.shut, rooms_append, rooms_refusals]
  exact h.slots

omit [DecidableEq π] in
theorem clear (h : Accounts p ss) : Accounts p.clear ss := by
  have hwithin := h.within
  refine ⟨by simp [Pool.clear], by simp [Pool.clear, idlePages], ?_, h.ticketed, h.slots⟩
  simp only [Pool.clear, List.length_nil]
  omega

end Accounts

omit [DecidableEq π] in
/-- The accounts of a pool that nobody has used yet. -/
theorem accounts_empty (n : Nat) : Accounts ({ maxPages := n } : Pool π) [] := by
  refine ⟨by simp, by simp [idlePages], by simp, ?_, by simp [creators, rooms]⟩
  constructor <;> simp [tickets]

/-- The accounts are right after every move of any kind. -/
theorem stable_accounts : Stable (π := π) (fun _ => True) Accounts where
  perm := Accounts.perm
  join := Accounts.nothing
  move := by
    intro m p s q t ss _ hm h
    cases hm with
    | acquire => exact h.of_nothing.acquire
    | redeem p k hk => exact h.redeem hk
    | tell => exact h.tell
    | renounce => exact h.renounce.nothing
    | created p page fresh => exact h.created fresh
    | notCreated => exact h.notCreated.nothing
    | bringBack p page => exact (h.of_page.release page).nothing
    | release p page => exact (h.of_nothing.release page).nothing
    | shut => exact h.of_nothing.shut.nothing
    | clear => exact h.of_nothing.clear.nothing

end BrowserPlan.Pool
