import BrowserPlan.Proofs.Extraction.Levels
import BrowserPlan.Proofs.Link.Resolution
import BrowserPlan.Proofs.Run.Scraping

/-!
# Which branches a crawl starts

A crawl looks for its links by an extraction with a single key, so it gets back the values that the page was read,
each in its place (`findLinks_path`). It then goes through them: of a value that counts as absent it says nothing,
one that leads nowhere it mentions in the log, and for any other one it starts a branch, all with the index of the
value's place (`crawl_starts_branches`). `Responds` is how this is told of a program, part by part.
-/
namespace BrowserPlan

/-! ## Extraction with one key -/

namespace Extraction

variable {ε : Type}

theorem rows_singleton (key : String) (vs : List Json) :
    rows [(key, vs)] = vs.map fun v => .obj [(key, v)] := by
  refine List.ext_getElem (by simp [rows]) fun i hi hi' => ?_
  have hlt : i < vs.length := by simpa using hi'
  simp [rows, row, hlt]

theorem isResolvable_iff {selector xpath : Option String} {attributeName : String} :
    ({ selector, xpath, attributeName } : FieldSpec).isResolvable = (target? selector xpath).isSome := by
  cases hs : given selector <;> cases hx : given xpath <;> cases selector <;> cases xpath <;>
    simp_all [FieldSpec.isResolvable, FieldSpec.isStructural, target?, given]

/-- Values under a single key come to a record each, in the same order. -/
theorem results_assignValues (e : ε) {selector xpath : Option String} {attributeName target : String}
    (htarget : target? selector xpath = some target) (key : String) (vs : List Json) :
    (assignValues (⟨e, key, { selector, xpath, attributeName }, none⟩ : Work ε) 0 {} vs).results =
      vs.map fun v => .obj [(key, v)] := by
  -- a document that shows these values whatever it is asked
  let doc : Document ε := ⟨fun _ _ => [], fun _ _ _ => vs, fun _ _ => none⟩
  let f : FieldSpec := { selector, xpath, attributeName }
  have hf : f.isResolvable = true := isResolvable_iff.trans (htarget ▸ rfl)
  have hstructural : f.isStructural = false := rfl
  have hleaf : doc.leaf e f = vs := by
    have htarget' : f.target? = some target := htarget
    simp [Document.leaf, htarget', f, given, doc]
  have hvalues : doc.values e f = vs := by simp [Document.values_eq, hf, hstructural, hleaf]
  have hdistinct : Distinct [(key, f)] := ⟨nofun, trivial, trivial⟩
  have hlevels : doc.levels (Spec.depth [(key, f)]) {} (Document.works e [(key, f)]) =
      assignValues ⟨e, key, f, none⟩ 0 {} vs := by
    rw [show Spec.depth [(key, f)] = 1 from rfl]
    simp [Document.levels, Document.level, Document.step, Document.works, hf, hstructural, hleaf]
  have hrecords : doc.records e [(key, f)] = rows [(key, doc.values e f)] := rfl
  rw [← rows_singleton, ← hlevels, doc.levels_eq_records hdistinct, hrecords, hvalues]

end Extraction

namespace Link

/-- Where a value leads, if it does not count as absent. -/
def lead? (base : String) (found : Json) : Option String :=
  match resolve? (some base) found with
  | .ok (some link) => if found.truthy then some link else none
  | _ => none

theorem lead?_of_falsy {base : String} {found : Json} (h : found.truthy = false) : lead? base found = none := by
  rw [lead?, resolve?_of_falsy h]

end Link

namespace Run

open BrowserPlan.Task BrowserPlan.Browser

/-! ## What a crawl responds with -/

/-- What a crawl does because of a value that it has found. -/
inductive Response where
  /-- It says in the log that it passes the value over. -/
  | skips (message : String)
  | starts (job : Job)

/-- What is said of a value that leads nowhere. -/
def skipMessage (found : Json) (index : IterationIndex) : String :=
  "Skipping uncrawlable link " ++ found.display ++ " (index " ++ index.toString ++ ")"

/-- What is said of a value at the place `p`: nothing if it leads somewhere or counts as absent. -/
def skip? (base : String) (index : IterationIndex) (found : Json) (p : Nat) : Option Response :=
  if found.truthy && (Link.lead? base found).isNone then some (.skips (skipMessage found (index.child p))) else none

/-- The branch for a value at the place `p`, if it leads somewhere. -/
def start? (base : String) (index : IterationIndex) (steps : List Step) (found : Json) (p : Nat) : Option Response :=
  (Link.lead? base found).map fun link => .starts (.branch link (index.child p) steps)

/-- What there is at each of the places, which are counted from `n` on. -/
def atPlaces {β : Type} (f : Json → Nat → Option β) (n : Nat) (vs : List Json) : List β :=
  (vs.zipIdx n).filterMap fun x => f x.1 x.2

theorem atPlaces_cons {β : Type} (f : Json → Nat → Option β) (n : Nat) (v : Json) (vs : List Json) :
    atPlaces f n (v :: vs) = (f v n).toList ++ atPlaces f (n + 1) vs := by
  rw [atPlaces, List.zipIdx_cons, List.filterMap_cons]
  cases f v n <;> simp [atPlaces]

def Deed.response? : Deed scene → Option Response
  | .ask (.log ⟨.warning, .interpreter, message⟩) _ => some (.skips message)
  | .start job _ => some (.starts job)
  | _ => none

/-- What has been said of links, and who has been started. -/
def responsesIn (ds : List (Deed scene)) : List Response := ds.filterMap Deed.response?

/-- The program is done, or it waits for tasks that it has started. -/
def IsAtRest {α : Type} : Program scene α → Prop
  | .done _ | .gather .. => True
  | _ => False

section
variable {α β : Type} {ds es : List (Deed scene)} {ms ns : List Response} {V : α → Prop} {U : β → Prop}
  {p : Program scene α} {k : α → Program scene β}

theorem responsesIn_append : responsesIn (ds ++ es) = responsesIn ds ++ responsesIn es := List.filterMap_append

theorem IsAtRest.of_bind (h : IsAtRest (p.bind k)) : IsAtRest p := by
  cases p with
  | done | gather => trivial
  | _ => exact h

theorem IsAtRest.of_attempt (h : IsAtRest p.attempt) : IsAtRest p := by
  cases p with
  | done | gather => trivial
  | _ => exact h

/-- The program responds with `ms`, one by one, and rests only at a good end, of which `V` holds. -/
def Responds (ms : List Response) (V : α → Prop) (p : Program scene α) : Prop :=
  ∀ ds q, Program.Path p ds q → responsesIn ds <+: ms ∧
    (IsAtRest q → responsesIn ds = ms ∧ ∃ a, q = .done (.ok a) ∧ V a)

namespace Responds

theorem pure {a : α} (h : V a) : Responds [] V (pure a : Program scene α) := by
  intro ds q hpath
  obtain ⟨rfl, rfl⟩ := hpath.of_done
  exact ⟨List.prefix_refl _, fun _ => ⟨rfl, a, rfl, h⟩⟩

/-- One program after the other. -/
theorem bind (hp : Responds ms V p) (hk : ∀ a, V a → Responds ns U (k a)) : Responds (ms ++ ns) U (p >>= k) := by
  intro ds q hpath
  rcases Program.Path.bind hpath with ⟨p', hfirst, rfl⟩ | ⟨ds₁, ds₂, a, rfl, hfirst, hrest⟩
  · obtain ⟨hbegin, hend⟩ := hp _ _ hfirst
    refine ⟨hbegin.trans (List.prefix_append _ _), fun hquiet => ?_⟩
    obtain ⟨hall, a, rfl, ha⟩ := hend hquiet.of_bind
    -- the second program has not begun, and rests already
    obtain ⟨hnone, hlast⟩ := (hk a ha _ _ (.nil (k a))).2 hquiet
    rw [← hnone, hall]
    exact ⟨(List.append_nil _).symm, hlast⟩
  · obtain ⟨-, hend⟩ := hp _ _ hfirst
    obtain ⟨hall, a', heq, ha⟩ := hend trivial
    cases heq
    obtain ⟨hbegin, hlast⟩ := hk a ha _ _ hrest
    rw [responsesIn_append, hall]
    refine ⟨(List.prefix_append_right_inj ms).2 hbegin, fun hquiet => ?_⟩
    obtain ⟨hrest, hb⟩ := hlast hquiet
    exact ⟨congrArg _ hrest, hb⟩

theorem bind_pure {f : α → β} (hp : Responds ms V p) (hf : ∀ a, V a → U (f a)) :
    Responds ms U (do return f (← p)) := by
  rw [← List.append_nil ms]
  exact hp.bind fun a ha => .pure (hf a ha)

theorem of_does {d : α → Deed scene} (hd : ∀ a, (Deed.response? (d a)).toList = ms)
    (hp : ∀ d' q, p.Does d' q → ∃ a, d' = d a ∧ q = .done (.ok a)) (hnot : ¬ IsAtRest p) :
    Responds ms (fun _ => True) p := by
  intro ds q hpath
  cases ds with
  | nil =>
    obtain rfl := (Program.Path.nil p).unique hpath
    exact ⟨List.nil_prefix, fun hquiet => absurd hquiet hnot⟩
  | cons d' ds =>
    obtain ⟨q', hfirst, hrest⟩ := Program.Path.split (List.singleton_append ▸ hpath)
    obtain ⟨a, rfl, rfl⟩ := hp _ _ hfirst.does
    obtain ⟨rfl, rfl⟩ := hrest.of_done
    have hall : responsesIn [d a] = ms := by
      rw [← hd a]
      cases h : Deed.response? (d a) <;> simp [responsesIn, h]
    exact ⟨hall ▸ List.prefix_refl _, fun _ => ⟨hall, a, rfl, trivial⟩⟩

theorem ask {q : Call} (h : ∀ a, (Deed.response? (.ask q a)).toList = ms) :
    Responds ms (fun _ => True) (Run.ask q) :=
  of_does h (fun d' q' hdoes => by cases hdoes; exact ⟨_, rfl, rfl⟩) id

theorem start (job : Job) : Responds [.starts job] (fun _ => True) (Program.start (I := scene) job) :=
  of_does (d := .start job) (fun _ => rfl) (fun d' q' hdoes => by cases hdoes; exact ⟨_, rfl, rfl⟩) id

end Responds

/-- Programs without responses. -/
abbrev Unresponsive {α : Type} (p : Program scene α) : Prop := Takes (fun d => Deed.response? d = none) p

theorem Unresponsive.responsesIn_eq {q : Program scene α} (h : Unresponsive p) (hpath : Program.Path p ds q) :
    responsesIn ds = [] := List.filterMap_eq_nil_iff.2 (h.path hpath)

/-- The program has responded with the first of `ms`, and when it rests with all of them. -/
def Answers (ms : List Response) (p : Program scene α) : Prop :=
  ∀ ds q, Program.Path p ds q → responsesIn ds <+: ms ∧ (IsAtRest q → responsesIn ds = ms)

theorem Responds.answers_bind (hp : Responds ms V p) (hk : ∀ a, Unresponsive (k a)) : Answers ms (p >>= k) := by
  intro ds q hpath
  rcases Program.Path.bind hpath with ⟨p', hfirst, rfl⟩ | ⟨ds₁, ds₂, a, rfl, hfirst, hrest⟩
  · obtain ⟨hbegin, hend⟩ := hp _ _ hfirst
    exact ⟨hbegin, fun hquiet => (hend hquiet.of_bind).1⟩
  · have hall : responsesIn (ds₁ ++ ds₂) = ms := by
      rw [responsesIn_append, (hk a).responsesIn_eq hrest, List.append_nil]
      exact ((hp _ _ hfirst).2 trivial).1
    exact ⟨hall ▸ List.prefix_refl _, fun _ => hall⟩

theorem Answers.ensuring {p : Program scene α} {after : Outcome Fault α → Program scene Unit} (hp : Answers ms p)
    (hafter : ∀ r, Unresponsive (after r)) : Answers ms (p.ensuring after) := by
  intro ds q hpath
  rcases Program.Path.bind hpath with ⟨p', hfirst, rfl⟩ | ⟨ds₁, ds₂, o, rfl, hfirst, hrest⟩
  · obtain ⟨p'', hattempted, rfl⟩ := hfirst.attempt
    obtain ⟨hbegin, hend⟩ := hp _ _ hattempted
    exact ⟨hbegin, fun hquiet => hend hquiet.of_bind.of_attempt⟩
  · have hlast : Unresponsive ((after o).bind fun _ => Program.done o) :=
      Takes.bind (hafter o) fun _ => Takes.ending (r := o)
    have hall : responsesIn (ds₁ ++ ds₂) = ms := by
      rw [responsesIn_append, hlast.responsesIn_eq hrest, List.append_nil]
      exact (hp _ _ hfirst.attempt_done).2 trivial
    exact ⟨hall ▸ List.prefix_refl _, fun _ => hall⟩

end

/-! ## The values one after the other -/

section
variable {base : String} {index : IterationIndex} {steps : List Step}

theorem follow_eq_atPlaces (vs : List Json) : ∀ n : Nat, Link.follow base index n vs =
    atPlaces (fun v p => (Link.lead? base v).map fun link => (link, index.child p)) n vs := by
  induction vs with
  | nil => exact fun _ => rfl
  | cons v vs ih =>
    intro n
    rw [atPlaces_cons, Link.follow, Link.lead?, ← ih (n + 1)]
    cases htruthy : v.truthy with
    | false =>
      rw [Link.resolve?_of_falsy htruthy]
      rfl
    | true =>
      cases Link.resolve? (some base) v with
      | error fault => rfl
      | ok found => cases found <;> rfl

/-- A crawl goes through the values, mentions those that lead nowhere, and keeps the others. -/
theorem responds_branchesOf (vs : List Json) : ∀ n : Nat,
    (∀ v ∈ vs, ∃ o, Link.resolve? (some base) v = .ok o) →
    Responds (atPlaces (skip? base index) n vs) (· = Link.follow base index n vs) (branchesOf base index n vs) := by
  induction vs with
  | nil => exact fun _ _ => .pure rfl
  | cons v vs ih =>
    intro n hlinks
    have ih : Responds (atPlaces (skip? base index) (n + 1) vs) (· = Link.follow base index ((n : Int) + 1) vs)
        (branchesOf base index ((n : Int) + 1) vs) := ih (n + 1) fun v hv => hlinks v (List.mem_cons_of_mem _ hv)
    obtain ⟨o, ho⟩ := hlinks v List.mem_cons_self
    rw [branchesOf, Link.follow, atPlaces_cons, skip?]
    cases htruthy : v.truthy with
    | false =>
      rw [Link.resolve?_of_falsy htruthy]
      exact ih
    | true =>
      have hlead : Link.lead? base v = o := by cases o <;> simp [Link.lead?, ho, htruthy]
      rw [hlead, ho]
      cases o with
      | some link => exact ih.bind_pure fun later hlater => by rw [hlater]
      | none => exact (Responds.ask fun _ => rfl).bind fun _ _ => ih

theorem responds_starts (bs : List (String × IterationIndex)) :
    Responds (bs.map fun b => .starts (.branch b.1 b.2 steps)) (fun _ => True)
      (bs.mapM fun (link, here) => Program.start (I := scene) (.branch link here steps)) := by
  induction bs with
  | nil => exact .pure trivial
  | cons b bs ih =>
    rw [List.mapM_cons]
    exact (Responds.start _).bind fun t _ => ih.bind_pure fun ts _ => trivial

/-- What a crawl does with the values that it has found: it starts its branches, without waiting for them. -/
def setOut (base : String) (index : IterationIndex) (steps : List Step) (found : List Json) :
    Program scene (List TaskId) := do
  let branches ← branchesOf base index 1 found
  say .info .interpreter (s!"Crawling {branches.length} links from " ++ base)
  branches.mapM fun (link, here) => Program.start (I := scene) (.branch link here steps)

/-- What a crawl does because of the values that it has found. -/
def responses (base : String) (index : IterationIndex) (steps : List Step) (found : List Json) : List Response :=
  atPlaces (skip? base index) 1 found ++ atPlaces (start? base index steps) 1 found

theorem responds_setOut {found : List Json} (hlinks : ∀ v ∈ found, ∃ o, Link.resolve? (some base) v = .ok o) :
    Responds (responses base index steps found) (fun _ => True) (setOut base index steps found) := by
  have hstarts : (Link.follow base index 1 found).map (fun b => .starts (.branch b.1 b.2 steps)) =
      atPlaces (start? base index steps) 1 found := by
    have hfollow : Link.follow base index (1 : Nat) found = _ := follow_eq_atPlaces found 1
    rw [show ((1 : Nat) : Int) = 1 from rfl] at hfollow
    rw [hfollow, atPlaces, List.map_filterMap, atPlaces]
    simp only [start?, Option.map_map, Function.comp_def]
  rw [responses, ← hstarts, ← List.nil_append (List.map _ _)]
  refine (responds_branchesOf found 1 hlinks).bind ?_
  rintro bs rfl
  exact (Responds.ask fun _ => rfl).bind fun _ _ => responds_starts _

end

/-! ## Looking for the links -/

section
variable {page : PageId} {index : IterationIndex} {selector xpath : Option String} {attributeName : String}
  {root : Party} {ds : List (Deed scene)} {vs : List Json}

theorem target?_ne_empty {target : String} (h : target? selector xpath = some target) : target ≠ "" := by
  rw [target?] at h
  split at h
  · rename_i hgiven
    rw [h, given] at hgiven
    simpa using hgiven
  · split at h
    · obtain ⟨path, -, rfl⟩ := Option.map_eq_some_iff.1 h
      simp [String.ext_iff]
    · cases h

/-- With a target, extraction by the key of a crawl is reading, with a record for each value. -/
theorem extract_links (root : Party) {target : String} (htarget : target? selector xpath = some target) :
    extract root (Spec.links selector xpath attributeName) = (do
      let vs ← readAll root (some target) attributeName
      return vs.map fun v => .obj [("links", v)]) := by
  let f : FieldSpec := { selector, xpath, attributeName }
  have hf : f.isResolvable = true := Extraction.isResolvable_iff.trans (htarget ▸ rfl)
  have hstructural : f.isStructural = false := rfl
  have htarget' : f.target? = some target := htarget
  have hregex : given f.regex = false := rfl
  have hlevels : Extraction.resolveLevels documents 1 {} [⟨root, "links", f, none⟩] =
      Extraction.assignValues ⟨root, "links", f, none⟩ 0 {} <$> readAll root (some target) attributeName := by
    simp [Extraction.resolveLevels, Extraction.resolveLevel, Extraction.resolve, Extraction.leafValues, hf, hstructural,
      htarget', hregex, documents]
    rfl
  calc extract root (Spec.links selector xpath attributeName)
      = Extraction.Arena.results <$> Extraction.resolveLevels documents 1 {} [⟨root, "links", f, none⟩] := rfl
    _ = (fun vs => vs.map fun v => .obj [("links", v)]) <$> readAll root (some target) attributeName := by
        rw [hlevels, ← comp_map]
        exact congrArg (· <$> _) (funext (Extraction.results_assignValues root htarget "links"))

/-- Without one, nothing is read. -/
theorem extract_links_of_none (root : Party) (htarget : target? selector xpath = none) :
    extract root (Spec.links selector xpath attributeName) = (do
      documents.skip "links"
      return []) := by
  let f : FieldSpec := { selector, xpath, attributeName }
  have hf : f.isResolvable = false := by
    rw [← Bool.not_eq_true, Extraction.isResolvable_iff, htarget]
    nofun
  have hlevels : Extraction.resolveLevels documents 1 {} [⟨root, "links", f, none⟩] =
      (fun _ => {}) <$> documents.skip "links" := by
    simp [Extraction.resolveLevels, Extraction.resolveLevel, Extraction.resolve, hf]
  calc extract root (Spec.links selector xpath attributeName)
      = Extraction.Arena.results <$> Extraction.resolveLevels documents 1 {} [⟨root, "links", f, none⟩] := rfl
    _ = (fun _ => []) <$> documents.skip "links" := by
        rw [hlevels, ← comp_map]
        rfl

/-- Discovery reads the page once, at its end, and finds what it was read; without a target it finds nothing. -/
def Discovers (page : PageId) (selector xpath : Option String) (attributeName : String) (looked : List (Deed scene))
    (found : List Json) : Prop :=
  match target? selector xpath with
  | some target => ∃ before landing, (∀ d ∈ before, Deed.IsUnfinished d) ∧
      looked = before ++ [.ask (.complete (.page page) landing (.read target attributeName)) (.ok found)]
  | none => found = [] ∧ ∀ d ∈ looked, Deed.IsUnfinished d

theorem linkValues_map (vs : List Json) : linkValues (vs.map fun v => .obj [("links", v)]) = vs := by
  rw [linkValues, List.map_map]
  exact List.map_id vs

theorem findLinks_path {found : List Json}
    (h : Program.Path (findLinks page index selector xpath attributeName) ds (.done (.ok found))) :
    Discovers page selector xpath attributeName ds found := by
  obtain ⟨looked, rest, o, rfl, hextract, hend⟩ := Program.Path.attempt_end h
  obtain ⟨records, rfl⟩ : ∃ records, o = .ok records := by
    match o with
    | .ok records => exact ⟨records, rfl⟩
    | .error .cancelled | .error .interrupted | .error (.failed _) => cases hend.of_done.2
  obtain ⟨rfl, heq⟩ := hend.of_done
  cases heq
  rw [List.append_nil, Discovers.eq_def]
  cases htarget : target? selector xpath with
  | some target =>
    rw [extract_links _ htarget] at hextract
    obtain ⟨ds₁, ds₂, vs, rfl, hread, hlast⟩ := Program.Path.bind_done hextract
    obtain ⟨rfl, heq⟩ := hlast.of_done
    cases heq
    rw [readAll, Option.filter_some, if_pos (by simpa using target?_ne_empty htarget)] at hread
    obtain ⟨before, landing, rfl, hbefore⟩ := invoke_completes hread
    rw [linkValues_map, List.append_nil]
    exact ⟨before, landing, hbefore, rfl⟩
  | none =>
    rw [extract_links_of_none _ htarget] at hextract
    obtain ⟨ds₁, ds₂, _, rfl, hskip, hlast⟩ := Program.Path.bind_done hextract
    obtain ⟨rfl, heq⟩ := hlast.of_done
    cases heq
    obtain ⟨_, _, rfl, hend⟩ := Program.Path.of_call hskip
    obtain ⟨rfl, -⟩ := hend.of_done
    refine ⟨rfl, ?_⟩
    simp [Deed.IsUnfinished]

/-! ## The crawl -/

variable {steps : List Step} {base : String} {looked : List (Deed scene)} {found : List Json} {span : Nat}
  {q : Program scene Unit}

theorem crawl_setsOut : crawl page index selector xpath attributeName steps = (do
    let found ← findLinks page index selector xpath attributeName
    let base ← ask (.urlOf page)
    let tasks ← setOut base index steps found
    Program.joinAll tasks false) := by
  simp only [crawl, setOut, bind_assoc]

theorem unresponsive_invoke (who : Party) (op : Operation) : Unresponsive (invoke who op) :=
  takes_invoke_of (fun _ h => by cases h <;> rfl) fun _ h => by cases h <;> rfl

theorem unresponsive_findLinks : Unresponsive (findLinks page index selector xpath attributeName) := by
  have hextract : Unresponsive (extract (.page page) (Spec.links selector xpath attributeName)) := by
    cases htarget : target? selector xpath with
    | some target =>
      rw [extract_links _ htarget]
      exact Takes.bind (takes_readAll_of unresponsive_invoke _ _ _) fun vs => .pure _
    | none =>
      rw [extract_links_of_none _ htarget]
      exact Takes.bind (.ask fun _ => rfl) fun _ => .pure _
  refine Takes.attempt hextract fun r => ?_
  split
  · exact .pure _
  · exact .fail _
  · exact .ending _

/-- A crawl that has found its links goes on to set out. -/
theorem runStep_discovered
    (hlooked : Program.Path (findLinks page index selector xpath attributeName) looked (.done (.ok found)))
    (base : String) (span : Nat) : Program.Path (runStep page index (.crawl selector xpath attributeName steps))
      (opening .crawl index span ++ (looked ++ [.ask (.urlOf page) base]))
      (Program.ensuring (setOut base index steps found >>= fun tasks => Program.joinAll tasks false) fun r =>
        ask (.closeSpan span (SpanStatus.ofOutcome r))) := by
  have hopen : Program.Path (runStep page index (.crawl selector xpath attributeName steps)) (opening .crawl index span)
      (Program.ensuring (crawl page index selector xpath attributeName steps) fun r =>
        ask (.closeSpan span (SpanStatus.ofOutcome r))) := by
    rw [runStep_eq]
    exact (((Program.Path.nil _).snoc (.ask ..)).snoc (.ask ..)).snoc (.ask ..)
  refine hopen.append ?_
  rw [crawl_setsOut]
  exact (((hlooked.first _).attempted).first _).snoc (.ask ..)

/-- A crawl that is over has ended as its discovery did, or that has succeeded. -/
theorem lost_or_discovered {r : Outcome Fault Unit}
    (h : Program.Path (runStep page index (.crawl selector xpath attributeName steps)) ds (.done r)) :
    (∃ looked e, r = .error e ∧
      Program.Path (findLinks page index selector xpath attributeName) looked (.done (.error e))) ∨
    ∃ span looked found base,
      Program.Path (findLinks page index selector xpath attributeName) looked (.done (.ok found)) ∧
        opening .crawl index span ++ (looked ++ [.ask (.urlOf page) base]) <+: ds := by
  obtain ⟨span, body, rfl, hcrawl⟩ := runStep_path h
  rw [stepBody, crawl_setsOut] at hcrawl
  rcases Program.Path.bind_end hcrawl with ⟨e, hlost, rfl⟩ | ⟨looked, rest, found, rfl, hlooked, hrest⟩
  · exact .inl ⟨_, e, rfl, hlost⟩
  · obtain ⟨base, rest, rfl, -⟩ := ask_path hrest
    refine .inr ⟨span, looked, found, base, hlooked, (List.prefix_append_right_inj _).2 ?_⟩
    refine ⟨rest ++ [.ask (.closeSpan span (SpanStatus.ofOutcome r)) ()], ?_⟩
    simp only [List.append_assoc, List.cons_append, List.nil_append]

/-- A crawl whose discovery has succeeded has found the values that its page was read, each in its place. If each
of them leads somewhere or nowhere, then the crawl starts a branch for those that lead somewhere, in their order,
mentions in the log those that do not but do not count as absent, and says nothing of the others; this is done
when it waits for its branches, and when it is over. -/
theorem crawl_starts_branches
    (hlooked : Program.Path (findLinks page index selector xpath attributeName) looked (.done (.ok found)))
    (h : Program.Path (runStep page index (.crawl selector xpath attributeName steps)) ds q)
    (hds : opening .crawl index span ++ (looked ++ [.ask (.urlOf page) base]) <+: ds)
    (hlinks : ∀ v ∈ found, ∃ o, Link.resolve? (some base) v = .ok o) :
    Discovers page selector xpath attributeName looked found ∧
    responsesIn ds <+: responses base index steps found ∧
    (IsAtRest q → responsesIn ds = responses base index steps found) := by
  refine ⟨findLinks_path hlooked, ?_⟩
  obtain ⟨rest, rfl⟩ := hds
  obtain ⟨p, hp, hrest⟩ := h.split
  obtain rfl := (runStep_discovered hlooked base span).unique hp
  have hnone : responsesIn (opening .crawl index span ++ (looked ++ [.ask (.urlOf page) base])) = [] := by
    rw [responsesIn_append, responsesIn_append, unresponsive_findLinks.responsesIn_eq hlooked]
    rfl
  rw [responsesIn_append, hnone, List.nil_append]
  have hanswers : Answers (responses base index steps found)
      (setOut base index steps found >>= fun tasks => Program.joinAll tasks false) :=
    (responds_setOut hlinks).answers_bind fun tasks => Program.Avoids.joinAll (fun _ => rfl) fun _ => trivial
  exact hanswers.ensuring (fun r => Takes.ask fun _ => rfl) _ _ hrest

end

/-- A world whose page shows an element without a link, one with a link, and one that writes a letter. -/
def letterListing : World :=
  let linkTo (url : String) : Markup := { props := [("href", .str url)] }
  let listing : Markup := { children := [("a", [{}, linkTo "b", linkTo "mailto:x"])] }
  let w := (World.ofSite { documents := [("http://a/", listing)] } ⟨[]⟩).withPage "main" "http://a/"
  { w with pool := { maxPages := 1 }, session := { hasContext := true } }

/-- The values are those of the listing. -/
def isLetterListing : List Json → Bool
  | [.null, .str "b", .str "mailto:x"] => true
  | _ => false

/-- The page is read as the listing, at its address. -/
def Deed.isOfListing : Deed scene → Bool
  | .ask (.complete _ _ (.read _ _)) (.ok vs) => isLetterListing vs
  | .ask (.urlOf _) base => base == "http://a/"
  | _ => true

/-- The link has the second place and the letter the third one; nothing is said of the first one. -/
theorem crawl_starts_branches_letterListing : ∃ looked ds,
    Program.Path (findLinks 0 .root (some "a") none "href") looked
      (.done (.ok [.null, .str "b", .str "mailto:x"])) ∧
    Program.Path (runStep 0 .root (.crawl (some "a") none "href" [])) ds (.done (.ok ())) ∧
    responsesIn ds = [.skips "Skipping uncrawlable link 'mailto:x' (index 3)",
      .starts (.branch "http://a/b" (IterationIndex.root.child 2) [])] := by
  have hplay : (Crew.rehearse machine (List.replicate 9 0 ++ List.replicate 12 1 ++ List.replicate 3 0)
      (Crew.single machine letterListing (.steps 0 [.crawl (some "a") none "href" []] .root))).any (fun x =>
        (x.2.result? 0).isSome && (deedsOf x.1 0).all Deed.isOfListing &&
          (deedsOf x.1 0).getLast?.any Deed.closesWell) = true := by decide +kernel
  obtain ⟨⟨h, c⟩, hrun, hall⟩ := (Option.any_eq_true _ _).1 hplay
  simp only [Bool.and_eq_true, Option.isSome_iff_exists, List.all_eq_true] at hall
  obtain ⟨⟨⟨r, hend⟩, hlisting⟩, hlast⟩ := hall
  have hbusy : deedsOf h 0 ≠ [] := fun heq => by
    rw [heq] at hlast
    cases hlast
  have hr : Crew.Reaches machine IsOutside _ h c := Crew.reaches_of_rehearse .refl hrun
  obtain ⟨r₀, hpath⟩ := (hr.path_done hend).resolve_left hbusy
  obtain ⟨r', hcrawl⟩ := single_step_path hpath
  obtain rfl := runStep_path_ok hcrawl hlast
  obtain ⟨span, looked, found, base, hlooked, hds⟩ := (lost_or_discovered hcrawl).resolve_left (by simp)
  have hin : ∀ d ∈ looked ++ [.ask (.urlOf 0) base], Deed.isOfListing d = true := fun d hd =>
    hlisting d (hds.subset (List.mem_append_right _ hd))
  have hbase : base = "http://a/" := by simpa [Deed.isOfListing] using hin (.ask (.urlOf 0) base) (by simp)
  obtain ⟨before, landing, -, hread⟩ : Discovers 0 (some "a") none "href" looked found := findLinks_path hlooked
  have hfound : isLetterListing found = true :=
    hin (.ask (.complete (.page 0) landing (.read "a" "href")) (.ok found)) (by simp [hread])
  have hletter : Link.resolve? (some "http://a/") (.str "mailto:x") = .ok none := by decide +kernel
  have hlink : Link.resolve? (some "http://a/") (.str "b") = .ok (some "http://a/b") := by decide +kernel
  have hmessage : skipMessage (.str "mailto:x") (IterationIndex.root.child 3) =
      "Skipping uncrawlable link 'mailto:x' (index 3)" := by decide +kernel
  rw [isLetterListing.eq_def] at hfound
  split at hfound
  · subst hbase
    have hlinks : ∀ v ∈ [.null, .str "b", .str "mailto:x"], ∃ o, Link.resolve? (some "http://a/") v = .ok o := by
      intro v hv
      simp only [List.mem_cons, List.not_mem_nil, or_false] at hv
      rcases hv with rfl | rfl | rfl
      exacts [⟨_, rfl⟩, ⟨_, hlink⟩, ⟨_, hletter⟩]
    obtain ⟨-, -, hresponses⟩ := crawl_starts_branches hlooked hcrawl hds hlinks
    refine ⟨looked, _, hlooked, hcrawl, ?_⟩
    have hnull : Link.lead? "http://a/" .null = none := Link.lead?_of_falsy rfl
    have hleads : Link.lead? "http://a/" (.str "b") = some "http://a/b" := by
      rw [Link.lead?, hlink]
      rfl
    have hleadsNot : Link.lead? "http://a/" (.str "mailto:x") = none := by rw [Link.lead?, hletter]
    rw [hresponses trivial, ← hmessage]
    simp [responses, atPlaces, skip?, start?, hnull, hleads, hleadsNot, Json.truthy]
  · cases hfound

end Run

end BrowserPlan
