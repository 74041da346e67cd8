import BrowserPlan.Proofs.Link.Authority
import BrowserPlan.Proofs.Run.Solo

/-!
# Where links lead

A link leads nowhere, or to an address that can be opened; but one whose authority is refused, its own or
that of the address it means, is no link at all, and a crawl that finds one fails before it has started any
branch (`link_resolution`). Texts without brackets and deceptive characters have no such authority.
-/
namespace BrowserPlan

namespace Link

/-- The authority of a text is refused. -/
def Refused (text : String) (fault : UrlFault) : Prop := Url.checkAuthority (Url.authorityOf text) = .error fault

section
variable {base : Option String} {text u : String} {found : Json} {fault : UrlFault}

/-- What is left of a link's text is read, and then what it means. -/
theorem resolve?_text (htext : found.text? = some text) (h : Text.strip text ≠ "") : resolve? base found =
    (Url.read "" (Text.strip text)).bind fun own =>
      if lacksHost own then .ok none
      else (Url.join (base.getD "") (Text.strip text)).bind fun address =>
        (Url.read "" address).bind fun parts => if isOpenable parts then .ok (some address) else .ok none := by
  unfold resolve?
  simp only [htext, beq_iff_eq, h, if_false]
  rfl

theorem resolve?_blank (htext : found.text? = some text) (h : Text.strip text = "") :
    resolve? base found = .ok none := by
  unfold resolve?
  simp only [htext, beq_iff_eq, h, if_true]
  rfl

theorem resolve?_other (h : found.text? = none) : resolve? base found = .ok none := by
  unfold resolve?
  simp only [h]
  rfl

theorem not_refused_empty : ¬ Refused "" fault := by
  rintro ⟨⟩

theorem Refused.ne_empty (h : Refused text fault) : text ≠ "" := fun heq => not_refused_empty (heq ▸ h)

/-- A link that is read joins to an address, unless the authority of the base is refused. -/
theorem join_eq_error_iff {base own : String} {p : Url} (hown : Url.read "" own = .ok p) (hne : own ≠ "") :
    Url.join base own = .error fault ↔ base ≠ "" ∧ Refused base fault := by
  have hread : ∀ inherited, Url.read inherited own = .ok (Url.partsOf inherited own) := fun _ =>
    Url.read_eq_ok_iff.2 ⟨(Url.read_eq_ok_iff.1 hown).1, rfl⟩
  rw [Url.join]
  split
  · rename_i hbase
    refine iff_of_false (by rintro ⟨⟩) fun h => h.1 (by simpa using hbase)
  · rename_i hbase
    rw [if_neg (by simpa using hne)]
    have hbase : base ≠ "" := by simpa using hbase
    refine Iff.trans ?_ (and_iff_right hbase).symm
    rw [Refused, ← @Url.read_eq_error_iff ""]
    cases Url.read "" base with
    | error f => exact ⟨fun h => Except.error.inj h ▸ rfl, fun h => Except.error.inj h ▸ rfl⟩
    | ok b =>
      dsimp only [bind, Except.bind]
      rw [hread]
      dsimp only
      refine iff_of_false (fun h => ?_) (by rintro ⟨⟩)
      split at h <;> cases h

/-- The text is no link on the page at `base`: its own authority is refused or, if it is not turned down before,
that of the page or that of the address it means there. -/
def IsNoLink (base : Option String) (text : String) (fault : UrlFault) : Prop :=
  Refused (Text.strip text) fault ∨
    ∃ p, Url.read "" (Text.strip text) = .ok p ∧ Text.strip text ≠ "" ∧ lacksHost p = false ∧
      ((base.getD "" ≠ "" ∧ Refused (base.getD "") fault) ∨
        ∃ address, Url.join (base.getD "") (Text.strip text) = .ok address ∧ Refused address fault)

/-- A text that is no link fails, and no other one. -/
theorem resolve?_eq_error_iff (htext : found.text? = some text) :
    resolve? base found = .error fault ↔ IsNoLink base text fault := by
  rw [IsNoLink]
  by_cases hblank : Text.strip text = ""
  · rw [resolve?_blank htext hblank]
    refine iff_of_false nofun ?_
    rintro (h | ⟨p, -, hne, -⟩)
    · exact h.ne_empty hblank
    · exact hne hblank
  rw [resolve?_text htext hblank]
  cases hown : Url.read "" (Text.strip text) with
  | error f =>
    have hrefused : Refused (Text.strip text) f := Url.read_eq_error_iff.1 hown
    simp only [Except.bind, reduceCtorEq, false_and, exists_false, or_false]
    refine ⟨fun h => by cases h; exact hrefused, fun h => ?_⟩
    exact congrArg _ (Except.error.inj (hrefused.symm.trans h))
  | ok p =>
    have hnot : ¬ Refused (Text.strip text) fault := fun h => by
      rw [Url.read_eq_error_iff.2 h] at hown
      cases hown
    simp only [Except.bind, Except.ok.injEq, exists_eq_left', hnot, false_or, ne_eq, hblank, not_false_eq_true, true_and]
    cases hhost : lacksHost p with
    | true => simp
    | false =>
      simp only [Bool.false_eq_true, if_false, true_and]
      rw [← join_eq_error_iff hown hblank]
      cases hjoin : Url.join (base.getD "") (Text.strip text) with
      | error f => simp
      | ok address =>
        simp only [reduceCtorEq, false_or, Except.ok.injEq, exists_eq_left']
        rw [Refused, ← @Url.read_eq_error_iff ""]
        cases Url.read "" address with
        | error f => simp
        | ok parts =>
          refine iff_of_false (fun h => ?_) nofun
          dsimp only at h
          split at h <;> cases h

/-- Where a link leads can be opened. -/
theorem openable_of_resolve? (h : resolve? base found = .ok (some u)) :
    ∃ parts, Url.read "" u = .ok parts ∧ isOpenable parts = true := by
  cases htext : found.text? with
  | none =>
    rw [resolve?_other htext] at h
    cases h
  | some text =>
    by_cases hblank : Text.strip text = ""
    · rw [resolve?_blank htext hblank] at h
      cases h
    rw [resolve?_text htext hblank] at h
    cases hown : Url.read "" (Text.strip text) with
    | error f => rw [hown] at h; cases h
    | ok p =>
      rw [hown] at h
      dsimp only [Except.bind] at h
      split at h
      · cases h
      cases hjoin : Url.join (base.getD "") (Text.strip text) with
      | error f => rw [hjoin] at h; cases h
      | ok address =>
        rw [hjoin] at h
        dsimp only at h
        cases hread : Url.read "" address with
        | error f => rw [hread] at h; cases h
        | ok parts =>
          rw [hread] at h
          dsimp only at h
          split at h
          · cases h
            exact ⟨parts, hread, ‹_›⟩
          · cases h

/-- A link with the scheme of a network address and no authority leads nowhere. -/
theorem resolve?_of_lacksHost {p : Url} (htext : found.text? = some text)
    (hp : Url.read "" (Text.strip text) = .ok p) (hhost : lacksHost p = true) : resolve? base found = .ok none := by
  by_cases hblank : Text.strip text = ""
  · exact resolve?_blank htext hblank
  · rw [resolve?_text htext hblank, hp]
    exact if_pos hhost

theorem strip_subset (text : String) : (Text.strip text).toList ⊆ text.toList := by
  intro c hc
  rw [Text.strip, String.toList_ofList, Text.trim, List.mem_reverse] at hc
  have hback := (List.dropWhile_sublist _).subset hc
  exact (List.dropWhile_sublist _).subset (List.mem_reverse.1 hback)

/-- A plain link on a plain page leads somewhere or nowhere. -/
theorem resolve?_of_plain (htext : found.text? = some text) (hbase : Url.IsPlain (base.getD ""))
    (hplain : Url.IsPlain text) : ∃ r, resolve? base found = .ok r := by
  have hown : Url.IsPlain (Text.strip text) := hplain.subset (strip_subset text)
  have hnot : ∀ {t : String} {fault}, Url.IsPlain t → ¬ Refused t fault := by
    intro t fault ht hrefused
    rw [Refused, Url.checkAuthority_of_plain (Url.plain_authorityOf ht)] at hrefused
    cases hrefused
  obtain ⟨address, hjoin, haddress⟩ := Url.isPlain_join hbase hown
  cases h : resolve? base found with
  | ok r => exact ⟨r, rfl⟩
  | error fault =>
    rcases (resolve?_eq_error_iff htext).1 h with h | ⟨-, -, -, -, h | ⟨address', hjoin', h⟩⟩
    · exact absurd h (hnot hown)
    · exact absurd h.2 (hnot hbase)
    · cases hjoin.symm.trans hjoin'
      exact absurd h (hnot haddress)

/-- A value that counts as absent leads nowhere. -/
theorem resolve?_of_falsy (h : found.truthy = false) : resolve? base found = .ok none := by
  cases found with
  | str text =>
    obtain rfl : text = "" := by simpa [Json.truthy] using h
    exact resolve?_blank rfl rfl
  | unpaired => cases h
  | _ => exact resolve?_other rfl

end

/-! ## All links of a page -/

/-- The fault of a value that is no link at all. -/
def fault? (base : String) (found : Json) : Option UrlFault :=
  match resolve? (some base) found with
  | .error fault => some fault
  | .ok _ => none

/-- Where the values lead that lead somewhere, with the indices of their positions. -/
def follow (base : String) (index : IterationIndex) : Int → List Json → List (String × IterationIndex)
  | _, [] => []
  | position, found :: rest =>
    match resolve? (some base) found with
    | .ok (some link) => (link, index.child position) :: follow base index (position + 1) rest
    | _ => follow base index (position + 1) rest

end Link

namespace Run

open BrowserPlan.Task BrowserPlan.Browser

section
variable {base : String} {index : IterationIndex} {ds : List (Deed scene)}

/-- A crawl has the links that lead somewhere, or fails with the first value that is no link. -/
theorem branchesOf_path (vs : List Json) : ∀ {position ds} {r : Outcome Fault (List (String × IterationIndex))},
    Program.Path (branchesOf base index position vs) ds (.done r) →
      r = match vs.findSome? (Link.fault? base) with
        | some fault => .error (.failed (.address fault))
        | none => .ok (Link.follow base index position vs) := by
  induction vs with
  | nil =>
    intro position ds r h
    obtain ⟨-, heq⟩ := h.of_done
    cases heq
    rfl
  | cons v vs ih =>
    intro position ds r h
    rw [branchesOf] at h
    rw [List.findSome?_cons, Link.fault?]
    by_cases hv : v.truthy = true
    · rw [if_neg (by simpa using hv)] at h
      rw [Link.follow]
      cases hresolved : Link.resolve? (some base) v with
      | error fault =>
        rw [hresolved] at h
        obtain ⟨-, heq⟩ := h.of_done
        cases heq
        rfl
      | ok found =>
        rw [hresolved] at h
        dsimp only
        cases found with
        | some link =>
          replace h : Program.Path ((branchesOf base index (position + 1) vs).bind fun later =>
              pure ((link, index.child position) :: later)) ds (.done r) := h
          rcases Program.Path.bind_end h with ⟨e, hlater, rfl⟩ | ⟨ds₁, ds₂, later, rfl, hlater, hend⟩
          · have hends := ih hlater
            cases hfault : vs.findSome? (Link.fault? base) with
            | some fault => rwa [hfault] at hends
            | none => rw [hfault] at hends; cases hends
          · obtain ⟨-, heq⟩ := hend.of_done
            cases heq
            have hends := ih hlater
            cases hfault : vs.findSome? (Link.fault? base) with
            | some fault => rw [hfault] at hends; cases hends
            | none => rw [hfault] at hends; cases hends; rfl
        | none =>
          obtain ⟨-, es, rfl, hrest⟩ := ask_path h
          exact ih hrest
    · rw [if_pos (by simpa using hv)] at h
      rw [Link.follow, Link.resolve?_of_falsy (Bool.eq_false_iff.2 hv)]
      exact ih h

/-- A crawl that has not found any values starts nobody and ends so. One that has found some fails with the first
of them that is no link, and has started nobody then; else it starts a branch for each that leads somewhere. -/
def FollowsLinks (page : PageId) (index : IterationIndex) (selector xpath : Option String) (attributeName : String)
    (steps : List Step) (ds : List (Deed scene)) (r : Outcome Fault Unit) : Prop :=
  ∃ looked found, looked <:+: ds ∧
    Program.Path (findLinks page index selector xpath attributeName) looked (.done found) ∧
    match found with
    | .error e => r = .error e ∧ (ds.filter fun d => d.started?.isSome) = []
    | .ok vs => ∃ base, .ask (.urlOf page) base ∈ ds ∧
      match vs.findSome? (Link.fault? base) with
      | some fault => r = .error (.failed (.address fault)) ∧ (ds.filter fun d => d.started?.isSome) = []
      | none => ∃ branches : List Branching, (branches.map fun x => (x.link, x.index)) = Link.follow base index 1 vs ∧
        (ds.filter fun d => d.started?.isSome) = branches.map (·.start steps)

theorem crawl_follows_links {page : PageId} {selector xpath : Option String} {attributeName : String}
    {steps : List Step} {r : Outcome Fault Unit}
    (h : Program.Path (runStep page index (.crawl selector xpath attributeName steps)) ds (.done r)) :
    FollowsLinks page index selector xpath attributeName steps ds r := by
  obtain ⟨hpath⟩ := crawl_path h
  have hlinks : hpath.links <:+: ds := ⟨_, _, (List.append_assoc _ _ _).trans hpath.eq.symm⟩
  have hfind := hpath.path
  rcases Program.Path.bind_end hfind with ⟨e, hfind, heq⟩ | ⟨looked, rest, vs, heq, hfind, hrest⟩
  · refine ⟨_, _, hlinks, hfind, ?_⟩
    rcases hpath.lost_or_starts with ⟨e', hlost⟩ | ⟨branches, hstarts⟩
    · cases heq.symm.trans hlost.found
      exact ⟨hlost.result, hlost.starts⟩
    · cases heq.symm.trans hstarts.found
  · obtain ⟨base, rest, rfl, hbranchesOf⟩ := ask_path hrest
    have hin : looked ++ .ask (.urlOf page) base :: rest <:+: ds := heq ▸ hlinks
    refine ⟨looked, .ok vs, ?_, hfind, base, hin.subset (List.mem_append_right _ List.mem_cons_self), ?_⟩
    · exact (List.prefix_append _ _).isInfix.trans hin
    have hbranches : hpath.found = match vs.findSome? (Link.fault? base) with
        | some fault => .error (.failed (.address fault))
        | none => .ok (Link.follow base index 1 vs) := by
      rcases Program.Path.bind_end hbranchesOf with ⟨e, hrest, heq⟩ | ⟨ds₁, ds₂, later, rfl, hrest, hend⟩
      · rw [heq, branchesOf_path vs hrest]
      · obtain ⟨-, es, rfl, hend⟩ := ask_path hend
        obtain ⟨-, heq⟩ := hend.of_done
        rw [Program.done.inj heq]
        exact branchesOf_path vs hrest
    cases hfault : vs.findSome? (Link.fault? base) with
    | some fault =>
      rw [hfault] at hbranches
      rcases hpath.lost_or_starts with ⟨e', hlost⟩ | ⟨branches, hstarts⟩
      · cases hbranches.symm.trans hlost.found
        exact ⟨hlost.result, hlost.starts⟩
      · cases hbranches.symm.trans hstarts.found
    | none =>
      rw [hfault] at hbranches
      rcases hpath.lost_or_starts with ⟨e', hlost⟩ | ⟨branches, hstarts⟩
      · cases hbranches.symm.trans hlost.found
      · exact ⟨branches, Except.ok.inj (hstarts.found.symm.trans hbranches), hstarts.starts⟩

end

/-- What comes of a value that was found on the page at `base`. It fails only if it is a text that is no link
there, which takes a bracket or a deceptive character, and any other value leads nowhere; where a text leads can be
opened, and names an authority if it goes over the network; and a link that itself goes over the network and names
none leads nowhere. A crawl has no other failures from its links, but each of them ends it before it has started any
branch. -/
theorem link_resolution (base : Option String) (found : Json) :
    (∀ fault, Link.resolve? base found = .error fault ↔
      ∃ text, found.text? = some text ∧ Link.IsNoLink base text fault) ∧
    (found.text? = none → Link.resolve? base found = .ok none) ∧
    (∀ text, found.text? = some text → Url.IsPlain (base.getD "") → Url.IsPlain text →
      ∃ r, Link.resolve? base found = .ok r) ∧
    (∀ u, Link.resolve? base found = .ok (some u) → ∃ parts, Url.read "" u = .ok parts ∧
      parts.scheme ∈ ["http", "https", "file", "data"] ∧
      (parts.scheme = "http" ∨ parts.scheme = "https" → parts.authority ≠ "")) ∧
    (∀ text own, found.text? = some text → Url.read "" (Text.strip text) = .ok own →
      (own.scheme = "http" ∨ own.scheme = "https") → own.authority = "" → Link.resolve? base found = .ok none) ∧
    ∀ page index selector xpath attributeName steps ds r,
      Program.Path (runStep page index (.crawl selector xpath attributeName steps)) ds (.done r) →
        FollowsLinks page index selector xpath attributeName steps ds r := by
  refine ⟨fun fault => ?_, Link.resolve?_other, fun text => Link.resolve?_of_plain, fun u hu => ?_, ?_,
    fun _ _ _ _ _ _ _ _ h => crawl_follows_links h⟩
  · cases htext : found.text? with
    | none => simp [Link.resolve?_other htext]
    | some text => simp [Link.resolve?_eq_error_iff htext]
  · obtain ⟨parts, hread, hopenable⟩ := Link.openable_of_resolve? hu
    rw [Link.isOpenable, Bool.and_eq_true, Bool.not_eq_true'] at hopenable
    refine ⟨parts, hread, by simpa [Link.openableSchemes] using hopenable.1, fun hnetwork hnone => ?_⟩
    have hhost := hopenable.2
    rw [Link.lacksHost, hnone] at hhost
    rcases hnetwork with h | h <;> rw [h] at hhost <;> cases hhost
  · intro text own htext hown hnetwork hnone
    refine Link.resolve?_of_lacksHost htext hown ?_
    rw [Link.lacksHost, hnone]
    rcases hnetwork with h | h <;> rw [h] <;> rfl

/-- A world whose page shows a link and a text that is none. -/
def brokenListing : World :=
  let linkTo (url : String) : Markup := { props := [("href", .str url)] }
  let listing : Markup := { children := [("a", [linkTo "b", linkTo "http://[c"])] }
  let w := (World.ofSite { documents := [("http://a/", listing)] } ⟨[]⟩).withPage "main" "http://a/"
  { w with pool := { maxPages := 1 }, session := { hasContext := true } }

/-- The link leads somewhere, but the text fails, so the crawl fails and nobody is started. It would fail as well
with half of a surrogate pair in it. -/
theorem link_resolution_brokenListing :
    (∃ parts, Url.read "" "http://a/b" = .ok parts ∧ parts.scheme ∈ ["http", "https", "file", "data"] ∧
      (parts.scheme = "http" ∨ parts.scheme = "https" → parts.authority ≠ "")) ∧
    Link.resolve? (some "http://a/") (.str "http:") = .ok none ∧
    Link.resolve? (some "http://a/") .null = .ok none ∧
    (∃ r, Link.resolve? (some "http://a/") (.unpaired "b\uFFFD") = .ok r) ∧
    Link.IsNoLink (some "http://a/") "http://[c" .misplacedBracket ∧
    Link.IsNoLink (some "http://a/") "http://[\uFFFD" .misplacedBracket ∧
    ∃ ds r, Program.Path (runStep 0 .root (.crawl (some "a") none "href" [])) ds (.done r) ∧
      FollowsLinks 0 .root (some "a") none "href" [] ds r ∧ (ds.filter fun d => d.started?.isSome).length = 0 := by
  have hplay : (Crew.rehearse machine (List.replicate 8 0)
      (Crew.single machine brokenListing (.steps 0 [.crawl (some "a") none "href" []] .root))).any (fun x =>
        (x.2.result? 0).isSome && (deedsOf x.1 0).length == 7 &&
          ((deedsOf x.1 0).filter fun d => d.started?.isSome).length == 0) = true := by decide +kernel
  obtain ⟨⟨h, c⟩, hrun, hall⟩ := (Option.any_eq_true _ _).1 hplay
  simp only [Bool.and_eq_true, beq_iff_eq, Option.isSome_iff_exists] at hall
  obtain ⟨⟨⟨r, hend⟩, hlength⟩, hnobody⟩ := hall
  have hbusy : deedsOf h 0 ≠ [] := fun heq => by
    rw [heq] at hlength
    cases hlength
  have hr : Crew.Reaches machine IsOutside _ h c := Crew.reaches_of_rehearse .refl hrun
  obtain ⟨r₀, hpath⟩ := (hr.path_done hend).resolve_left hbusy
  obtain ⟨r', hcrawl⟩ := single_step_path hpath
  obtain ⟨-, -, -, -, hhostless, hcrawls⟩ := link_resolution (some "http://a/") (.str "http:")
  have hb : Link.resolve? (some "http://a/") (.str "b") = .ok (some "http://a/b") := by decide +kernel
  have hlost : Link.resolve? (some "http://a/") (.str "http://[c") = .error .misplacedBracket := by decide +kernel
  have hhalf : Link.resolve? (some "http://a/") (.unpaired "http://[\uFFFD") = .error .misplacedBracket := by
    decide +kernel
  obtain ⟨_, hc, hno⟩ := ((link_resolution (some "http://a/") (.str "http://[c")).1 .misplacedBracket).1 hlost
  obtain ⟨_, hc', hno'⟩ :=
    ((link_resolution (some "http://a/") (.unpaired "http://[\uFFFD")).1 .misplacedBracket).1 hhalf
  refine ⟨(link_resolution (some "http://a/") (.str "b")).2.2.2.1 _ hb, ?_,
    (link_resolution (some "http://a/") .null).2.1 rfl, ?_, Option.some.inj hc ▸ hno, Option.some.inj hc' ▸ hno', _, r',
    hcrawl, hcrawls _ _ _ _ _ _ _ _ hcrawl, hnobody⟩
  · have hown : Url.read "" (Text.strip "http:") = .ok ⟨"http", "", "", "", "", ""⟩ := by decide +kernel
    exact hhostless "http:" _ rfl hown (.inl rfl) rfl
  · exact (link_resolution (some "http://a/") (.unpaired "b\uFFFD")).2.2.1 "b\uFFFD" rfl (by decide) (by decide)

/-- An authority need not name a host. -/
example : Link.resolve? none (.str "http://:80/") = .ok (some "http://:80/") := by decide +kernel

end Run

end BrowserPlan
