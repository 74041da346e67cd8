import BrowserPlan.Link
import Mathlib.Data.List.TakeDrop

/-!
# Authorities

A text is no address only because of its authority (`Url.read_eq`), and an authority is refused only for a
bracket or a deceptive character in it (`Url.checkAuthority_of_plain`). Joining a reference to a base brings
no such characters in (`Url.isPlain_join`).
-/
namespace BrowserPlan.Url

/-! ## Reading -/

/-- What follows the scheme of a text. -/
def afterScheme (text : String) : List Char :=
  match scheme? (cleaned text.toList) with
  | some (_, rest) => rest
  | none => cleaned text.toList

/-- The scheme of a text, or `inherited` if it names none. -/
def schemeOf (inherited text : String) : String :=
  match scheme? (cleaned text.toList) with
  | some (name, _) => String.ofList name
  | none => inherited

/-- The authority of a text. -/
def authorityOf (text : String) : List Char := (splitAuthority (afterScheme text)).1

/-- A path with its parameters, where the scheme has any. -/
def withParams (scheme : String) (path : List Char) : List Char × List Char :=
  if parametric.contains scheme then splitParams path else (path, [])

/-- The parts of a text whose authority nobody has looked at. -/
def partsOf (inherited text : String) : Url :=
  let scheme := schemeOf inherited text
  let body := cut '#' (splitAuthority (afterScheme text)).2
  let front := cut '?' body.1
  let path := withParams scheme front.1
  ⟨scheme, String.ofList (authorityOf text), String.ofList path.1, String.ofList path.2,
    String.ofList (front.2.getD []), String.ofList (body.2.getD [])⟩

/-- Reading a text is taking it apart, if its authority is not refused. -/
theorem read_eq (inherited text : String) :
    read inherited text = (checkAuthority (authorityOf text)).map fun _ => partsOf inherited text := by
  unfold read partsOf withParams authorityOf schemeOf afterScheme
  cases scheme? (cleaned text.toList) with
  | none =>
    dsimp only
    cases checkAuthority (splitAuthority (cleaned text.toList)).1 <;> rfl
  | some found =>
    dsimp only
    cases checkAuthority (splitAuthority found.2).1 <;> rfl

theorem read_eq_error_iff {inherited text : String} {fault : UrlFault} :
    read inherited text = .error fault ↔ checkAuthority (authorityOf text) = .error fault := by
  rw [read_eq]
  cases checkAuthority (authorityOf text) <;> simp [Except.map]

theorem read_eq_ok_iff {inherited text : String} {u : Url} :
    read inherited text = .ok u ↔ checkAuthority (authorityOf text) = .ok () ∧ u = partsOf inherited text := by
  rw [read_eq]
  cases checkAuthority (authorityOf text) <;> simp [Except.map, eq_comm]

/-! ## Plain characters -/

/-- A character that no authority is refused for. -/
def IsPlainChar (c : Char) : Prop := c ≠ '[' ∧ c ≠ ']' ∧ deceptiveCodes.contains c.toNat = false

instance (c : Char) : Decidable (IsPlainChar c) := inferInstanceAs (Decidable (_ ∧ _ ∧ _))

/-- All these characters are plain. -/
def AllPlain (cs : List Char) : Prop := ∀ c ∈ cs, IsPlainChar c

/-- A text of plain characters. -/
abbrev IsPlain (text : String) : Prop := AllPlain text.toList

instance (cs : List Char) : Decidable (AllPlain cs) := List.decidableBAll IsPlainChar cs

theorem checkAuthority_of_plain {cs : List Char} (h : AllPlain cs) : checkAuthority cs = .ok () := by
  have hopening : cs.contains '[' = false := by
    simpa using fun hc => (h _ hc).1 rfl
  have hclosing : cs.contains ']' = false := by
    simpa using fun hc => (h _ hc).2.1 rfl
  have hdeceptive : (cs.any fun c => deceptiveCodes.contains c.toNat) = false :=
    List.any_eq_false.2 fun c hc => Bool.not_eq_true _ ▸ (h c hc).2.2
  simp only [checkAuthority, hopening, hclosing, hdeceptive]
  rfl

/-- Characters with low codes are plain, but for brackets. -/
theorem isPlainChar_of_toNat {c : Char} (hlow : c.toNat < 128) (hopening : c.toNat ≠ 91) (hclosing : c.toNat ≠ 93) :
    IsPlainChar c := by
  refine ⟨fun heq => hopening (heq ▸ rfl), fun heq => hclosing (heq ▸ rfl), ?_⟩
  have hhigh : ∀ n ∈ deceptiveCodes, 128 ≤ n := by decide
  have hnot : c.toNat ∉ deceptiveCodes := fun hmem => absurd (hhigh _ hmem) (by omega)
  simpa using hnot

/-- A letter in lower case is as plain as it was. -/
theorem IsPlainChar.toLower {c : Char} (h : IsPlainChar c) : IsPlainChar c.toLower := by
  unfold Char.toLower
  split
  · rename_i hupper
    have hcode : c.val.toNat ≤ 90 ∧ 65 ≤ c.val.toNat := ⟨hupper.2, hupper.1⟩
    have hsum : (c.val + ('a'.val - 'A'.val)).toNat = c.val.toNat + 32 := by
      rw [UInt32.toNat_add]
      exact Nat.mod_eq_of_lt (show c.val.toNat + 32 < 2 ^ 32 by omega)
    refine isPlainChar_of_toNat ?_ ?_ ?_ <;> rw [Char.toNat, hsum] <;> omega
  · exact h

section
variable {cs ds : List Char}

theorem AllPlain.subset (h : AllPlain cs) (hsub : ds ⊆ cs) : AllPlain ds := fun c hc => h c (hsub hc)

theorem allPlain_append : AllPlain (cs ++ ds) ↔ AllPlain cs ∧ AllPlain ds := List.forall_mem_append

/-- Both parts of a text are parts of it. -/
theorem cut_subset (sep : Char) (cs : List Char) : (cut sep cs).1 ⊆ cs ∧ (cut sep cs).2.getD [] ⊆ cs := by
  have hback : ∀ {back}, cs.dropWhile (· != sep) = sep :: back → back ⊆ cs := fun h =>
    List.Subset.trans (List.subset_cons_self _ _) (h ▸ (List.dropWhile_sublist _).subset)
  rw [cut, List.span_eq_takeWhile_dropWhile]
  cases hrest : cs.dropWhile (· != sep) with
  | nil => exact ⟨(List.takeWhile_sublist _).subset, List.nil_subset _⟩
  | cons c back =>
    have hsub : c :: back ⊆ cs := hrest ▸ (List.dropWhile_sublist _).subset
    exact ⟨(List.takeWhile_sublist _).subset, fun d hd => hsub (List.mem_cons_of_mem _ hd)⟩

theorem cleaned_subset (cs : List Char) : cleaned cs ⊆ cs := fun _ hc =>
  (List.dropWhile_sublist _).subset (List.mem_filter.1 hc).1

theorem scheme?_subset {name rest : List Char} (h : scheme? cs = some (name, rest)) :
    rest ⊆ cs ∧ ∃ written, written ⊆ cs ∧ name = written.map Char.toLower := by
  obtain ⟨hfront, hback⟩ := cut_subset ':' cs
  rw [scheme?] at h
  split at h
  · rename_i c written rest' hcut
    rw [hcut] at hfront hback
    split at h
    · cases h
      exact ⟨hback, _, hfront, rfl⟩
    · cases h
  · cases h

theorem splitAuthority_subset (cs : List Char) : (splitAuthority cs).1 ⊆ cs ∧ (splitAuthority cs).2 ⊆ cs := by
  rw [splitAuthority.eq_def]
  split
  · rename_i rest
    have hrest : rest ⊆ '/' :: '/' :: rest := fun c hc => List.mem_cons_of_mem _ (List.mem_cons_of_mem _ hc)
    rw [List.span_eq_takeWhile_dropWhile]
    exact ⟨List.Subset.trans (List.takeWhile_sublist _).subset hrest,
      List.Subset.trans (List.dropWhile_sublist _).subset hrest⟩
  · exact ⟨List.nil_subset _, List.Subset.refl _⟩

theorem splitParams_subset (cs : List Char) : (splitParams cs).1 ⊆ cs ∧ (splitParams cs).2 ⊆ cs := by
  have hlast : (cs.reverse.takeWhile (· != '/')).reverse ⊆ cs := fun c hc =>
    List.mem_reverse.1 ((List.takeWhile_sublist _).subset (List.mem_reverse.1 hc))
  obtain ⟨hfront, hback⟩ := cut_subset ';' (cs.reverse.takeWhile (· != '/')).reverse
  rw [splitParams]
  split
  · rename_i name params hcut
    rw [hcut] at hfront hback
    exact ⟨List.append_subset.2 ⟨(List.take_sublist _ _).subset, List.Subset.trans hfront hlast⟩,
      List.Subset.trans hback hlast⟩
  · exact ⟨List.Subset.refl _, List.nil_subset _⟩

theorem withParams_subset (scheme : String) (cs : List Char) :
    (withParams scheme cs).1 ⊆ cs ∧ (withParams scheme cs).2 ⊆ cs := by
  rw [withParams]
  split
  · exact splitParams_subset cs
  · exact ⟨List.Subset.refl _, List.nil_subset _⟩

end

/-- The parts of an address are plain. -/
structure HasPlainParts (u : Url) : Prop where
  scheme : IsPlain u.scheme
  authority : IsPlain u.authority
  path : IsPlain u.path
  params : IsPlain u.params
  query : IsPlain u.query
  fragment : IsPlain u.fragment

theorem plain_partsOf {inherited text : String} (hinherited : IsPlain inherited) (h : IsPlain text) :
    (partsOf inherited text).HasPlainParts := by
  have hcleaned : AllPlain (cleaned text.toList) := h.subset (cleaned_subset _)
  have hscheme : IsPlain (schemeOf inherited text) := by
    rw [schemeOf]
    split
    · rename_i name rest hname
      obtain ⟨-, written, hwritten, rfl⟩ := scheme?_subset hname
      intro c hc
      rw [String.toList_ofList] at hc
      obtain ⟨d, hd, rfl⟩ := List.mem_map.1 hc
      exact (hcleaned d (hwritten hd)).toLower
    · exact hinherited
  have hafter : AllPlain (afterScheme text) := by
    rw [afterScheme]
    split
    · rename_i name rest hname
      exact hcleaned.subset (scheme?_subset hname).1
    · exact hcleaned
  obtain ⟨hauthority, hrest⟩ := splitAuthority_subset (afterScheme text)
  obtain ⟨hbody, hfragment⟩ := cut_subset '#' (splitAuthority (afterScheme text)).2
  obtain ⟨hfront, hquery⟩ := cut_subset '?' (cut '#' (splitAuthority (afterScheme text)).2).1
  obtain ⟨hpath, hparams⟩ := withParams_subset (schemeOf inherited text)
    (cut '?' (cut '#' (splitAuthority (afterScheme text)).2).1).1
  have hrest := hafter.subset hrest
  have hbody := hrest.subset hbody
  have hfront := hbody.subset hfront
  constructor <;> simp only [IsPlain, partsOf, String.toList_ofList]
  · exact hscheme
  · exact hafter.subset hauthority
  · exact hfront.subset hpath
  · exact hfront.subset hparams
  · exact hbody.subset hquery
  · exact hrest.subset hfragment

theorem plain_authorityOf {text : String} (h : IsPlain text) : AllPlain (authorityOf text) := by
  have hparts := (@plain_partsOf "" text (by decide) h).authority
  rwa [partsOf, IsPlain, String.toList_ofList] at hparts

/-! ## Joining -/

theorem plain_splitOnChar (sep : Char) {cs : List Char} (h : AllPlain cs) :
    ∀ piece ∈ FilePath.splitOnChar sep cs, AllPlain piece := by
  induction cs with
  | nil => simpa [FilePath.splitOnChar] using h
  | cons c rest ih =>
    obtain ⟨hc, hrest⟩ := List.forall_mem_cons.1 h
    have hpieces := ih hrest
    rw [FilePath.splitOnChar]
    split
    · exact List.forall_mem_cons.2 ⟨fun _ => nofun, hpieces⟩
    · split
      · exact List.forall_mem_singleton.2 (List.forall_mem_singleton.2 hc)
      · rename_i piece pieces heq
        rw [heq] at hpieces
        obtain ⟨hpiece, hpieces⟩ := List.forall_mem_cons.1 hpieces
        exact List.forall_mem_cons.2 ⟨List.forall_mem_cons.2 ⟨hc, hpiece⟩, hpieces⟩

theorem dropEmptyInside_subset (pieces : List (List Char)) : dropEmptyInside pieces ⊆ pieces := by
  rw [dropEmptyInside.eq_def]
  split
  · exact List.Subset.refl _
  · exact List.Subset.refl _
  · rename_i piece rest hrest
    have hlast : rest.getLast?.getD [] ∈ rest := by
      rw [List.getLast?_eq_some_getLast hrest]
      exact List.getLast_mem _
    refine List.cons_subset_cons _ (List.append_subset.2 ⟨?_, List.cons_subset.2 ⟨hlast, List.nil_subset _⟩⟩)
    exact fun p hp => List.dropLast_subset _ (List.mem_filter.1 hp).1

theorem plain_resolveDots {pieces : List (List Char)} (h : ∀ piece ∈ pieces, AllPlain piece) :
    ∀ piece ∈ resolveDots pieces, AllPlain piece := by
  have hfold : ∀ (acc : List (List Char)), (∀ piece ∈ acc, AllPlain piece) →
      ∀ piece ∈ pieces.foldl (fun acc s =>
        if s == ['.', '.'] then acc.dropLast else if s == ['.'] then acc else acc ++ [s]) acc, AllPlain piece := by
    induction pieces with
    | nil => exact fun acc hacc => hacc
    | cons s rest ih =>
      obtain ⟨hs, hrest⟩ := List.forall_mem_cons.1 h
      refine fun acc hacc => ih hrest _ ?_
      dsimp only
      split
      · exact fun piece hin => hacc piece (List.dropLast_subset _ hin)
      · split
        · exact hacc
        · exact List.forall_mem_append.2 ⟨hacc, List.forall_mem_singleton.2 hs⟩
  rw [resolveDots]
  split
  · exact List.forall_mem_append.2 ⟨hfold [] nofun, List.forall_mem_singleton.2 fun _ => nofun⟩
  · exact hfold [] nofun

theorem plain_targetSegments {base path : String} (hbase : IsPlain base) (hpath : IsPlain path) :
    ∀ piece ∈ targetSegments base path, AllPlain piece := by
  have hbase := plain_splitOnChar '/' hbase
  have hpath := plain_splitOnChar '/' hpath
  rw [targetSegments]
  split
  · exact hpath
  · intro piece hpiece
    rcases List.mem_append.1 (dropEmptyInside_subset _ hpiece) with hin | hin
    · refine hbase piece ?_
      split at hin
      · exact hin
      · exact List.dropLast_subset _ hin
    · exact hpath piece hin

theorem plain_intercalate {pieces : List (List Char)} (h : ∀ piece ∈ pieces, AllPlain piece) :
    AllPlain (List.intercalate ['/'] pieces) := by
  induction pieces with
  | nil => exact nofun
  | cons piece rest ih =>
    obtain ⟨hpiece, hrest⟩ := List.forall_mem_cons.1 h
    cases rest with
    | nil => rwa [List.intercalate_singleton]
    | cons =>
      rw [List.intercalate_cons_cons]
      exact allPlain_append.2 ⟨allPlain_append.2 ⟨hpiece, by decide⟩, ih hrest⟩

theorem plain_joinPath {base path : String} (hbase : IsPlain base) (hpath : IsPlain path) :
    IsPlain (joinPath base path) := by
  have hpieces := plain_resolveDots (plain_targetSegments hbase hpath)
  rw [joinPath]
  split
  · decide
  · rw [IsPlain, String.toList_ofList]
    exact plain_intercalate hpieces

theorem plain_under {b r : Url} (hb : b.HasPlainParts) (hr : r.HasPlainParts) : (under b r).HasPlainParts := by
  have hauthority : IsPlain (if authoritative.contains r.scheme then b.authority else r.authority) := by
    split
    · exact hb.authority
    · exact hr.authority
  have hquery : IsPlain (if r.query == "" then b.query else r.query) := by
    split
    · exact hb.query
    · exact hr.query
  rw [under]
  split
  · exact hr
  · dsimp only
    cases r.path == "" && r.params == "" with
    | true => exact ⟨hr.scheme, hauthority, hb.path, hb.params, hquery, hr.fragment⟩
    | false => exact ⟨hr.scheme, hauthority, plain_joinPath hb.path hr.path, hr.params, hr.query, hr.fragment⟩

theorem plain_marked {mark : Char} {part : String} (hmark : IsPlainChar mark) (h : IsPlain part) :
    AllPlain (marked mark part) := by
  rw [marked]
  split
  · exact nofun
  · exact List.forall_mem_cons.2 ⟨hmark, h⟩

theorem plain_toString {u : Url} (h : u.HasPlainParts) : IsPlain u.toString := by
  have hpath : AllPlain (u.path.toList ++ marked ';' u.params) :=
    allPlain_append.2 ⟨h.path, plain_marked (by decide) h.params⟩
  have hscheme : AllPlain (if u.scheme == "" then [] else u.scheme.toList ++ [':']) := by
    split
    · exact nofun
    · exact allPlain_append.2 ⟨h.scheme, by decide⟩
  have hwritten : AllPlain (u.writtenAuthority (u.path.toList ++ marked ';' u.params)) := by
    rw [writtenAuthority]
    split
    · refine List.forall_mem_cons.2 ⟨by decide, List.forall_mem_cons.2 ⟨by decide, ?_⟩⟩
      refine allPlain_append.2 ⟨allPlain_append.2 ⟨h.authority, ?_⟩, hpath⟩
      split <;> decide
    · exact hpath
  rw [IsPlain, toString, String.toList_ofList]
  exact allPlain_append.2 ⟨allPlain_append.2 ⟨allPlain_append.2 ⟨hscheme, hwritten⟩, plain_marked (by decide) h.query⟩,
    plain_marked (by decide) h.fragment⟩

/-- A plain reference to a plain base joins to a plain address. -/
theorem isPlain_join {base reference : String} (hbase : IsPlain base) (hreference : IsPlain reference) :
    ∃ address, join base reference = .ok address ∧ IsPlain address := by
  have hread : ∀ {inherited text}, IsPlain inherited → IsPlain text →
      read inherited text = .ok (partsOf inherited text) ∧ (partsOf inherited text).HasPlainParts := by
    intro inherited text hinherited h
    exact ⟨read_eq_ok_iff.2 ⟨checkAuthority_of_plain (plain_authorityOf h), rfl⟩, plain_partsOf hinherited h⟩
  obtain ⟨hb, hbparts⟩ := hread (show IsPlain "" by decide) hbase
  obtain ⟨hr, hrparts⟩ := hread hbparts.scheme hreference
  rw [join]
  split
  · exact ⟨_, rfl, hreference⟩
  · split
    · exact ⟨_, rfl, hbase⟩
    · rw [hb]
      dsimp only [bind, Except.bind]
      rw [hr]
      dsimp only [bind, Except.bind]
      split
      · exact ⟨_, rfl, hreference⟩
      · exact ⟨_, rfl, plain_toString (plain_under hbparts hrparts)⟩

end BrowserPlan.Url
