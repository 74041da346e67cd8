import BrowserPlan.Proofs.Spec.Grammar
import Mathlib

/-!
# Specifications written back

`toJson` writes a specification as the object of its keys, and each field as the object of its six members, null for
a text that is missing. What is read is in canonical form (`IsCanonical`, `canonical_of_read`): an empty text is
none, a structural field has none of the options that it would ignore, and a leaf names its attribute and its
source. A specification in this form is read back from what is written of it, wherever it stands (`read_toJson`). So
reading what was read before and written changes nothing (`parsed_is_canonical`).
-/
namespace BrowserPlan

/-! ## Writing -/

/-- A text, or null. -/
def Json.ofText? : Option String → Json
  | some s => .str s
  | none => .null

namespace Spec

mutual

/-- The keys of a specification with what is written of their fields, in their order. -/
def written : List (String × FieldSpec) → Json.Members
  | [] => []
  | (key, f) :: rest => (key, writtenField f) :: written rest

/-- What is written of a field. -/
def writtenField : FieldSpec → Json
  | ⟨selector, xpath, regex, attributeName, source, children⟩ =>
    .obj [("selector", .ofText? selector), ("xpath", .ofText? xpath), ("regex", .ofText? regex),
      ("attribute", .str attributeName), ("source", .str source), ("children", .obj (written children))]

end

/-- A specification as the object of its fields. -/
def toJson (spec : Spec) : Json := .obj (written spec)

end Spec

/-! ## Canonical form -/

namespace FieldSpec

/-- A leaf that names its attribute and its source. -/
structure IsCanonicalLeaf (f : FieldSpec) : Prop where
  isLeaf : f.IsLeaf
  attributeName : f.attributeName ≠ ""
  source : f.source ≠ ""

/-- A structural field without options that it would ignore. -/
structure IsCanonicalNode (f : FieldSpec) : Prop where
  isNode : f.IsNode
  selector : f.selector ≠ some ""
  xpath : f.xpath ≠ some ""
  attributeName : f.attributeName = "textContent"
  source : f.source = "html"

/-- A field in canonical form, with all that is below it. -/
inductive IsCanonical : FieldSpec → Prop where
  | leaf {f} (h : IsCanonicalLeaf f) : IsCanonical f
  | node {f} (h : IsCanonicalNode f) (hkeys : ∀ m ∈ f.children, m.1 ≠ "")
      (hfields : ∀ m ∈ f.children, IsCanonical m.2) : IsCanonical f

/-- The members that are written of a field. -/
def members (f : FieldSpec) : Json.Members :=
  [("selector", .ofText? f.selector), ("xpath", .ofText? f.xpath), ("regex", .ofText? f.regex),
    ("attribute", .str f.attributeName), ("source", .str f.source), ("children", Spec.toJson f.children)]

end FieldSpec

namespace Spec

/-- A specification in canonical form, at every level. -/
def IsCanonical (spec : Spec) : Prop := ∀ m ∈ spec, m.1 ≠ "" ∧ m.2.IsCanonical

section
variable {path : String} {ms : Json.Members} {v : Json} {f : FieldSpec} {spec : Spec}

/-! ## What is read is in canonical form -/

theorem textAt?_ne_empty {name : String} : textAt? ms name ≠ some "" := fun h => by
  simpa using (Option.filter_eq_some_iff.1 h).2

/-- A text that is missing is replaced by one that says something. -/
theorem getD_textAt?_ne_empty {name other : String} (h : other ≠ "") : (textAt? ms name).getD other ≠ "" := by
  cases ht : textAt? ms name with
  | none => exact h
  | some s =>
    rintro rfl
    exact textAt?_ne_empty ht

theorem canonicalLeaf_of_shorthand {s : String} (h : Text.allBlank s = false) :
    FieldSpec.IsCanonicalLeaf { selector := some s } := by
  have hattribute : "textContent" ≠ "" := by decide
  have hsource : "html" ≠ "" := by decide
  refine ⟨⟨rfl, ⟨s, ?_, rfl⟩, ?_, ?_⟩, hattribute, hsource⟩
  · rintro rfl
    cases h
  · rintro ⟨⟩
  · rintro _ ⟨⟩

/-- Children that count as present have keys. -/
theorem ne_nil_of_read (htruthy : v.truthy = true) (h : read path v = .ok spec) : spec ≠ [] := by
  cases v with
  | obj ms =>
    rw [read] at h
    refine (wellFormed_of_readMembers path ms spec h).2 ?_
    rintro rfl
    cases htruthy
  | _ => cases h

theorem canonical_of_readMembers
    (hfields : ∀ m ∈ ms, ∀ path f, readField path m.2 = .ok f → f.IsCanonical)
    (h : readMembers path ms = .ok spec) : spec.IsCanonical := by
  induction ms generalizing spec with
  | nil =>
    cases h
    exact List.forall_mem_nil _
  | cons m rest ih =>
    rw [readMembers] at h
    split at h
    · cases h
    rename_i hkey
    obtain ⟨f, hf, h⟩ := exists_of_bind_eq_ok h
    obtain ⟨fs, hrest, h⟩ := exists_of_bind_eq_ok h
    cases h
    refine List.forall_mem_cons.2 ⟨⟨by simpa using hkey, hfields m List.mem_cons_self _ f hf⟩, ?_⟩
    exact ih (fun m' hm' => hfields m' (List.mem_cons_of_mem _ hm')) hrest

theorem canonical_of_readField_obj
    (hchildren : ∀ m ∈ ms, ∀ path spec, read path m.2 = .ok spec → spec.IsCanonical)
    (h : readField path (.obj ms) = .ok f) : f.IsCanonical := by
  rw [readField_obj] at h
  obtain ⟨texts, ht, h⟩ := exists_of_bind_eq_ok h
  obtain rfl : textsOf ms = texts :=
    Except.ok.inj ((readTexts_eq (hasFieldMembers_of_readTexts ht)).symm.trans ht)
  cases hc : children? ms with
  | none =>
    rw [hc] at h
    obtain ⟨rfl, hleaf⟩ := isLeaf_of_leaf (textsRead ht) h
    exact .leaf ⟨hleaf, getD_textAt?_ne_empty (by decide), getD_textAt?_ne_empty (by decide)⟩
  | some c =>
    obtain ⟨m, hm, rfl⟩ := mem_of_children? hc
    rw [hc] at h
    dsimp only at h
    split at h
    · cases h
    rename_i htargets
    obtain ⟨cs, hcs, h⟩ := exists_of_bind_eq_ok h
    cases h
    have hne : cs ≠ [] := ne_nil_of_read (Option.filter_eq_some_iff.1 hc).2 hcs
    have hcanonical := hchildren m hm _ cs hcs
    refine .node
      ⟨⟨hne, rfl, fun h => htargets (Bool.and_eq_true_iff.2 h)⟩, textAt?_ne_empty, textAt?_ne_empty, rfl, rfl⟩
      (fun m hm => (hcanonical m hm).1) fun m hm => (hcanonical m hm).2

/-- What is read is in canonical form, as a specification and as a field. -/
theorem canonical_of_read (v : Json) : (∀ path spec, read path v = .ok spec → IsCanonical spec) ∧
    ∀ path f, readField path v = .ok f → f.IsCanonical := by
  have htext : ∀ {path s f}, (if Text.allBlank s then refuse path .blankSelector
      else .ok ({ selector := some s } : FieldSpec)) = .ok f → f.IsCanonical := by
    intro path s f h
    split at h
    · cases h
    rename_i hblank
    cases h
    exact .leaf (canonicalLeaf_of_shorthand (Bool.eq_false_iff.2 hblank))
  induction v using Json.byParts with
  | obj ms ih =>
    refine ⟨fun path spec h => ?_, fun path f => canonical_of_readField_obj fun m hm => (ih m hm).1⟩
    rw [read] at h
    exact canonical_of_readMembers (fun m hm => (ih m hm).2) h
  | str | unpaired => exact ⟨nofun, fun path f h => htext h⟩
  | _ => exact ⟨nofun, nofun⟩

/-! ## What is written is read back -/

theorem writtenField_eq (f : FieldSpec) : writtenField f = .obj f.members := by
  cases f
  rw [writtenField]
  rfl

/-- An optional text that is not the empty one. -/
theorem filter_eq_self {o : Option String} (h : o ≠ some "") : o.filter (· != "") = o := by
  cases o with
  | none => rfl
  | some s =>
    have hs : s ≠ "" := fun hs => h (congrArg some hs)
    simp [Option.filter, hs]

theorem text?_ofText? (o : Option String) : (Json.ofText? o).text? = o := by
  cases o <;> rfl

/-- The texts of what is written of a field are those of the field, without the empty ones. -/
theorem textsOf_members (f : FieldSpec) : textsOf f.members =
    { selector := f.selector.filter (· != "")
      xpath := f.xpath.filter (· != "")
      regex := f.regex.filter (· != "")
      attributeName := ((some f.attributeName).filter (· != "")).getD "textContent"
      source := ((some f.source).filter (· != "")).getD "html" } := by
  rw [← congrArg (Option.filter _) (text?_ofText? f.selector), ← congrArg (Option.filter _) (text?_ofText? f.xpath),
    ← congrArg (Option.filter _) (text?_ofText? f.regex)]
  rfl

theorem hasFieldMembers_members (f : FieldSpec) : HasFieldMembers f.members := by
  have htext : ∀ o : Option String, Json.ofText? o = .null ∨ ∃ s, (Json.ofText? o).text? = some s := by
    intro o
    cases o with
    | none => exact .inl rfl
    | some s => exact .inr ⟨s, rfl⟩
  constructor
  · simp [FieldSpec.members, memberNames]
  · simp only [textNames, List.forall_mem_cons]
    refine ⟨?_, ?_, ?_, ?_, ?_, List.forall_mem_nil _⟩
    · rintro v ⟨⟩
      exact htext _
    · rintro v ⟨⟩
      exact htext _
    · rintro v ⟨⟩
      exact htext _
    · rintro v ⟨⟩
      exact .inr ⟨_, rfl⟩
    · rintro v ⟨⟩
      exact .inr ⟨_, rfl⟩

theorem children?_members (f : FieldSpec) :
    children? f.members = if f.children = [] then none else some (toJson f.children) := by
  cases f with
  | mk selector xpath regex attributeName source children =>
    cases children with
    | nil => rfl
    | cons m rest => rfl

end

section
variable {path : String} {f : FieldSpec} {spec : Spec}

theorem eq_mk (f : FieldSpec) : f = ⟨f.selector, f.xpath, f.regex, f.attributeName, f.source, f.children⟩ := by
  cases f
  rfl

theorem targets_ne_empty_of_isLeaf (h : f.IsLeaf) :
    f.selector ≠ some "" ∧ f.xpath ≠ some "" ∧ f.regex ≠ some "" := by
  obtain ⟨t, ht, htargets⟩ := h.target
  have hne : some "" ∉ [f.selector, f.xpath, f.regex] := fun hmem => by
    have hmem' : "" ∈ [f.selector, f.xpath, f.regex].reduceOption := List.reduceOption_mem_iff.2 hmem
    rw [htargets, List.mem_singleton] at hmem'
    exact ht hmem'.symm
  simpa [eq_comm] using hne

theorem textsOf_members_of_leaf (h : f.IsCanonicalLeaf) : textsOf f.members = f := by
  obtain ⟨hselector, hxpath, hregex⟩ := targets_ne_empty_of_isLeaf h.isLeaf
  have hattribute : some f.attributeName ≠ some "" := fun heq => h.attributeName (Option.some.inj heq)
  have hsource : some f.source ≠ some "" := fun heq => h.source (Option.some.inj heq)
  rw [textsOf_members, filter_eq_self hselector, filter_eq_self hxpath, filter_eq_self hregex,
    filter_eq_self hattribute, filter_eq_self hsource, Option.getD_some, Option.getD_some]
  conv_rhs => rw [eq_mk f, h.isLeaf.children]

theorem looksForOne_members (h : f.IsCanonicalLeaf) : LooksForOne f.members := by
  have htexts := textsOf_members_of_leaf h
  have hselector : textAt? f.members "selector" = f.selector := congrArg FieldSpec.selector htexts
  have hxpath : textAt? f.members "xpath" = f.xpath := congrArg FieldSpec.xpath htexts
  have hregex : textAt? f.members "regex" = f.regex := congrArg FieldSpec.regex htexts
  refine ⟨?_, fun hsome source hsource => ?_, fun regex heq => h.isLeaf.pattern regex (hregex ▸ heq)⟩
  · obtain ⟨t, -, htarget⟩ := h.isLeaf.target
    rw [existsUnique_target_iff, hselector, hxpath, hregex]
    cases hs : f.selector <;> cases hx : f.xpath <;> cases hr : f.regex <;>
      simp_all [List.reduceOption]
  · have hgetD : (textAt? f.members "source").getD "html" = f.source := congrArg FieldSpec.source htexts
    rw [hsource, Option.getD_some] at hgetD
    exact hgetD ▸ h.isLeaf.source (hregex ▸ hsome)

theorem readField_leaf (h : f.IsCanonicalLeaf) : readField path (writtenField f) = .ok f := by
  rw [writtenField_eq, readField_obj, readTexts_eq (hasFieldMembers_members f), children?_members,
    if_pos h.isLeaf.children]
  refine (leaf_eq (looksForOne_members h)).trans ?_
  rw [textsOf_members_of_leaf h]

theorem readField_node (h : f.IsCanonicalNode)
    (hread : read (path ++ ".children") (toJson f.children) = .ok f.children) :
    readField path (writtenField f) = .ok f := by
  have htargets : ¬ (f.selector.isSome && f.xpath.isSome) = true := fun hboth =>
    h.isNode.target (Bool.and_eq_true_iff.1 hboth)
  rw [writtenField_eq, readField_obj, readTexts_eq (hasFieldMembers_members f), children?_members,
    if_neg h.isNode.children, textsOf_members, filter_eq_self h.selector, filter_eq_self h.xpath]
  change (if _ then _ else _ : Except SpecFault FieldSpec) = _
  rw [if_neg htargets, hread]
  change Except.ok ({ selector := f.selector, xpath := f.xpath, children := f.children } : FieldSpec) = .ok f
  conv_rhs => rw [eq_mk f, h.isNode.regex, h.attributeName, h.source]

theorem read_written (hkeys : ∀ m ∈ spec, m.1 ≠ "")
    (hfields : ∀ m ∈ spec, ∀ path, readField path (writtenField m.2) = .ok m.2) :
    read path (toJson spec) = .ok spec := by
  rw [toJson, read]
  induction spec with
  | nil => rfl
  | cons m rest ih =>
    obtain ⟨hkey, hkeys⟩ := List.forall_mem_cons.1 hkeys
    obtain ⟨hfield, hfields⟩ := List.forall_mem_cons.1 hfields
    rw [written, readMembers, if_neg (by simpa using hkey), hfield, ih hkeys hfields]
    rfl

theorem readField_writtenField (h : f.IsCanonical) : ∀ path, readField path (writtenField f) = .ok f := by
  induction h with
  | leaf h => exact fun path => readField_leaf h
  | node h hkeys _ ih => exact fun path => readField_node h (read_written hkeys ih)

/-- A specification in canonical form is read back from what is written of it. -/
theorem read_toJson (h : spec.IsCanonical) (path : String) : read path (toJson spec) = .ok spec :=
  read_written (fun m hm => (h m hm).1) fun m hm => readField_writtenField (h m hm).2

end

/-- What is read of a value is in canonical form: what is written of it is read as the same specification, wherever
it stands. -/
theorem parsed_is_canonical {path : String} {v : Json} {spec : Spec} (h : read path v = .ok spec) :
    spec.IsCanonical ∧ ∀ place, read place spec.toJson = .ok spec := by
  have hcanonical : spec.IsCanonical := (canonical_of_read v).1 path spec h
  exact ⟨hcanonical, read_toJson hcanonical⟩

/-- A list of products: the name by the shorthand, a link with an attribute of its own and a source that nothing
checks, a price by a pattern, and rows whose options are dropped. -/
theorem parsed_is_canonical_products :
    let price : Json := .obj [("regex", .str "[0-9]+"), ("source", .str "text"), ("selector", .str "")]
    let link : Json := .obj [("source", .str "cover"), ("attribute", .str "href"), ("xpath", .str "//a")]
    let rows : Json := .obj [("children", .obj [("price", price)]), ("attribute", .str "id"), ("regex", .str "(")]
    let v : Json := .obj [("name", .str "h3"), ("link", link), ("rows", rows)]
    let spec : Spec := [("name", { selector := some "h3" }),
      ("link", { xpath := some "//a", attributeName := "href", source := "cover" }),
      ("rows", { children := [("price", { regex := some "[0-9]+", source := "text" })] })]
    read "data" v = .ok spec ∧ spec.IsCanonical ∧ ∀ place, read place spec.toJson = .ok spec := by
  intro price link rows v spec
  have hread : read "data" v = .ok spec := by cbv
  exact ⟨hread, parsed_is_canonical hread⟩

end Spec
end BrowserPlan
