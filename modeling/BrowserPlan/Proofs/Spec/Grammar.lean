import BrowserPlan.Proofs.Json.Documents
import BrowserPlan.Proofs.Plan.Refusals
import Mathlib.Logic.ExistsUnique

/-!
# The values that are specifications

`IsSpec` is the grammar of specifications, apart from any reader: an object with nonempty keys whose fields are
texts that are not blank, or objects of their own kind (`IsSoundField`), with specifications below them. A value
that is none has nodes that are at fault; they are listed in the order of the document, a field before what is
below it (`nodes`). The reader accepts the specifications, and of any other value it reports the first node that
is at fault (`read_accepts_grammar`).
-/
namespace BrowserPlan.Spec

/-! ## The grammar -/

/-- The members of a field that have to be texts. -/
def textNames : List String := ["selector", "xpath", "regex", "attribute", "source"]

/-- The members of a field that say what it looks for. -/
def targetNames : List String := ["selector", "xpath", "regex"]

/-- A member that is a text, unless it is missing or null. -/
def HoldsText (ms : Json.Members) (name : String) : Prop :=
  ∀ v, ms.get? name = some v → v = .null ∨ ∃ s, v.text? = some s

/-- The text of a member; the empty text counts as missing. -/
def textAt? (ms : Json.Members) (name : String) : Option String :=
  ((ms.get? name).bind Json.text?).filter (· != "")

/-- The children of a field, unless they count as missing. -/
def children? (ms : Json.Members) : Option Json := (ms.get? "children").filter Json.truthy

/-- The value that stands below a field. -/
def below? : Json → Option Json
  | .obj ms => children? ms
  | _ => none

/-- All members are members of fields, and those that should be texts are. -/
structure HasFieldMembers (ms : Json.Members) : Prop where
  known : ∀ m ∈ ms, m.1 ∈ memberNames
  texts : ∀ name ∈ textNames, HoldsText ms name

/-- The field looks for one thing, and a pattern can be matched against something. -/
structure LooksForOne (ms : Json.Members) : Prop where
  target : ∃! name, name ∈ targetNames ∧ (textAt? ms name).isSome
  source : (textAt? ms "regex").isSome → ∀ source, textAt? ms "source" = some source → source ∈ regexSources
  pattern : ∀ regex, textAt? ms "regex" = some regex → ∃ p, Pattern.compile regex .caseless = .ok p

/-- What has to hold of a field itself, whatever its children are. -/
inductive IsSoundField : Json → Prop where
  | shorthand {v s} (htext : v.text? = some s) (hblank : Text.allBlank s = false) : IsSoundField v
  | structural {ms : Json.Members} (hmembers : HasFieldMembers ms) (hchildren : (children? ms).isSome)
      (htargets : ¬ ((textAt? ms "selector").isSome ∧ (textAt? ms "xpath").isSome)) : IsSoundField (.obj ms)
  | leaf {ms : Json.Members} (hmembers : HasFieldMembers ms) (hchildren : children? ms = none) (hone : LooksForOne ms) :
      IsSoundField (.obj ms)

/-- The values that are specifications. -/
inductive IsSpec : Json → Prop where
  | obj {ms : Json.Members} (hkeys : ∀ m ∈ ms, m.1 ≠ "") (hfields : ∀ m ∈ ms, IsSoundField m.2)
      (hbelow : ∀ m ∈ ms, ∀ c, below? m.2 = some c → IsSpec c) : IsSpec (.obj ms)

/-! ## What is read -/

/-- The texts of a field, as a field without children. -/
def textsOf (ms : Json.Members) : FieldSpec :=
  { selector := textAt? ms "selector"
    xpath := textAt? ms "xpath"
    regex := textAt? ms "regex"
    attributeName := (textAt? ms "attribute").getD "textContent"
    source := (textAt? ms "source").getD "html" }

mutual

/-- The specification has the keys of the value, in their order, at each level, and the fields that go with them. -/
inductive Describes : Json → Spec → Prop where
  | obj {ms spec} (h : DescribesEach ms spec) : Describes (.obj ms) spec

inductive DescribesEach : List (String × Json) → Spec → Prop where
  | nil : DescribesEach [] []
  | cons {key v f ms fs} (hf : DescribesField v f) (h : DescribesEach ms fs) :
      DescribesEach ((key, v) :: ms) ((key, f) :: fs)

/-- A field is structural exactly if there is something below it; else it carries what it looks for. -/
inductive DescribesField : Json → FieldSpec → Prop where
  | shorthand {v s} (htext : v.text? = some s) : DescribesField v { selector := some s }
  | structural {ms : Json.Members} {c f} (hchildren : children? ms = some c) (hstructural : f.isStructural = true)
      (hselector : f.selector = textAt? ms "selector") (hxpath : f.xpath = textAt? ms "xpath")
      (h : Describes c f.children) : DescribesField (.obj ms) f
  | leaf {ms : Json.Members} (hchildren : children? ms = none) (hstructural : (textsOf ms).isStructural = false) :
      DescribesField (.obj ms) (textsOf ms)

end

/-! ## Nodes -/

/-- What of a document can be at fault. -/
inductive Node where
  /-- A value where a specification should be. -/
  | mapping (path : String) (v : Json)
  /-- A key of a mapping; `path` is where the mapping stands. -/
  | key (path : String) (name : String)
  | field (path : String) (v : Json)

namespace Node

/-- Where the node stands. -/
def path : Node → String
  | mapping path _ | key path _ | field path _ => path

/-- The node is at fault. -/
def Offends : Node → Prop
  | mapping _ v => ∀ ms, v ≠ .obj ms
  | key _ name => name = ""
  | field _ v => ¬ IsSoundField v

end Node

mutual

/-- The nodes of a value that should be a specification, in the order of the document. -/
def nodes (path : String) : Json → List Node
  | .obj ms => .mapping path (.obj ms) :: memberNodes path ms
  | v => [.mapping path v]

def memberNodes (path : String) : List (String × Json) → List Node
  | [] => []
  | (key, v) :: rest => .key path key :: (fieldNodes (path ++ "." ++ key) v ++ memberNodes path rest)

/-- A field, and the nodes below it. -/
def fieldNodes (path : String) : Json → List Node
  | .obj ms => .field path (.obj ms) :: childNodes path ms
  | v => [.field path v]

def childNodes (path : String) : List (String × Json) → List Node
  | [] => []
  | (key, v) :: rest =>
    if key == "children" then if v.truthy then nodes (path ++ ".children") v else []
    else childNodes path rest

end

theorem children?_cons (key : String) (v : Json) (rest : Json.Members) : children? ((key, v) :: rest) =
    if key == "children" then if v.truthy then some v else none else children? rest := by
  rw [children?, Json.Members.get?, List.find?_cons]
  cases hkey : key == "children" with
  | true => simp [Option.filter]
  | false => rfl

theorem childNodes_eq (path : String) (ms : Json.Members) :
    childNodes path ms = (children? ms).elim [] (nodes (path ++ ".children")) := by
  induction ms with
  | nil => rfl
  | cons m rest ih =>
    rw [childNodes, children?_cons, ih]
    split
    · split <;> rfl
    · rfl

theorem readChildren_eq (path : String) (twoTargets : Bool) (ms : Json.Members) :
    readChildren path twoTargets ms = (children? ms).map fun c =>
      if twoTargets then refuse path .twoTargets else read (path ++ ".children") c := by
  induction ms with
  | nil => rfl
  | cons m rest ih =>
    rw [readChildren, children?_cons, ih]
    cases m.1 == "children" <;> cases m.2.truthy <;> cases twoTargets <;> rfl

/-- An object is read as a field by its texts, and by its children if it has any. -/
theorem readField_obj (path : String) (ms : Json.Members) : readField path (.obj ms) = (do
    let texts ← readTexts path ms
    match children? ms with
    | none => leaf path texts
    | some c =>
      if texts.selector.isSome && texts.xpath.isSome then refuse path .twoTargets
      else return { selector := texts.selector, xpath := texts.xpath, children := ← read (path ++ ".children") c }) := by
  rw [readField]
  refine congrArg (readTexts path ms >>= ·) (funext fun texts => ?_)
  rw [readChildren_eq]
  cases children? ms with
  | none => rfl
  | some c => cases texts.selector.isSome && texts.xpath.isSome <;> rfl

theorem mem_of_children? {ms : Json.Members} {c : Json} (h : children? ms = some c) : ∃ m ∈ ms, m.2 = c := by
  obtain ⟨m, hfind, rfl⟩ := Option.map_eq_some_iff.1 (Option.filter_eq_some_iff.1 h).1
  exact ⟨m, List.mem_of_find?_eq_some hfind, rfl⟩

/-! ## Faults -/

/-- What is said of a node that is at fault: the place is that of the node or of a member that should be a text. A
pattern can be at fault in a way of which no place is told. -/
inductive Blames : Node → SpecFault → Prop where
  | itself (n : Node) (cause) : Blames n (.malformed n.path cause)
  | member {path} {ms : Json.Members} {name} (hname : name ∈ textNames) (hnot : ¬ HoldsText ms name) (cause) :
      Blames (.field path (.obj ms)) (.malformed (path ++ "." ++ name) cause)
  | pattern {path} {ms : Json.Members} {regex fault} (hregex : textAt? ms "regex" = some regex)
      (hspoils : fault.Spoils regex .caseless) : Blames (.field path (.obj ms)) (.unreadable fault)

/-- The place is that of the node, or of a member of it that should be a text. -/
def Node.IsPlace (n : Node) (place : String) : Prop :=
  place = n.path ∨ ∃ name ∈ textNames, place = n.path ++ "." ++ name

theorem Node.IsPlace.message {n : Node} {place : String} (h : n.IsPlace place) (cause : SpecCause) :
    ∃ rest, (SpecFault.malformed place cause).message = n.path ++ rest := by
  rcases h with rfl | ⟨name, -, rfl⟩
  · exact ⟨": " ++ cause.message, String.append_assoc ..⟩
  · exact ⟨"." ++ name ++ ": " ++ cause.message, by simp only [SpecFault.message, String.append_assoc]⟩

section
variable {path : String} {ms : Json.Members} {name : String} {fault : SpecFault}

theorem optionalText_eq (h : HoldsText ms name) : optionalText path ms name = .ok (textAt? ms name) := by
  rw [optionalText, textAt?]
  cases hv : ms.get? name with
  | none => rfl
  | some v =>
    rcases h v hv with rfl | ⟨s, hs⟩
    · rfl
    · have hnull : v ≠ .null := by
        rintro rfl
        cases hs
      simp only [hs, Option.bind_some]
      by_cases hempty : s = "" <;> simp [hempty, Option.filter]

theorem blames_of_optionalText (hname : name ∈ textNames) (h : optionalText path ms name = .error fault) :
    Blames (.field path (.obj ms)) fault := by
  have hnot : ¬ HoldsText ms name := fun hholds => by
    rw [optionalText_eq hholds] at h
    cases h
  rw [optionalText] at h
  split at h
  · cases h
  · cases h
  · split at h
    · cases h
    · cases h
      exact .member hname hnot _

theorem readTexts_eq (h : HasFieldMembers ms) : readTexts path ms = .ok (textsOf ms) := by
  have hknown : ((ms.map (·.1)).filter fun name => !memberNames.contains name) = [] := by
    rw [List.filter_eq_nil_iff]
    intro name hname
    obtain ⟨m, hm, rfl⟩ := List.mem_map.1 hname
    simpa using h.known m hm
  have htexts : ∀ name ∈ textNames, optionalText path ms name = .ok (textAt? ms name) := fun name hname =>
    optionalText_eq (h.texts name hname)
  simp only [textNames, List.forall_mem_cons] at htexts
  obtain ⟨hselector, hxpath, hregex, hattribute, hsource, -⟩ := htexts
  rw [readTexts, hknown, hselector, hxpath, hregex, hattribute, hsource]
  rfl

theorem blames_of_readTexts (h : readTexts path ms = .error fault) : Blames (.field path (.obj ms)) fault := by
  have htext : ∀ {name}, optionalText path ms name = .error fault → name ∈ textNames →
      Blames (.field path (.obj ms)) fault := fun h hname => blames_of_optionalText hname h
  rw [readTexts] at h
  simp only at h
  split at h
  · cases h
    exact .itself (.field path (.obj ms)) _
  rcases of_bind_eq_error h with h | ⟨selector, -, h⟩
  · exact htext h (by decide)
  rcases of_bind_eq_error h with h | ⟨xpath, -, h⟩
  · exact htext h (by decide)
  rcases of_bind_eq_error h with h | ⟨regex, -, h⟩
  · exact htext h (by decide)
  rcases of_bind_eq_error h with h | ⟨attributeName, -, h⟩
  · exact htext h (by decide)
  rcases of_bind_eq_error h with h | ⟨source, -, h⟩
  · exact htext h (by decide)
  cases h

theorem holdsText_of_optionalText {o : Option String} (h : optionalText path ms name = .ok o) : HoldsText ms name := by
  intro v hv
  rw [optionalText, hv] at h
  cases v with
  | null => exact .inl rfl
  | str s | unpaired s => exact .inr ⟨s, rfl⟩
  | _ => cases h

theorem hasFieldMembers_of_readTexts {f : FieldSpec} (h : readTexts path ms = .ok f) : HasFieldMembers ms := by
  unfold readTexts at h
  simp only at h
  split at h
  · cases h
  rename_i hknown
  obtain ⟨selector, hselector, h⟩ := exists_of_bind_eq_ok h
  obtain ⟨xpath, hxpath, h⟩ := exists_of_bind_eq_ok h
  obtain ⟨regex, hregex, h⟩ := exists_of_bind_eq_ok h
  obtain ⟨attributeName, hattribute, h⟩ := exists_of_bind_eq_ok h
  obtain ⟨source, hsource, -⟩ := exists_of_bind_eq_ok h
  refine ⟨fun m hm => by_contra fun hnot => hknown ?_, ?_⟩
  · have hin : m.1 ∈ (ms.map (·.1)).filter fun name => !memberNames.contains name :=
      List.mem_filter.2 ⟨List.mem_map_of_mem hm, by simpa using hnot⟩
    simpa using List.ne_nil_of_mem hin
  · simp only [textNames, List.forall_mem_cons]
    exact ⟨holdsText_of_optionalText hselector, holdsText_of_optionalText hxpath, holdsText_of_optionalText hregex,
      holdsText_of_optionalText hattribute, holdsText_of_optionalText hsource, nofun⟩

theorem existsUnique_target_iff : (∃! name, name ∈ targetNames ∧ (textAt? ms name).isSome) ↔
    ([("selector", textAt? ms "selector"), ("xpath", textAt? ms "xpath"), ("regex", textAt? ms "regex")].filterMap
      fun (name, v) => v.map fun _ => name).length = 1 := by
  cases hs : textAt? ms "selector" <;> cases hx : textAt? ms "xpath" <;> cases hr : textAt? ms "regex" <;>
    simp [ExistsUnique, targetNames, hs, hx, hr]

theorem leaf_eq (h : LooksForOne ms) : leaf path (textsOf ms) = .ok (textsOf ms) := by
  have hcount := existsUnique_target_iff.1 h.target
  rw [leaf]
  simp only [textsOf, hcount, bne_self_eq_false, Bool.false_eq_true, if_false]
  cases hr : textAt? ms "regex" with
  | none => rfl
  | some regex =>
    obtain ⟨p, hp⟩ := h.pattern regex hr
    have hsource : (textAt? ms "source").getD "html" ∈ regexSources := by
      cases hs : textAt? ms "source" with
      | none => decide
      | some source => exact h.source (by rw [hr]; rfl) source hs
    simp only [List.contains_iff_mem.2 hsource, Bool.not_true, Bool.false_eq_true, if_false, checkPattern, hp]
    rfl

theorem looksForOne_of_leaf {f : FieldSpec} (h : leaf path (textsOf ms) = .ok f) : LooksForOne ms := by
  rw [leaf] at h
  simp only at h
  split at h
  · cases h
  rename_i hcount
  have htarget := existsUnique_target_iff.2 (by simpa [textsOf] using hcount)
  cases hr : (textsOf ms).regex with
  | none =>
    have hr : textAt? ms "regex" = none := hr
    exact ⟨htarget, fun h => by simp [hr] at h, fun _ h => by simp [hr] at h⟩
  | some regex =>
    rw [hr] at h
    simp only at h
    split at h
    · cases h
    rename_i hsource
    obtain ⟨⟨⟩, hp, -⟩ := exists_of_bind_eq_ok h
    refine ⟨htarget, fun _ source hs => ?_, fun r hregex => ?_⟩
    · simpa [textsOf, hs] using hsource
    · obtain rfl := Option.some.inj (hr.symm.trans hregex)
      exact compile_of_checkPattern hp

theorem blames_of_leaf (h : leaf path (textsOf ms) = .error fault) : Blames (.field path (.obj ms)) fault := by
  unfold leaf at h
  simp only at h
  split at h
  · cases h
    exact .itself (.field path (.obj ms)) _
  cases hr : (textsOf ms).regex with
  | none =>
    rw [hr] at h
    cases h
  | some regex =>
    rw [hr] at h
    simp only at h
    split at h
    · cases h
      exact .itself (.field path (.obj ms)) _
    have hp := (of_bind_eq_error h).resolve_right (by rintro ⟨_, _, h⟩; cases h)
    cases fault with
    | unreadable fault => exact .pattern hr (spoils_of_checkPattern hp)
    | malformed place cause =>
      unfold checkPattern at hp
      split at hp
      · cases hp
      · split at hp
        · cases hp
          exact .itself (.field path (.obj ms)) _
        · cases hp

end

/-! ## The first node at fault -/

section
variable {α β : Type} {P : α → Prop} {Q : β → Prop} {ns ns' : List Node} {n : Node} {fault : SpecFault}
  {r : Except SpecFault α}

/-- The result of reading these nodes: none of them is at fault, and what was read is right; or the first one that
is at fault is blamed. -/
def Judges (ns : List Node) (P : α → Prop) : Except SpecFault α → Prop
  | .ok a => (∀ n ∈ ns, ¬ n.Offends) ∧ P a
  | .error fault => ∃ before n after, ns = before ++ n :: after ∧ (∀ n' ∈ before, ¬ n'.Offends) ∧ n.Offends ∧
      Blames n fault

namespace Judges

theorem ok {a : α} (h : P a) : Judges [] P (.ok a) := ⟨nofun, h⟩

theorem refused (hn : n.Offends) (hblames : Blames n fault) : Judges (n :: ns) P (.error fault) :=
  ⟨[], n, ns, rfl, nofun, hn, hblames⟩

theorem cons (hn : ¬ n.Offends) (h : Judges ns P r) : Judges (n :: ns) P r := by
  cases r with
  | ok a => exact ⟨List.forall_mem_cons.2 ⟨hn, h.1⟩, h.2⟩
  | error fault =>
    obtain ⟨before, m, after, rfl, hbefore, hm, hblames⟩ := h
    exact ⟨n :: before, m, after, rfl, List.forall_mem_cons.2 ⟨hn, hbefore⟩, hm, hblames⟩

/-- Some nodes, and others after them. -/
theorem bind {k : α → Except SpecFault β} (h : Judges ns P r) (hk : ∀ a, P a → Judges ns' Q (k a)) :
    Judges (ns ++ ns') Q (r >>= k) := by
  cases r with
  | error fault =>
    obtain ⟨before, m, after, rfl, hbefore, hm, hblames⟩ := h
    exact ⟨before, m, after ++ ns', List.append_assoc .., hbefore, hm, hblames⟩
  | ok a =>
    obtain ⟨hns, ha⟩ := h
    have hlater := hk a ha
    change Judges (ns ++ ns') Q (k a)
    cases hb : k a with
    | ok b =>
      rw [hb] at hlater
      exact ⟨List.forall_mem_append.2 ⟨hns, hlater.1⟩, hlater.2⟩
    | error fault =>
      rw [hb] at hlater
      obtain ⟨before, m, after, rfl, hbefore, hm, hblames⟩ := hlater
      exact ⟨ns ++ before, m, after, (List.append_assoc ..).symm, List.forall_mem_append.2 ⟨hns, hbefore⟩, hm, hblames⟩

theorem bind_ok {f : α → β} (h : Judges ns P r) (hf : ∀ a, P a → Q (f a)) : Judges ns Q (do return f (← r)) := by
  rw [← List.append_nil ns]
  exact h.bind fun a ha => .ok (hf a ha)

end Judges
end

/-! ## Reading -/

section
variable {path : String} {ms : Json.Members} {v : Json}

namespace IsSoundField

theorem members (h : IsSoundField (.obj ms)) : HasFieldMembers ms := by
  cases h with
  | shorthand htext => cases htext
  | structural hmembers | leaf hmembers => exact hmembers

theorem targets {c : Json} (h : IsSoundField (.obj ms)) (hc : children? ms = some c) :
    ¬ ((textAt? ms "selector").isSome ∧ (textAt? ms "xpath").isSome) := by
  cases h with
  | shorthand htext => cases htext
  | structural _ _ htargets => exact htargets
  | leaf _ hnone => rw [hc] at hnone; cases hnone

theorem one (h : IsSoundField (.obj ms)) (hc : children? ms = none) : LooksForOne ms := by
  cases h with
  | shorthand htext => cases htext
  | structural _ hsome => rw [hc] at hsome; cases hsome
  | leaf _ _ hone => exact hone

end IsSoundField

theorem Describes.isEmpty_eq {c : Json} {spec : Spec} (h : Describes c spec) (htruthy : c.truthy = true) :
    spec.isEmpty = false := by
  cases h with
  | obj h =>
    cases h with
    | nil => cases htruthy
    | cons => rfl

theorem judges_readMembers
    (hfields : ∀ m ∈ ms, ∀ path, Judges (fieldNodes path m.2) (DescribesField m.2) (readField path m.2)) :
    Judges (memberNodes path ms) (DescribesEach ms) (readMembers path ms) := by
  induction ms with
  | nil => exact .ok .nil
  | cons m rest ih =>
    rw [memberNodes, readMembers]
    split
    · rename_i hempty
      have hoffends : (Node.key path m.1).Offends := by simpa [Node.Offends] using hempty
      exact .refused hoffends (.itself (.key path m.1) _)
    · rename_i hkey
      have hsound : ¬ (Node.key path m.1).Offends := by simpa [Node.Offends] using hkey
      have hfirst := hfields m List.mem_cons_self (path ++ "." ++ m.1)
      have hrest := ih fun m' hm' => hfields m' (List.mem_cons_of_mem _ hm')
      exact .cons hsound (hfirst.bind fun f hf => hrest.bind_ok fun fs hfs => .cons hf hfs)

theorem judges_readField_obj
    (hchildren : ∀ m ∈ ms, ∀ path, Judges (nodes path m.2) (Describes m.2) (read path m.2)) :
    Judges (fieldNodes path (.obj ms)) (DescribesField (.obj ms)) (readField path (.obj ms)) := by
  rw [fieldNodes, readField_obj, childNodes_eq]
  cases ht : readTexts path ms with
  | error fault =>
    refine .refused (fun h => ?_) (blames_of_readTexts ht)
    rw [readTexts_eq h.members] at ht
    cases ht
  | ok texts =>
    have hmembers := hasFieldMembers_of_readTexts ht
    obtain rfl : textsOf ms = texts := Except.ok.inj ((readTexts_eq hmembers).symm.trans ht)
    cases hc : children? ms with
    | none =>
      change Judges [.field path (.obj ms)] _ (leaf path (textsOf ms))
      cases hl : leaf path (textsOf ms) with
      | error fault =>
        refine .refused (fun h => ?_) (blames_of_leaf hl)
        rw [leaf_eq (h.one hc)] at hl
        cases hl
      | ok f =>
        have hone := looksForOne_of_leaf hl
        obtain rfl : textsOf ms = f := Except.ok.inj ((leaf_eq hone).symm.trans hl)
        exact .cons (not_not.2 (.leaf hmembers hc hone)) (.ok (.leaf hc rfl))
    | some c =>
      obtain ⟨m, hm, rfl⟩ := mem_of_children? hc
      have htruthy := (Option.filter_eq_some_iff.1 hc).2
      change Judges (.field path (.obj ms) :: nodes (path ++ ".children") m.2) _
        (if (textAt? ms "selector").isSome && (textAt? ms "xpath").isSome then refuse path .twoTargets
          else do
            let children ← read (path ++ ".children") m.2
            return ({ selector := textAt? ms "selector", xpath := textAt? ms "xpath", children } : FieldSpec))
      split
      · rename_i htargets
        have hoffends : (Node.field path (.obj ms)).Offends := fun h => h.targets hc (Bool.and_eq_true_iff.1 htargets)
        exact .refused hoffends (.itself (.field path (.obj ms)) _)
      · rename_i htargets
        have hsound : IsSoundField (.obj ms) := .structural hmembers (by rw [hc]; rfl) fun h =>
          htargets (Bool.and_eq_true_iff.2 h)
        refine .cons (not_not.2 hsound) ((hchildren m hm _).bind_ok fun cs hcs => .structural hc ?_ rfl rfl hcs)
        rw [FieldSpec.isStructural, hcs.isEmpty_eq htruthy]
        rfl

/-- What is no object is no specification, and no field unless it is a text. -/
theorem judges_of_other (hobj : ∀ ms, v ≠ .obj ms) (htext : v.text? = none) :
    (∀ path, Judges (nodes path v) (Describes v) (read path v)) ∧
    ∀ path, Judges (fieldNodes path v) (DescribesField v) (readField path v) := by
  have hunsound : ¬ IsSoundField v := by
    rintro (⟨hs, -⟩ | _ | _)
    · rw [htext] at hs
      cases hs
    · exact hobj _ rfl
    · exact hobj _ rfl
  cases v with
  | obj ms => exact absurd rfl (hobj ms)
  | str | unpaired => cases htext
  | _ => exact ⟨fun path => .refused hobj (.itself (.mapping path _) _),
      fun path => .refused hunsound (.itself (.field path _) _)⟩

theorem judges_of_text {s : String} (hobj : ∀ ms, v ≠ .obj ms) (htext : v.text? = some s) :
    (∀ path, Judges (nodes path v) (Describes v) (read path v)) ∧
    ∀ path, Judges (fieldNodes path v) (DescribesField v) (readField path v) := by
  have hread : ∀ path, readField path v =
      if Text.allBlank s then refuse path .blankSelector else .ok { selector := some s } := by
    cases v with
    | str | unpaired => cases htext; exact fun path => rfl
    | _ => cases htext
  have hfieldNodes : ∀ path, fieldNodes path v = [.field path v] := by
    cases v with
    | obj ms => exact absurd rfl (hobj ms)
    | _ => exact fun path => rfl
  refine ⟨?_, fun path => ?_⟩
  · cases v with
    | obj ms => exact absurd rfl (hobj ms)
    | _ => exact fun path => .refused hobj (.itself (.mapping path _) _)
  rw [hread, hfieldNodes]
  split
  · rename_i hblank
    refine .refused (fun h => ?_) (.itself (.field path v) _)
    cases h with
    | shorthand htext' hnot =>
      obtain rfl := Option.some.inj (htext.symm.trans htext')
      rw [hblank] at hnot
      cases hnot
    | structural | leaf => exact hobj _ rfl
  · rename_i hblank
    exact .cons (not_not.2 (.shorthand htext (Bool.eq_false_iff.2 hblank))) (.ok (.shorthand htext))

/-- The result of reading is judged by the nodes of the value, as a specification and as a field. -/
theorem judges_read_and_readField (v : Json) : (∀ path, Judges (nodes path v) (Describes v) (read path v)) ∧
    ∀ path, Judges (fieldNodes path v) (DescribesField v) (readField path v) := by
  induction v using Json.byParts with
  | obj ms ih =>
    refine ⟨fun path => ?_, fun path => judges_readField_obj fun m hm => (ih m hm).1⟩
    have hms : Judges (memberNodes path ms) (DescribesEach ms) (readMembers path ms) :=
      judges_readMembers fun m hm => (ih m hm).2
    have hsound : ¬ (Node.mapping path (.obj ms)).Offends := fun h => h ms rfl
    rw [nodes, read]
    refine .cons hsound ?_
    cases hread : readMembers path ms with
    | ok spec =>
      rw [hread] at hms
      exact ⟨hms.1, .obj hms.2⟩
    | error fault => rwa [hread] at hms
  | str s => exact judges_of_text (by simp) rfl
  | unpaired s => exact judges_of_text (by simp) rfl
  | _ => exact judges_of_other (by simp) rfl

end

/-! ## The grammar by its nodes -/

section
variable {path : String} {ms : Json.Members} {v : Json}

/-- A field that is sound with all that is below it. -/
def IsSoundThroughout (v : Json) : Prop := IsSoundField v ∧ ∀ c, below? v = some c → IsSpec c

theorem isSpec_obj_iff : IsSpec (.obj ms) ↔ ∀ m ∈ ms, m.1 ≠ "" ∧ IsSoundThroughout m.2 := by
  constructor
  · rintro ⟨hkeys, hfields, hbelow⟩ m hm
    exact ⟨hkeys m hm, hfields m hm, hbelow m hm⟩
  · intro h
    exact ⟨fun m hm => (h m hm).1, fun m hm => (h m hm).2.1, fun m hm => (h m hm).2.2⟩

theorem forall_memberNodes : (∀ n ∈ memberNodes path ms, ¬ n.Offends) ↔
    ∀ m ∈ ms, m.1 ≠ "" ∧ ∀ n ∈ fieldNodes (path ++ "." ++ m.1) m.2, ¬ n.Offends := by
  induction ms with
  | nil => exact iff_of_true (List.forall_mem_nil _) (List.forall_mem_nil _)
  | cons m rest ih =>
    rw [memberNodes, List.forall_mem_cons, List.forall_mem_append, List.forall_mem_cons, ih, and_assoc]
    rfl

theorem isSpec_iff_of_other (hobj : ∀ ms, v ≠ .obj ms) : (∀ path, IsSpec v ↔ ∀ n ∈ nodes path v, ¬ n.Offends) ∧
    ∀ path, IsSoundThroughout v ↔ ∀ n ∈ fieldNodes path v, ¬ n.Offends := by
  have hnot : ¬ IsSpec v := fun h => by
    cases h with
    | obj => exact hobj _ rfl
  cases v with
  | obj ms => exact absurd rfl (hobj ms)
  | _ =>
    refine ⟨fun path => iff_of_false hnot fun h => h _ List.mem_cons_self hobj, fun path => ⟨?_, fun h => ⟨?_, by rintro _ ⟨⟩⟩⟩⟩
    · rintro ⟨hsound, -⟩ n hn
      rw [List.mem_singleton.1 hn]
      exact not_not.2 hsound
    · exact not_not.1 (h _ List.mem_cons_self)

/-- The specifications are the values without a node at fault. -/
theorem isSpec_iff_nodes (v : Json) : (∀ path, IsSpec v ↔ ∀ n ∈ nodes path v, ¬ n.Offends) ∧
    ∀ path, IsSoundThroughout v ↔ ∀ n ∈ fieldNodes path v, ¬ n.Offends := by
  induction v using Json.byParts with
  | obj ms ih =>
    constructor
    · intro path
      rw [isSpec_obj_iff, nodes, List.forall_mem_cons, forall_memberNodes]
      refine Iff.trans ?_ (and_iff_right fun h => h ms rfl).symm
      exact forall₂_congr fun m hm => and_congr_right fun _ => (ih m hm).2 _
    · intro path
      rw [fieldNodes, List.forall_mem_cons, childNodes_eq, IsSoundThroughout, below?]
      refine and_congr not_not.symm ?_
      cases hc : children? ms with
      | none => exact iff_of_true (by rintro _ ⟨⟩) (List.forall_mem_nil _)
      | some c =>
        obtain ⟨m, hm, rfl⟩ := mem_of_children? hc
        exact Iff.trans ⟨fun h => h _ rfl, by rintro h _ ⟨⟩; exact h⟩ ((ih m hm).1 _)
  | _ => exact isSpec_iff_of_other (by simp)

end

/-- The reader accepts the specifications, and no other value. What it reads has the keys of the value, in their
order, at each level; a field is structural exactly if something stands below it, and carries what it looks for.
Of any other value it reports the first node at fault, in the order of the document: the message starts with where
the node stands. The one exception is a pattern with a number or flags that no pattern can have. -/
theorem read_accepts_grammar (path : String) (v : Json) :
    ((∃ spec, read path v = .ok spec) ↔ IsSpec v) ∧
    (∀ spec, read path v = .ok spec → Describes v spec) ∧
    (¬ IsSpec v → ∃ before n after fault, nodes path v = before ++ n :: after ∧
      (∀ n' ∈ before, ¬ n'.Offends) ∧ n.Offends ∧ read path v = .error fault ∧
      ((∃ place cause, fault = .malformed place cause ∧ n.IsPlace place ∧ ∃ rest, fault.message = n.path ++ rest) ∨
        ∃ ms regex spoilt, n = .field n.path (.obj ms) ∧ textAt? ms "regex" = some regex ∧
          spoilt.Spoils regex .caseless ∧ fault = .unreadable spoilt)) := by
  have hjudges := (judges_read_and_readField v).1 path
  have hgrammar := (isSpec_iff_nodes v).1 path
  cases hread : read path v with
  | ok spec =>
    rw [hread] at hjudges
    obtain ⟨hnodes, hdescribes⟩ := hjudges
    have hspec : IsSpec v := hgrammar.2 hnodes
    refine ⟨iff_of_true ⟨spec, rfl⟩ hspec, ?_, absurd hspec⟩
    rintro _ ⟨⟩
    exact hdescribes
  | error fault =>
    rw [hread] at hjudges
    obtain ⟨before, n, after, hnodes, hbefore, hoffends, hblames⟩ := hjudges
    have hnot : ¬ IsSpec v := fun h =>
      hgrammar.1 h n (hnodes ▸ List.mem_append_right _ List.mem_cons_self) hoffends
    refine ⟨iff_of_false nofun hnot, nofun, fun _ => ⟨before, n, after, fault, hnodes, hbefore, hoffends, rfl, ?_⟩⟩
    cases hblames with
    | itself _ cause =>
      have hplace : n.IsPlace n.path := .inl rfl
      exact .inl ⟨_, _, rfl, hplace, hplace.message cause⟩
    | @member place ms name hname hnot cause =>
      have hplace : (Node.field place (.obj ms)).IsPlace (place ++ "." ++ name) := .inr ⟨name, hname, rfl⟩
      exact .inl ⟨_, _, rfl, hplace, hplace.message cause⟩
    | pattern hregex hspoils => exact .inr ⟨_, _, _, rfl, hregex, hspoils, rfl⟩

/-- A field's own fault comes before those below it, and the fault of a key when its turn comes. -/
example :
    let below : Json := .obj [("title", .null)]
    read "data" (.obj [("a", .str "h3"), ("b", .obj [("children", below)]), ("", .null)]) =
      .error (.malformed "data.b.children.title" (.notField "NoneType")) ∧
    read "data" (.obj [("b", .obj [("children", below), ("selector", .int 3)])]) =
      .error (.malformed "data.b.selector" (.notText "int")) := ⟨rfl, rfl⟩

end BrowserPlan.Spec
