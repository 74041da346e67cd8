import BrowserPlan.Proofs.Plan.Spellings
import BrowserPlan.Proofs.Plan.Nesting
import BrowserPlan.Proofs.Spec.Grammar

/-!
# Spelling does not matter

Documents that differ in their spelling alone are both refused, or both describe the same plan (`same_plan`).

What is read of two spellings is alike: as an extraction field the same, as a wait the same but for the words of it
(`WaitDocument.Same`), as a step one that keeps the same rules and builds the same step at every place
(`StepDocument.Same`). Each spelling is looked up once, as a change of the values of the fields; what is made of the
values never asks for the key.
-/
namespace BrowserPlan

open Schema

open Json.Members (Lacks)

/-! ## Extraction fields -/

namespace Spec

variable {path : String} {ms ms' c d : Json.Members} {key : String} {v v' : Json}

theorem optionalText_congr {name : String} (h : ms.get? name = ms'.get? name) :
    optionalText path ms name = optionalText path ms' name := by
  rw [optionalText, optionalText, h]

/-- The texts of a field are told by what is under their names, and by which other names there are. -/
theorem alike_readTexts (hget : ∀ name ≠ "children", ms.get? name = ms'.get? name)
    (hkeys : ∀ name, name ∈ ms.keys ↔ name ∈ ms'.keys) : Alike Eq (readTexts path ms) (readTexts path ms') := by
  have hunknown : ((ms.map (·.1)).filter fun name => !memberNames.contains name).isEmpty =
      ((ms'.map (·.1)).filter fun name => !memberNames.contains name).isEmpty := by
    rw [Bool.eq_iff_iff]
    simp only [List.isEmpty_iff, List.filter_eq_nil_iff]
    exact forall_congr' fun name => imp_congr_left (hkeys name)
  rw [readTexts, readTexts]
  dsimp only
  rw [hunknown, optionalText_congr (hget "selector" (by decide)), optionalText_congr (hget "xpath" (by decide)),
    optionalText_congr (hget "regex" (by decide)), optionalText_congr (hget "attribute" (by decide)),
    optionalText_congr (hget "source" (by decide))]
  split
  · exact .error
  · exact .refl (fun _ => rfl) _

theorem alike_readField_obj (hget : ∀ name ≠ "children", ms.get? name = ms'.get? name)
    (hkeys : ∀ name, name ∈ ms.keys ↔ name ∈ ms'.keys)
    (hchildren : children? ms = children? ms' ∨ ∃ w w', children? ms = some w ∧ children? ms' = some w' ∧
      Alike Eq (read (path ++ ".children") w) (read (path ++ ".children") w')) :
    Alike Eq (readField path (.obj ms)) (readField path (.obj ms')) := by
  rw [readField_obj, readField_obj]
  refine (alike_readTexts hget hkeys).bind ?_
  rintro texts _ rfl
  rcases hchildren with heq | ⟨w, w', hw, hw', hread⟩
  · rw [heq]
    exact .refl (fun _ => rfl) _
  · rw [hw, hw']
    dsimp only
    split
    · exact .error
    · exact hread.bind fun spec _ heq => heq ▸ .ok rfl

theorem alike_readMembers (h : ∀ path, Alike Eq (readField path v) (readField path v')) :
    Alike Eq (readMembers path (c ++ (key, v) :: d)) (readMembers path (c ++ (key, v') :: d)) := by
  induction c with
  | nil =>
    rw [List.nil_append, List.nil_append, readMembers, readMembers]
    split
    · exact .error
    · exact (h _).bind fun f _ heq => heq ▸ .refl (fun _ => rfl) _
  | cons m c ih =>
    rw [List.cons_append, List.cons_append, readMembers, readMembers]
    split
    · exact .error
    · refine Alike.bind (.refl (fun _ => rfl) (readField (path ++ "." ++ m.1) m.2)) ?_
      rintro f _ rfl
      exact ih.bind fun fs _ heq => heq ▸ .ok rfl

/-- The short form of a selector is read as the selector. -/
theorem alike_shorthand {s : String} (hv : v.text? = some s) (hs : Text.allBlank s = false) :
    Alike Eq (readField path v) (readField path (.obj [("selector", v)])) := by
  have hne : s ≠ "" := by
    rintro rfl
    cases hs
  have hshort : readField path v = .ok { selector := some s } := by
    cases v <;> cases hv <;> simp [readField, hs]
  have hlong : readField path (.obj [("selector", v)]) = .ok { selector := some s } := by
    rw [readField_obj]
    cases v <;> cases hv <;>
      simp [readTexts, memberNames, optionalText, Json.Members.get?, Json.text?, hne, children?, leaf, pure,
        Except.pure, bind, Except.bind]
  rw [hshort, hlong]
  exact .ok rfl

/-- A field is read alike in all spellings. -/
theorem alike_readField (h : RespellsField v v') : ∀ path, Alike Eq (readField path v) (readField path v') := by
  induction h with
  | shorthand hv hs => exact fun _ => alike_shorthand hv hs
  | order hkeys h =>
    exact fun path => alike_readField_obj (fun _ _ => Json.Members.get?_perm hkeys h) (fun _ => (h.map _).mem_iff)
      (.inl (by rw [children?, children?, Json.Members.get?_perm hkeys h]))
  | @child a b c d key v v' _ ih =>
    intro path
    refine alike_readField_obj (fun name hname => ?_) (fun name => ?_) ?_
    · rw [Json.Members.get?_insert_ne hname.symm, Json.Members.get?_insert_ne hname.symm]
    · simp [Json.Members.keys]
    · rcases Json.Members.get?_swap a b "children" "children" (.obj (c ++ (key, v) :: d))
          (.obj (c ++ (key, v') :: d)) with heq | ⟨-, hv, hv'⟩
      · exact .inl (by rw [children?, children?, heq])
      · refine .inr ⟨.obj (c ++ (key, v) :: d), .obj (c ++ (key, v') :: d), ?_, ?_, alike_readMembers ih⟩
        · rw [children?, hv]
          simp [Option.filter, Json.truthy]
        · rw [children?, hv']
          simp [Option.filter, Json.truthy]

end Spec

/-! ## Waits -/

namespace WaitDocument

/-- The waits are for the same kind, and make the same condition of any kind. -/
structure Same (d d' : WaitDocument) : Prop where
  kind : WaitKind.ofString? d.for = WaitKind.ofString? d'.for
  condition : ∀ kind, d.condition kind = d'.condition kind

theorem Same.refl (d : WaitDocument) : Same d d := ⟨rfl, fun _ => rfl⟩

theorem distinct_fields : Distinct fields := by decide

/-- The fields of a wait that have only one way to be written. -/
def plainFields : List Field :=
  [selectorField, xpathField, timeoutField, waitUntilField, urlField, functionField, argsField, pollingField]

theorem plainFields_subset : plainFields ⊆ fields := by
  simp [plainFields, fields]

variable {ms ms' a b : Json.Members}

/-- What is read of a wait, from what is read of its fields. -/
theorem alike_ofMembers {P : String → String → Prop} {Q : Option String → Option String → Prop}
    {S T : Option Bool → Option Bool → Prop} (hknown : Accounted fields ms.keys ↔ Accounted fields ms'.keys)
    (haction : Alike (fun _ _ => True) (actionField.optional none (nullable (oneOf ["wait"])) ms)
      (actionField.optional none (nullable (oneOf ["wait"])) ms'))
    (hfor : Alike P (forField.required text ms) (forField.required text ms'))
    (hstate : Alike Q (stateField.optional none (nullable text) ms) (stateField.optional none (nullable text) ms'))
    (hvisible : Alike S (visibleField.optional none (nullable bool) ms)
      (visibleField.optional none (nullable bool) ms'))
    (hhidden : Alike T (hiddenField.optional none (nullable bool) ms) (hiddenField.optional none (nullable bool) ms'))
    (hplain : ∀ f ∈ plainFields, f.get? ms = f.get? ms')
    (hsame : ∀ d d' : WaitDocument, P d.for d'.for → Q d.state d'.state → S d.visible d'.visible →
      T d.hidden d'.hidden → WaitKind.ofString? d.for = WaitKind.ofString? d'.for ∧ d.state? = d'.state?) :
    Alike Same (ofMembers ms) (ofMembers ms') := by
  have hget : ∀ f ∈ plainFields, f.get? ms = f.get? ms' := hplain
  simp only [plainFields, List.forall_mem_cons] at hget
  obtain ⟨hselector, hxpath, htimeout, hwaitUntil, hurl, hfunction, hargs, hpolling, -⟩ := hget
  refine .seqLeft (.seq (.seq (.seq (.seq (.seq (.seq (.seq (.seq (.seq (.seq (.seq (.seq (.map ?_ haction) hfor)
    (Field.alike_optional_eq hselector)) (Field.alike_optional_eq hxpath)) hstate) hvisible) hhidden)
    (Field.alike_optional_eq htimeout)) (Field.alike_optional_eq hwaitUntil)) (Field.alike_optional_eq hurl))
    (Field.alike_optional_eq hfunction)) (Field.alike_optional_eq hargs)) (Field.alike_optional_eq hpolling))
    (alike_noStrangers hknown)
  rintro _ _ - k k' hk selector _ rfl xpath _ rfl st st' hst vi vi' hvi hi hi' hhi timeout _ rfl waitUntil _ rfl
    url _ rfl function _ rfl args _ rfl polling _ rfl
  obtain ⟨hkind, hshown⟩ := hsame
    (WaitDocument.mk k selector xpath st vi hi timeout waitUntil url function args polling)
    (WaitDocument.mk k' selector xpath st' vi' hi' timeout waitUntil url function args polling) hk hst hvi hhi
  refine ⟨hkind, fun kind => ?_⟩
  rw [condition, condition, hshown]

/-- A wait whose fields have the same values is read the same. -/
theorem alike_of_get?_eq (hknown : Accounted fields ms.keys ↔ Accounted fields ms'.keys)
    (hget : ∀ f ∈ fields, f.get? ms = f.get? ms') : Alike Same (ofMembers ms) (ofMembers ms') := by
  refine alike_ofMembers (P := Eq) (Q := Eq) (S := Eq) (T := Eq) hknown
    ((Field.alike_optional_eq (hget _ (by simp [fields]))).mono fun _ _ _ => trivial)
    (Field.alike_required_eq (hget _ (by simp [fields]))) (Field.alike_optional_eq (hget _ (by simp [fields])))
    (Field.alike_optional_eq (hget _ (by simp [fields]))) (Field.alike_optional_eq (hget _ (by simp [fields])))
    (fun f hf => hget f (plainFields_subset hf)) ?_
  intro d d' hfor hstate hvisible hhidden
  rw [hfor, state?, state?, hstate, hvisible, hhidden]
  exact ⟨rfl, rfl⟩

theorem plain_ne : ∀ f ∈ plainFields, f ≠ forField ∧ f ≠ actionField := by decide

/-- The kind of a wait, named differently. -/
theorem alike_kind {key k k' : String} {kind : WaitKind} (hkey : key ∈ forField.spellings)
    (hk : WaitKind.ofString? k = some kind) (hk' : WaitKind.ofString? k' = some kind) :
    Alike Same (ofMembers (a ++ (key, .str k) :: b)) (ofMembers (a ++ (key, .str k') :: b)) := by
  have hget : ∀ f ∈ fields, f ≠ forField → f.get? (a ++ (key, .str k) :: b) = f.get? (a ++ (key, .str k') :: b) :=
    fun f hf hne => by
      rw [get?_insert_of_ne distinct_fields (by simp [fields]) hf hne hkey,
        get?_insert_of_ne distinct_fields (by simp [fields]) hf hne hkey]
  refine alike_ofMembers (P := fun x y => WaitKind.ofString? x = WaitKind.ofString? y) (Q := Eq) (S := Eq) (T := Eq)
    accounted_swap
    ((Field.alike_optional_eq (hget _ (by simp [fields]) (by decide))).mono fun _ _ _ => trivial)
    (Field.alike_required ?_)
    (Field.alike_optional_eq (hget _ (by simp [fields]) (by decide)))
    (Field.alike_optional_eq (hget _ (by simp [fields]) (by decide)))
    (Field.alike_optional_eq (hget _ (by simp [fields]) (by decide)))
    (fun f hf => hget f (plainFields_subset hf) (plain_ne f hf).1) ?_
  · rcases Field.get?_swap forField a b key (.str k) (.str k') with heq | ⟨-, hv, hv'⟩
    · rw [heq]
      exact .refl (R := fun x y => WaitKind.ofString? x = WaitKind.ofString? y) (fun _ => rfl) _
    · rw [hv, hv']
      exact .ok (hk.trans hk'.symm)
  · intro d d' hkind hstate hvisible hhidden
    refine ⟨hkind, ?_⟩
    rw [state?, state?, hstate, hvisible, hhidden]

/-- The state that an element is to have, in a word or by the switch of this name. -/
theorem alike_switch {name : String} (hname : name ∈ ["visible", "hidden"])
    (hlacks : (a ++ b).Lacks ["visible", "hidden", "state"]) :
    Alike Same (ofMembers (a ++ (name, .bool true) :: b)) (ofMembers (a ++ ("state", .str name) :: b)) := by
  have hother : ∀ f : Field, (∀ k ∈ f.spellings, k ∉ ["visible", "hidden", "state"]) →
      f.get? (a ++ (name, .bool true) :: b) = f.get? (a ++ ("state", .str name) :: b) := fun f hf => by
    rw [Field.get?_insert_ne fun hk => hf name hk (by simp at hname ⊢; tauto),
      Field.get?_insert_ne fun hk => hf "state" hk (by simp)]
  -- each of these three is given by the one member, or missing
  have hshown : ∀ f : Field, f.spellings ⊆ ["visible", "hidden", "state"] → ∀ k v,
      f.get? (a ++ (k, v) :: b) = if k ∈ f.spellings then some v else none :=
    fun f hf k v => Field.get?_put (hlacks.mono hf)
  have hstate := hshown stateField (by decide)
  have hvisible := hshown visibleField (by decide)
  have hhidden := hshown hiddenField (by decide)
  have hknown : ∀ f ∈ fields, f.spellings ⊆ ["visible", "hidden", "state"] → ∀ k ∈ f.spellings, ∀ v,
      Accounted fields (Json.Members.keys (a ++ (k, v) :: b)) ↔ Accounted fields (Json.Members.keys (a ++ b)) :=
    fun f hf hsub k hk v => accounted_put distinct_fields hf hk (hlacks.mono hsub)
  simp only [List.mem_cons, List.not_mem_nil, or_false] at hname
  refine alike_ofMembers (P := Eq) (Q := fun s s' => s = none ∧ s' = some name)
    (S := fun v v' => v = (if name = "visible" then some true else none) ∧ v' = none)
    (T := fun v v' => v = (if name = "hidden" then some true else none) ∧ v' = none) ?_
    ((Field.alike_optional_eq (hother _ (by decide))).mono fun _ _ _ => trivial)
    (Field.alike_required_eq (hother _ (by decide))) (Field.alike_optional ?_) (Field.alike_optional ?_)
    (Field.alike_optional ?_) (fun f hf => hother f (by revert f; decide)) ?_
  · rw [hknown stateField (by simp [fields]) (by decide) "state" (by decide)]
    rcases hname with rfl | rfl
    · exact hknown visibleField (by simp [fields]) (by decide) _ (by decide) _
    · exact hknown hiddenField (by simp [fields]) (by decide) _ (by decide) _
  · rw [hstate, hstate]
    rcases hname with rfl | rfl <;> exact .ok ⟨rfl, rfl⟩
  · rw [hvisible, hvisible]
    rcases hname with rfl | rfl <;> exact .ok ⟨rfl, rfl⟩
  · rw [hhidden, hhidden]
    rcases hname with rfl | rfl <;> exact .ok ⟨rfl, rfl⟩
  · rintro d d' hfor ⟨hs, hs'⟩ ⟨hv, hv'⟩ ⟨hh, hh'⟩
    refine ⟨by rw [hfor], ?_⟩
    rw [state?, state?, hs, hs', hv, hh]
    rcases hname with rfl | rfl <;> rfl

/-- A wait is read alike in all spellings. -/
theorem alike_of_respells (h : RespellsWait ms ms') : Alike Same (ofMembers ms) (ofMembers ms') := by
  cases h with
  | @rename a b f other v hf hother hlacks =>
    have hname : f.name ∈ f.spellings := List.mem_cons_self
    have hother : other ∈ f.spellings := List.mem_cons_of_mem _ (by simp [hother])
    exact alike_of_get?_eq
      ((accounted_put distinct_fields hf hname hlacks).trans (accounted_put distinct_fields hf hother hlacks).symm)
      fun g hg => get?_rename distinct_fields hf hname hother hlacks hg
  | order hkeys h =>
    exact alike_of_get?_eq (accounted_congr fun _ => (h.map _).mem_iff)
      fun f _ => Field.get?_congr fun _ _ => Json.Members.get?_perm hkeys h
  | kind hkey hk hk' => exact alike_kind hkey hk hk'
  | visible hlacks => exact alike_switch (by simp) hlacks
  | hidden hlacks => exact alike_switch (by simp) hlacks

/-- So is a wait inside a click. -/
theorem alike_of_respellsInner (h : RespellsInnerWait ms ms') : Alike Same (ofMembers ms) (ofMembers ms') := by
  cases h with
  | wait h => exact alike_of_respells h
  | @action a b hlacks =>
    have hmem : actionField ∈ fields := by simp [fields]
    have hname : "action" ∈ actionField.spellings := List.mem_cons_self
    have hget : ∀ f ∈ fields, f ≠ actionField →
        f.get? (a ++ b) = f.get? (a ++ ("action", .str "wait") :: b) :=
      fun f hf hne => (get?_insert_of_ne distinct_fields hmem hf hne hname).symm
    refine alike_ofMembers (P := Eq) (Q := Eq) (S := Eq) (T := Eq)
      (accounted_put distinct_fields hmem hname hlacks).symm (Field.alike_optional ?_)
      (Field.alike_required_eq (hget _ (by simp [fields]) (by decide)))
      (Field.alike_optional_eq (hget _ (by simp [fields]) (by decide)))
      (Field.alike_optional_eq (hget _ (by simp [fields]) (by decide)))
      (Field.alike_optional_eq (hget _ (by simp [fields]) (by decide)))
      (fun f hf => hget f (plainFields_subset hf) (plain_ne f hf).2) ?_
    · rw [Field.get?_of_lacks hlacks, Field.get?_insert_self hname hlacks]
      exact .ok trivial
    · intro d d' hfor hstate hvisible hhidden
      rw [hfor, state?, state?, hstate, hvisible, hhidden]
      exact ⟨rfl, rfl⟩

/-- What a wait does is told by its own members. -/
theorem action?_of_respells (h : RespellsWait ms ms') : ms.get? "action" = ms'.get? "action" := by
  have hput : ∀ (a b : Json.Members) (k : String) (v : Json), k ≠ "action" →
      Json.Members.get? (a ++ (k, v) :: b) "action" = Json.Members.get? (a ++ b) "action" :=
    fun a b k v hne => Json.Members.get?_insert_ne hne
  have hne : ∀ f ∈ fields, ∀ other, f.otherName = some other → f.name ≠ "action" ∧ other ≠ "action" := by
    simp [fields, actionField, forField, selectorField, xpathField, stateField, visibleField, hiddenField,
      timeoutField, waitUntilField, urlField, functionField, argsField, pollingField]
  cases h with
  | rename hf hother hlacks =>
    obtain ⟨hname, hother⟩ := hne _ hf _ hother
    rw [hput _ _ _ _ hname, hput _ _ _ _ hother]
  | order hkeys h => exact Json.Members.get?_perm hkeys h
  | kind hkey hk hk' =>
    have hkey : ∀ k ∈ forField.spellings, k ≠ "action" := by decide
    rw [hput _ _ _ _ (hkey _ ‹_›), hput _ _ _ _ (hkey _ ‹_›)]
  | visible hlacks => rw [hput _ _ _ _ (by decide), hput _ _ _ _ (by decide)]
  | hidden hlacks => rw [hput _ _ _ _ (by decide), hput _ _ _ _ (by decide)]

end WaitDocument

/-! ## Steps -/

/-- Words for the wait of a click that say the same. -/
def SameWord : Option String → Option String → Prop :=
  Option.Rel fun k k' => (k = "" ↔ k' = "") ∧ WaitKind.ofString? k = WaitKind.ofString? k'

theorem SameWord.refl (w : Option String) : SameWord w w := by
  cases w with
  | none => exact .none
  | some k => exact .some ⟨Iff.rfl, rfl⟩

namespace Plan

variable {place place' : String}

theorem alike_readKind {k k' : String} (h : WaitKind.ofString? k = WaitKind.ofString? k') :
    Alike Eq (WaitKind.read (.str k)) (WaitKind.read (.str k')) := by
  rw [WaitKind.read, WaitKind.read, h]
  cases WaitKind.ofString? k' with
  | some kind => exact .ok rfl
  | none => exact .error

/-- A condition that is checked is told by its kind and by the rest of the wait. -/
theorem alike_condition {q q' r r' : String} {k k' : String} {make make' : WaitKind → WaitCondition}
    (hkind : WaitKind.ofString? k = WaitKind.ofString? k') (hmake : ∀ kind, make kind = make' kind) :
    Alike Eq (placed q (WaitKind.read (.str k)) >>= fun kind => placed r (make kind).check)
      (placed q' (WaitKind.read (.str k')) >>= fun kind => placed r' (make' kind).check) := by
  refine ((alike_readKind hkind).mapError _ _).bind ?_
  rintro kind _ rfl
  rw [hmake]
  exact (Alike.refl (fun _ => rfl) _).mapError _ _

theorem alike_buildWait {d d' : WaitDocument} (h : WaitDocument.Same d d') :
    Alike Eq (buildWait place d) (buildWait place' d') :=
  alike_condition h.kind h.condition

theorem alike_buildClickWait {d d' : Option WaitDocument} {w w' : Option String}
    (hd : Option.Rel WaitDocument.Same d d') (hw : SameWord w w') :
    Alike Eq (buildClickWait place d w) (buildClickWait place d' w') := by
  cases hd with
  | some hd => exact (alike_buildWait hd).bind fun _ _ h => h ▸ .ok rfl
  | none =>
    cases hw with
    | none => exact .ok rfl
    | @some k k' hk =>
      rw [buildClickWait, buildClickWait]
      simp only [beq_iff_eq, hk.1]
      split
      · exact .ok rfl
      · exact (alike_condition hk.2 fun _ => rfl).bind fun _ _ h => h ▸ .ok rfl

theorem alike_buildWaitFor {k : String} {d : WaitDocument} (hk : k ≠ "") (hfor : d.for = k)
    (hd : ∀ kind, d.condition kind = { kind := kind }) :
    Alike Eq (buildClickWait place none (some k)) (buildClickWait place (some d) none) := by
  rw [buildClickWait, buildClickWait]
  simp only [beq_iff_eq, hk, if_false]
  exact (alike_condition (by rw [hfor]) fun kind => (hd kind).symm).bind fun _ _ h => h ▸ .ok rfl

end Plan

namespace StepDocument

/-- The steps keep the same rules, and describe the same step at every place, or none. -/
structure Same (d d' : StepDocument) : Prop where
  targetRule : d.keepsTargetRule = d'.keepsTargetRule
  waitRule : d.keepsWaitRule = d'.keepsWaitRule
  builds : ∀ inCrawl place, Alike Eq (Plan.buildStep inCrawl place d) (Plan.buildStep inCrawl place d')

theorem Same.refl (d : StepDocument) : Same d d := ⟨rfl, rfl, fun _ _ => .refl (fun _ => rfl) _⟩

theorem alike_buildSteps {inCrawl : Bool} {place : String} {ds ds' : List StepDocument} (h : List.Forall₂ Same ds ds') :
    ∀ n, Alike Eq (Plan.buildSteps inCrawl place n ds) (Plan.buildSteps inCrawl place n ds') := by
  induction h with
  | nil => exact fun _ => .ok rfl
  | cons h _ ih =>
    intro n
    rw [Plan.buildSteps, Plan.buildSteps]
    refine (h.builds _ _).bind ?_
    rintro step _ rfl
    exact (ih (n + 1)).bind fun _ _ heq => heq ▸ .ok rfl

/-- The fields of a step whose values can be written in several ways. -/
inductive Varied where
  | wait
  | waitFor
  | data
  | times
  | steps
  deriving DecidableEq

namespace Varied

def field : Varied → Field
  | wait => waitField
  | waitFor => waitForField
  | data => dataField
  | times => timesField
  | steps => stepsField

def Value : Varied → Type
  | wait => Option WaitDocument
  | waitFor => Option String
  | data => Json.Members
  | times => Int
  | steps => List StepDocument

/-- What is read of the value that the field has, if any. -/
def reading : (p : Varied) → Option Json → Checked p.Value
  | wait => Field.orDefault none (nullable WaitDocument.read)
  | waitFor => Field.orDefault none (nullable text)
  | data => Field.orMissing dictionary
  | times => Field.orDefault (0 : Int) int
  | steps => Field.orDefault [] readList

/-- The two readings come to the same. -/
def Agree : (p : Varied) → p.Value → p.Value → Prop
  | wait => Option.Rel WaitDocument.Same
  | waitFor => SameWord
  | data => fun ms ms' => ∀ path, Alike Eq (Spec.read path (.obj ms)) (Spec.read path (.obj ms'))
  | times => fun n n' => Plan.timesOf n = Plan.timesOf n'
  | steps => List.Forall₂ Same

theorem agree_refl (p : Varied) (x : p.Value) : p.Agree x x := by
  cases p with
  | wait =>
    cases x with
    | none => exact Option.Rel.none
    | some d => exact Option.Rel.some (.refl d)
  | waitFor => exact SameWord.refl x
  | data => exact fun _ => Alike.refl (fun _ => rfl) _
  | times => exact rfl
  | steps => exact List.forall₂_same.2 fun d _ => Same.refl d

theorem field_eq (p : Varied) : ∀ a, ∀ f ∈ fields a, ∀ k ∈ p.field.spellings, k ∈ f.spellings → f = p.field := by
  intro a
  cases p <;> cases a <;> decide

theorem spellings_ne (p q : Varied) (h : q ≠ p) : ∀ k ∈ p.field.spellings, k ∉ q.field.spellings := by
  cases p <;> cases q <;> first | decide | exact absurd rfl h

end Varied

/-- The fields that `Varied` tells apart. -/
def variedFields : List Field := [waitField, waitForField, dataField, timesField, stepsField]

theorem Varied.field_mem (p : Varied) : p.field ∈ variedFields := by
  cases p <;> decide

theorem distinct_fields (act : Action) : Distinct (fields act) := by
  cases act <;> decide

section
variable {ms ms' a b : Json.Members} {key : String} {v v' : Json} {act : Action}

/-- What is read of the fields that can be written in several ways comes to the same. -/
def Agrees (act : Action) (ms ms' : Json.Members) : Prop :=
  ∀ p : Varied, p.field ∈ fields act → Alike p.Agree (p.reading (p.field.get? ms)) (p.reading (p.field.get? ms'))

theorem Agrees.of_get?_eq (h : ∀ f ∈ fields act, f.get? ms = f.get? ms') : Agrees act ms ms' := fun p hp => by
  rw [h _ hp]
  exact .refl p.agree_refl _

/-- Another value of one of these fields, if this comes to the same. -/
theorem agrees_swap (p : Varied) (hkey : key ∈ p.field.spellings)
    (h : Alike p.Agree (p.reading (some v)) (p.reading (some v'))) :
    Agrees act (a ++ (key, v) :: b) (a ++ (key, v') :: b) := by
  intro q _
  by_cases hq : q = p
  · subst hq
    rcases Field.get?_swap q.field a b key v v' with heq | ⟨-, hv, hv'⟩
    · rw [heq]
      exact .refl q.agree_refl _
    · rw [hv, hv']
      exact h
  · have hne := Varied.spellings_ne p q hq key hkey
    rw [Field.get?_insert_ne hne, Field.get?_insert_ne hne]
    exact .refl q.agree_refl _

theorem Same.wait {d d' : WaitDocument} (h : WaitDocument.Same d d') : Same (.wait d) (.wait d') :=
  ⟨rfl, rfl, fun _ _ => (Plan.alike_buildWait h).bind fun _ _ heq => heq ▸ .ok rfl⟩

theorem Same.click {selector xpath : Option String} {d d' : Option WaitDocument} {w w' : Option String}
    (hrule : (d.isSome && isGiven w) = (d'.isSome && isGiven w'))
    (hbuild : ∀ place, Alike Eq (Plan.buildClickWait place d w) (Plan.buildClickWait place d' w')) :
    Same (.click selector xpath d w) (.click selector xpath d' w') := by
  refine ⟨rfl, ?_, fun inCrawl place => ?_⟩
  · rw [keepsWaitRule, keepsWaitRule, hrule]
  · rw [Plan.buildStep, Plan.buildStep]
    exact (hbuild place).bind fun _ _ heq => heq ▸ .ok rfl

theorem Same.scrape {data data' : Json.Members} {path : String}
    (h : ∀ path, Alike Eq (Spec.read path (.obj data)) (Spec.read path (.obj data'))) :
    Same (.scrape data path) (.scrape data' path) := by
  refine ⟨rfl, rfl, fun inCrawl place => ?_⟩
  rw [Plan.buildStep, Plan.buildStep]
  exact ((h _).mapError _ _).bind fun _ _ heq => heq ▸ .ok rfl

theorem Same.repeat {n n' : Int} {ds ds' : List StepDocument} (hn : Plan.timesOf n = Plan.timesOf n')
    (h : List.Forall₂ Same ds ds') : Same (.repeat n ds) (.repeat n' ds') := by
  refine ⟨rfl, rfl, fun inCrawl place => ?_⟩
  rw [Plan.buildStep, Plan.buildStep, hn]
  exact (alike_buildSteps h 0).bind fun _ _ heq => heq ▸ .ok rfl

theorem Same.crawl {selector xpath : Option String} {name : String} {ds ds' : List StepDocument}
    (h : List.Forall₂ Same ds ds') : Same (.crawl selector xpath name ds) (.crawl selector xpath name ds') := by
  refine ⟨rfl, rfl, fun inCrawl place => ?_⟩
  rw [Plan.buildStep, Plan.buildStep]
  split
  · exact .error
  · exact (alike_buildSteps h 0).bind fun _ _ heq => heq ▸ .ok rfl

/-- What is read of a click, from what is read of its wait. -/
theorem alike_click {P : Option WaitDocument → Option WaitDocument → Prop} {Q : Option String → Option String → Prop}
    {nested nested' : List (String × Checked (List StepDocument))}
    (hknown : Accounted (fields .click) ms.keys ↔ Accounted (fields .click) ms'.keys)
    (hselector : selectorField.get? ms = selectorField.get? ms') (hxpath : xpathField.get? ms = xpathField.get? ms')
    (hwait : Alike P (Field.orDefault none (nullable WaitDocument.read) (waitField.get? ms))
      (Field.orDefault none (nullable WaitDocument.read) (waitField.get? ms')))
    (hword : Alike Q (Field.orDefault none (nullable text) (waitForField.get? ms))
      (Field.orDefault none (nullable text) (waitForField.get? ms')))
    (hsame : ∀ d d' w w', P d d' → Q w w' → (d.isSome && isGiven w) = (d'.isSome && isGiven w') ∧
      ∀ place, Alike Eq (Plan.buildClickWait place d w) (Plan.buildClickWait place d' w')) :
    Alike Same (ofMembers .click ms nested) (ofMembers .click ms' nested') := by
  refine .seqLeft (.seq (.seq (.seq (.map ?_ (Field.alike_optional_eq hselector)) (Field.alike_optional_eq hxpath))
    (Field.alike_optional hwait)) (Field.alike_optional hword)) (alike_noStrangers hknown)
  rintro selector _ rfl xpath _ rfl d d' hd w w' hw
  obtain ⟨hrule, hbuild⟩ := hsame d d' w w' hd hw
  exact .click hrule hbuild

/-- What is read of a step, from what is read of its fields. -/
theorem alike_ofMembers (hknown : Accounted (fields act) ms.keys ↔ Accounted (fields act) ms'.keys)
    (hplain : ∀ f ∈ fields act, f ∉ variedFields → f.get? ms = f.get? ms') (h : Agrees act ms ms') :
    Alike Same (ofMembers act ms (readNested ms)) (ofMembers act ms' (readNested ms')) := by
  have hoption : ∀ f ∈ fields act, f ∉ variedFields → ∀ {α : Type} (d : α) (read : Reader α),
      Alike Eq (f.optional d read ms) (f.optional d read ms') :=
    fun f hf hnot _ _ _ => Field.alike_optional_eq (hplain f hf hnot)
  have hmust : ∀ f ∈ fields act, f ∉ variedFields → ∀ {α : Type} (read : Reader α),
      Alike Eq (f.required read ms) (f.required read ms') :=
    fun f hf hnot _ _ => Field.alike_required_eq (hplain f hf hnot)
  have hsteps : stepsField ∈ fields act → Alike (List.Forall₂ Same) (stepsField.optional [] id (readNested ms))
      (stepsField.optional [] id (readNested ms')) := by
    rw [optional_readNested, optional_readNested]
    exact fun hmem => Field.alike_optional (h .steps hmem)
  have hstrangers := alike_noStrangers hknown
  cases act with
  | click =>
    refine alike_click hknown (hplain _ (by decide) (by decide)) (hplain _ (by decide) (by decide))
      (h .wait (by decide)) (h .waitFor (by decide)) ?_
    intro d d' w w' hd hw
    refine ⟨?_, fun place => Plan.alike_buildClickWait hd hw⟩
    have hisSome : d.isSome = d'.isSome := by cases hd <;> rfl
    have hisGiven : isGiven w = isGiven w' := by
      cases hw with
      | none => rfl
      | some hk => simp [isGiven, bne, hk.1]
    rw [hisSome, hisGiven]
  | type =>
    refine .seqLeft (.seq (.seq (.seq (.map ?_ (hmust _ (by decide) (by decide) _))
      (hoption _ (by decide) (by decide) _ _)) (hoption _ (by decide) (by decide) _ _))
      (hoption _ (by decide) (by decide) _ _)) hstrangers
    rintro text _ rfl selector _ rfl xpath _ rfl delay _ rfl
    exact .refl _
  | go =>
    refine .seqLeft (.seq (.seq (.map ?_ (hmust _ (by decide) (by decide) _))
      (hoption _ (by decide) (by decide) _ _)) (hoption _ (by decide) (by decide) _ _)) hstrangers
    rintro place _ rfl waitUntil _ rfl timeout _ rfl
    exact .refl _
  | wait =>
    have hnot : ∀ f ∈ WaitDocument.fields, f ∉ variedFields := by decide
    exact .map (fun _ _ => .wait) (WaitDocument.alike_of_get?_eq hknown fun f hf => hplain f hf (hnot f hf))
  | scrape =>
    refine .seqLeft (.seq (.map ?_ (Field.alike_required (h .data (by decide))))
      (hmust _ (by decide) (by decide) _)) hstrangers
    rintro data data' hdata path _ rfl
    exact .scrape hdata
  | screenshot =>
    refine .seqLeft (.seq (.map ?_ (hmust _ (by decide) (by decide) _))
      (hoption _ (by decide) (by decide) _ _)) hstrangers
    rintro path _ rfl fullPage _ rfl
    exact .refl _
  | «repeat» =>
    refine .seqLeft (.seq (.map ?_ (Field.alike_optional (h .times (by decide)))) (hsteps (by decide))) hstrangers
    rintro n n' hn ds ds' hds
    exact .repeat hn hds
  | crawl =>
    refine .seqLeft (.seq (.seq (.seq (.map ?_ (hoption _ (by decide) (by decide) _ _))
      (hoption _ (by decide) (by decide) _ _)) (hoption _ (by decide) (by decide) _ _)) (hsteps (by decide))) hstrangers
    rintro selector _ rfl xpath _ rfl name _ rfl ds ds' hds
    exact .crawl hds

/-- A step whose fields have the same values is read the same. -/
theorem alike_of_get?_eq (hknown : Accounted (fields act) ms.keys ↔ Accounted (fields act) ms'.keys)
    (hget : ∀ f ∈ fields act, f.get? ms = f.get? ms') :
    Alike Same (ofMembers act ms (readNested ms)) (ofMembers act ms' (readNested ms')) :=
  alike_ofMembers hknown (fun f hf _ => hget f hf) (.of_get?_eq hget)

theorem optional_eq_ok {f : Field} {α : Type} {d x : α} {read : Reader α} (h : f.optional d read ms = Checked.ok x) :
    Field.orDefault d read (f.get? ms) = Checked.ok x := by
  rw [← Field.get?_eq]
  rw [Field.optional] at h
  cases hms : f.find? ms with
  | none =>
    rw [hms] at h
    exact h
  | some m =>
    rw [hms] at h
    exact Checked.within_eq_ok h

/-- What is read of a click that can be read. -/
theorem click_eq_ok {nested : List (String × Checked (List StepDocument))} {d : StepDocument}
    (h : ofMembers .click ms nested = Checked.ok d) :
    (∃ w, Field.orDefault none (nullable WaitDocument.read) (waitField.get? ms) = Checked.ok w) ∧
      ∃ word, Field.orDefault none (nullable text) (waitForField.get? ms) = Checked.ok word := by
  cases readFrom_of_ofMembers h with
  | click _ _ hwait hword => exact ⟨⟨_, optional_eq_ok hwait⟩, _, optional_eq_ok hword⟩

/-- A word for the wait of a click, or a wait of this kind. -/
theorem alike_waitFor {k : String} {nested nested' : List (String × Checked (List StepDocument))}
    (hknown : Accounted (fields .click) ms.keys ↔ Accounted (fields .click) ms'.keys)
    (hselector : selectorField.get? ms = selectorField.get? ms') (hxpath : xpathField.get? ms = xpathField.get? ms')
    (hv : v.text? = some k) (hk : k ≠ "") (hwait : waitField.get? ms = none ∨ waitField.get? ms = some .null)
    (hword : waitForField.get? ms = some v) (hwait' : waitField.get? ms' = some (.obj [("for", v)]))
    (hword' : waitForField.get? ms' = none) :
    Alike Same (ofMembers .click ms nested) (ofMembers .click ms' nested') := by
  have hnone : Field.orDefault none (nullable WaitDocument.read) (waitField.get? ms) = Checked.ok none := by
    rcases hwait with hwait | hwait <;> rw [hwait] <;> rfl
  cases v with
  | str s =>
    obtain rfl : s = k := Option.some.inj hv
    refine alike_click
      (P := fun d d' => d = none ∧ d' = some (.mk s none none none none none none none none none [] none))
      (Q := fun w w' => w = some s ∧ w' = none) hknown hselector hxpath ?_ ?_ ?_
    · rw [hnone, hwait']
      exact .ok ⟨rfl, rfl⟩
    · rw [hword, hword']
      exact .ok ⟨rfl, rfl⟩
    · rintro _ _ _ _ ⟨rfl, rfl⟩ ⟨rfl, rfl⟩
      exact ⟨rfl, fun place => Plan.alike_buildWaitFor hk rfl fun _ => rfl⟩
  | unpaired s =>
    -- neither can be read: the text is not one
    refine .of_faults (fun d h => ?_) fun d h => ?_
    · obtain ⟨-, word, hread⟩ := click_eq_ok h
      rw [hword] at hread
      cases hread
    · obtain ⟨⟨w, hread⟩, -⟩ := click_eq_ok h
      rw [hwait'] at hread
      cases hread
  | _ => cases hv

/-- A step is read alike if its members are, as those of the action that they name. -/
theorem alike_read (htag : ms.get? tagKey = ms'.get? tagKey)
    (h : ∀ act, ms.action? = some act →
      Alike Same (ofMembers act ms (readNested ms)) (ofMembers act ms' (readNested ms'))) :
    Alike Same (read (.obj ms)) (read (.obj ms')) := by
  rw [read, read, ← htag]
  cases htagged : ms.get? tagKey with
  | none => exact .error
  | some tag =>
    dsimp only
    cases hact : tag.text?.bind Action.ofString? with
    | none => exact .error
    | some act =>
      have hread := h act (by rw [Json.Members.action?, htagged, Option.bind_some, hact])
      exact ((hread.keeping fun _ _ hsame => hsame.targetRule).keeping fun _ _ hsame => hsame.waitRule).within

theorem alike_read_of_action (hact : ms.action? = some act) (htag : ms.get? tagKey = ms'.get? tagKey)
    (h : Alike Same (ofMembers act ms (readNested ms)) (ofMembers act ms' (readNested ms'))) :
    Alike Same (read (.obj ms)) (read (.obj ms')) := by
  refine alike_read htag fun act' hact' => ?_
  obtain rfl : act = act' := Option.some.inj (hact.symm.trans hact')
  exact h

theorem action?_insert (hne : key ≠ tagKey) : (a ++ (key, v) :: b).action? = (a ++ b).action? := by
  rw [Json.Members.action?, Json.Members.action?, Json.Members.get?_insert_ne hne]

theorem alike_readList {vs ws : List Json} (h : Alike Same (read v) (read v')) :
    Alike (List.Forall₂ Same) (readList (.arr (vs ++ v :: ws))) (readList (.arr (vs ++ v' :: ws))) := by
  rw [readList, readList]
  refine Alike.items ?_ 0
  have hrefl : ∀ vs, List.Forall₂ (Alike Same) (readItems vs) (readItems vs) :=
    fun vs => List.forall₂_same.2 fun r _ => .refl .refl r
  induction vs with
  | nil => exact .cons h (hrefl ws)
  | cons w vs ih => exact .cons (.refl .refl _) ih

/-- A step with another value of one of these fields, if this comes to the same. -/
theorem alike_swap (p : Varied) (hkey : key ∈ p.field.spellings)
    (h : Alike p.Agree (p.reading (some v)) (p.reading (some v'))) :
    Alike Same (read (.obj (a ++ (key, v) :: b))) (read (.obj (a ++ (key, v') :: b))) := by
  have htag : key ≠ tagKey := by
    have hnot : tagKey ∉ p.field.spellings := by cases p <;> decide
    rintro rfl
    exact hnot hkey
  refine alike_read ?_ fun act _ => alike_ofMembers accounted_swap (fun f hf hplain => ?_) (agrees_swap p hkey h)
  · rw [Json.Members.get?_insert_ne htag, Json.Members.get?_insert_ne htag]
  · have hne : key ∉ f.spellings := fun hmem => hplain (p.field_eq act f hf key hkey hmem ▸ p.field_mem)
    rw [Field.get?_insert_ne hne, Field.get?_insert_ne hne]

theorem tag_ne {f : Field} (hf : f ∈ fields act) {other : String} (hother : f.otherName = some other) :
    f.name ≠ tagKey ∧ other ≠ tagKey := by
  have hfields : ∀ f ∈ fields act, tagKey ∈ f.spellings → f = tagField := by cases act <;> decide
  refine ⟨fun heq => ?_, fun heq => ?_⟩
  · rw [hfields f hf (heq ▸ List.mem_cons_self)] at hother
    cases hother
  · rw [hfields f hf (List.mem_cons_of_mem _ (by simp [hother, heq]))] at hother
    cases hother

theorem waitFor_ne : ∀ k ∈ waitForField.spellings, k ≠ tagKey ∧ k ∉ waitField.spellings ∧ k ∉ selectorField.spellings ∧
    k ∉ xpathField.spellings := by decide

/-- A field of a step goes by either of its names. -/
theorem alike_rename {f : Field} {other : String} (hact : (a ++ b).action? = some act) (hf : f ∈ fields act)
    (hother : f.otherName = some other) (hlacks : (a ++ b).Lacks f.spellings) :
    Alike Same (read (.obj (a ++ (f.name, v) :: b))) (read (.obj (a ++ (other, v) :: b))) := by
  obtain ⟨hname, hother'⟩ := tag_ne hf hother
  have hk : f.name ∈ f.spellings := List.mem_cons_self
  have hk' : other ∈ f.spellings := List.mem_cons_of_mem _ (by simp [hother])
  refine alike_read_of_action ((action?_insert hname).trans hact) ?_ (alike_of_get?_eq ?_ fun g hg => ?_)
  · rw [Json.Members.get?_insert_ne hname, Json.Members.get?_insert_ne hother']
  · exact (accounted_put (distinct_fields act) hf hk hlacks).trans (accounted_put (distinct_fields act) hf hk' hlacks).symm
  · exact get?_rename (distinct_fields act) hf hk hk' hlacks hg

/-- To repeat without saying how often is to repeat ten times. -/
theorem alike_noTimes (hact : (a ++ b).action? = some .repeat) (hlacks : (a ++ b).Lacks ["times"]) :
    Alike Same (read (.obj (a ++ b))) (read (.obj (a ++ ("times", .int 10) :: b))) := by
  have hmem : timesField ∈ fields .repeat := by decide
  have hne : ∀ f ∈ fields .repeat, f ≠ timesField → f.get? (a ++ b) = f.get? (a ++ ("times", .int 10) :: b) :=
    fun f hf hne => (get?_insert_of_ne (distinct_fields _) hmem hf hne (by decide)).symm
  refine alike_read_of_action hact (Json.Members.get?_insert_ne (by decide)).symm
    (alike_ofMembers (accounted_put (distinct_fields _) hmem (by decide) hlacks).symm
      (fun f hf hplain => hne f hf fun heq => hplain (heq ▸ Varied.times.field_mem)) fun p hp => ?_)
  by_cases hp' : p = .times
  · subst hp'
    rw [Field.get?_of_lacks hlacks, Field.get?_insert_self (by decide) hlacks]
    exact .ok rfl
  · have hfield : p.field ≠ timesField := fun heq =>
      Varied.spellings_ne p .times (Ne.symm hp') _ (heq ▸ List.mem_cons_self) List.mem_cons_self
    rw [hne p.field hp hfield]
    exact .refl p.agree_refl _

/-- A word for the wait of a click is a wait of this kind. -/
theorem alike_word {k : String} (hact : (a ++ b).action? = some .click) (hkey : key ∈ waitForField.spellings)
    (hv : v.text? = some k) (hk : k ≠ "") (hlacks : (a ++ b).Lacks ("wait" :: waitForField.spellings)) :
    Alike Same (read (.obj (a ++ (key, v) :: b))) (read (.obj (a ++ ("wait", .obj [("for", v)]) :: b))) := by
  obtain ⟨htag, hwait, hselector, hxpath⟩ := waitFor_ne key hkey
  have hwaitLacks : (a ++ b).Lacks waitField.spellings := hlacks.mono (by decide)
  have hwordLacks : (a ++ b).Lacks waitForField.spellings := hlacks.mono (by decide)
  refine alike_read_of_action ((action?_insert htag).trans hact) ?_ ?_
  · rw [Json.Members.get?_insert_ne htag, Json.Members.get?_insert_ne (by decide)]
  · refine alike_waitFor ((accounted_put (distinct_fields _) (by decide) hkey hwordLacks).trans
      (accounted_put (f := waitField) (distinct_fields _) (by decide) (by decide) hwaitLacks).symm) ?_ ?_ hv hk ?_
      (Field.get?_insert_self hkey hwordLacks) (Field.get?_insert_self (by decide) hwaitLacks) ?_
    · rw [Field.get?_insert_ne hselector, Field.get?_insert_ne (by decide)]
    · rw [Field.get?_insert_ne hxpath, Field.get?_insert_ne (by decide)]
    · rw [Field.get?_insert_ne hwait, Field.get?_of_lacks hwaitLacks]
      exact .inl rfl
    · rw [Field.get?_insert_ne (by decide), Field.get?_of_lacks hwordLacks]

/-- A word beside a wait that is null is a wait of this kind. -/
theorem alike_wordBesideNull {k : String} (hact : ms.action? = some .click) (hkey : key ∈ waitForField.spellings)
    (hv : v.text? = some k) (hk : k ≠ "") (hlacks : ms.Lacks ("wait" :: waitForField.spellings)) :
    Alike Same (read (.obj (("wait", .null) :: (key, v) :: ms))) (read (.obj (("wait", .obj [("for", v)]) :: ms))) := by
  obtain ⟨htag, hwait, hselector, hxpath⟩ := waitFor_ne key hkey
  have hwordLacks : ms.Lacks waitForField.spellings := hlacks.mono (by decide)
  have hmsLacks : ms.Lacks waitField.spellings := hlacks.mono (by decide)
  have hwaitLacks : Lacks ((key, v) :: ms) waitField.spellings := by
    intro name hname hmem
    rcases List.mem_cons.1 hmem with rfl | hmem
    · exact hwait hname
    · exact hmsLacks name hname hmem
  -- each of the members is put in front
  have hput : ∀ (f : Field) (k : String) (v : Json) (ms : Json.Members), k ∉ f.spellings →
      f.get? ((k, v) :: ms) = f.get? ms := fun f k v ms hne => Field.get?_insert_ne (a := []) hne
  have hself : ∀ (f : Field) (k : String) (v : Json) (ms : Json.Members), k ∈ f.spellings → Lacks ms f.spellings →
      f.get? ((k, v) :: ms) = some v := fun f k v ms hk hlacks => Field.get?_insert_self (a := []) hk hlacks
  have htagged : ∀ (k : String) (v : Json) (ms : Json.Members), k ≠ tagKey →
      Json.Members.get? ((k, v) :: ms) tagKey = ms.get? tagKey :=
    fun k v ms hne => Json.Members.get?_insert_ne (a := []) hne
  refine alike_read_of_action ?_ ?_ (alike_waitFor ?_ ?_ ?_ hv hk (.inr (hself _ _ _ _ (by decide) hwaitLacks)) ?_
    (hself _ _ _ _ (by decide) hmsLacks) ?_)
  · rw [Json.Members.action?, htagged _ _ _ (by decide), htagged _ _ _ htag]
    exact hact
  · rw [htagged _ _ _ (by decide), htagged _ _ _ htag, htagged _ _ _ (by decide)]
  · exact (accounted_put (f := waitField) (a := []) (distinct_fields _) (by decide) (by decide) hwaitLacks).trans
      ((accounted_put (f := waitForField) (a := []) (distinct_fields _) (by decide) hkey hwordLacks).trans
        (accounted_put (f := waitField) (a := []) (distinct_fields _) (by decide) (by decide) hmsLacks).symm)
  · rw [hput _ _ _ _ (by decide), hput _ _ _ _ hselector, hput _ _ _ _ (by decide)]
  · rw [hput _ _ _ _ (by decide), hput _ _ _ _ hxpath, hput _ _ _ _ (by decide)]
  · rw [hput _ _ _ _ (by decide), hself _ _ _ _ hkey hwordLacks]
  · rw [hput _ _ _ _ (by decide), Field.get?_of_lacks hwordLacks]

/-- A step is read alike in all spellings. -/
theorem alike_of_respells {v v' : Json} (h : RespellsStep v v') : Alike Same (read v) (read v') := by
  induction h with
  | rename hact hf hother hlacks => exact alike_rename hact hf hother hlacks
  | order hkeys h =>
    exact alike_read (Json.Members.get?_perm hkeys h) fun act _ => alike_of_get?_eq
      (accounted_congr fun _ => (h.map _).mem_iff) fun f _ => Field.get?_congr fun _ _ => Json.Members.get?_perm hkeys h
  | negated h h' =>
    refine alike_swap .times (by decide) ?_
    change Alike _ (Schema.int _) (Schema.int _)
    rw [h, h']
    exact .ok (by simp [Varied.Agree, Plan.timesOf])
  | @zeroTimes a b v h =>
    refine alike_swap .times (by decide) ?_
    change Alike _ (Schema.int v) (Schema.int (.int 10))
    rw [h]
    exact .ok rfl
  | noTimes hact hlacks => exact alike_noTimes hact hlacks
  | wait hact h =>
    exact alike_read_of_action hact (WaitDocument.action?_of_respells h)
      (.map (fun _ _ => .wait) (WaitDocument.alike_of_respells h))
  | innerWait h =>
    refine alike_swap .wait (by decide) ?_
    exact .map (fun _ _ => .some) (WaitDocument.alike_of_respellsInner h)
  | @waitForKind a b key k k' kind hkey hk hk' =>
    refine alike_swap .waitFor hkey (.ok (.some ⟨iff_of_false ?_ ?_, hk.trans hk'.symm⟩))
    · rintro rfl
      cases hk
    · rintro rfl
      cases hk'
  | waitFor hact hkey hv hk hlacks => exact alike_word hact hkey hv hk hlacks
  | waitForNull hact hkey hv hk hlacks => exact alike_wordBesideNull hact hkey hv hk hlacks
  | data h => exact alike_swap .data (by decide) (.ok fun path => Spec.alike_readMembers (Spec.alike_readField h))
  | subStep hkey _ ih => exact alike_swap .steps hkey (alike_readList ih)

end
end StepDocument

/-! ## Documents -/

namespace Document

variable {ms ms' : Json.Members}

/-- The documents are of the same plan. -/
structure Same (d d' : Document) : Prop where
  steps : List.Forall₂ StepDocument.Same d.steps d'.steps
  rest : { d with steps := [] } = { d' with steps := [] }

theorem Same.refl (d : Document) : Same d d := ⟨List.forall₂_same.2 fun d _ => .refl d, rfl⟩

/-- What is read of a document, from what is read of its fields. -/
theorem alike_ofMembers (hget : ∀ f ∈ fields, f ≠ stepsField → f.get? ms = f.get? ms')
    (hsteps : Alike (List.Forall₂ StepDocument.Same)
      (Field.orDefault [] StepDocument.readList (stepsField.get? ms))
      (Field.orDefault [] StepDocument.readList (stepsField.get? ms'))) :
    Alike Same (ofMembers ms) (ofMembers ms') := by
  have hoption : ∀ f ∈ fields, f ≠ stepsField → ∀ {α : Type} (d : α) (read : Reader α),
      Alike Eq (f.optional d read ms) (f.optional d read ms') :=
    fun f hf hne _ _ _ => Field.alike_optional_eq (hget f hf hne)
  refine .keeping (.seq (.seq (.seq (.seq (.seq (.seq (.map ?_
    (Field.alike_required_eq (hget _ (by decide) (by decide)))) (hoption _ (by decide) (by decide) _ _))
    (hoption _ (by decide) (by decide) _ _)) (hoption _ (by decide) (by decide) _ _))
    (hoption _ (by decide) (by decide) _ _)) (hoption _ (by decide) (by decide) _ _)) (Field.alike_optional hsteps))
    fun d d' hsame => ?_
  · rintro url _ rfl headless _ rfl timeout _ rfl navigation _ rfl maxPages _ rfl keepOpen _ rfl steps steps' hsteps
    exact ⟨hsteps, rfl⟩
  · have hopen : d.keepOpenAfter = d'.keepOpenAfter := congrArg (·.keepOpenAfter) hsame.rest
    rw [hopen]

theorem distinct_fields : Distinct fields := by decide

theorem alike_of_get?_eq (h : ∀ f ∈ fields, f.get? ms = f.get? ms') : Alike Same (ofMembers ms) (ofMembers ms') :=
  alike_ofMembers (fun f hf _ => h f hf)
    (h stepsField (by decide) ▸ .refl (fun _ => List.forall₂_same.2 fun d _ => .refl d) _)

end Document

namespace Plan

variable {settings : Settings} {source source' : Option String}

/-- Plans that are the same but for where they were read. -/
def Same (p p' : Plan) : Prop := { p with source := none } = { p' with source := none }

theorem alike_build {d d' : Document} (h : Document.Same d d') :
    Alike Same (build settings source d) (build settings source' d') := by
  refine (StepDocument.alike_buildSteps h.steps 0).bind ?_
  rintro steps _ rfl
  have hrest := Document.mk.inj h.rest
  refine .ok ?_
  simp [Same, hrest]

theorem alike_ofJson {ms ms' : Json.Members}
    (h : Alike Document.Same (Document.ofMembers ms) (Document.ofMembers ms')) :
    Alike Same (ofJson settings source (.obj ms)) (ofJson settings source' (.obj ms')) := by
  rw [ofJson, ofJson]
  generalize Document.ofMembers ms = r, Document.ofMembers ms' = r' at h
  cases h with
  | ok hsame => exact alike_build hsame
  | error => exact .error

theorem alike_source (v : Json) : Alike Same (ofJson settings source v) (ofJson settings source' v) := by
  cases v with
  | obj ms => exact alike_ofJson (.refl .refl _)
  | _ => exact .error

/-- Two spellings of a document describe the same plan, or none. -/
theorem alike_of_respells {v v' : Json} (h : Respells v v') :
    Alike Same (ofJson settings source v) (ofJson settings source' v') := by
  cases h with
  | rename hf hother hlacks =>
    exact alike_ofJson (Document.alike_of_get?_eq fun g hg => get?_rename Document.distinct_fields hf
      List.mem_cons_self (List.mem_cons_of_mem _ (by simp [hother])) hlacks hg)
  | order hkeys h =>
    exact alike_ofJson (Document.alike_of_get?_eq fun f _ =>
      Field.get?_congr fun _ _ => Json.Members.get?_perm hkeys h)
  | unknown hkey =>
    exact alike_ofJson (Document.alike_of_get?_eq fun f hf => (Field.get?_insert_ne (hkey f hf)).symm)
  | @step a b vs ws v v' h =>
    refine alike_ofJson (Document.alike_ofMembers (fun f hf hne => ?_) ?_)
    · have hkey : ∀ f ∈ Document.fields, "steps" ∈ f.spellings → f = Document.stepsField := by decide
      rw [Field.get?_insert_ne fun hmem => hne (hkey f hf hmem), Field.get?_insert_ne fun hmem => hne (hkey f hf hmem)]
    · rcases Field.get?_swap Document.stepsField a b "steps" (.arr (vs ++ v :: ws)) (.arr (vs ++ v' :: ws)) with
        heq | ⟨-, hv, hv'⟩
      · rw [heq]
        exact .refl (fun _ => List.forall₂_same.2 fun d _ => .refl d) _
      · rw [hv, hv']
        exact StepDocument.alike_readList (StepDocument.alike_of_respells h)

theorem alike_of_spelling {v v' : Json} (h : SameButSpelling v v') :
    ∀ source source', Alike Same (ofJson settings source v) (ofJson settings source' v') := by
  induction h with
  | rel v v' h => exact fun _ _ => alike_of_respells h
  | refl v => exact fun _ _ => alike_source v
  | symm v v' _ ih => exact fun source source' => (ih source' source).symm.mono fun _ _ h => Eq.symm h
  | trans v w v' _ _ ih ih' =>
    exact fun source source' => (ih source source).trans (ih' source source') fun _ _ _ => Eq.trans

/-- A document that differs in its spelling alone is accepted if the other one is, with the same plan. -/
theorem same_plan_of {v v' : Json} (h : SameButSpelling v v') {plan : Plan}
    (hplan : ofJson settings source v = .ok plan) :
    ofJson settings source' v' = .ok { plan with source := source' } := by
  have halike : Alike Same (ofJson settings source v) (ofJson settings source' v') :=
    alike_of_spelling h source source'
  rw [hplan] at halike
  cases hplan' : ofJson settings source' v' with
  | error fault =>
    rw [hplan'] at halike
    cases halike
  | ok plan' =>
    rw [hplan'] at halike
    cases halike with
    | ok hsame =>
      obtain ⟨-, -, -, -, -, hsource⟩ := ofJson_eq_ok hplan'
      have hall := Plan.mk.inj hsame
      rw [← hsource]
      simp [hall]

/-- Documents that differ in their spelling alone, wherever they were read, describe the same plan, or are both
refused. -/
theorem same_plan {v v' : Json} (h : SameButSpelling v v') (settings : Settings) (source source' : Option String) :
    (∀ plan, ofJson settings source v = .ok plan →
        ofJson settings source' v' = .ok { plan with source := source' }) ∧
      ∀ plan, ofJson settings source' v' = .ok plan → ofJson settings source v = .ok { plan with source := source } :=
  ⟨fun _ => same_plan_of h, fun _ => same_plan_of (h.symm _ _)⟩

/-- The wait of a click below a repeat is put in another way, and so is how often to repeat. -/
theorem same_plan_waitBelow :
    ∃ plan, ofJson {} none (.obj [("url", .str "https://a.test/"), ("steps", .arr [.obj [("action", .str "repeat"),
          ("subSteps", .arr [.obj [("action", .str "click"), ("selector", .str "#more"),
            ("wait_for", .str "networkidle")]])]])]) = .ok plan ∧
      ofJson {} (some "b.json") (.obj [("url", .str "https://a.test/"), ("steps", .arr [.obj [("action", .str "repeat"),
          ("subSteps", .arr [.obj [("action", .str "click"), ("selector", .str "#more"),
            ("wait", .obj [("for", .str "networkidle")])]]), ("times", .int (-10))]])]) =
        .ok { plan with source := some "b.json" } := by
  have hword : RespellsStep
      (.obj [("action", .str "click"), ("selector", .str "#more"), ("wait_for", .str "networkidle")])
      (.obj [("action", .str "click"), ("selector", .str "#more"), ("wait", .obj [("for", .str "networkidle")])]) :=
    @RespellsStep.waitFor [("action", .str "click"), ("selector", .str "#more")] [] "wait_for" "networkidle" _ rfl
      (by decide) rfl (by decide) (by decide)
  have hbelow := @RespellsStep.subStep [("action", .str "repeat")] [] "subSteps" [] [] _ _ (by decide) hword
  have htimes := @RespellsStep.noTimes [("action", .str "repeat"), ("subSteps", .arr [.obj [("action", .str "click"),
    ("selector", .str "#more"), ("wait", .obj [("for", .str "networkidle")])]])] [] rfl (by decide)
  have hsign := @RespellsStep.negated [("action", .str "repeat"), ("subSteps", .arr [.obj [("action", .str "click"),
    ("selector", .str "#more"), ("wait", .obj [("for", .str "networkidle")])]])] [] (.int 10) (.int (-10)) 10 rfl rfl
  have hdocument := fun v v' h => Relation.EqvGen.rel _ _
    (@Respells.step [("url", .str "https://a.test/")] [] [] [] v v' h)
  exact ⟨_, rfl, (same_plan (((hdocument _ _ hbelow).trans _ _ _ (hdocument _ _ htimes)).trans _ _ _
    (hdocument _ _ hsign)) {} none (some "b.json")).1 _ rfl⟩

end Plan
end BrowserPlan
