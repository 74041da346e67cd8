import BrowserPlan.Plan.Loader
import BrowserPlan.Proofs.Text.Utf8
import BrowserPlan.Proofs.Json.Faults

/-!
# Files that no plan can be read from

Where no JSON value can be read from what stands at a path, loading fails. The fault is reported as one of the plan,
and names the path, with three exceptions, each told from the path and the file alone (`unreadable_refused`): the path
has a NUL character in it, the bytes of the file are those of no text, or a numeral in the text is too long to be read.

The reader goes down into a value as far as the value goes. An interpreter gives up at some depth, which depends on what
it was doing before, and with a fault of its own that is none of the plan either; that limit is outside of what is said
here, so there is no fourth exception for values that are nested too deep.
-/
namespace BrowserPlan

namespace Files

variable {fs : Files} {p : FilePath}

theorem resolve_eq_error {fault : FileFault} (h : fs.resolve p = .error fault) :
    fault = .nulInName ∧ '\x00' ∈ p.toString.toList ∨
      '\x00' ∉ p.toString.toList ∧ ∃ why, fault = .refused why p.toString := by
  unfold resolve at h
  dsimp only at h
  split at h
  · rename_i hnul
    cases h
    exact .inl ⟨rfl, by simpa using hnul⟩
  · rename_i hnul
    refine .inr ⟨by simpa using hnul, ?_⟩
    split at h
    · cases h
      exact ⟨_, rfl⟩
    · split at h <;> cases h
      exact ⟨_, rfl⟩

theorem nul_not_mem_of_resolve {place : List String} (h : fs.resolve p = .ok place) : '\x00' ∉ p.toString.toList := by
  intro hc
  unfold resolve at h
  simp [hc] at h

/-- A file is not read since its name, having the NUL character in it, names no file at all, or since the file system
refuses. -/
theorem read_eq_error {fault : FileFault} (h : fs.read p = .error fault) :
    fault = .nulInName ∧ '\x00' ∈ p.toString.toList ∨
      '\x00' ∉ p.toString.toList ∧ ∃ why, fault = .refused why p.toString := by
  unfold read at h
  cases hplace : fs.resolve p with
  | error f =>
    rw [hplace] at h
    cases h
    exact resolve_eq_error hplace
  | ok place =>
    rw [hplace] at h
    dsimp only [bind, Except.bind] at h
    refine .inr ⟨nul_not_mem_of_resolve hplace, ?_⟩
    split at h <;> cases h
    · exact ⟨_, rfl⟩
    · exact ⟨_, rfl⟩

/-- A file whose name has the NUL character in it is not read. -/
theorem nul_not_mem_of_read {bytes : List UInt8} (h : fs.read p = .ok bytes) : '\x00' ∉ p.toString.toList := by
  cases hplace : fs.resolve p with
  | ok place => exact nul_not_mem_of_resolve hplace
  | error f =>
    rw [read, hplace] at h
    cases h

/-- The text that a file holds, with every line end written as a single line feed. -/
def Holds (fs : Files) (p : FilePath) (text : String) : Prop :=
  ∃ s, fs.read p = .ok (Text.Utf8.encode s) ∧ text = String.ofList (Plan.unifyLineEnds s.toList)

end Files

namespace LoadFault

variable {path : FilePath} {fault : LoadFault}

/-- A message in which the path stands. -/
def Names (path : FilePath) (message : String) : Prop := path.toString.toList <:+: message.toList

theorem names_append (before after : String) : Names path (before ++ path.toString ++ after) :=
  ⟨before.toList, after.toList, by simp⟩

theorem names_unreadable {f : FileFault} (h : (unreadable path f).isOfPlan = true) :
    Names path (unreadable path f).message := by
  have hrefusal : f.isRefusal = true := h
  rw [message, if_pos hrefusal, String.append_assoc]
  exact names_append _ _

theorem names_notJson {f : Json.ReadFault} {text : String} (h : (notJson path f text).isOfPlan = true) :
    Names path (notJson path f text).message := by
  have hform : f.cause.isSyntactic = true := h
  rw [message, if_pos hform, String.append_assoc]
  exact names_append _ _

end LoadFault

namespace Plan

variable {fs : Files} {path : FilePath}

theorem load_of_read_error (settings : Settings) {f : FileFault} (h : fs.read path = .error f) :
    load settings fs path = .error (.unreadable path f) := by
  rw [load, h]
  rfl

theorem load_of_decode_error (settings : Settings) {bytes : List UInt8} {f : Text.Utf8.Fault}
    (hread : fs.read path = .ok bytes) (h : Text.Utf8.decode bytes = .error f) :
    load settings fs path = .error (.notText f) := by
  rw [load, hread]
  dsimp only [Except.mapError, bind, Except.bind]
  rw [h]

theorem load_of_json_error (settings : Settings) {s : String} {f : Json.ReadFault}
    (hread : fs.read path = .ok (Text.Utf8.encode s))
    (h : Json.read (String.ofList (unifyLineEnds s.toList)) = .error f) :
    load settings fs path = .error (.notJson path f (String.ofList (unifyLineEnds s.toList))) := by
  rw [load, hread]
  dsimp only [Except.mapError, bind, Except.bind]
  rw [Text.Utf8.decode_eq_ok_iff.2 rfl]
  dsimp only
  rw [h]

/-- Where no JSON value can be read from what stands at a path, there is no plan, and the fault is one of the plan that
names the path, unless the path has a NUL character in it, the bytes are those of no text, or a numeral is too long.
How deep a value may be nested is not limited here. -/
theorem unreadable_refused (settings : Settings) (fs : Files) (path : FilePath)
    (h : ∀ text v, fs.Holds path text → Json.read text ≠ .ok v) :
    ∃ fault, load settings fs path = .error fault ∧
      (fault.isOfPlan = true → LoadFault.Names path fault.message) ∧
      (fault.isOfPlan = false ↔
        '\x00' ∈ path.toString.toList ∨
        (∃ bytes, fs.read path = .ok bytes ∧ ∀ s, Text.Utf8.encode s ≠ bytes) ∨
        ∃ text n position, fs.Holds path text ∧ Json.read text = .error ⟨.tooManyDigits n, position⟩ ∧
          Json.HasLongNumeral text.toList) := by
  cases hread : fs.read path with
  | error f =>
    refine ⟨_, load_of_read_error settings hread, LoadFault.names_unreadable, ?_⟩
    have hnothing : ¬∃ text, fs.Holds path text := by
      rintro ⟨text, s, hs, -⟩
      rw [hread] at hs
      cases hs
    rcases Files.read_eq_error hread with ⟨rfl, hnul⟩ | ⟨hnul, why, rfl⟩
    · exact iff_of_true rfl (.inl hnul)
    · refine iff_of_false nofun ?_
      rintro (hc | ⟨_, ⟨⟩, -⟩ | ⟨text, -, -, hholds, -⟩)
      · exact hnul hc
      · exact hnothing ⟨text, hholds⟩
  | ok bytes =>
    have hnul := Files.nul_not_mem_of_read hread
    cases hdecode : Text.Utf8.decode bytes with
    | error f =>
      have hno : ∀ s, Text.Utf8.encode s ≠ bytes := fun s hs => by
        rw [Text.Utf8.decode_eq_ok_iff.2 hs] at hdecode
        cases hdecode
      exact ⟨_, load_of_decode_error settings hread hdecode, by rintro ⟨⟩,
        iff_of_true rfl (.inr (.inl ⟨bytes, rfl, hno⟩))⟩
    | ok s =>
      obtain rfl := Text.Utf8.decode_eq_ok_iff.1 hdecode
      have hholds : fs.Holds path (String.ofList (unifyLineEnds s.toList)) := ⟨s, hread, rfl⟩
      have honly : ∀ text, fs.Holds path text → text = String.ofList (unifyLineEnds s.toList) := by
        rintro text ⟨s', hs', rfl⟩
        rw [hread] at hs'
        rw [Text.Utf8.encode_injective (Except.ok.inj hs')]
      cases hjson : Json.read (String.ofList (unifyLineEnds s.toList)) with
      | ok v => exact absurd hjson (h _ v hholds)
      | error f =>
        refine ⟨_, load_of_json_error settings hread hjson, LoadFault.names_notJson, ?_, ?_⟩
        · intro hform
          obtain ⟨cause, position⟩ := f
          cases cause with
          | tooManyDigits n =>
            exact .inr (.inr ⟨_, n, position, hholds, hjson, Json.hasLongNumeral_of_read hjson rfl⟩)
          | _ => cases hform
        · rintro (hc | ⟨_, ⟨⟩, hno⟩ | ⟨text, n, position, htext, hlong, -⟩)
          · exact absurd hc hnul
          · exact absurd rfl (hno s)
          · rw [honly text htext, hjson] at hlong
            cases hlong
            rfl

/-- A file of one byte that starts no character: the fault is not one of the plan. -/
theorem unreadable_refused_strayByte :
    (∀ text v, (Files.ofLists [("c.json", [0xff])] []).Holds ⟨"", ["c.json"]⟩ text → Json.read text ≠ .ok v) ∧
      ∃ fault, load {} (Files.ofLists [("c.json", [0xff])] []) ⟨"", ["c.json"]⟩ = .error fault ∧
        fault.isOfPlan = false := by
  have hread : (Files.ofLists [("c.json", [0xff])] []).read ⟨"", ["c.json"]⟩ = .ok [0xff] := by decide +kernel
  have hno : ∀ s, Text.Utf8.encode s ≠ [0xff] := fun s hs => by
    have := Text.Utf8.decode_eq_ok_iff.2 hs
    cases this
  have h : ∀ text v, (Files.ofLists [("c.json", [0xff])] []).Holds ⟨"", ["c.json"]⟩ text → Json.read text ≠ .ok v := by
    rintro text v ⟨s, hs, -⟩
    rw [hread] at hs
    exact absurd (Except.ok.inj hs).symm (hno s)
  obtain ⟨fault, hload, -, hiff⟩ := unreadable_refused {} _ _ h
  exact ⟨h, fault, hload, hiff.2 (.inr (.inl ⟨_, hread, hno⟩))⟩

end Plan
end BrowserPlan
