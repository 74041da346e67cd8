import BrowserPlan.Records
import BrowserPlan.Proofs.Text.Utf8

/-!
# Files that were written

A file that was written reads as what was written to it (`Files.read_write`): what is put at the end of a path
is in nobody's way on it.
-/
namespace BrowserPlan

namespace Files

variable {fs fs' : Files} {place : List String} {entry : FileEntry} {bytes : List UInt8} {p : FilePath}

theorem at?_set_self (h : place ≠ []) : (fs.set place entry).at? place = some entry := by
  have hfront : (fs.entries.filter fun e => e.1 != place).find? (fun e => e.1 == place) = none :=
    List.find?_eq_none.2 fun e he => by simpa using (List.mem_filter.1 he).2
  rw [at?, if_neg (by simpa using h), set, List.find?_append, hfront]
  simp

theorem at?_set_of_ne {other : List String} (h : other ≠ place) : (fs.set place entry).at? other = fs.at? other := by
  have hfront : (fs.entries.filter fun e => e.1 != place).find? (fun e => e.1 == other) =
      fs.entries.find? fun e => e.1 == other := by
    rw [List.find?_filter]
    refine congrArg (fun q => fs.entries.find? q) (funext fun e => ?_)
    by_cases he : e.1 = other
    · simp [he, h]
    · simp [he]
  have hlast : (place == other) = false := by simpa using Ne.symm h
  rw [at?, at?, set, List.find?_append, hfront]
  simp [hlast]

/-- A way through the tree leads past anything that is put where no directory was. -/
theorem follow_set (h : fs.at? place ≠ some .directory) (names : List String) : ∀ {start out : List String},
    fs.follow start names = .ok out → (fs.set place entry).follow start names = .ok out := by
  induction names with
  | nil => exact fun hout => hout
  | cons name rest ih =>
    intro start out hout
    rw [follow] at hout ⊢
    split at hout
    · cases hout
    · rename_i hname
      rw [if_neg hname]
      dsimp only at hout ⊢
      split at hout
      · rename_i hrest
        rwa [if_pos hrest]
      · rename_i hrest
        rw [if_neg hrest]
        cases hat : fs.at? (if name == ".." then start.dropLast else start ++ [name]) with
        | none =>
          rw [hat] at hout
          cases hout
        | some e =>
          cases e with
          | file bytes =>
            rw [hat] at hout
            cases hout
          | directory =>
            have hne : (if name == ".." then start.dropLast else start ++ [name]) ≠ place := fun heq => h (heq ▸ hat)
            rw [hat] at hout
            rw [at?_set_of_ne hne, hat]
            exact ih hout

theorem resolve_set (h : fs.at? place ≠ some .directory) (hp : fs.resolve p = .ok place) :
    (fs.set place entry).resolve p = .ok place := by
  rw [resolve] at hp ⊢
  split at hp
  · cases hp
  · rename_i hnul
    rw [if_neg hnul]
    split at hp
    · cases hp
    · rename_i hlong
      rw [if_neg hlong]
      split at hp
      · rename_i out hout
        rw [follow_set h _ hout]
        exact hp
      · cases hp

/-- A file that was written reads as what was written to it. -/
theorem read_write {text : String} (h : fs.write p text = .ok fs') : fs'.read p = .ok (Text.Utf8.encode text) := by
  rw [write] at h
  cases hplace : fs.resolve p with
  | error fault =>
    rw [hplace] at h
    cases h
  | ok place =>
    rw [hplace] at h
    dsimp only [bind, Except.bind] at h
    have hfile : fs.at? place ≠ some .directory := by
      intro heq
      rw [heq] at h
      cases h
    have hset : fs' = fs.set place (.file (Text.Utf8.encode text)) := by
      split at h
      · exact absurd ‹_› hfile
      · exact (Except.ok.inj h).symm
    -- the top of the tree is a directory
    have hbelow : place ≠ [] := by
      rintro rfl
      exact hfile rfl
    subst hset
    rw [read, resolve_set hfile hplace]
    dsimp only [bind, Except.bind]
    rw [at?_set_self hbelow]
    rfl

/-- A file of records that was written reads as the text of the records, which can then be encoded. -/
theorem writeRecords_eq_ok {data : Json} (h : fs.writeRecords p data = .ok fs') :
    data.isUnicode = true ∧ fs'.read p = .ok (Text.Utf8.encode data.render) := by
  unfold writeRecords at h
  cases hdata : data.isUnicode with
  | true =>
    simp only [hdata, if_true] at h
    split at h
    · cases h
    · split at h
      · cases h
      · rename_i hwritten
        cases h
        exact ⟨rfl, read_write hwritten⟩
  | false =>
    simp only [hdata] at h
    split at h
    · cases h
    · split at h <;> cases h

/-- Data that cannot be encoded is not written: the file is opened first, and left empty. -/
theorem writeRecords_halfPair {data : Json} {made emptied : Files} (hdata : data.isUnicode = false)
    (hmade : fs.ensureParent p = .ok made) (hopen : made.write p "" = .ok emptied) :
    fs.writeRecords p data = .error (emptied, .halfPair) ∧ emptied.read p = .ok [] := by
  refine ⟨?_, (read_write hopen).trans (by simp [Text.Utf8.encode])⟩
  simp [writeRecords, hmade, hdata, hopen]

end Files
end BrowserPlan
