import BrowserPlan.FilePath
import BrowserPlan.Proofs.Plan.Iterations

/-!
# Where templates lead

A template is cut at its slashes before or after the index is filled in, to the same pieces: an index is
written with digits and dashes only (`toString_isPlain`), so it makes no piece, empties none and turns none
into a dot (`names_fill`). A piece with an index token tells what was filled in (`replaceToken_inj`). So a
template with a token leads to different paths for different indices (`render_eq_iff_of_proper`), those that
a run builds among them (`filled_path_tells_index`).
-/
namespace BrowserPlan

namespace IterationIndex

/-- The indices there are: the root, and inside each of them those that `child?` gives. -/
inductive IsBuilt : IterationIndex → Prop where
  | root : IsBuilt root
  | child {i j : IterationIndex} {p : Int} (hi : IsBuilt i) (h : i.child? p = some j) : IsBuilt j

theorem IsBuilt.isProper {i : IterationIndex} (h : IsBuilt i) : i.IsProper := by
  induction h with
  | root => exact nofun
  | @child i j p _ h ih =>
    obtain ⟨hp, rfl⟩ := (child?_eq_some_iff _ _ _).1 h
    intro q hq
    rcases List.mem_append.1 hq with hq | hq
    · exact ih q hq
    · rw [List.mem_singleton.1 hq]
      exact hp

/-- The characters an index is written with. -/
def IsPlainDigit (c : Char) : Prop := c.isDigit = true ∨ c = '-'

theorem isPlainDigit_intercalate {pieces : List (List Char)}
    (h : ∀ piece ∈ pieces, ∀ c ∈ piece, IsPlainDigit c) : ∀ c ∈ ['-'].intercalate pieces, IsPlainDigit c := by
  induction pieces with
  | nil => exact nofun
  | cons piece rest ih =>
    obtain ⟨hpiece, hrest⟩ := List.forall_mem_cons.1 h
    cases rest with
    | nil => rwa [List.intercalate_singleton]
    | cons next rest =>
      rw [List.intercalate_cons_cons]
      intro c hc
      rcases List.mem_append.1 hc with hc | hc
      · rcases List.mem_append.1 hc with hc | hc
        · exact hpiece c hc
        · exact .inr (List.mem_singleton.1 hc)
      · exact ih hrest c hc

/-- An index is written with digits and dashes. -/
theorem toString_isPlain {i : IterationIndex} (hi : i.IsProper) :
    i.toString.toList ≠ [] ∧ ∀ c ∈ i.toString.toList, IsPlainDigit c := by
  constructor
  · intro hempty
    have hsplit := splitOn_toString hi
    rw [hempty, List.splitOn_nil] at hsplit
    split at hsplit
    · simp at hsplit
    · obtain ⟨p, hp, hdigits⟩ := List.map_eq_singleton_iff.1 hsplit.symm
      rw [repr_of_pos (hi p (by simp [hp]))] at hdigits
      exact absurd hdigits (Nat.toDigits_ne_nil)
  · obtain ⟨ps⟩ := i
    cases ps with
    | nil => simp [toString, IsPlainDigit]
    | cons p ps =>
      change ∀ c ∈ (String.intercalate "-" ((p :: ps).map Int.repr)).toList, IsPlainDigit c
      rw [String.toList_intercalate]
      refine isPlainDigit_intercalate fun piece hpiece c hc => ?_
      rw [List.map_map] at hpiece
      obtain ⟨q, hq, rfl⟩ := List.mem_map.1 hpiece
      simp only [Function.comp_apply] at hc
      rw [repr_of_pos (hi q hq)] at hc
      exact .inl (Nat.isDigit_of_mem_toDigits (by decide) (by decide) hc)

end IterationIndex

namespace FilePath

variable {token new v w cs rest piece : List Char} {c sep : Char}

/-! ## Replacing a token -/

@[simp] theorem replaceToken_nil : replaceToken token new [] = [] := by
  rw [replaceToken]

theorem replaceToken_append (htoken : token ≠ []) :
    replaceToken token new (token ++ rest) = new ++ replaceToken token new rest := by
  obtain ⟨c, token, rfl⟩ := List.exists_cons_of_ne_nil htoken
  rw [List.cons_append, replaceToken, if_pos]
  · simp
  · simp

theorem replaceToken_cons (h : ¬ token <+: c :: rest) :
    replaceToken token new (c :: rest) = c :: replaceToken token new rest := by
  rw [replaceToken, if_neg]
  simp [h]

/-- A text is empty, begins with the token, or begins with another character. -/
theorem token_induction (token : List Char) (htoken : token ≠ []) {P : List Char → Prop} (nil : P [])
    (token_append : ∀ rest, P rest → P (token ++ rest))
    (cons : ∀ c rest, ¬ token <+: c :: rest → P rest → P (c :: rest)) (cs : List Char) : P cs := by
  induction hn : cs.length using Nat.strongRecOn generalizing cs with
  | _ n ih =>
    cases cs with
    | nil => exact nil
    | cons c rest =>
      by_cases h : token <+: c :: rest
      · obtain ⟨rest', heq⟩ := h
        have hlength := congrArg List.length heq
        have hpos := List.length_pos_iff.2 htoken
        rw [List.length_append] at hlength
        rw [← heq]
        exact token_append rest' (ih _ (by omega) rest' rfl)
      · exact cons c rest h (ih rest.length (by rw [← hn]; simp) rest rfl)

/-- A longer value makes a longer text, and a text with the token in it longer by some characters. -/
theorem length_replaceToken (htoken : token ≠ []) (hvw : v.length < w.length) (cs : List Char) :
    (replaceToken token v cs).length ≤ (replaceToken token w cs).length ∧
      (token <:+: cs → (replaceToken token v cs).length < (replaceToken token w cs).length) := by
  induction cs using token_induction token htoken with
  | nil =>
    refine ⟨by simp, fun h => ?_⟩
    exact absurd (List.infix_nil.1 h) htoken
  | token_append rest ih =>
    rw [replaceToken_append htoken, replaceToken_append htoken, List.length_append, List.length_append]
    exact ⟨by omega, fun _ => by omega⟩
  | cons c rest h ih =>
    rw [replaceToken_cons h, replaceToken_cons h, List.length_cons, List.length_cons]
    refine ⟨by omega, fun hin => ?_⟩
    have := ih.2 ((List.infix_cons_iff.1 hin).resolve_left h)
    omega

/-- A text with the token in it tells what the token was replaced by. -/
theorem replaceToken_inj (htoken : token ≠ []) (hin : token <:+: cs) :
    replaceToken token v cs = replaceToken token w cs ↔ v = w := by
  refine ⟨fun h => ?_, fun h => h ▸ rfl⟩
  have hlength : v.length = w.length := by
    rcases Nat.lt_trichotomy v.length w.length with hlt | heq | hgt
    · have := (length_replaceToken htoken hlt cs).2 hin
      rw [h] at this
      exact absurd this (Nat.lt_irrefl _)
    · exact heq
    · have := (length_replaceToken htoken hgt cs).2 hin
      rw [h] at this
      exact absurd this (Nat.lt_irrefl _)
  induction cs using token_induction token htoken with
  | nil => exact absurd (List.infix_nil.1 hin) htoken
  | token_append rest =>
    rw [replaceToken_append htoken, replaceToken_append htoken] at h
    exact (List.append_inj h hlength).1
  | cons c rest hc ih =>
    rw [replaceToken_cons hc, replaceToken_cons hc] at h
    exact ih ((List.infix_cons_iff.1 hin).resolve_left hc) (List.cons.inj h).2

theorem replaceToken_eq_nil_iff (htoken : token ≠ []) (hnew : new ≠ []) :
    replaceToken token new cs = [] ↔ cs = [] := by
  induction cs using token_induction token htoken with
  | nil => simp
  | token_append rest => simp [replaceToken_append htoken, hnew, htoken]
  | cons c rest h => simp [replaceToken_cons h]

theorem replaceToken_eq_singleton_iff (htoken : token ≠ []) (hnew : new ≠ []) (hc : c ∉ token) (hcnew : c ∉ new) :
    replaceToken token new cs = [c] ↔ cs = [c] := by
  have hbegins : ∀ {pre : List Char} (rest : List Char), pre ≠ [] → c ∉ pre → pre ++ rest ≠ [c] := by
    intro pre rest hpre hnot heq
    obtain ⟨b, pre, rfl⟩ := List.exists_cons_of_ne_nil hpre
    rw [List.cons_append] at heq
    exact hnot ((List.cons.inj heq).1 ▸ List.mem_cons_self)
  induction cs using token_induction token htoken with
  | nil => simp
  | token_append rest =>
    rw [replaceToken_append htoken]
    exact iff_of_false (hbegins _ hnew hcnew) (hbegins _ htoken hc)
  | cons b rest h =>
    rw [replaceToken_cons h, List.cons.injEq, List.cons.injEq, replaceToken_eq_nil_iff htoken hnew]

/-! ## Pieces of a text -/

theorem splitOnChar_sep (cs : List Char) : splitOnChar sep (sep :: cs) = [] :: splitOnChar sep cs := by
  simp [splitOnChar]

theorem splitOnChar_ne_nil (sep : Char) (cs : List Char) : splitOnChar sep cs ≠ [] := by
  cases cs with
  | nil => simp [splitOnChar]
  | cons c cs =>
    rw [splitOnChar]
    split
    · simp
    · split <;> simp

theorem splitOnChar_cons (h : c ≠ sep) (cs : List Char) :
    splitOnChar sep (c :: cs) = (splitOnChar sep cs).modifyHead (c :: ·) := by
  have hc : ¬ (c == sep) = true := by simpa using h
  rw [splitOnChar, if_neg hc]
  cases hcs : splitOnChar sep cs with
  | nil => exact absurd hcs (splitOnChar_ne_nil sep cs)
  | cons first later => rfl

theorem splitOnChar_append (h : sep ∉ v) (cs : List Char) :
    splitOnChar sep (v ++ cs) = (splitOnChar sep cs).modifyHead (v ++ ·) := by
  induction v with
  | nil => exact (congrFun List.modifyHead_id _).symm
  | cons c v ih =>
    rw [List.mem_cons, not_or] at h
    rw [List.cons_append, splitOnChar_cons (Ne.symm h.1), ih h.2, List.modifyHead_modifyHead]
    rfl

theorem exists_splitOnChar (sep : Char) (cs : List Char) :
    ∃ first later, splitOnChar sep cs = first :: later ∧ first <+: cs := by
  induction cs with
  | nil => exact ⟨[], [], rfl, List.nil_prefix⟩
  | cons c cs ih =>
    obtain ⟨first, later, heq, hprefix⟩ := ih
    by_cases hc : c = sep
    · subst hc
      exact ⟨[], _, splitOnChar_sep cs, List.nil_prefix⟩
    · rw [splitOnChar_cons hc, heq]
      exact ⟨c :: first, later, rfl, (List.prefix_cons_inj c).2 hprefix⟩

/-- Whether a token is replaced before or after a text is cut does not matter. -/
theorem splitOnChar_replaceToken (htoken : token ≠ []) (hsep : sep ∉ token) (hnew : sep ∉ new) (cs : List Char) :
    splitOnChar sep (replaceToken token new cs) = (splitOnChar sep cs).map (replaceToken token new) := by
  induction cs using token_induction token htoken with
  | nil => simp [splitOnChar]
  | token_append rest ih =>
    rw [replaceToken_append htoken, splitOnChar_append hnew, ih, splitOnChar_append hsep]
    cases splitOnChar sep rest with
    | nil => rfl
    | cons first later => simp [replaceToken_append htoken]
  | cons c rest h ih =>
    rw [replaceToken_cons h]
    by_cases hc : c = sep
    · subst hc
      rw [splitOnChar_sep, splitOnChar_sep, ih]
      simp
    · obtain ⟨first, later, heq, hprefix⟩ := exists_splitOnChar sep rest
      -- a token in front of the first piece would be one in front of the text
      have hfirst : ¬ token <+: c :: first := fun hin => h (hin.trans ((List.prefix_cons_inj c).2 hprefix))
      rw [splitOnChar_cons hc, splitOnChar_cons hc, ih, heq]
      simp [replaceToken_cons hfirst]

/-- A token without separators is in one of the pieces. -/
theorem exists_piece (hsep : sep ∉ token) (hin : token <:+: cs) :
    ∃ piece ∈ splitOnChar sep cs, token <:+: piece := by
  obtain ⟨before, behind, rfl⟩ := hin
  rw [List.append_assoc]
  induction before with
  | nil =>
    obtain ⟨first, later, heq, -⟩ := exists_splitOnChar sep behind
    rw [List.nil_append, splitOnChar_append hsep, heq]
    exact ⟨token ++ first, List.mem_cons_self, (List.prefix_append _ _).isInfix⟩
  | cons c before ih =>
    obtain ⟨piece, hpiece, hin⟩ := ih
    rw [List.cons_append]
    by_cases hc : c = sep
    · subst hc
      rw [splitOnChar_sep]
      exact ⟨piece, List.mem_cons_of_mem _ hpiece, hin⟩
    · obtain ⟨first, later, heq, -⟩ := exists_splitOnChar sep (before ++ (token ++ behind))
      rw [splitOnChar_cons hc, heq]
      rw [heq] at hpiece
      rcases List.mem_cons.1 hpiece with rfl | hlater
      · exact ⟨c :: piece, List.mem_cons_self, hin.trans (List.suffix_cons c piece).isInfix⟩
      · exact ⟨piece, List.mem_cons_of_mem _ hlater, hin⟩

/-! ## Paths -/

/-- A piece of a text that is a name of the path. -/
def isName (piece : List Char) : Bool := piece != [] && piece != ['.']

theorem isName_iff : isName piece = true ↔ piece ≠ [] ∧ piece ≠ ['.'] := by
  simp [isName]

/-- The names of a template that is filled, piece by piece. -/
theorem names_fill {value : String} (hne : value.toList ≠ []) (hslash : '/' ∉ value.toList)
    (hdot : '.' ∉ value.toList) (template : String) :
    (fill template value).names = ((splitOnChar '/' template.toList).filter isName).map fun piece =>
      String.ofList (replaceToken indexToken value.toList piece) := by
  have hpieces : splitOnChar '/' (replaceToken indexToken value.toList template.toList) = _ :=
    splitOnChar_replaceToken (by decide) (by decide) hslash template.toList
  have hname : ∀ piece, isName (replaceToken indexToken value.toList piece) = isName piece := by
    intro piece
    rw [Bool.eq_iff_iff, isName_iff, isName_iff, ne_eq, ne_eq, replaceToken_eq_nil_iff (by decide) hne,
      replaceToken_eq_singleton_iff (by decide) hne (by decide) hdot]
  rw [fill, ofString, String.toList_ofList]
  change ((splitOnChar '/' _).filter isName).map String.ofList = _
  rw [hpieces, List.filter_map, List.map_map]
  congr 1
  exact List.filter_congr fun piece _ => hname piece

/-- A template with an index token tells what it was filled with. -/
theorem eq_of_fill_eq {template a b : String} (htoken : indexToken <:+: template.toList)
    (ha : a.toList ≠ [] ∧ '/' ∉ a.toList ∧ '.' ∉ a.toList) (hb : b.toList ≠ [] ∧ '/' ∉ b.toList ∧ '.' ∉ b.toList)
    (h : fill template a = fill template b) : a = b := by
  have hnames := congrArg FilePath.names h
  rw [names_fill ha.1 ha.2.1 ha.2.2, names_fill hb.1 hb.2.1 hb.2.2] at hnames
  have hsep : '/' ∉ indexToken := by decide
  obtain ⟨piece, hpiece, hin⟩ := exists_piece hsep htoken
  have hname : isName piece = true := by
    rw [isName_iff]
    constructor
    · rintro rfl
      exact absurd (List.infix_nil.1 hin) (by decide)
    · rintro rfl
      have := hin.length_le
      simp [indexToken] at this
  have hsame := List.map_inj_left.1 hnames piece (List.mem_filter.2 ⟨hpiece, hname⟩)
  have hlists := (replaceToken_inj (by decide) hin).1 (String.ofList_injective hsame)
  exact String.toList_injective hlists

/-- A template with an index token leads to different paths for different indices. -/
theorem render_eq_iff_of_proper {template : String} (htoken : indexToken <:+: template.toList) {a b : IterationIndex}
    (ha : a.IsProper) (hb : b.IsProper) : render template a = render template b ↔ a = b := by
  have hplain : ∀ {i : IterationIndex}, i.IsProper →
      i.toString.toList ≠ [] ∧ '/' ∉ i.toString.toList ∧ '.' ∉ i.toString.toList := by
    intro i hi
    obtain ⟨hne, hchars⟩ := IterationIndex.toString_isPlain hi
    refine ⟨hne, fun h => ?_, fun h => ?_⟩ <;> have := hchars _ h <;> simp [IterationIndex.IsPlainDigit] at this
  rw [← IterationIndex.toString_eq_iff ha hb]
  exact ⟨eq_of_fill_eq htoken (hplain ha) (hplain hb), fun h => by rw [render, render, h]⟩

/-- Whatever the template, if there is an index token in it, it is filled to the same path for two indices only
if they are the same index. -/
theorem filled_path_tells_index {template : String} (htoken : indexToken <:+: template.toList) {a b : IterationIndex}
    (ha : a.IsBuilt) (hb : b.IsBuilt) : render template a = render template b ↔ a = b :=
  render_eq_iff_of_proper htoken ha.isProper hb.isProper

/-- Two indices that are written with the same digits, in a template with slashes and dots to be dropped. -/
theorem filled_path_tells_index_sameDigits :
    indexToken <:+: ".//$i/./shots/a$i$i.png".toList ∧ (⟨[1, 12]⟩ : IterationIndex).IsBuilt ∧
    (⟨[11, 2]⟩ : IterationIndex).IsBuilt ∧
    render ".//$i/./shots/a$i$i.png" ⟨[1, 12]⟩ = ⟨"", ["1-12", "shots", "a1-121-12.png"]⟩ ∧
    render ".//$i/./shots/a$i$i.png" ⟨[1, 12]⟩ ≠ render ".//$i/./shots/a$i$i.png" ⟨[11, 2]⟩ := by
  have htoken : indexToken <:+: ".//$i/./shots/a$i$i.png".toList := ⟨".//".toList, "/./shots/a$i$i.png".toList, by decide⟩
  have ha : (⟨[1, 12]⟩ : IterationIndex).IsBuilt := .child (p := 12) (.child (p := 1) .root rfl) rfl
  have hb : (⟨[11, 2]⟩ : IterationIndex).IsBuilt := .child (p := 2) (.child (p := 11) .root rfl) rfl
  refine ⟨htoken, ha, hb, by decide +kernel, fun h => ?_⟩
  exact absurd ((filled_path_tells_index htoken ha hb).1 h) (by decide)

end FilePath

/-- Two iterations of a plan write to the same place, where a template with an index token says where, if and only
if their numbers agree. -/
theorem Step.HasBody.render_index_eq_iff {steps body body' : List Step} {it jt : Iteration} {template : String}
    (htoken : FilePath.indexToken <:+: template.toList) (h : HasBody steps it body) (h' : HasBody steps jt body') :
    FilePath.render template it.index = FilePath.render template jt.index ↔ it.numbers = jt.numbers :=
  (FilePath.render_eq_iff_of_proper htoken h.proper h'.proper).trans Iteration.index_eq_iff

end BrowserPlan
