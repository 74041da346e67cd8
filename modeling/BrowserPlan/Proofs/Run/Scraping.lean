import BrowserPlan.Proofs.Extraction.Kept
import BrowserPlan.Proofs.Files
import BrowserPlan.Proofs.Json.Documents
import BrowserPlan.Proofs.Run.Reporting

/-!
# What a scrape writes

A step that scrapes a page writes one file, and all values that it was shown are in it, in one record or another
(`extract_path`). The file is a document of RFC 8259 exactly if none of these values has a float in it that is
infinite or no number (`scraped_file_isDocument_iff`).
-/
namespace BrowserPlan.Run

open BrowserPlan.Task BrowserPlan.Browser
open Extraction hiding Work

/-- The values that a step is shown by a document. -/
def Deed.shown : Deed scene → List Json
  | .ask (.complete _ _ (.read _ _)) (.ok vs) => vs
  | _ => []

/-- The file of records that a step writes. -/
def Deed.written? : Deed scene → Option (FilePath × Json)
  | .ask (.writeRecords path data) none => some (path, data)
  | _ => none

/-- The values that have been shown. -/
def shownIn (ds : List (Deed scene)) : List Json := ds.flatMap Deed.shown

section
variable {P : Json → Prop} {ds es : List (Deed scene)} {root : Party} {page : PageId}

theorem shownIn_append : shownIn (ds ++ es) = shownIn ds ++ shownIn es := List.flatMap_append

/-- Programs that are shown no values. -/
abbrev Blind {α : Type} (p : Program scene α) : Prop := Takes (fun d => Deed.shown d = []) p

theorem Blind.shownIn_eq {α : Type} {p q : Program scene α} (h : Blind p) (hpath : Program.Path p ds q) :
    shownIn ds = [] := List.flatMap_eq_nil_iff.2 (h.path hpath)

theorem shown_of_isPause {d : Deed scene} (h : IsPause d) : Deed.shown d = [] := by cases h <;> rfl

theorem blind_say (level : Log.Level) (speaker : Log.Speaker) (message : String) : Blind (say level speaker message) :=
  .ask fun _ => rfl

theorem blind_invoke {who : Party} {op : Operation} (hop : ∀ landing a, Deed.shown (.ask (.complete who landing op) a) = []) :
    Blind (invoke who op) :=
  takes_invoke_of (fun _ h => shown_of_isPause h) fun d h => by
    cases h with
    | «begin» | breakOff => rfl
    | complete landing a => exact hop landing a

/-! ## What extraction is shown -/

theorem failIf_path {fault : Option Fault} {r : Outcome Fault Unit} (h : Program.Path (failIf fault) ds (.done r)) :
    ds = [] := by
  cases fault with
  | none => exact h.of_done.1
  | some fault => exact h.of_done.1

/-- The step completes no call to the browser. -/
def Deed.IsUnfinished : Deed scene → Prop
  | .ask (.complete ..) _ => False
  | _ => True

theorem completion_path {who : Party} {op : Operation} {course : Course} {a : op.Answer}
    (h : Program.Path (do
      failIf (course.fault.map .call)
      settleFor .call (← ask (.complete who course.landing op))) ds (.done (.ok a))) :
    ds = [.ask (.complete who course.landing op) (.ok a)] := by
  obtain ⟨ds₁, ds₂, _, rfl, hfail, hask⟩ := Program.Path.bind_done h
  obtain ⟨b, es, rfl, hsettle⟩ := ask_path hask
  obtain rfl := failIf_path hfail
  cases b with
  | error fault => cases hsettle.of_done.2
  | ok answer =>
    obtain ⟨rfl, heq⟩ := hsettle.of_done
    cases heq
    rfl

/-- A call that ends well is completed last, and with that. -/
theorem invoke_completes {who : Party} {op : Operation} {a : op.Answer}
    (h : Program.Path (invoke who op) ds (.done (.ok a))) :
    ∃ before landing, ds = before ++ [.ask (.complete who landing op) (.ok a)] ∧
      ∀ d ∈ before, Deed.IsUnfinished d := by
  obtain ⟨course, rest, rfl, hproceed⟩ := Program.Path.of_call h
  replace hproceed : Program.Path (proceed who op course) rest (.done (.ok a)) := hproceed
  obtain ⟨waited, ds₂, _, rfl, hsit, hrest⟩ := Program.Path.bind_done hproceed
  have hwaited : ∀ d ∈ waited, Deed.IsUnfinished d :=
    (takes_sitOut (fun _ hd => by cases hd <;> trivial) fun _ => trivial).path hsit
  have hlast : ds₂ = [.ask (.complete who course.landing op) (.ok a)] := by
    dsimp only at hrest
    split at hrest
    · obtain ⟨_, _, _, -, hstopped, -⟩ := Program.Path.bind_done hrest
      cases hstopped.of_done.2
    · exact completion_path hrest
  refine ⟨.ask (.begin who op) course :: waited, course.landing, by rw [hlast]; rfl, fun d hd => ?_⟩
  rcases List.mem_cons.1 hd with rfl | hd
  · trivial
  · exact hwaited d hd

theorem shown_of_isUnfinished {d : Deed scene} (h : Deed.IsUnfinished d) : Deed.shown d = [] := by
  rw [Deed.shown.eq_def]
  split
  · exact h.elim
  · rfl

theorem read_path {target attributeName : String} {vs : List Json}
    (h : Program.Path (invoke root (.read target attributeName)) ds (.done (.ok vs))) : shownIn ds = vs := by
  obtain ⟨before, landing, rfl, hbefore⟩ := invoke_completes h
  have hnone : shownIn before = [] := List.flatMap_eq_nil_iff.2 fun d hd => shown_of_isUnfinished (hbefore d hd)
  rw [shownIn_append, hnone]
  exact List.append_nil _

theorem readAll_path {target : Option String} {attributeName : String} {vs : List Json}
    (h : Program.Path (readAll root target attributeName) ds (.done (.ok vs))) : shownIn ds = vs := by
  rw [readAll.eq_def] at h
  split at h
  · exact read_path h
  · obtain ⟨rfl, heq⟩ := h.of_done
    cases heq
    rfl

theorem blind_contentOf (root : Party) (source : String) : Blind (contentOf root source) := by
  rw [contentOf.eq_def]
  split
  · exact blind_invoke fun _ _ => rfl
  · split <;> exact blind_invoke fun _ _ => rfl

/-- The values of a leaf are those it was shown, or texts. -/
theorem leafValues_path (hP : Json.Partwise P) {f : FieldSpec} {vs : List Json}
    (h : Program.Path (leafValues documents root f) ds (.done (.ok vs))) :
    (∀ v ∈ vs, P v) ↔ ∀ v ∈ shownIn ds, P v := by
  rw [leafValues] at h
  split at h
  · obtain ⟨ds₁, ds₂, content, rfl, hcontent, hrest⟩ := Program.Path.bind_done h
    obtain ⟨ds₃, ds₄, p, rfl, hcompile, hend⟩ := Program.Path.bind_done hrest
    obtain ⟨rfl, heq⟩ := hend.of_done
    cases heq
    have hpattern : Blind (compile documents (f.regex.getD "")) := by
      rw [compile]
      split
      · exact .pure _
      · exact .fail _
    rw [shownIn_append, (blind_contentOf _ _).shownIn_eq hcontent, List.append_nil, hpattern.shownIn_eq hcompile]
    simp [hP.str]
  · split at h
    · rw [readAll_path h]
    · obtain ⟨rfl, heq⟩ := h.of_done
      cases heq
      rfl

theorem blind_matchesOf (root : Party) (f : FieldSpec) : Blind (matchesOf documents root f) := by
  rw [matchesOf]
  split
  · exact Takes.bind (blind_invoke fun _ _ => rfl) fun es => .pure _
  · exact .pure _

/-- What a field is shown is kept. -/
theorem resolve_path (hP : Json.Partwise P) {a b : Arena} {w : Extraction.Work Party} {works : List (Extraction.Work Party)}
    {shown : List Json} (h : Program.Path (resolve documents a w) ds (.done (.ok (b, works))))
    (hw : w.IsPlaced a) (ha : Keeps P a shown) :
    Grows P a b (shown ++ shownIn ds) ∧ ∀ w' ∈ works, w'.IsPlaced b := by
  rw [resolve] at h
  split at h
  · obtain ⟨ds₁, ds₂, _, rfl, hskip, hend⟩ := Program.Path.bind_done h
    obtain ⟨rfl, heq⟩ := hend.of_done
    cases heq
    rw [List.append_nil, (blind_say _ _ _).shownIn_eq hskip, List.append_nil]
    exact ⟨⟨ha, Nat.le_refl _⟩, List.forall_mem_nil _⟩
  · split at h
    · obtain ⟨ds₁, ds₂, es, rfl, hfound, hend⟩ := Program.Path.bind_done h
      obtain ⟨rfl, heq⟩ := hend.of_done
      obtain heq : assignElements w 0 a es = (b, works) := Except.ok.inj (Program.done.inj heq.symm)
      rw [List.append_nil, (blind_matchesOf _ _).shownIn_eq hfound, List.append_nil]
      simpa only [heq] using grows_assignElements es 0 hw ha
    · obtain ⟨ds₁, ds₂, vs, rfl, hvalues, hend⟩ := Program.Path.bind_done h
      obtain ⟨rfl, heq⟩ := hend.of_done
      cases heq
      obtain ⟨hkeeps, hsize⟩ := grows_assignValues vs 0 hw ha
      rw [List.append_nil]
      refine ⟨⟨hkeeps.congr ?_, hsize⟩, List.forall_mem_nil _⟩
      rw [List.forall_mem_append, List.forall_mem_append, leafValues_path hP hvalues]

theorem resolveLevel_path (hP : Json.Partwise P) {works : List (Extraction.Work Party)} :
    ∀ {a b : Arena} {next : List (Extraction.Work Party)} {shown : List Json} {ds : List (Deed scene)},
    Program.Path (resolveLevel documents a works) ds (.done (.ok (b, next))) →
      (∀ w ∈ works, w.IsPlaced a) → Keeps P a shown →
        Grows P a b (shown ++ shownIn ds) ∧ ∀ w' ∈ next, w'.IsPlaced b := by
  induction works with
  | nil =>
    intro a b next shown ds h _ ha
    obtain ⟨rfl, heq⟩ := h.of_done
    cases heq
    exact ⟨⟨by rwa [shownIn, List.flatMap_nil, List.append_nil], Nat.le_refl _⟩, nofun⟩
  | cons w works ih =>
    intro a b next shown ds h hw ha
    obtain ⟨ds₁, ds₂, ⟨a', below⟩, rfl, hfirst, hrest⟩ := Program.Path.bind_done h
    obtain ⟨ds₃, ds₄, ⟨b', later⟩, rfl, hlevel, hend⟩ := Program.Path.bind_done hrest
    obtain ⟨rfl, heq⟩ := hend.of_done
    cases heq
    obtain ⟨hgrows, hbelow⟩ := resolve_path hP hfirst (hw w List.mem_cons_self) ha
    obtain ⟨hgrows', hlater⟩ := ih hlevel
      (fun w' hw' => (hw w' (List.mem_cons_of_mem _ hw')).mono hgrows.size) hgrows.keeps
    rw [List.append_nil, shownIn_append, ← List.append_assoc]
    refine ⟨hgrows.trans hgrows', fun w' hw' => ?_⟩
    rcases List.mem_append.1 hw' with hw' | hw'
    · exact (hbelow w' hw').mono hgrows'.size
    · exact hlater w' hw'

theorem resolveLevels_path (hP : Json.Partwise P) (levels : Nat) :
    ∀ {a b : Arena} {works : List (Extraction.Work Party)} {shown : List Json} {ds : List (Deed scene)},
    Program.Path (resolveLevels documents levels a works) ds (.done (.ok b)) →
      (∀ w ∈ works, w.IsPlaced a) → Keeps P a shown → Keeps P b (shown ++ shownIn ds) := by
  induction levels with
  | zero =>
    intro a b works shown ds h _ ha
    obtain ⟨rfl, heq⟩ := h.of_done
    cases heq
    rwa [shownIn, List.flatMap_nil, List.append_nil]
  | succ n ih =>
    intro a b works shown ds h hw ha
    obtain ⟨ds₁, ds₂, ⟨a', next⟩, rfl, hlevel, hrest⟩ := Program.Path.bind_done h
    obtain ⟨hgrows, hnext⟩ := resolveLevel_path hP hlevel hw ha
    rw [shownIn_append, ← List.append_assoc]
    exact ih hrest hnext hgrows.keeps

/-- All that extraction is shown is in its records. -/
theorem extract_path (hP : Json.Partwise P) {spec : Spec} {records : List Json}
    (h : Program.Path (extract root spec) ds (.done (.ok records))) :
    (∀ v ∈ records, P v) ↔ ∀ v ∈ shownIn ds, P v := by
  obtain ⟨ds₁, ds₂, a, rfl, hlevels, hend⟩ := Program.Path.bind_done h
  obtain ⟨rfl, heq⟩ := hend.of_done
  cases heq
  rw [List.append_nil]
  refine Keeps.results_iff hP (resolveLevels_path hP _ hlevels (fun w hw => ?_) .start)
  obtain ⟨c, -, rfl⟩ := List.mem_map.1 hw
  exact nofun

/-! ## What is written -/

theorem extract_written (h : Program.Path (extract root spec) ds (.done (.ok records))) :
    ds.filterMap Deed.written? = [] := by
  have htakes : Takes (fun d => Deed.written? d = none) (extract root spec) := by
    refine takes_extract_of (fun _ _ => rfl) (fun who op => takes_invoke_of (fun d h => ?_) fun d h => ?_) root spec
    · cases h <;> rfl
    · cases h <;> rfl
  exact List.filterMap_eq_nil_iff.2 (htakes.path h)

/-- A step that scrapes a page and ends well has written one file, with a list of records in it. All values that
the step was shown are in the records. -/
theorem scrape_path (hP : Json.Partwise P) {index : IterationIndex} {data : Spec} {template : String}
    (h : Program.Path (runStep page index (.scrape data template)) ds (.done (.ok ()))) :
    ∃ records, ds.filterMap Deed.written? = [(FilePath.render template index, .arr records)] ∧
      (P (.arr records) ↔ ∀ v ∈ shownIn ds, P v) := by
  obtain ⟨span, body, rfl, hbody⟩ := runStep_path h
  obtain ⟨o, hscrape, hok⟩ := named_path hbody
  obtain rfl : o = .ok () := by
    match o with
    | .ok () => rfl
    | .error .cancelled | .error .interrupted | .error (.failed _) => cases hok
  obtain ⟨ds₁, ds₂, records, rfl, hextract, hlater⟩ := Program.Path.bind_done hscrape
  obtain ⟨ds₃, ds₄, _, rfl, hwrite, hrest⟩ := Program.Path.bind_done hlater
  obtain ⟨a, ds₅, rfl, hsettle⟩ := ask_path hwrite
  cases a with
  | some fault => cases hsettle.of_done.2
  | none =>
    obtain ⟨rfl, -⟩ := hsettle.of_done
    obtain ⟨_, ds₆, rfl, hsay⟩ := ask_path hrest
    obtain ⟨_, _, rfl, hend⟩ := Program.Path.of_call hsay
    obtain ⟨rfl, -⟩ := hend.of_done
    refine ⟨records, ?_, ?_⟩
    · rw [List.filterMap_append, List.filterMap_append, List.filterMap_append, extract_written hextract]
      rfl
    · have hshown : shownIn (opening .scrape index span) = [] := rfl
      rw [hP.arr, extract_path hP hextract, shownIn_append, shownIn_append, shownIn_append, Step.action, hshown]
      simp [shownIn, Deed.shown]

end

theorem partwise_isFinite : Json.Partwise fun v => v.isFinite = true :=
  ⟨fun _ => Json.isFinite_arr, fun _ => Json.isFinite_obj, fun _ => rfl⟩

/-- The bytes of a file are those of a document. -/
def IsDocumentFile (bytes : List UInt8) : Prop :=
  ∃ text : String, bytes = Text.Utf8.encode text ∧ Json.IsDocument text.toList

theorem isDocumentFile_render (v : Json) : IsDocumentFile (Text.Utf8.encode v.render) ↔ v.isFinite = true := by
  rw [← Json.isDocument_render_iff]
  constructor
  · rintro ⟨text, heq, h⟩
    rwa [Text.Utf8.encode_injective heq]
  · exact fun h => ⟨_, rfl, h⟩

/-- A file of records that was written reads as the text of the records. -/
theorem read_perform_writeRecords {now : Nat} {w : World} {path : FilePath} {data : Json}
    (h : (w.perform now (.writeRecords path data)).2.1 = none) :
    (w.perform now (.writeRecords path data)).1.files.read path = .ok (Text.Utf8.encode data.render) := by
  rw [World.perform] at h ⊢
  cases hwrite : w.files.writeRecords path data with
  | ok files => exact (Files.writeRecords_eq_ok hwrite).2
  | error fault =>
    rw [hwrite] at h
    cases h

/-- A step that scrapes a page and ends well has written one file, at the place where its template leads; and when
it was written, it was a document of RFC 8259 exactly if no value that the step was shown has a float in it that
is infinite or no number. -/
theorem scraped_file_isDocument_iff {page : PageId} {index : IterationIndex} {data : Spec} {template : String}
    {ds : List (Deed scene)}
    (h : Program.Path (runStep page index (.scrape data template)) ds (.done (.ok ()))) :
    ∃ records, ds.filterMap Deed.written? = [(FilePath.render template index, .arr records)] ∧
      ∀ now (w : World), (w.perform now (.writeRecords (FilePath.render template index) (.arr records))).2.1 = none →
        ∃ bytes, (w.perform now (.writeRecords (FilePath.render template index) (.arr records))).1.files.read
            (FilePath.render template index) = .ok bytes ∧
          (IsDocumentFile bytes ↔ ∀ v ∈ shownIn ds, v.isFinite = true) := by
  obtain ⟨records, hwritten, hrecords⟩ := scrape_path partwise_isFinite h
  refine ⟨records, hwritten, fun now w hw => ⟨_, read_perform_writeRecords hw, ?_⟩⟩
  rw [isDocumentFile_render, hrecords]

/-- Closing the span of a step that went well. -/
def Deed.closesWell : Deed scene → Bool
  | .ask (.closeSpan _ status) _ => status == .ok
  | _ => false

/-- A step that has closed its span as one that went well has ended well. -/
theorem runStep_path_ok {page : PageId} {index : IterationIndex} {step : Step} {ds : List (Deed scene)}
    {r : Outcome Fault Unit} (h : Program.Path (runStep page index step) ds (.done r))
    (hlast : ds.getLast?.any Deed.closesWell = true) : r = .ok () := by
  obtain ⟨span, body, rfl, -⟩ := runStep_path h
  rw [← List.append_assoc, List.getLast?_append] at hlast
  match r with
  | .ok () => rfl
  | .error .cancelled | .error .interrupted | .error (.failed _) => cases hlast

/-- A world whose page shows the name of a book. -/
def bookshelf : World :=
  let shelf : Markup := { children := [("b", [{ props := [("title", .str "Emma")] }])] }
  (World.ofSite { documents := [("http://a/", shelf)] } (Files.ofLists [] [])).withPage "main" "http://a/"

/-- The title of each book. -/
def titles : Spec := [("title", { selector := "b", attributeName := "title" })]

/-- The name of the book is written, and the file is a document. -/
theorem scraped_file_isDocument_iff_bookshelf :
    ∃ ds, Program.Path (runStep 0 .root (.scrape titles "books.json")) ds (.done (.ok ())) ∧ (shownIn ds).length = 1 ∧
      ∃ records, ds.filterMap Deed.written? = [(⟨"", ["books.json"]⟩, .arr records)] ∧
        ∀ now (w : World), (w.perform now (.writeRecords ⟨"", ["books.json"]⟩ (.arr records))).2.1 = none →
          ∃ bytes, (w.perform now (.writeRecords ⟨"", ["books.json"]⟩ (.arr records))).1.files.read
            ⟨"", ["books.json"]⟩ = .ok bytes ∧ IsDocumentFile bytes := by
  have hplay : (Crew.rehearse machine (List.replicate 10 0)
      (Crew.single machine bookshelf (.steps 0 [.scrape titles "books.json"] .root))).any (fun x =>
        (x.2.result? 0).isSome && (shownIn (deedsOf x.1 0)).length == 1 &&
          (shownIn (deedsOf x.1 0)).all Json.isFinite && (deedsOf x.1 0).getLast?.any Deed.closesWell) = true := by decide +kernel
  obtain ⟨⟨h, c⟩, hrun, hall⟩ := (Option.any_eq_true _ _).1 hplay
  simp only [Bool.and_eq_true, beq_iff_eq, Option.isSome_iff_exists, List.all_eq_true] at hall
  obtain ⟨⟨⟨⟨r, hend⟩, hlength⟩, hfinite⟩, hlast⟩ := hall
  have hbusy : deedsOf h 0 ≠ [] := fun heq => by
    rw [heq] at hlength
    cases hlength
  have hr : Crew.Reaches machine IsOutside _ h c := Crew.reaches_of_rehearse .refl hrun
  obtain ⟨r₀, hpath⟩ := (hr.path_done hend).resolve_left hbusy
  obtain ⟨r', hscrape⟩ := single_step_path hpath
  obtain rfl := runStep_path_ok hscrape hlast
  obtain ⟨records, hwritten, hfile⟩ := scraped_file_isDocument_iff hscrape
  have hplace : FilePath.render "books.json" .root = ⟨"", ["books.json"]⟩ := by decide +kernel
  rw [hplace] at hwritten hfile
  refine ⟨_, hscrape, hlength, records, hwritten, fun now w hw => ?_⟩
  obtain ⟨bytes, hread, hdocument⟩ := hfile now w hw
  exact ⟨bytes, hread, hdocument.2 hfinite⟩

end BrowserPlan.Run
