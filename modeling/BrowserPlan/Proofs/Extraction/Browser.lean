import BrowserPlan.Proofs.Extraction.Reading
import BrowserPlan.Run.Reading

/-!
# Extraction from a browser

The program that extracts records from a page or an element of a browser. `Program.play` is what a
program by itself comes to when its calls are answered; `extract_eq_records` says that with a
browser that answers every call, and to the same question always the same, the program comes to the
records that the recursion describes.
-/
namespace BrowserPlan

namespace Task.Program

variable {I : Interface} {α β : Type}

/-- The result of a program when `answer` answers its calls and its pauses end well; none where it
fails, pauses forever or has to do with other tasks. -/
def play (answer : (q : I.Call) → I.Answer q) : Program I α → Option α
  | done (.ok a) => some a
  | done (.error _) => none
  | call q next => (next (answer q)).play answer
  | pause .forever _ => none
  | pause _ next => (next (.ok ())).play answer
  | fork _ _ | cancel _ _ | await _ _ | gather _ _ _ => none

theorem play_bind (answer : (q : I.Call) → I.Answer q) (p : Program I α) (f : α → Program I β) :
    (p.bind f).play answer = (p.play answer).bind fun a => (f a).play answer := by
  induction p with
  | done r => cases r <;> rfl
  | call q next ih => exact ih _
  | pause on next ih =>
    cases on with
    | signal s => exact ih _
    | timer micros => exact ih _
    | forever => rfl
  | fork | cancel | await | gather => rfl

end Task.Program

namespace Run

open BrowserPlan.Task BrowserPlan.Browser

/-- The browser answers every call sooner or later, and its answer, `reply`, depends on nothing but
the party and the operation. -/
structure Obliging (answer : (q : Call) → q.Answer)
    (reply : (who : Party) → (op : Operation) → op.Answer) : Prop where
  ends : ∀ who op, (answer (.begin who op)).hangs = false
  undisturbed : ∀ who op, (answer (.begin who op)).interrupts = false
  succeeds : ∀ who op, (answer (.begin who op)).fault = none
  answers : ∀ who landing op, answer (.complete who landing op) = .ok (reply who op)

/-- The documents of a browser that gives the answers `reply`. -/
def documentOf (reply : (who : Party) → (op : Operation) → op.Answer) :
    Extraction.Document Party where
  query root target := (reply root (.query target)).map .element
  read root target attributeName :=
    if target != "" then reply root (.read target attributeName) else []
  content root source :=
    match root with
    | .element _ =>
      reply root (.evaluate (if source == "text" then .elementText else .elementHtml))
    | _ => if source == "text" then reply root (.evaluate .pageText) else reply root .content

section
variable {answer : (q : Call) → q.Answer} {reply : (who : Party) → (op : Operation) → op.Answer}

theorem play_sitOut (who : Party) (op : Operation) {course : Course} (h : course.hangs = false) :
    Program.play (I := scene) answer (sitOut who op course) = some () := by
  by_cases hd : course.delay = 0
  · have hold : holdUp course = none := by simp [holdUp, h, hd]
    rw [sitOut, hold]
    rfl
  · have hold : holdUp course = some (.timer course.delay) := by simp [holdUp, h, hd]
    rw [sitOut, hold]
    rfl

theorem play_invoke (hb : Obliging answer reply) (who : Party) (op : Operation) :
    Program.play (I := scene) answer (invoke who op) = some (reply who op) := by
  have hcall : Program.play (I := scene) answer (invoke who op) =
      Program.play (I := scene) answer
        ((sitOut who op (answer (.begin who op))).bind fun _ => (do
          if (answer (.begin who op)).interrupts then
            Program.ending (I := scene) (.error .interrupted)
          failIf ((answer (.begin who op)).fault.map .call)
          settleFor .call (← ask (.complete who (answer (.begin who op)).landing op)))) := rfl
  have hsettle : Program.play (I := scene) answer
      (settleFor .call (answer (.complete who (answer (.begin who op)).landing op))) =
        some (reply who op) := by
    rw [hb.answers]
    rfl
  rw [hcall, Program.play_bind, play_sitOut who op (hb.ends who op), hb.undisturbed, hb.succeeds]
  exact hsettle

theorem play_bind_scene {α β : Type} (p : Program scene α) (f : α → Program scene β) :
    Program.play (I := scene) answer (p >>= f) =
      (Program.play (I := scene) answer p).bind fun a => Program.play (I := scene) answer (f a) :=
  Program.play_bind _ p f

theorem play_readAll (hb : Obliging answer reply) (root : Party) (target attributeName : String) :
    Program.play (I := scene) answer (readAll root (some target) attributeName) =
      some ((documentOf reply).read root target attributeName) := by
  have hread : (documentOf reply).read root target attributeName =
      if target != "" then reply root (.read target attributeName) else [] := rfl
  by_cases ht : (target != "") = true
  · have hfilter : (some target).filter (· != "") = some target := by simp [Option.filter, ht]
    rw [readAll, hfilter, hread, if_pos ht]
    exact play_invoke hb root (.read target attributeName)
  · have hfilter : (some target).filter (· != "") = none := by simp [Option.filter, ht]
    rw [readAll, hfilter, hread, if_neg ht]
    rfl

theorem play_contentOf (hb : Obliging answer reply) (root : Party) (source : String) :
    Program.play (I := scene) answer (contentOf root source) =
      some ((documentOf reply).content root source) := by
  have hpage : Program.play (I := scene) answer
      (if source == "text" then invoke root (.evaluate .pageText) else invoke root .content) =
      some (if source == "text" then reply root (.evaluate .pageText)
        else reply root .content) := by
    split
    · exact play_invoke hb root (.evaluate .pageText)
    · exact play_invoke hb root .content
  cases root with
  | element e => exact play_invoke hb (.element e) _
  | launcher | browser | context | page | document => exact hpage

/-- Playing extraction from an obliging browser is reading its documents. -/
def reading (hb : Obliging answer reply) : Extraction.Reading documents (documentOf reply) where
  run := Program.play (I := scene) answer
  run_pure _ := rfl
  run_bind := play_bind_scene
  query root target := by
    have hmap : documents.query root target =
        (invoke root (.query target)).bind fun es => .done (.ok (es.map .element)) := rfl
    rw [hmap, Program.play_bind, play_invoke hb]
    rfl
  read := play_readAll hb
  content := play_contentOf hb
  skip _ := rfl
  refuse _ _ := rfl

end

/-- Extraction from a browser that answers every call, and to the same question always the same,
comes to the records that the recursion describes, unless it meets a pattern that is none. -/
theorem extract_eq_records {answer : (q : Call) → q.Answer}
    {reply : (who : Party) → (op : Operation) → op.Answer} (hb : Obliging answer reply)
    {spec : Spec} (hd : Extraction.Distinct spec) (root : Party) :
    Program.play (I := scene) answer (extract root spec) =
      if (documentOf reply).refusesAny root spec then none
      else some ((documentOf reply).records root spec) :=
  (reading hb).run_extract hd root

/-- Wherever this browser looks it finds two elements, and one text in each of them. -/
def twins (_ : Party) : (op : Operation) → op.Answer
  | .query _ => [⟨"left", {}⟩, ⟨"right", {}⟩]
  | .read .. => [.str "a"]
  | .content | .evaluate _ => none
  | .launch .. | .newPage | .on _ => (0 : Nat)
  | .waitForSelector .. | .waitForFunction .. | .awaitHalf _ => ""
  | .start | .stop | .newContext | .close | .setDefaultTimeout _ | .setDefaultNavigationTimeout _
  | .goto .. | .back .. | .forward .. | .click _ | .type .. | .screenshot .. | .waitForEvent ..
  | .waitForLoadState .. | .waitForTimeout _ | .expect .. => ()

/-- The answers of an empty world around a browser that answers at once. -/
def promptly (reply : (who : Party) → (op : Operation) → op.Answer) : (q : Call) → q.Answer
  | .begin .. => {}
  | .complete who _ op => .ok (reply who op)
  | q => (World.perform 0 { browser := { site := {}, files := ⟨[]⟩ } } q).2.1

/-- The names of all items. -/
def namesOfItems : Spec :=
  [("items", { selector := "li", children := [("name", { selector := "b" })] })]

theorem extract_eq_records_twins :
    Obliging (promptly twins) twins ∧ Extraction.Distinct namesOfItems ∧
    Program.play (I := scene) (promptly twins) (extract (.page 0) namesOfItems) =
      some [.obj [("items", .obj [("name", .str "a")])],
        .obj [("items", .obj [("name", .str "a")])]] := by
  have hb : Obliging (promptly twins) twins :=
    ⟨fun _ _ => rfl, fun _ _ => rfl, fun _ _ => rfl, fun _ _ _ => rfl⟩
  have hd : Extraction.Distinct namesOfItems := by
    simp [namesOfItems, Extraction.Distinct, Extraction.DistinctBelow]
  exact ⟨hb, hd, (extract_eq_records hb hd (.page 0)).trans rfl⟩

end Run
end BrowserPlan
