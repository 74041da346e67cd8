import BrowserPlan.Proofs.Run.Company
import BrowserPlan.Proofs.Task.Runs
import BrowserPlan.Run.Scenario

/-!
# What a scenario carries out is a history

A scenario runs a task loop from beginning to end. Whatever it comes to, a crew that begins with the same
job in the same world comes to as well (`carryOut_history`, `followPlan_history`, `putOffClose_history`), so
what is proved of all histories of such a crew is true of the worlds and ends of scenarios.
-/
namespace BrowserPlan.Run

open BrowserPlan.Task BrowserPlan.Browser

variable {L : RunState} {c : Crew scene World}

/-- In a scenario anybody may be told to give up, and only the browser goes away by itself. -/
abbrev Ensues (c : Crew scene World) (L : RunState) : Prop := Loop.Follows machine IsOutside (fun _ => True) c L

theorem enacts_mishaps (h : Loop.Enacts IsOutside (fun _ => True) L c) (mishaps : Mishaps) (t : TaskId) :
    Loop.Enacts IsOutside (fun _ => True) (mishaps.set t L) c := by
  rw [Mishaps.set]
  cases mishaps.goneAt <;> cases mishaps.cancelledAt
  · exact h
  · exact h.setTimer _ (.cancel t) trivial
  · exact h.setTimer _ (.call .goAway) rfl
  · exact (h.setTimer _ (.call .goAway) rfl).setTimer _ (.cancel t) trivial

theorem ensues_conclude (h : Loop.Enacts IsOutside (fun _ => True) L c) (t : TaskId) : Ensues c (conclude L t) :=
  (h.seeOut machine trivial).then fun _ hd => hd.cleanUp machine fun _ => trivial

/-- What is carried out is a history. -/
theorem carryOut_history (w : World) (job : Job) : ∃ h c, Crew.Reaches machine IsOutside (Crew.single machine w job) h c ∧
    c.world = (carryOut w job).world ∧ ∀ t, c.result? t = (carryOut w job).result? t :=
  (ensues_conclude (Loop.enacts_single machine w job) 0).history

/-- What comes of a plan is a history, whatever happens meanwhile. -/
theorem followPlan_history (w : World) (plan : Plan) (engine : String) (mishaps : Mishaps) :
    ∃ h c, Crew.Reaches machine IsOutside (Crew.single machine w (.attended plan engine)) h c ∧
      c.world = (followPlan w plan engine mishaps).world ∧
      ∀ t, c.result? t = (followPlan w plan engine mishaps).result? t :=
  (ensues_conclude (enacts_mishaps (Loop.enacts_single machine w (.attended plan engine)) mishaps 1) 0).history

/-- What comes of putting off the close of a session is a history. -/
theorem putOffClose_history (w : World) (d : Option Deferral) (mishaps : Mishaps) :
    ∃ h c, Crew.Reaches machine IsOutside (Crew.single machine w.launched (.defer d)) h c ∧
      c.world = (putOffClose w d mishaps).1.world ∧ ∀ t, c.result? t = (putOffClose w d mishaps).1.result? t := by
  have hbegins : Ensues (Crew.single machine w.launched (.defer d))
      (Loop.atOnce machine { world := w.launched } (.defer d)).1 := (Loop.enacts_nobody w.launched).atOnce machine _
  rw [putOffClose]
  dsimp only
  split
  · exact (hbegins.then fun _ hd => ensues_conclude (enacts_mishaps hd mishaps 1) 1).history
  · exact hbegins.history

end BrowserPlan.Run
