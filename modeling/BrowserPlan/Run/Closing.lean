import BrowserPlan.Run.Session

/-!
# Closing a session later

A plan may ask that its browser stay open: until it goes away by itself, or for some milliseconds.
The session is then closed by a task of its own, which closes it even if it is told to give up.
-/
namespace BrowserPlan.Run

open BrowserPlan.Task

/-- When the session of a plan is closed that outlives its run, none for one that does not. -/
def Deferral.of? : KeepOpen → Option Deferral
  | .flag true => some .whenGone
  | .flag false => none
  | .millis n => if 0 < n then some (.after (.int n)) else none

/-- What is said when a close is put off. -/
def Deferral.message : Deferral → String
  | whenGone => "Leaving browser open until it is closed"
  | after millis => s!"Closing browser in {(millis.truncate?).getD 0} ms"

/-- The first whole number of milliseconds that no clock can tell. -/
def clockLimit : Int := 1000 * (Nat.pow 2 1024 - Nat.pow 2 970 : Nat)

/-- Lets the time of a deferral pass. -/
def Deferral.elapse : Deferral → Program scene Unit
  | whenGone => Session.waitClosed
  | after millis =>
    match millis with
    | .int n => if clockLimit ≤ n then fail .tooLong else wait (.timer (n * 1000).toNat)
    | .float _ =>
      match millis.micros? with
      | some micros => wait (.timer micros.toNat)
      | none => wait .forever

/-- Closes the session when its time has come, or when the task is told to give up. -/
def closeLater (d : Deferral) : Program scene Yield := do
  d.elapse.ensuring fun _ => Session.close
  return .nothing

/-- Starts the task that closes the session later, if one does. -/
def scheduleClose (d : Option Deferral) : Program scene (Option TaskId) := do
  match d with
  | none => return none
  | some d =>
    say .info .runner d.message
    return some (← Program.start (I := scene) (.close d))

end BrowserPlan.Run
