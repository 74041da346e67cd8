import BrowserPlan.Run.Calls

/-!
# The session

A session launches a browser, opens pages in it with the time limits of the run, waits until the
browser goes away, and closes it. Closing never fails, and a session is closed only once.
-/
namespace BrowserPlan.Run.Session

open BrowserPlan.Task BrowserPlan.Browser

/-- The session as it stands. -/
def current : Program scene Session := ask .session

/-- Changes the session. -/
def update (f : Session → Session) : Program scene Unit := do ask (.setSession (f (← current)))

/-- Sets the time limits of the run. -/
def applyTimeouts (who : Party) : Program scene Unit := do
  let s ← current
  match s.defaultTimeout with
  | some millis => invoke who (.setDefaultTimeout millis)
  | none => pure ()
  match s.defaultNavigationTimeout with
  | some millis => invoke who (.setDefaultNavigationTimeout millis)
  | none => pure ()

/-- A truth value as messages show it. -/
def shown (b : Bool) : String := if b then "True" else "False"

/-- Launches the browser. -/
def start : Program scene Unit := do
  let s ← current
  say .info .session ("Launching " ++ s.engine ++ " (headless=" ++ shown s.headless ++ ")")
  invoke .launcher .start
  update fun s => { s with isLauncherStarted := true }
  let b ← invoke .launcher (.launch s.engine s.headless)
  update fun s => { s with browser := some b }
  invoke (.browser b) .newContext
  update fun s => { s with hasContext := true }
  applyTimeouts .context

/-- Opens a page. -/
def newPage : Program scene PageId := do
  if !(← current).hasContext then fail .notStarted
  else
    let p ← invoke .context .newPage
    applyTimeouts (.page p)
    return p

/-- The browser of the session. -/
def launched : Program scene BrowserId := do
  match (← current).browser with
  | some b => return b
  | none => fail .notStarted

/-- Waits until the browser goes away. -/
def waitClosed : Program scene Unit := do
  let b ← launched
  if ← ask (.isConnected b) then
    let listener ← invoke (.browser b) (.on "disconnected")
    wait (.signal (.gone listener))

/-- Closes the browser, if it was launched, and stops what it was launched with. -/
def shutDown : Program scene Unit := do
  match (← current).browser with
  | some b => (invoke (.browser b) .close).tolerating
  | none => pure ()
  if (← current).isLauncherStarted then (invoke .launcher .stop).tolerating
  update fun s => { s with browser := none, hasContext := false, isLauncherStarted := false }
  say .info .session "Browser session closed"

/-- Closes the session, unless it was closed before. -/
def close : Program scene Unit := do
  if !(← current).isClosed then
    update fun s => { s with isClosed := true }
    shutDown

/-- Does something with the session. -/
def perform : SessionDeed → Program scene Yield
  | .start => do
    start
    return .nothing
  | .newPage => do return .page (← newPage)
  | .waitClosed => do
    waitClosed
    return .nothing
  | .close => do
    close
    return .nothing
  | .browser => do
    let _ ← launched
    return .nothing

end BrowserPlan.Run.Session
