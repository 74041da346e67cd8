import BrowserPlan.Run.Calls

/-!
# Waiting on a page

How each kind of wait condition is waited for. Some waits end with a value.
-/
namespace BrowserPlan.Run

open BrowserPlan.Task BrowserPlan.Browser

/-- The states of loading that can be waited for. -/
def loadStates : List String := ["load", "domcontentloaded", "networkidle"]

/-- Waits until the page has gone to another address and has loaded as far as it should. A frame
inside the page that goes to another address does not count. -/
def waitForNavigation (p : PageId) (c : WaitCondition) : Program scene Unit := do
  invoke (.page p) (.waitForEvent "framenavigated" (· == .main) c.timeout)
  let state := if given c.waitUntil then c.waitUntil.getD "load" else "load"
  if loadStates.contains state then invoke (.page p) (.waitForLoadState state c.timeout)

/-- Lets some milliseconds pass. -/
def passTime : Option Number → Program scene Unit
  | none => fail .noTime
  | some millis =>
    if millis.isPositive then
      match millis.micros? with
      | some micros => wait (.timer micros.toNat)
      | none => wait .forever
    else pure ()

/-- Waits for one half of an exchange with an address. -/
def waitForHalf (p : PageId) (half : Half) (c : WaitCondition) : Program scene String := do
  let text := c.url.getD ""
  let matcher ← settleFor (.pattern ((patternText? text).getD "")) (UrlMatcher.read text)
  invoke (.page p) (.expect half matcher c.timeout)
  invoke (.page p) (.awaitHalf half)

/-- Waits for a condition. The result is the value that the wait ends with, if there is one. -/
def waitFor (p : PageId) (c : WaitCondition) : Program scene (Option String) :=
  match c.kind with
  | .navigation => do
    waitForNavigation p c
    return none
  | .networkIdle => do
    invoke (.page p) (.waitForLoadState "networkidle" c.timeout)
    return none
  | .selector => do
    return some (← invoke (.page p) (.waitForSelector c.selector c.state c.timeout))
  | .xpath => do
    let target := "xpath=" ++ c.xpath.getD "None"
    return some (← invoke (.page p) (.waitForSelector (some target) c.state c.timeout))
  | .timeout => do
    invoke (.page p) (.waitForTimeout c.timeout)
    passTime c.timeout
    return none
  | .request => do return some (← waitForHalf p .request c)
  | .response => do return some (← waitForHalf p .response c)
  | .function => do
    return some (← invoke (.page p) (.waitForFunction c.function c.args c.timeout c.polling))

end BrowserPlan.Run
