import BrowserPlan.Url
import BrowserPlan.Text.Blank
import BrowserPlan.Json.Basic

/-!
# Links to follow

Which of the values found on a page lead to a page that can be opened, and where. A link leads
somewhere when, read against the address of the page, it has one of the schemes that can be opened
and, where it goes over the network, names a host. A text with half of a surrogate pair in it is a
text like any other: no such half is a blank or a mark of an address, so what it shows is read, and
the address that it leads to is shown in the same way.
-/
namespace BrowserPlan.Link

/-- The schemes of pages that can be opened. -/
def openableSchemes : List String := ["http", "https", "file", "data"]

/-- A network address that names no host. -/
def lacksHost (u : Url) : Bool :=
  (u.scheme == "http" || u.scheme == "https") && u.authority == ""

/-- Whether an address can be opened. -/
def isOpenable (u : Url) : Bool := openableSchemes.contains u.scheme && !lacksHost u

/-- Where a value found on the page at `base` leads, none when it leads nowhere. -/
def resolve? (base : Option String) (found : Json) : Except UrlFault (Option String) := do
  match found.text? with
  | some text =>
    let candidate := Text.strip text
    if candidate == "" then return none
    else if lacksHost (← Url.read "" candidate) then return none
    else
      let address ← Url.join (base.getD "") candidate
      if isOpenable (← Url.read "" address) then return some address else return none
  | none => return none

end BrowserPlan.Link
