import BrowserPlan.Browser.Markup
import BrowserPlan.FilePath
import BrowserPlan.Wait.Condition

/-!
# Calls to a browser

What a run asks of a browser, of whom it asks it, and what it is answered. Every call has a name,
and most have a key, by which a call of one name can be told from another.
-/
namespace BrowserPlan.Browser

/-- Pages, numbered in the order in which they came about. -/
abbrev PageId := Nat

/-- Browsers, numbered in the order in which they were launched. -/
abbrev BrowserId := Nat

/-- An element that was found on a page, under a name that tells how it was found. -/
structure Element where
  name : String
  markup : Markup
  deriving Inhabited

/-- Whom a call goes to. -/
inductive Party where
  /-- What browsers are launched with. -/
  | launcher
  | browser (b : BrowserId)
  /-- What all pages of a browser share. -/
  | context
  | page (p : PageId)
  | element (e : Element)
  /-- A document by itself, shown on no page. -/
  | document (e : Element)

/-- A script that is carried out on a page or an element. -/
inductive Script where
  | pageText
  | elementText
  | elementHtml
  deriving DecidableEq, Repr

/-- The two halves of an exchange over the network. -/
inductive Half where
  | request
  | response
  deriving DecidableEq, Repr

/-- The frames of a page: the one that is the page itself, and those inside it. -/
inductive Frame where
  | main
  | inner
  deriving DecidableEq, Repr

/-- A call. -/
inductive Operation where
  | start
  | launch (engine : String) (headless : Bool)
  | stop
  | newContext
  | newPage
  | close
  /-- Asks to be told of an event. -/
  | on (event : String)
  | setDefaultTimeout (millis : Number)
  | setDefaultNavigationTimeout (millis : Number)
  | goto (url : String) (waitUntil : Option String) (timeout : Option Number)
  | back (waitUntil : Option String) (timeout : Option Number)
  | forward (waitUntil : Option String) (timeout : Option Number)
  | click (target : String)
  | type (target text : String) (delay : Number)
  | screenshot (path : FilePath) (fullPage : Bool)
  | query (target : String)
  /-- Reads an attribute of every element that is found. -/
  | read (target attributeName : String)
  | content
  | evaluate (script : Script)
  /-- Waits for an event of a frame that satisfies the predicate. -/
  | waitForEvent (event : String) (predicate : Frame → Bool) (timeout : Option Number)
  | waitForLoadState (state : String) (timeout : Option Number)
  | waitForSelector (target state : Option String) (timeout : Option Number)
  | waitForTimeout (millis : Option Number)
  | waitForFunction (function : Option String) (args : List Json) (timeout : Option Number)
      (polling : Option Json)
  /-- Asks to watch out for one half of an exchange. -/
  | expect (half : Half) (matcher : UrlMatcher) (timeout : Option Number)
  /-- Waits for the half that is watched out for. -/
  | awaitHalf (half : Half)

namespace Operation

/-- The name of a call. -/
def name : Operation → String
  | start => "start"
  | launch .. => "launch"
  | stop => "stop"
  | newContext => "new_context"
  | newPage => "new_page"
  | close => "close"
  | on _ => "on"
  | setDefaultTimeout _ => "set_default_timeout"
  | setDefaultNavigationTimeout _ => "set_default_navigation_timeout"
  | goto .. => "goto"
  | back .. => "back"
  | forward .. => "forward"
  | click _ => "click"
  | type .. => "type"
  | screenshot .. => "screenshot"
  | query _ => "query"
  | read .. => "read"
  | content => "content"
  | evaluate _ => "evaluate"
  | waitForEvent .. => "wait_for_event"
  | waitForLoadState .. => "wait_for_load_state"
  | waitForSelector .. => "wait_for_selector"
  | waitForTimeout _ => "wait_for_timeout"
  | waitForFunction .. => "wait_for_function"
  | expect .request .. => "expect_request"
  | expect .response .. => "expect_response"
  | awaitHalf .request => "request_event"
  | awaitHalf .response => "response_event"

/-- The key of a call that goes to a page at `here`. -/
def key? (here : String) : Operation → Option String
  | launch engine _ => some engine
  | goto url .. => some url
  | back .. | forward .. | content | evaluate _ => some here
  | click target | type target .. | query target | read target _ => some target
  | waitForSelector target .. => target
  | screenshot path _ => some path.toString
  | waitForEvent event .. => some event
  | waitForLoadState state _ => some state
  | waitForFunction function .. => function
  | _ => none

/-- What a call is answered when it succeeds. -/
abbrev Answer : Operation → Type
  | launch .. => BrowserId
  | newPage => PageId
  -- the number under which the caller will be told
  | on _ => Nat
  | query _ => List Element
  | read .. => List Json
  | content | evaluate _ => Option String
  | waitForSelector .. | waitForFunction .. | awaitHalf _ => String
  | _ => Unit

/-- Whether a call only notes something and never waits or fails. -/
def onlyNotes : Operation → Bool
  | setDefaultTimeout _ | setDefaultNavigationTimeout _ | expect .. | on _ => true
  | _ => false

end Operation
end BrowserPlan.Browser
