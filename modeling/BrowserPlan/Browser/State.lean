import BrowserPlan.Browser.Site

/-!
# A browser in memory

A browser whose pages show the documents of a site. It keeps what a browser keeps — the pages with
their histories, who is connected, who wants to be told when a browser goes away — and a log of
every call. A call begins and completes; between the two, time may pass. `State.begin` tells the
course that the site lays down for a call, and `State.complete` does what the call does.
-/
namespace BrowserPlan.Browser

/-- A page and the addresses it has been at. -/
structure Page where
  name : String
  history : List String
  /-- Where in its history the page is. -/
  position : Nat := 0
  deriving Inhabited

namespace Page

/-- The address of a page that was never opened. -/
def blank : String := "about:blank"

/-- The address a page is at. -/
def url (p : Page) : String := (p.history[p.position]?).getD blank

/-- The page after it goes to an address; what lay ahead is forgotten. -/
def visit (p : Page) (url : String) : Page :=
  { p with history := p.history.take (p.position + 1) ++ [url], position := p.position + 1 }

/-- The page one step back in its history. -/
def back (p : Page) : Page := { p with position := p.position - 1 }

/-- The page one step forward in its history. -/
def forward (p : Page) : Page :=
  { p with position := min (p.position + 1) (p.history.length - 1) }

end Page

/-- A browser that was launched. -/
structure Process where
  isConnected : Bool := true
  /-- Who wants to be told when it goes away. -/
  listeners : List Nat := []
  deriving Inhabited

/-- What the log of calls tells. -/
inductive Occurrence where
  | began (op : Operation)
  /-- The caller gave up before the call was through. -/
  | brokenOff (name : String)
  | disconnected
  /-- The run is over; perhaps its browser is still to be closed. -/
  | returned (closeIsPending : Bool)

/-- An entry of the log of calls. -/
structure Event where
  time : Nat
  party : String
  what : Occurrence

/-- A browser in memory, and the files it shares with the program. -/
structure State where
  site : Site
  files : Files
  pages : Array Page := #[]
  /-- How many pages have been opened. -/
  opened : Nat := 0
  processes : Array Process := #[]
  listenerCount : Nat := 0
  events : Array Event := #[]

namespace State

/-- The page with a number. -/
def page (s : State) (p : PageId) : Page := s.pages.getD p default

/-- The name of a party in the log. -/
def nameOf (s : State) : Party → String
  | .launcher => "playwright"
  | .browser _ => "browser"
  | .context => "context"
  | .page p => (s.page p).name
  | .element e | .document e => e.name

/-- The address that a call to a party is made at. -/
def placeOf (s : State) : Party → String
  | .page p => (s.page p).url
  | _ => Page.blank

/-- What a call to a party looks at. -/
def markupOf (s : State) : Party → Markup
  | .page p => s.site.documentAt (s.page p).url
  | .element e | .document e => e.markup
  | _ => {}

/-- Whether a browser is connected. -/
def isConnected (s : State) (b : BrowserId) : Bool := (s.processes[b]?).any (·.isConnected)

/-- Adds an entry to the log of calls. -/
def note (s : State) (now : Nat) (party : String) (what : Occurrence) : State :=
  { s with events := s.events.push ⟨now, party, what⟩ }

/-- Adds a page with a name of its own. -/
def addPage (s : State) (name url : String) : State × PageId :=
  ({ s with pages := s.pages.push { name := name, history := [url] } }, s.pages.size)

/-- Changes the page a call goes to. -/
def adjust (s : State) (who : Party) (f : Page → Page) : State :=
  match who with
  | .page p => { s with pages := s.pages.modify p f }
  | _ => s

/-- Lets a call lead to an address, if to any. -/
def lead (s : State) (who : Party) (landing : Option String) : State :=
  match landing with
  | some url => s.adjust who (·.visit url)
  | none => s

/-- A browser is there no more. -/
def disconnect (s : State) (b : BrowserId) : State :=
  { s with processes := s.processes.modify b fun r => { r with isConnected := false } }

/-- A call begins: it is put into the log, and the site lays down its course. -/
def «begin» (s : State) (now : Nat) (who : Party) (op : Operation) : State × Course :=
  let name := s.nameOf who
  let s := s.note now name (.began op)
  let isFree := match who with
    | .element _ | .document _ => true
    | _ => op.onlyNotes
  if isFree then (s, {})
  else
    let (rules, course) := Rule.consult op.name name (op.key? (s.placeOf who)) s.site.rules
    ({ s with site := { s.site with rules := rules } }, course)

/-- A caller gives up before its call is through. -/
def breakOff (s : State) (now : Nat) (who : Party) (op : Operation) : State :=
  s.note now (s.nameOf who) (.brokenOff op.name)

/-- The elements that a selector finds, each named by the way to it. -/
def found (s : State) (who : Party) (target : String) : List Element :=
  let name := s.nameOf who
  ((s.markupOf who).find target).mapIdx fun n m => ⟨s!"{name}/{target}[{n}]", m⟩

/-- What a screenshot of a page holds. -/
def shot (s : State) (who : Party) (fullPage : Bool) : String :=
  let url := s.placeOf who
  let full := if fullPage then "True" else "False"
  s!"shot of {url} full={full}"

/-- The answer of a call to an element or a page that may be broken. -/
def unlessBroken {α : Type} (m : Markup) (a : α) : Except CallFault α :=
  match m.error with
  | some text => .error (.raised .failure text)
  | none => .ok a

/-- The content of an element; that of a page can be had even if the page is broken. -/
def contentOf (s : State) (who : Party) (part : Markup → Option String) :
    Except CallFault (Option String) :=
  let m := s.markupOf who
  match who with
  | .element _ | .document _ => unlessBroken m (part m)
  | _ => .ok (part m)

/-- What a call does when nothing has come in its way; `landing` is where its course leads. -/
def complete (s : State) (who : Party) (landing : Option String) :
    (op : Operation) → State × Except CallFault op.Answer
  | .launch .. => ({ s with processes := s.processes.push {} }, .ok s.processes.size)
  | .newPage =>
    let number := s.opened + 1
    let (s, p) := s.addPage s!"page{number}" Page.blank
    ({ s with opened := number }, .ok p)
  | .close =>
    match who with
    | .browser b => (s.disconnect b, .ok ())
    | _ => (s, .ok ())
  | .on _ =>
    let n := s.listenerCount
    match who with
    | .browser b =>
      ({ s with listenerCount := n + 1
                processes := s.processes.modify b fun r =>
                  { r with listeners := r.listeners ++ [n] } }, .ok n)
    | _ => ({ s with listenerCount := n + 1 }, .ok n)
  | .goto url .. => (s.adjust who (·.visit (landing.getD url)), .ok ())
  | .back .. => (s.adjust who Page.back, .ok ())
  | .forward .. => (s.adjust who Page.forward, .ok ())
  | .click _ | .type .. | .waitForEvent .. => (s.lead who landing, .ok ())
  | .screenshot path fullPage =>
    match s.files.write path (s.shot who fullPage) with
    | .ok files => ({ s with files := files }, .ok ())
    | .error fault => (s, .error (.file fault))
  | .query target => (s, unlessBroken (s.markupOf who) (s.found who target))
  | .read target attributeName =>
    let m := s.markupOf who
    (s, unlessBroken m ((m.find target).map (·.prop attributeName)))
  | .content | .evaluate .elementHtml => (s, s.contentOf who (·.html))
  | .evaluate .pageText | .evaluate .elementText => (s, s.contentOf who (·.text))
  | .waitForSelector .. => (s, .ok "element")
  | .waitForFunction .. => (s, .ok "handle")
  | .awaitHalf .request => (s, .ok "request event")
  | .awaitHalf .response => (s, .ok "response event")
  | .start | .stop | .newContext | .setDefaultTimeout _ | .setDefaultNavigationTimeout _
  | .waitForLoadState .. | .waitForTimeout _ | .expect .. => (s, .ok ())

/-- The browser that was launched last goes away. Answers who wanted to be told. -/
def goAway (s : State) (now : Nat) : State × List Nat :=
  match s.processes.back? with
  | none => (s, [])
  | some r =>
    let s := s.note now (s.nameOf (.browser (s.processes.size - 1))) .disconnected
    (s.disconnect (s.processes.size - 1), r.listeners)

end State
end BrowserPlan.Browser
