import BrowserPlan.CommandLine.Arguments
import BrowserPlan.Plan.Loader
import BrowserPlan.Run.Scenario
import BrowserPlan.Telemetry

/-!
# The command

Reads the arguments, sets up the log and the telemetry, loads the plan and carries it out. The exit
status tells how it went: 0 for a run that ended well, 1 for one that did not, 2 for arguments
that make no sense, and 130 when the user interrupted the run.
-/
namespace BrowserPlan.CommandLine

open BrowserPlan.Task BrowserPlan.Run

/-- A line on the error stream. -/
inductive Line where
  | text (s : String)
  /-- A record of the log, which is written with the time. -/
  | record (r : Log.Record)
  deriving DecidableEq, Repr

/-- A line as it is written; a record is written with a time in front. -/
def Line.render (time : String) : Line → String
  | text s => s
  | record r => time ++ " " ++ r.level.name ++ " [" ++ r.speaker.name ++ "] " ++ r.message

/-- What a command comes to. -/
structure Result where
  status : Nat
  /-- Nothing was run, because of the arguments. -/
  isUsage : Bool := false
  output : List String := []
  errors : List Line := []
  world : World

/-- The exit status of an interrupted run. -/
def interruptedStatus : Nat := 130

/-- A record of the command itself. -/
def record (level : Log.Level) (message : String) : Log.Record := ⟨level, .commandLine, message⟩

/-- How a command ends: its status, and what is said about it. -/
structure Ending where
  status : Nat
  lines : List Line

/-- The end of a command that fails with one of the program's own faults. -/
def Ending.ofFault (message : String) : Ending := ⟨1, [.text ("Error: " ++ message)]⟩

/-- The end of a command that fails otherwise. -/
def Ending.ofSurprise (message : String) : Ending :=
  ⟨1, [.record (record .error ("Run failed: " ++ message))]⟩

/-- The end of a command whose plan cannot be loaded. -/
def Ending.ofLoad (fault : LoadFault) : Ending :=
  if fault.isOfPlan then .ofFault fault.message else .ofSurprise fault.message

/-- The end of a command whose run has ended. -/
def Ending.ofRun (isInterrupted : Bool) (r : Outcome Fault Yield) : Ending :=
  if isInterrupted then ⟨interruptedStatus, [.text "", .text "Interrupted"]⟩
  else
    match r with
    | .ok _ => ⟨0, []⟩
    | .error (.failed fault) =>
      if fault.isOwn then
        ⟨1, [.record (record .debug "Run failed"), .text ("Error: " ++ fault.message)]⟩
      else .ofSurprise fault.message
    | .error .cancelled => ⟨1, []⟩
    | .error .interrupted => ⟨interruptedStatus, [.text "", .text "Interrupted"]⟩

/-- The records about a plan that was loaded. -/
def loadedRecords (path : String) (plan : Plan) : List Log.Record :=
  let count := plan.steps.length
  [plan.builtRecord,
   record .info ("Loaded " ++ path ++ s!": {count} steps, maxPages={plan.maxPages}")]

/-- Loads a plan and carries it out. -/
def perform (settings : Settings) (w : World) (path : String) : World × List Line × Ending :=
  match Plan.load settings w.files (FilePath.ofString path) with
  | .error fault => (w, [], .ofLoad fault)
  | .ok plan =>
    let L := (beginning w (.commanded plan settings.browserEngine)).seeOut machine 0
    let isInterrupted := L.isInterrupted
    let r := outcome L
    let L := L.cleanUp machine
    let lines := (loadedRecords path plan ++ L.world.records.toList).map Line.record
    (L.world, lines, .ofRun isInterrupted r)

/-- The lines that are let through at a level. -/
def visible (level : Int) (lines : List Line) : List Line :=
  lines.filter fun
    | .text _ => true
    | .record r => r.passes level

/-- A command whose arguments make no sense. -/
def refused (w : World) (message : String) : Result :=
  { status := 2, isUsage := true, world := w
    errors := [.text usageLine, .text ("stepwright: error: " ++ message)] }

/-- A command whose arguments are understood. -/
def runAt (level : Int) (settings : Settings) (w : World) (path : String) : Result :=
  let before := (Telemetry.records (Telemetry.start settings false)).map Line.record
  let (w, lines, ending) := perform settings w path
  let after := (Telemetry.records (Telemetry.stop settings .absent)).map Line.record
  { status := ending.status, world := w
    errors := visible level (before ++ lines ++ ending.lines ++ after) }

/-- Carries out the command that the arguments give. -/
def run (arguments : List String) (settings : Settings) (w : World) : Result :=
  match Arguments.read arguments with
  | .error .helpWanted =>
    { status := 0, isUsage := true, output := helpText settings.logLevel, world := w }
  | .error (.usage message) => refused w message
  | .ok a =>
    let level := if a.verbose then "DEBUG" else a.logLevel.getD settings.logLevel
    match Log.levelNamed? level with
    | none => refused w (Log.Fault.unknownLevel level).message
    | some level => runAt level settings w a.path

end BrowserPlan.CommandLine
