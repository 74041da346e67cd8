import BrowserPlan.CommandLine.Command
import BrowserPlan.Json.Reader

/-!
# The program

Carries out the plan that the command line names, in a browser in memory. The documents that the
browser can open are described by the file that the environment names in `BROWSER_SITE`; without
it every address has an empty document. The files of the run are written when it is over.
-/
namespace BrowserPlan.CommandLine

/-- The variables of the environment that are heeded. -/
def heededVariables : List String :=
  ["HEADLESS", "BROWSER_ENGINE", "LOG_LEVEL", "OTEL_ENABLED", "OTEL_SERVICE_NAME",
   "OTEL_EXPORTER_OTLP_ENDPOINT"]

/-- The settings of the environment. -/
def readSettings : IO Settings := do
  let values ← heededVariables.mapM fun name => do return (name, ← IO.getEnv name)
  return Settings.ofEnvironment fun name => (values.find? fun v => v.1 == name).bind (·.2)

/-- The site that a file describes. -/
def readSite (path : String) : IO Browser.Site := do
  match Json.read (← IO.FS.readFile path) with
  | .ok v =>
    let pages := ((v.member? "pages").map Json.members).getD []
    return { documents := pages.map fun p => (p.1, Browser.Markup.ofJson p.2) }
  | .error _ => return {}

/-- The files of the working directory as far as a run needs them: the one that is named. -/
def readFiles (path : String) : IO Files := do
  let start := Files.ofLists [] []
  try
    let bytes ← IO.FS.readBinFile path
    return start.plant (FilePath.ofString path) (.file bytes.toList)
  catch _ => return start

/-- Writes the files of a run. -/
def writeFiles (changes : List (FilePath × List UInt8)) : IO Unit := do
  for (path, bytes) in changes do
    IO.FS.createDirAll path.parent.toString
    IO.FS.writeBinFile path.toString (ByteArray.mk bytes.toArray)

/-- Writes what a command has to say. -/
def writeLines (r : Result) : IO Unit := do
  let output ← IO.getStdout
  let errors ← IO.getStderr
  let time := toString (← IO.monoMsNow)
  for line in r.output do output.putStrLn line
  for line in r.errors do errors.putStrLn (line.render time)

/-- Carries out the command. -/
def carryOut (arguments : List String) : IO UInt32 := do
  let settings ← readSettings
  let site ← match ← IO.getEnv "BROWSER_SITE" with
    | some path => readSite path
    | none => pure {}
  let files ← readFiles ((Arguments.read arguments).toOption.elim "" (·.path))
  let r := run arguments settings (Run.World.ofSite site files)
  writeLines r
  writeFiles (r.world.files.changedSince files)
  return r.status.toUInt32

end BrowserPlan.CommandLine

/-- Carries out the command. -/
def main (arguments : List String) : IO UInt32 := BrowserPlan.CommandLine.carryOut arguments
