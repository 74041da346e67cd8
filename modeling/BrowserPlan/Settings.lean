/-!
# Settings from the environment

What the environment sets: a missing variable leaves the default, and a switch is on for a few
words in any letter case and off for everything else.
-/
namespace BrowserPlan

/-- What is set outside any plan. -/
structure Settings where
  headless : Bool := true
  browserEngine : String := "chromium"
  logLevel : String := "INFO"
  telemetryEnabled : Bool := false
  telemetryService : String := "stepwright"
  telemetryEndpoint : String := ""
  deriving DecidableEq, Repr, Inhabited

namespace Settings

/-- The words that turn a switch on. -/
def onWords : List String := ["1", "true", "yes", "on"]

/-- Whether a word turns a switch on. -/
def isOn (word : String) : Bool := onWords.contains word.toLower

/-- The settings of an environment. -/
def ofEnvironment (lookup : String → Option String) : Settings :=
  let default : Settings := {}
  let switch (name : String) (otherwise : Bool) := ((lookup name).map isOn).getD otherwise
  { headless := switch "HEADLESS" default.headless
    browserEngine := (lookup "BROWSER_ENGINE").getD default.browserEngine
    logLevel := (lookup "LOG_LEVEL").getD default.logLevel
    telemetryEnabled := switch "OTEL_ENABLED" default.telemetryEnabled
    telemetryService := (lookup "OTEL_SERVICE_NAME").getD default.telemetryService
    telemetryEndpoint := (lookup "OTEL_EXPORTER_OTLP_ENDPOINT").getD default.telemetryEndpoint }

end Settings
end BrowserPlan
