import BrowserPlan.Log
import BrowserPlan.Settings

/-!
# Telemetry

Tracing is set up before a run and shut down after it. It is set up only when it is enabled, has
an endpoint and the packages it needs are there; each other case is logged. Shutting down does
something only when tracing is enabled and a provider is there to shut down.
-/
namespace BrowserPlan.Telemetry

/-- What setting up and shutting down do, in order. -/
inductive Action where
  | log (record : Log.Record)
  | createResource (service : String)
  | createProvider
  | createExporter (endpoint : String) (insecure : Bool)
  | createProcessor
  | attachProcessor
  | installProvider
  deriving DecidableEq, Repr

/-- How the provider answers a shutdown: there may be none, it may succeed, or it may fail. -/
inductive Provider where
  | absent
  | stops
  | fails (message : String)
  deriving DecidableEq, Repr

/-- A record of this part. -/
def say (level : Log.Level) (message : String) : Action := .log ⟨level, .telemetry, message⟩

/-- What setting up does; `packages` says whether the optional packages are there. -/
def start (s : Settings) (packages : Bool) : List Action :=
  if !s.telemetryEnabled then
    [say .debug "OpenTelemetry tracing disabled (OTEL_ENABLED=false)"]
  else if s.telemetryEndpoint == "" then
    [say .warning ("OTEL_ENABLED=true but OTEL_EXPORTER_OTLP_ENDPOINT not set. " ++
      "Skipping OpenTelemetry initialization.")]
  else if !packages then
    [say .error ("OpenTelemetry packages not installed: No module named 'opentelemetry.exporter'. "
      ++ "Install with: pip install 'stepwright[telemetry]'")]
  else
    let service := s.telemetryService
    let endpoint := s.telemetryEndpoint
    [.createResource service, .createProvider, .createExporter endpoint true, .createProcessor,
     .attachProcessor, .installProvider,
     say .info s!"OpenTelemetry initialized: service={service}, endpoint={endpoint}"]

/-- What shutting down does. -/
def stop (s : Settings) (p : Provider) : List Action :=
  if !s.telemetryEnabled then []
  else
    match p with
    | .absent => []
    | .stops => [say .info "OpenTelemetry tracer provider shut down"]
    | .fails message => [say .warning s!"Error shutting down OpenTelemetry: {message}"]

/-- The records among some actions. -/
def records (actions : List Action) : List Log.Record :=
  actions.filterMap fun
    | .log record => some record
    | _ => none

end BrowserPlan.Telemetry
