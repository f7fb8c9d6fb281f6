import AppOperator.Controller
import AppOperator.Number.Reading
import AppOperator.RouteClass
import AppOperator.Text.Lines

/-!
# Settings

The operator is configured by its environment, with the service account of its
container behind it: a token file, and a certificate whose path is handed on.
Settings are read once and kept (`SettingsCache`); the first value that cannot
be read is the fault, and then nothing is kept.
-/

set_option autoImplicit false

namespace AppOperator

/-- How the API server is reached. -/
structure ClusterSettings where
  apiUrl : String
  token : Option String
  caFile : Option String
  verifySsl : Bool
  requestTimeout : Binary64
  watchNamespace : Option String

/-- How the probes are served. -/
structure ProbeSettings where
  enabled : Bool
  host : String
  port : Int
  logLevel : String

structure Settings where
  cluster : ClusterSettings
  controller : ControllerSettings
  probes : ProbeSettings

/-- The files of a service account by name; what has no text is not a plain file. -/
structure ServiceAccount where
  directory : String
  files : List (String × Option String)

namespace ServiceAccount

/-- A container without a service account. -/
def none : ServiceAccount := ⟨"", []⟩

def has (account : ServiceAccount) (name : String) : Bool :=
  account.files.any fun file => file.1 == name

/-- The text of a file without spaces at its ends. -/
def read? (account : ServiceAccount) (name : String) : Option String :=
  ((account.files.find? fun file => file.1 == name).bind (·.2)).map fun text =>
    Text.trim (String.ofList (Text.unifyLineBreaks text.toList))

def path (account : ServiceAccount) (name : String) : String :=
  account.directory ++ "/" ++ name

end ServiceAccount

def defaultApiUrl : String := "https://kubernetes.default.svc"

/-- The word that turns a switch on, in any case of its letters. -/
def isOn (text : String) : Bool :=
  text.toList.map Char.toLower == "true".toList

namespace ClusterSettings

def default : ClusterSettings where
  apiUrl := defaultApiUrl
  token := none
  caFile := none
  verifySsl := true
  requestTimeout := .ofInt 30
  watchNamespace := none

/-- The address of the API server: given, or that of the service of the cluster. -/
def apiUrlOf (env : Environment) : String :=
  match Environment.nonEmpty? env "KUBE_API_URL" with
  | some url => url
  | none =>
      match Environment.nonEmpty? env "KUBERNETES_SERVICE_HOST" with
      | some host => "https://" ++ host ++ ":" ++ Environment.getOr env "KUBERNETES_SERVICE_PORT" "443"
      | none => defaultApiUrl

/-- The certificate file: given, or that of the service account if it has one. -/
def caFileOf (env : Environment) (account : ServiceAccount) : Option String :=
  match Environment.nonEmpty? env "KUBE_CA_FILE" with
  | some file => some file
  | none =>
      if account.has "ca.crt" then some (account.path "ca.crt")
      else Environment.get? env "KUBE_CA_FILE"

def ofEnvironment (env : Environment) (account : ServiceAccount) :
    Except Fault ClusterSettings := do
  let requestTimeout ← Reading.float (Environment.getOr env "KUBE_REQUEST_TIMEOUT" "30")
  return {
    apiUrl := apiUrlOf env
    token := (Environment.nonEmpty? env "KUBE_TOKEN").or (account.read? "token")
    caFile := caFileOf env account
    verifySsl := isOn (Environment.getOr env "KUBE_VERIFY_SSL" "true")
    requestTimeout := requestTimeout
    watchNamespace := Environment.nonEmpty? env "WATCH_NAMESPACE" }

end ClusterSettings

namespace ControllerSettings

def default : ControllerSettings where
  reconcileInterval := 300
  maxConcurrentReconciles := 5
  historySize := 100
  backoff := ⟨1.0, 300.0, 0.1⟩

def ofEnvironment (env : Environment) : Except Fault ControllerSettings := do
  let reconcileInterval ← Reading.int (Environment.getOr env "RECONCILE_INTERVAL" "300")
  let maxConcurrentReconciles ← Reading.int (Environment.getOr env "MAX_CONCURRENT_RECONCILES" "5")
  let historySize ← Reading.int (Environment.getOr env "HISTORY_SIZE" "100")
  let baseDelay ← Reading.float (Environment.getOr env "BACKOFF_BASE_DELAY" "1.0")
  let maxDelay ← Reading.float (Environment.getOr env "BACKOFF_MAX_DELAY" "300")
  let jitterFactor ← Reading.float (Environment.getOr env "BACKOFF_JITTER_FACTOR" "0.1")
  return {
    reconcileInterval := reconcileInterval
    maxConcurrentReconciles := maxConcurrentReconciles
    historySize := historySize
    backoff := ⟨baseDelay.toFloat, maxDelay.toFloat, jitterFactor.toFloat⟩ }

end ControllerSettings

namespace ProbeSettings

def default : ProbeSettings where
  enabled := true
  host := "0.0.0.0"
  port := 8081
  logLevel := "INFO"

def ofEnvironment (env : Environment) : Except Fault ProbeSettings := do
  let port ← Reading.int (Environment.getOr env "PROBE_PORT" "8081")
  return {
    enabled := isOn (Environment.getOr env "PROBE_ENABLED" "true")
    host := Environment.getOr env "PROBE_HOST" "0.0.0.0"
    port := port
    logLevel := Environment.getOr env "LOG_LEVEL" "INFO" }

end ProbeSettings

namespace Settings

def default : Settings where
  cluster := .default
  controller := .default
  probes := .default

/-- Reads all settings, section by section. -/
def ofEnvironment (env : Environment) (account : ServiceAccount) : Except Fault Settings := do
  return {
    cluster := ← ClusterSettings.ofEnvironment env account
    controller := ← ControllerSettings.ofEnvironment env
    probes := ← ProbeSettings.ofEnvironment env }

end Settings

/-- Settings with the number of settings that were made before them. -/
structure NumberedSettings where
  number : Nat
  settings : Settings

/-- The settings that are kept, and how many have been made. -/
structure SettingsCache where
  kept : Option NumberedSettings
  made : Nat

namespace SettingsCache

def empty : SettingsCache := ⟨none, 0⟩

/-- Counts new settings. -/
def count (cache : SettingsCache) (settings : Settings) : NumberedSettings × SettingsCache :=
  (⟨cache.made, settings⟩, { cache with made := cache.made + 1 })

/-- Reads settings that are not kept. -/
def fresh (cache : SettingsCache) (env : Environment) (account : ServiceAccount) :
    Except Fault NumberedSettings × SettingsCache :=
  match Settings.ofEnvironment env account with
  | .error fault => (.error fault, cache)
  | .ok settings =>
      let (numbered, cache) := cache.count settings
      (.ok numbered, cache)

/-- The settings that are kept; they are read when there are none. -/
def load (cache : SettingsCache) (env : Environment) (account : ServiceAccount) :
    Except Fault NumberedSettings × SettingsCache :=
  match cache.kept with
  | some numbered => (.ok numbered, cache)
  | none =>
      match cache.fresh env account with
      | (.error fault, cache) => (.error fault, cache)
      | (.ok numbered, cache) => (.ok numbered, { cache with kept := some numbered })

def reset (cache : SettingsCache) : SettingsCache :=
  { cache with kept := none }

end SettingsCache

end AppOperator
