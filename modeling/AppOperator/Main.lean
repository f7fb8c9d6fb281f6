import AppOperator.Command.Run
import AppOperator.Text.Utf8

/-!
# The command line

Hands a command what surrounds it and writes what it leaves.  The files that the
arguments name are read beforehand, and the lines of the standard input when a
command may ask for a confirmation.  No connection to a server is made from
here: every request is answered by the report that there is none.
-/

set_option autoImplicit false

namespace AppOperator.CommandLine

open Command

/-- The variables that settings are read from. -/
def variableNames : List String :=
  ["KUBE_API_URL", "KUBE_TOKEN", "KUBE_CA_FILE", "KUBE_VERIFY_SSL", "KUBE_REQUEST_TIMEOUT",
    "KUBERNETES_SERVICE_HOST", "KUBERNETES_SERVICE_PORT"]

/-- Where a container finds its service account. -/
def accountDirectory : String := "/var/run/secrets/kubernetes.io/serviceaccount"

/-- The octets of a file; none if it is not there or is a directory. -/
def octetsOf (path : String) : IO (Except IO.Error ByteArray) :=
  (IO.FS.readBinFile path).toBaseIO

def storedFile (path : String) : IO (Option StoredFile) := do
  match ← octetsOf path with
  | .ok octets => return some (.text (Utf8.decodeLossy octets.toList))
  | .error (.noFileOrDirectory ..) => return none
  | .error _ => return some .directory

def environment : IO Environment := do
  let found ← variableNames.mapM fun name => do
    return (← IO.getEnv name).toList.map fun value => (name, value)
  return found.flatten

/-- The files of the service account that are there. -/
def account : IO ServiceAccount := do
  let found ← ["token", "ca.crt"].mapM fun name => do
    match ← storedFile (accountDirectory ++ "/" ++ name) with
    | some (.text content) => return [(name, some content)]
    | some .directory => return [(name, none)]
    | none => return []
  return ⟨accountDirectory, found.flatten⟩

/-- The files that arguments name. -/
def files (arguments : List String) : IO (List (String × StoredFile)) := do
  let found ← arguments.mapM fun name => do
    return (← storedFile name).toList.map fun file => (name, file)
  return found.flatten

/-- The answer to every request. -/
def unreachable (state : Unit) (request : SessionRequest) :
    Except TransportFault HttpResponse × Unit :=
  (.error (.connection ("no connection to " ++ request.request.url)), state)

end AppOperator.CommandLine

open AppOperator AppOperator.CommandLine in
def main (arguments : List String) : IO UInt32 := do
  let found ← files arguments
  let surroundings : Command.Surroundings :=
    ⟨← environment, ← account, fun path => found.lookup path⟩
  let asks := arguments.contains Command.deleteCommand.name
  let input ← if asks then (← IO.getStdin).readToEnd else pure ""
  let (report, _) :=
    (Command.report surroundings arguments (Text.storedLines input)).run unreachable ()
  IO.print report.out
  IO.eprint report.err
  match report.fault with
  | some fault => IO.eprintln fault.message
  | none => pure ()
  return report.code.toUInt32
