import MeshSidecar.CommandLine.Execution
import MeshSidecar.Json.Printer

/-!
# The program

Fetches the environment and the files that a request names, and prints what its
execution yields: the pod as a JSON document, which is also a YAML document, and
warnings apart from it.
-/

open MeshSidecar

namespace MeshSidecar.CommandLine

/-- Why a file could not be read. -/
def FileFault.ofError : IO.Error → FileFault
  | .noFileOrDirectory .. => .missing
  | .inappropriateType _ code _ => if code = 20 then .notADirectory else .directory
  | error => .described (toString error)

/-- The content of a file. -/
def fetch (path : String) : IO (Except FileFault String) := do
  match ← (IO.FS.readFile path).toBaseIO with
  | .ok text => return .ok text
  | .error error => return .error (.ofError error)

/-- An event as a line of a log. -/
def logLine (asJson : Bool) (event : Event) : String :=
  if asJson then
    (Json.ofMembers (("message", .str event.message) ::
      event.fields.map fun entry => (entry.1, .str entry.2))).compact
  else
    " ".intercalate (event.message :: event.fields.map fun entry => entry.1 ++ "=" ++ entry.2)

/-- Executes a request and prints what it yields. -/
def perform (request : Request) : IO UInt32 := do
  let contents ← request.paths.mapM fun path => return (path, ← fetch path)
  let files : Files := fun path => (contents.lookup path).getD (.error .missing)
  match request.execute files with
  | .ok (pod, events) =>
    for event in events do
      if event.level == .warn then IO.eprintln (logLine request.logsAsJson event)
    IO.println pod.toJson.compact
    return 0
  | .error failure =>
    IO.eprintln ("Error: " ++ failure.message)
    return 1

end MeshSidecar.CommandLine

open CommandLine in
def main (arguments : List String) : IO UInt32 := do
  let environment ← environmentNames.filterMapM fun name => do
    return (← IO.getEnv name).map fun value => (name, value)
  match Request.read arguments environment with
  | .ok request => perform request
  | .error .version => IO.println versionText; return 0
  | .error .help => IO.println helpText; return 0
  | .error .usage => IO.eprintln helpText; return 2
