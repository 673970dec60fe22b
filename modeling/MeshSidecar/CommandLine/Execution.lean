import MeshSidecar.CommandLine.Arguments
import MeshSidecar.Config.File
import MeshSidecar.Injection.Mutation
import MeshSidecar.Mesh.Codec

namespace MeshSidecar.CommandLine

/-!
# Executing a request

The files are read one after the other, the configuration first; what is wrong
with one of them is reported before the next is looked at.  The configuration has
to be consistent before the pod is read.  Where files come from is left open, so
that execution is a function of their contents.
-/

/-- Why a file cannot be read. -/
inductive FileFault where
  | missing
  | notADirectory
  | directory
  | described (text : String)
  deriving DecidableEq

def FileFault.message : FileFault → String
  | .missing => "No such file or directory (os error 2)"
  | .notADirectory => "Not a directory (os error 20)"
  | .directory => "Is a directory (os error 21)"
  | .described text => text

/-- Why a request fails. -/
inductive Failure where
  | unreadableConfig (path : String) (fault : FileFault)
  | badConfig (error : Error)
  | inconsistentConfig (error : Error)
  | unreadable (path : String) (fault : FileFault)
  | undecodable (path : String)
  | injection (error : Error)
  deriving DecidableEq

/-- The sentence that reports a failure. -/
def Failure.message : Failure → String
  | .unreadableConfig path fault =>
    "Failed to read config file " ++ Text.quotePath path ++ ": " ++ fault.message
  | .badConfig error => error.message
  | .inconsistentConfig error => "Invalid injector config: " ++ error.message
  | .unreadable path fault => "Failed to read " ++ Text.quotePath path ++ ": " ++ fault.message
  | .undecodable path => "Failed to parse " ++ Text.quotePath path ++ ": unexpected content"
  | .injection error => error.message

/-- How the contents of files are found. -/
abbrev Files := String → Except FileFault String

/-- What a file holds. -/
def readFile {α : Type} (files : Files) (read? : Yaml.Node → Option α) (path : String) :
    Except Failure α := do
  let text ← (files path).mapError (.unreadable path)
  match Yaml.decode? read? text with
  | some value => return value
  | none => throw (.undecodable path)

namespace Request

/-- The configuration; without a file it has all defaults. -/
def config (request : Request) (files : Files) : Except Failure Config :=
  match request.configFile with
  | none => .ok {}
  | some path => do
    let text ← (files path).mapError (.unreadableConfig path)
    (Config.ofYaml text).mapError .badConfig

/-- What makes the pod a member of the mesh. -/
def selector (request : Request) (files : Files) : Except Failure Selector :=
  match request.selectorFile with
  | .node path => (readFile files VirtualNode.read? path).map .node
  | .gateway path => (readFile files VirtualGateway.read? path).map .gateway

/-- The injected pod, and what was reported on the way. -/
def execute (request : Request) (files : Files) : Except Failure (Pod × List Event) := do
  let config ← request.config files
  let injector ← (Injector.ofConfig config request.identity).mapError .inconsistentConfig
  let pod ← readFile files Pod.read? request.podFile
  let mesh ← readFile files Mesh.read? request.meshFile
  let selector ← request.selector files
  match (injector.mutate mesh selector).run pod with
  | .ok _ injected => return (injected, injector.events mesh selector pod)
  | .error error _ => throw (.injection error)

end Request

/-- The program and its version. -/
def versionText : String := "mesh-injector 0.1.0"

/-- What the program is told. -/
def helpText : String :=
  "\n".intercalate [
    "Inject service mesh sidecars into a pod and print the result.",
    "",
    "Usage: mesh-injector [-c FILE] [--log-json] inject --pod FILE --mesh FILE",
    "         (--virtual-node FILE | --virtual-gateway FILE) [--account-id ID]",
    "         [--region REGION] [--controller-version VERSION] [--k8s-version VERSION]"]

end MeshSidecar.CommandLine
