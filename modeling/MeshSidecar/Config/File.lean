import MeshSidecar.Config.Codec
import MeshSidecar.Yaml.Document

namespace MeshSidecar.Config

/-!
# Configuration files

A configuration file is a YAML document.  An empty one asks for all defaults.
-/

/-- The configuration that a file holds.  It need not be consistent. -/
def ofYaml (text : String) : Except Error Config :=
  match Yaml.decode? read? text with
  | some config => .ok config
  | none => .error (.configuration .unreadable)

end MeshSidecar.Config
