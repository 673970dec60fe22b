import MeshSidecar.Error
import MeshSidecar.Json.Reader
import MeshSidecar.Pod.Codec
import MeshSidecar.Template.Render
import MeshSidecar.Text.Split

namespace MeshSidecar

/-!
# Definitions given as templates

A templated definition is rendered with its variables and the text is read as the
manifest of what it defines.  Texts among the variables go through the `tojson`
filter, so that whatever they hold ends up inside a string.
-/

namespace Template

/-- The text of a template with its variables. -/
def render (name text : String) (vars : Json) : Except Error String :=
  match parse? text with
  | none => .error (.templateSyntax name)
  | some nodes =>
    match renderNodes vars nodes with
    | .ok cs => .ok (String.ofList cs)
    | .error failure => .error (.templateExecution name failure)

/-- What a rendered template defines, read by `read?`. -/
def define {α : Type} (read? : Json → Option α) (name text : String) (vars : Json) :
    Except Error α :=
  match render name text vars with
  | .error error => .error error
  | .ok rendered =>
    match (Json.parse? rendered).bind read? with
    | some value => .ok value
    | none => .error (.undecodable name)

/-- The container that a rendered template defines. -/
def container (name text : String) (vars : Json) : Except Error Container :=
  define Container.read? name text vars

/-- The text of an object, given by the lines between its braces. -/
def braced (lines : List String) : String :=
  Text.ofLines ("\x7b" :: (lines ++ ["\x7d"]))

end Template

end MeshSidecar
