import MeshSidecar.Config.Basic
import MeshSidecar.Injection.Names
import MeshSidecar.Text.Blank
import MeshSidecar.Text.Split

namespace MeshSidecar

/-!
# What a pod says in its annotations

Three forms of annotation occur: a switch, a value that replaces a configured
one, and a list of pairs.
-/

namespace Pod

/-- Whether a switch is on, in any case of letters; none when it is absent. -/
def switch? (pod : Pod) (key : String) : Option Bool :=
  (pod.annotation? key).map fun value => Text.sameIgnoringCase value Annotations.enabled

/-- The value of an annotation, or else the configured one. -/
def override (pod : Pod) (key : String) (configured : Option String) : Option String :=
  (pod.annotation? key).or configured

/-- The resources of an injected sidecar: each quantity is the pod's own where it
names one, be it empty, and the configured one otherwise. -/
def sidecarResources (pod : Pod) (sizing : Config.Sidecar) : Except Error Resources :=
  (Resources.ofQuantities (pod.override Annotations.cpuRequest sizing.cpuRequests)
    (pod.override Annotations.memoryRequest sizing.memoryRequests)
    (pod.override Annotations.cpuLimit sizing.cpuLimits)
    (pod.override Annotations.memoryLimit sizing.memoryLimits)).mapError .badQuantity

end Pod

/-- The form of an annotation that lists pairs: the separator inside a pair, and
the form as shown to whoever got it wrong. -/
structure PairForm where
  separator : Char
  shown : String

namespace PairForm

def secretMount : PairForm := ⟨':', "secretName:mountPath"⟩
def volumeMount : PairForm := ⟨':', "volumeName:mountPath"⟩
def assignment : PairForm := ⟨'=', "EnvVariableKey=EnvVariableValue"⟩

/-- The two parts of a pair, which has exactly one separator.  Blanks around a
part do not belong to it. -/
def pair? (form : PairForm) (piece : List Char) : Option (String × String) :=
  match Text.splitOn form.separator piece with
  | [left, right] => some (String.ofList (Text.trim left), String.ofList (Text.trim right))
  | _ => none

/-- The pairs of a list separated by commas; of two pairs with the same left part
the later stands. -/
def pairs? (form : PairForm) (value : String) : Option (SortedMap String) :=
  ((Text.splitOn ',' value.toList).mapM form.pair?).map SortedMap.ofList

end PairForm

/-- The pairs that a pod lists under `key`; none when it lists nothing. -/
def Pod.pairs (pod : Pod) (key : String) (form : PairForm) : Except Error (SortedMap String) :=
  match pod.annotation? key with
  | none => .ok .empty
  | some value =>
    match form.pairs? value with
    | some pairs => .ok pairs
    | none => .error (.malformed key form.shown)

end MeshSidecar
