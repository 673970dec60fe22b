namespace MeshSidecar

/-!
# Events

What an injection did is reported as events, so that a run can be followed from
outside.  Events never influence the outcome.
-/

/-- How much attention an event wants. -/
inductive Level where
  | debug
  | warn
  deriving DecidableEq

/-- Something that happened, with its circumstances by name. -/
structure Event where
  level : Level
  message : String
  fields : List (String × String)
  deriving DecidableEq

namespace Event

/-- An event about a pod, with further circumstances. -/
def debug (pod message : String) (fields : List (String × String)) : Event where
  level := .debug
  message := message
  fields := ("pod", pod) :: fields

/-- An event about a pod that somebody should look into. -/
def warn (pod message : String) (fields : List (String × String)) : Event where
  level := .warn
  message := message
  fields := ("pod", pod) :: fields

/-- The text of a truth value in an event. -/
def ofBool (value : Bool) : String :=
  if value then "true" else "false"

end Event

end MeshSidecar
