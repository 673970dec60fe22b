import MeshSidecar.Mesh.Basic

namespace MeshSidecar.CommandLine

/-!
# Arguments

    mesh-injector [-c FILE] [--log-json] inject --pod FILE --mesh FILE
      (--virtual-node FILE | --virtual-gateway FILE) [--account-id ID]
      [--region REGION] [--controller-version VERSION] [--k8s-version VERSION]

An option takes its value from the next argument, or from behind an equals sign.
No option is given twice.  Some options fall back to the environment, where an
empty variable is an empty value and not a missing one.
-/

/-- Why there is nothing to execute: the arguments are not understood, or ask for
something that is printed at once. -/
inductive Halt where
  | usage
  | help
  | version
  deriving DecidableEq

/-- The file that says what makes the pod a member of the mesh. -/
inductive SelectorFile where
  | node (path : String)
  | gateway (path : String)
  deriving DecidableEq

/-- What to inject, and how. -/
structure Request where
  configFile : Option String
  logsAsJson : Bool
  podFile : String
  meshFile : String
  selectorFile : SelectorFile
  identity : Identity
  deriving DecidableEq

/-- An option that takes a value.  The value of a file option is not empty. -/
structure OptionSpec where
  name : String
  isFile : Bool
  fallback : Option String

/-- The option before the command that takes a value. -/
def configOption : OptionSpec :=
  ⟨"config", true, some "MESH_INJECTOR_CONFIG"⟩

/-- The variable that stands in for `--log-json`. -/
def logVariable : String := "MESH_INJECTOR_LOG_JSON"

/-- The options of the command. -/
def injectOptions : List OptionSpec := [
  ⟨"pod", true, none⟩, ⟨"mesh", true, none⟩, ⟨"virtual-node", true, none⟩,
  ⟨"virtual-gateway", true, none⟩, ⟨"account-id", false, some "AWS_ACCOUNT_ID"⟩,
  ⟨"region", false, some "AWS_REGION"⟩,
  ⟨"controller-version", false, some "APPMESH_CONTROLLER_VERSION"⟩,
  ⟨"k8s-version", false, some "K8S_VERSION"⟩]

/-- Names with their values. -/
abbrev Values := List (String × String)

namespace OptionSpec

/-- Whether the option may have a value. -/
def accepts (option : OptionSpec) (value : String) : Bool :=
  !option.isFile || value != ""

/-- Gives the option a value, which it must not have yet. -/
def give (option : OptionSpec) (value : String) (given : Values) : Except Halt Values :=
  if (given.lookup option.name).isSome || !option.accepts value then .error .usage
  else .ok ((option.name, value) :: given)

/-- The value of the option, or else that of its variable. -/
def value? (option : OptionSpec) (given environment : Values) : Except Halt (Option String) :=
  match given.lookup option.name with
  | some value => .ok (some value)
  | none =>
    match option.fallback.bind fun name => environment.lookup name with
    | some value => if option.accepts value then .ok (some value) else .error .usage
    | none => .ok none

end OptionSpec

/-- The name of a long option and the value behind its equals sign. -/
def longOption? (argument : String) : Option (String × Option String) :=
  match argument.toList with
  | '-' :: '-' :: cs =>
    match cs.dropWhile (· != '=') with
    | _ :: value => some (String.ofList (cs.takeWhile (· != '=')), some (String.ofList value))
    | [] => some (String.ofList cs, none)
  | _ => none

/-- Whether an argument can be the value of the option before it: it does not
look like an option itself. -/
def isValue (argument : String) : Bool :=
  argument == "-" || argument.toList.head? != some '-'

/-- Gives an option the value attached to it, or else the next argument, and
continues with the arguments that are left. -/
def giveNext (option : OptionSpec) (attached : Option String) (given : Values)
    (rest : List String) : Except Halt (Values × Bool) :=
  match attached with
  | some value => (option.give value given).map (·, false)
  | none =>
    match rest with
    | value :: _ => if isValue value then (option.give value given).map (·, true) else .error .usage
    | [] => .error .usage

/-- The options of the command, whose arguments are given. -/
def readInject : Nat → Values → List String → Except Halt Values
  | 0, _, _ => .error .usage
  | _, given, [] => .ok given
  | fuel + 1, given, argument :: rest =>
    if argument = "--" then if rest = [] then .ok given else .error .usage
    else match longOption? argument with
      | none => .error (if argument.startsWith "-h" then .help else .usage)
      | some ("help", none) => .error .help
      | some (name, attached) =>
        match injectOptions.find? fun option => option.name == name with
        | none => .error .usage
        | some option => do
          let (given, usesNext) ← giveNext option attached given rest
          readInject fuel given (if usesNext then rest.tail else rest)

/-- The options before the command, and the arguments of the command. -/
def readCommand : Nat → Values → List String → Except Halt (Values × List String)
  | 0, _, _ | _, _, [] => .error .usage
  | fuel + 1, given, argument :: rest =>
    let config (attached : Option String) := do
      let (given, usesNext) ← giveNext configOption attached given rest
      readCommand fuel given (if usesNext then rest.tail else rest)
    match longOption? argument with
    | some ("config", attached) => config attached
    | some ("log-json", none) =>
      if (given.lookup "log-json").isSome then .error .usage
      else readCommand fuel (("log-json", "true") :: given) rest
    | some ("help", none) => .error .help
    | some ("version", none) => .error .version
    | some _ => .error .usage
    | none =>
      match argument.toList with
      | '-' :: 'h' :: _ => .error .help
      | '-' :: 'V' :: _ => .error .version
      | ['-', 'c'] => config none
      | '-' :: 'c' :: '=' :: value => config (some (String.ofList value))
      | '-' :: 'c' :: value => config (some (String.ofList value))
      | _ =>
        if argument = "inject" then .ok (given, rest)
        else if argument = "help" ∧ (rest = [] ∨ rest = ["inject"] ∨ rest = ["help"]) then
          .error .help
        else .error .usage

/-- Whether events are to be printed as JSON. -/
def wantsJson (given environment : Values) : Except Halt Bool :=
  if (given.lookup "log-json").isSome then .ok true
  else match environment.lookup logVariable with
    | none => .ok false
    | some value =>
      if value = "true" then .ok true else if value = "false" then .ok false else .error .usage

/-- The file that selects the pod: of the two kinds exactly one is given. -/
def chosenSelector (given : Values) : Except Halt SelectorFile :=
  match given.lookup "virtual-node", given.lookup "virtual-gateway" with
  | some path, none => .ok (.node path)
  | none, some path => .ok (.gateway path)
  | _, _ => .error .usage

/-- An option that has to be given. -/
def required (given : Values) (name : String) : Except Halt String :=
  match given.lookup name with
  | some value => .ok value
  | none => .error .usage

/-- The value of an option of the command, or else that of its variable. -/
def inherited (given environment : Values) (name : String) : Except Halt (Option String) :=
  match injectOptions.find? fun option => option.name == name with
  | some option => option.value? given environment
  | none => .ok none

/-- What arguments and environment ask for. -/
def Request.read (arguments : List String) (environment : Values) : Except Halt Request := do
  let fuel := arguments.length + 1
  let (before, rest) ← readCommand fuel [] arguments
  let given ← readInject fuel [] rest
  let configFile ← configOption.value? before environment
  let logsAsJson ← wantsJson before environment
  let podFile ← required given "pod"
  let meshFile ← required given "mesh"
  let selectorFile ← chosenSelector given
  let identity : Identity := {
    accountId := (← inherited given environment "account-id").getD ""
    awsRegion := (← inherited given environment "region").getD ""
    controllerVersion := ← inherited given environment "controller-version"
    k8sVersion := ← inherited given environment "k8s-version" }
  return { configFile, logsAsJson, podFile, meshFile, selectorFile, identity }

/-- The variables that are looked at. -/
def environmentNames : List String :=
  logVariable :: (configOption :: injectOptions).filterMap OptionSpec.fallback

/-- The path of the file that selects the pod. -/
def SelectorFile.path : SelectorFile → String
  | .node path | .gateway path => path

/-- The files that a request may need. -/
def Request.paths (request : Request) : List String :=
  request.configFile.toList ++ [request.podFile, request.meshFile, request.selectorFile.path]

end MeshSidecar.CommandLine
