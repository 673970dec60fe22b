import MeshSidecar.Quantity
import MeshSidecar.SamplingRate
import MeshSidecar.Template.Basic
import MeshSidecar.Text.Quoted

namespace MeshSidecar

/-!
# What can go wrong

An error says what caused it; the sentence that an administrator reads is
composed from the cause by `Error.message` and from nothing else, so equal causes
give equal texts.
-/

/-- Why a configuration is refused before any pod is processed.  `described` is
for a cause that a caller puts in words of its own. -/
inductive ConfigFault where
  | unreadable
  | severalTracers
  | probePeriod (seconds : Int)
  | described (text : String)
  deriving DecidableEq

/-- Why a setting is refused while a pod is being changed. -/
inductive SettingFault where
  | samplingRate (rate : String) (fault : SamplingRate.Fault)
  | missingParameters (names : List String)
  | severalConfigMounts (key value : String)
  | logLevel (level : String) (known : List String)
  | roleArn (role : String)
  | gatewayImage (image placeholder : String)
  | described (text : String)
  deriving DecidableEq

/-- Everything that makes an injection fail. -/
inductive Error where
  /-- An annotation does not have the form that its key calls for. -/
  | malformed (key expected : String)
  /-- A template is not well formed. -/
  | templateSyntax (template : String)
  /-- A template cannot be rendered with its variables. -/
  | templateExecution (template : String) (failure : Template.Failure)
  /-- A rendered template is not the manifest of a container. -/
  | undecodable (template : String)
  | badQuantity (bad : BadQuantity)
  | configuration (fault : ConfigFault)
  | setting (fault : SettingFault)
  deriving DecidableEq

def ConfigFault.message : ConfigFault → String
  | .unreadable => "invalid injector config: not a configuration document"
  | .severalTracers =>
    "Envoy only supports a single tracer instance. Please choose between Jaeger, Datadog or X-Ray."
  | .probePeriod seconds =>
    "envoy.readinessProbePeriod must be positive, got " ++ Text.ofInt seconds
  | .described text => text

def SettingFault.message : SettingFault → String
  | .samplingRate rate fault =>
    "tracing.samplingRate should be a decimal between 0 & 1.00, but instead got " ++ rate ++ " " ++
      fault.message
  | .missingParameters names =>
    "Missing configuration parameters: " ++ ",".intercalate names
  | .severalConfigMounts key value =>
    "provide only one config mount for annotation \"" ++ key ++ ": " ++ value ++ "\""
  | .logLevel level known =>
    "tracing.logLevel: \"" ++ level ++ "\" is not valid. Set one of " ++ ", ".intercalate known
  | .roleArn role =>
    "tracing.role: \"" ++ role ++ "\" is not a valid `--role-arn`. " ++
      "Please refer to AWS X-Ray Documentation for more information"
  | .gatewayImage image placeholder =>
    "invalid envoy image name for injection " ++ image ++ ", expected name: " ++ placeholder
  | .described text => text

/-- The sentence that reports an error. -/
def Error.message : Error → String
  | .malformed key expected =>
    "malformed annotation " ++ key ++ ", expected format: " ++ expected
  | .templateSyntax template => "failed to parse template " ++ template ++ ": syntax error"
  | .templateExecution template failure =>
    "failed to execute template " ++ template ++ ": " ++ failure.message
  | .undecodable template =>
    "failed to decode rendered template " ++ template ++ ": unexpected content"
  | .badQuantity bad =>
    "unable to parse quantity " ++ Text.quote bad.text ++ ": " ++ bad.fault.message
  | .configuration fault => fault.message
  | .setting fault => fault.message

end MeshSidecar
