import MeshSidecar.Document
import MeshSidecar.Mesh.Basic

namespace MeshSidecar

/-!
# Reading and writing snapshots

A snapshot is refused when a required name is missing, a port does not fit
sixteen bits, a protocol is unknown, or the service discovery is not exactly one
known alternative.  Unknown fields are ignored.  Writing a snapshot gives every
field that reading fills in.
-/

open Document

variable {δ : Type} [Document δ]

namespace Mesh

def read? (document : δ) : Option Mesh := do
  let fields ← fields? ["name", "awsName", "meshOwner"] document
  return {
    name := ← required fields "name" text?
    awsName := ← required fields "awsName" text?
    owner := ← nullable fields "meshOwner" text? }

def toJson (mesh : Mesh) : Json :=
  .obj ([("awsName", .str mesh.awsName)] ++
    (match mesh.owner with
      | some owner => [("meshOwner", .str owner)]
      | none => []) ++
    [("name", .str mesh.name)])

end Mesh

namespace Protocol

def name : Protocol → String
  | .http => "http"
  | .http2 => "http2"
  | .grpc => "grpc"
  | .tcp => "tcp"

def ofName? (name : String) : Option Protocol :=
  if name = "http" then some .http
  else if name = "http2" then some .http2
  else if name = "grpc" then some .grpc
  else if name = "tcp" then some .tcp
  else none

theorem ofName?_name (protocol : Protocol) : ofName? protocol.name = some protocol := by
  cases protocol <;> decide

/-- A protocol is an alternative that carries nothing, or null. -/
def read? (document : δ) : Option Protocol := do
  let (name, carried) ← alternative? document
  match carried with
  | none => ofName? name
  | some value => if isNull value then ofName? name else none

end Protocol

namespace Listener

/-- The port and protocol of a listener. -/
def readMapping? (document : δ) : Option Listener := do
  let fields ← fields? ["port", "protocol"] document
  return {
    port := ← required fields "port" uint16?
    protocol := ← required fields "protocol" Protocol.read? }

def read? (document : δ) : Option Listener := do
  let fields ← fields? ["portMapping"] document
  required fields "portMapping" readMapping?

def toJson (listener : Listener) : Json :=
  .obj [("portMapping", .obj [("port", .int listener.port.toNat),
    ("protocol", .str listener.protocol.name)])]

end Listener

namespace ServiceDiscovery

/-- The fields of an alternative, which are given by name only. -/
def read? (document : δ) : Option ServiceDiscovery := do
  let (name, carried) ← alternative? document
  let fields ← carried.bind entries?
  if name = "dns" then
    return .dns (← required fields "hostname" text?)
  else if name = "awsCloudMap" then
    return .cloudMap (← required fields "namespaceName" text?)
      (← required fields "serviceName" text?)
  else none

def toJson : ServiceDiscovery → Json
  | .dns hostname => .obj [("dns", .obj [("hostname", .str hostname)])]
  | .cloudMap namespaceName serviceName =>
    .obj [("awsCloudMap", .obj [("namespaceName", .str namespaceName),
      ("serviceName", .str serviceName)])]

end ServiceDiscovery

namespace VirtualNode

def read? (document : δ) : Option VirtualNode := do
  let fields ← fields? ["name", "namespace", "awsName", "listeners", "serviceDiscovery"] document
  return {
    name := ← required fields "name" text?
    namespaceName := ← required fields "namespace" text?
    awsName := ← orDefault fields "awsName" "" text?
    listeners := ← orDefault fields "listeners" [] (list? Listener.read?)
    discovery := ← nullable fields "serviceDiscovery" ServiceDiscovery.read? }

def toJson (node : VirtualNode) : Json :=
  .obj ([("awsName", .str node.awsName), ("listeners", .arr (node.listeners.map Listener.toJson)),
      ("name", .str node.name), ("namespace", .str node.namespaceName)] ++
    (match node.discovery with
      | some discovery => [("serviceDiscovery", discovery.toJson)]
      | none => []))

end VirtualNode

namespace VirtualGateway

def read? (document : δ) : Option VirtualGateway := do
  let fields ← fields? ["name", "namespace", "awsName", "listeners"] document
  return {
    name := ← required fields "name" text?
    namespaceName := ← required fields "namespace" text?
    awsName := ← orDefault fields "awsName" "" text?
    listeners := ← orDefault fields "listeners" [] (list? Listener.read?) }

def toJson (gateway : VirtualGateway) : Json :=
  .obj [("awsName", .str gateway.awsName),
    ("listeners", .arr (gateway.listeners.map Listener.toJson)), ("name", .str gateway.name),
    ("namespace", .str gateway.namespaceName)]

end VirtualGateway

namespace Identity

def read? (document : δ) : Option Identity := do
  let fields ←
    fields? ["accountId", "awsRegion", "controllerVersion", "k8sVersion"] document
  return {
    accountId := ← orDefault fields "accountId" "" text?
    awsRegion := ← orDefault fields "awsRegion" "" text?
    controllerVersion := ← nullable fields "controllerVersion" text?
    k8sVersion := ← nullable fields "k8sVersion" text? }

def toJson (identity : Identity) : Json :=
  .obj [("accountId", .str identity.accountId), ("awsRegion", .str identity.awsRegion),
    ("controllerVersion", Json.ofText? identity.controllerVersion),
    ("k8sVersion", Json.ofText? identity.k8sVersion)]

end Identity

end MeshSidecar
