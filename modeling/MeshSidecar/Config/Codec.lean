import MeshSidecar.Config.Basic
import MeshSidecar.Document

namespace MeshSidecar

/-!
# Reading and writing configurations

Every field has a default, so a document need only name what differs from it.  A
field that is named has to have a value of its type; only an optional one may be
null, which unsets it even where its default is set.  Unknown fields are ignored.
-/

open Document

namespace Config

variable {δ : Type} [Document δ]

namespace Sidecar

def read? (document : δ) : Option Sidecar := do
  let base : Sidecar := {}
  let fields ← fields?
    ["image", "cpuRequests", "memoryRequests", "cpuLimits", "memoryLimits"] document
  return {
    image := ← orDefault fields "image" base.image text?
    cpuRequests := ← optional fields "cpuRequests" base.cpuRequests text?
    memoryRequests := ← optional fields "memoryRequests" base.memoryRequests text?
    cpuLimits := ← optional fields "cpuLimits" base.cpuLimits text?
    memoryLimits := ← optional fields "memoryLimits" base.memoryLimits text? }

def toJson (sidecar : Sidecar) : Json :=
  .obj [("cpuLimits", Json.ofText? sidecar.cpuLimits),
    ("cpuRequests", Json.ofText? sidecar.cpuRequests), ("image", .str sidecar.image),
    ("memoryLimits", Json.ofText? sidecar.memoryLimits),
    ("memoryRequests", Json.ofText? sidecar.memoryRequests)]

end Sidecar

namespace Envoy

def read? (document : δ) : Option Envoy := do
  let base : Envoy := {}
  let fields ← fields?
    ["preview", "logLevel", "adminAccessPort", "adminAccessLogFile", "adminAccessEnableIpv6",
      "preStopDelay", "readinessProbeInitialDelay", "readinessProbePeriod", "dualStackEndpoint",
      "fipsEndpoint", "enableSds", "sdsUdsPath"] document
  return {
    preview := ← orDefault fields "preview" base.preview flag?
    logLevel := ← orDefault fields "logLevel" base.logLevel text?
    adminAccessPort := ← orDefault fields "adminAccessPort" base.adminAccessPort uint16?
    adminAccessLogFile := ← optional fields "adminAccessLogFile" base.adminAccessLogFile text?
    adminAccessEnableIpv6 :=
      ← orDefault fields "adminAccessEnableIpv6" base.adminAccessEnableIpv6 flag?
    preStopDelay := ← orDefault fields "preStopDelay" base.preStopDelay uint32?
    readinessProbeInitialDelay :=
      ← orDefault fields "readinessProbeInitialDelay" base.readinessProbeInitialDelay int32?
    readinessProbePeriod :=
      ← orDefault fields "readinessProbePeriod" base.readinessProbePeriod int32?
    dualStackEndpoint := ← orDefault fields "dualStackEndpoint" base.dualStackEndpoint flag?
    fipsEndpoint := ← orDefault fields "fipsEndpoint" base.fipsEndpoint flag?
    enableSds := ← orDefault fields "enableSds" base.enableSds flag?
    sdsUdsPath := ← orDefault fields "sdsUdsPath" base.sdsUdsPath text? }

def toJson (envoy : Envoy) : Json :=
  .obj [("adminAccessEnableIpv6", .bool envoy.adminAccessEnableIpv6),
    ("adminAccessLogFile", Json.ofText? envoy.adminAccessLogFile),
    ("adminAccessPort", .int envoy.adminAccessPort.toNat),
    ("dualStackEndpoint", .bool envoy.dualStackEndpoint), ("enableSds", .bool envoy.enableSds),
    ("fipsEndpoint", .bool envoy.fipsEndpoint), ("logLevel", .str envoy.logLevel),
    ("preStopDelay", .int envoy.preStopDelay.toNat), ("preview", .bool envoy.preview),
    ("readinessProbeInitialDelay", .int envoy.readinessProbeInitialDelay.toInt),
    ("readinessProbePeriod", .int envoy.readinessProbePeriod.toInt),
    ("sdsUdsPath", .str envoy.sdsUdsPath)]

end Envoy

namespace ProxyInit

def read? (document : δ) : Option ProxyInit := do
  let base : ProxyInit := {}
  let fields ← fields? ["image", "ignoredIps", "enableIpv6"] document
  return {
    image := ← orDefault fields "image" base.image text?
    ignoredIps := ← orDefault fields "ignoredIps" base.ignoredIps text?
    enableIpv6 := ← orDefault fields "enableIpv6" base.enableIpv6 flag? }

def toJson (proxyInit : ProxyInit) : Json :=
  .obj [("enableIpv6", .bool proxyInit.enableIpv6), ("ignoredIps", .str proxyInit.ignoredIps),
    ("image", .str proxyInit.image)]

end ProxyInit

namespace Xray

def read? (document : δ) : Option Xray := do
  let base : Xray := {}
  let fields ← fields?
    ["enabled", "image", "daemonPort", "samplingRate", "logLevel", "roleArn"] document
  return {
    enabled := ← orDefault fields "enabled" base.enabled flag?
    image := ← orDefault fields "image" base.image text?
    daemonPort := ← orDefault fields "daemonPort" base.daemonPort uint16?
    samplingRate := ← optional fields "samplingRate" base.samplingRate text?
    logLevel := ← orDefault fields "logLevel" base.logLevel text?
    roleArn := ← optional fields "roleArn" base.roleArn text? }

def toJson (xray : Xray) : Json :=
  .obj [("daemonPort", .int xray.daemonPort.toNat), ("enabled", .bool xray.enabled),
    ("image", .str xray.image), ("logLevel", .str xray.logLevel),
    ("roleArn", Json.ofText? xray.roleArn), ("samplingRate", Json.ofText? xray.samplingRate)]

end Xray

namespace Jaeger

def read? (document : δ) : Option Jaeger := do
  let base : Jaeger := {}
  let fields ← fields? ["enabled", "address", "port"] document
  return {
    enabled := ← orDefault fields "enabled" base.enabled flag?
    address := ← orDefault fields "address" base.address text?
    port := ← orDefault fields "port" base.port uint16? }

def toJson (jaeger : Jaeger) : Json :=
  .obj [("address", .str jaeger.address), ("enabled", .bool jaeger.enabled),
    ("port", .int jaeger.port.toNat)]

end Jaeger

namespace Datadog

def read? (document : δ) : Option Datadog := do
  let base : Datadog := {}
  let fields ← fields? ["enabled", "address", "port"] document
  return {
    enabled := ← orDefault fields "enabled" base.enabled flag?
    address := ← orDefault fields "address" base.address text?
    port := ← orDefault fields "port" base.port uint16? }

def toJson (datadog : Datadog) : Json :=
  .obj [("address", .str datadog.address), ("enabled", .bool datadog.enabled),
    ("port", .int datadog.port.toNat)]

end Datadog

namespace Tracing

def read? (document : δ) : Option Tracing := do
  let base : Tracing := {}
  let fields ← fields? ["xray", "jaeger", "datadog"] document
  return {
    xray := ← orDefault fields "xray" base.xray Xray.read?
    jaeger := ← orDefault fields "jaeger" base.jaeger Jaeger.read?
    datadog := ← orDefault fields "datadog" base.datadog Datadog.read? }

def toJson (tracing : Tracing) : Json :=
  .obj [("datadog", tracing.datadog.toJson), ("jaeger", tracing.jaeger.toJson),
    ("xray", tracing.xray.toJson)]

end Tracing

namespace Stats

def read? (document : δ) : Option Stats := do
  let base : Stats := {}
  let fields ← fields?
    ["enableStatsTags", "enableStatsd", "statsdPort", "statsdAddress", "statsdSocketPath"] document
  return {
    enableStatsTags := ← orDefault fields "enableStatsTags" base.enableStatsTags flag?
    enableStatsd := ← orDefault fields "enableStatsd" base.enableStatsd flag?
    statsdPort := ← orDefault fields "statsdPort" base.statsdPort uint16?
    statsdAddress := ← orDefault fields "statsdAddress" base.statsdAddress text?
    statsdSocketPath := ← optional fields "statsdSocketPath" base.statsdSocketPath text? }

def toJson (stats : Stats) : Json :=
  .obj [("enableStatsTags", .bool stats.enableStatsTags),
    ("enableStatsd", .bool stats.enableStatsd), ("statsdAddress", .str stats.statsdAddress),
    ("statsdPort", .int stats.statsdPort.toNat),
    ("statsdSocketPath", Json.ofText? stats.statsdSocketPath)]

end Stats

def read? (document : δ) : Option Config := do
  let base : Config := {}
  let fields ← fields?
    ["injectDefault", "enableIamForServiceAccounts", "enableEcrSecret", "sidecar", "envoy",
      "proxyInit", "tracing", "stats"] document
  return {
    injectDefault := ← orDefault fields "injectDefault" base.injectDefault flag?
    enableIamForServiceAccounts :=
      ← orDefault fields "enableIamForServiceAccounts" base.enableIamForServiceAccounts flag?
    enableEcrSecret := ← orDefault fields "enableEcrSecret" base.enableEcrSecret flag?
    sidecar := ← orDefault fields "sidecar" base.sidecar Sidecar.read?
    envoy := ← orDefault fields "envoy" base.envoy Envoy.read?
    proxyInit := ← orDefault fields "proxyInit" base.proxyInit ProxyInit.read?
    tracing := ← orDefault fields "tracing" base.tracing Tracing.read?
    stats := ← orDefault fields "stats" base.stats Stats.read? }

def toJson (config : Config) : Json :=
  .obj [("enableEcrSecret", .bool config.enableEcrSecret),
    ("enableIamForServiceAccounts", .bool config.enableIamForServiceAccounts),
    ("envoy", config.envoy.toJson), ("injectDefault", .bool config.injectDefault),
    ("proxyInit", config.proxyInit.toJson), ("sidecar", config.sidecar.toJson),
    ("stats", config.stats.toJson), ("tracing", config.tracing.toJson)]

end Config

end MeshSidecar
