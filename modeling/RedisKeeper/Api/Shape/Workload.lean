import RedisKeeper.Api.Shape.Pod

/-
The shapes of what runs pods and of what leads to them: StatefulSets and
Services.
-/
namespace RedisKeeper
namespace Api
namespace Shape

open Json

def statefulSetSpec : Json.Shape := .object "StatefulSetSpec" [
  ("minReadySeconds", .int32),
  ("ordinals", .object "StatefulSetOrdinals" [("start", .int32)]),
  ("persistentVolumeClaimRetentionPolicy",
    .object "StatefulSetPersistentVolumeClaimRetentionPolicy" [
      ("whenDeleted", .anyText), ("whenScaled", .anyText)]),
  ("podManagementPolicy", .anyText),
  ("replicas", .int32),
  ("revisionHistoryLimit", .int32),
  ("selector", selector),
  ("serviceName", .anyText),
  ("template", .object "PodTemplateSpec" [
    ("metadata", Metadata.format.shape), ("spec", podSpec)]),
  ("updateStrategy", .object "StatefulSetUpdateStrategy" [
    ("rollingUpdate", .object "RollingUpdateStatefulSetStrategy" [
      ("maxUnavailable", .int32OrText), ("partition", .int32)]),
    ("type", .anyText)]),
  ("volumeClaimTemplates", .list claim)]

def statefulSetStatus : Json.Shape := .object "StatefulSetStatus" [
  ("availableReplicas", .int32),
  ("collisionCount", .int32),
  ("conditions", .list (condition "StatefulSetCondition" [])),
  ("currentReplicas", .int32),
  ("currentRevision", .anyText),
  ("observedGeneration", .int64),
  ("readyReplicas", .int32),
  ("replicas", .int32),
  ("updateRevision", .anyText),
  ("updatedReplicas", .int32)]

def statefulSet : Json.Shape :=
  root .statefulSet [("spec", statefulSetSpec), ("status", statefulSetStatus)]

def serviceSpec : Json.Shape := .object "ServiceSpec" [
  ("allocateLoadBalancerNodePorts", .truth),
  ("clusterIP", .anyText),
  ("clusterIPs", texts),
  ("externalIPs", texts),
  ("externalName", .anyText),
  ("externalTrafficPolicy", .anyText),
  ("healthCheckNodePort", .int32),
  ("internalTrafficPolicy", .anyText),
  ("ipFamilies", texts),
  ("ipFamilyPolicy", .anyText),
  ("loadBalancerClass", .anyText),
  ("loadBalancerIP", .anyText),
  ("loadBalancerSourceRanges", texts),
  ("ports", .list (.object "ServicePort" [
    ("appProtocol", .anyText), ("name", .anyText), ("nodePort", .int32), ("port", .int32),
    ("protocol", .anyText), ("targetPort", .int32OrText)])),
  ("publishNotReadyAddresses", .truth),
  ("selector", textMap),
  ("sessionAffinity", .anyText),
  ("sessionAffinityConfig", .object "SessionAffinityConfig" [
    ("clientIP", .object "ClientIPConfig" [("timeoutSeconds", .int32)])]),
  ("trafficDistribution", .anyText),
  ("type", .anyText)]

def serviceStatus : Json.Shape := .object "ServiceStatus" [
  ("conditions", .list (condition "Condition" [("observedGeneration", .int64)])),
  ("loadBalancer", .object "LoadBalancerStatus" [("ingress", .list (.object "LoadBalancerIngress" [
    ("hostname", .anyText), ("ip", .anyText), ("ipMode", .anyText),
    ("ports", .list (.object "PortStatus" [
      ("error", .anyText), ("port", .int32), ("protocol", .anyText)]))]))])]

def service : Json.Shape := root .service [("spec", serviceSpec), ("status", serviceStatus)]

end Shape
end Api
end RedisKeeper
