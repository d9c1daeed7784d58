import RedisKeeper.Api.Shape.Container
import RedisKeeper.Api.Shape.Volume

/-
The shape of a pod.
-/
namespace RedisKeeper
namespace Api
namespace Shape

open Json

/-! ## Placement -/

def nodeTerm : Json.Shape :=
  let found := requirements "NodeSelectorRequirement"
  .object "NodeSelectorTerm" [("matchExpressions", found), ("matchFields", found)]

def podTerm : Json.Shape := .object "PodAffinityTerm" [
  ("labelSelector", selector), ("matchLabelKeys", texts), ("mismatchLabelKeys", texts),
  ("namespaceSelector", selector), ("namespaces", texts), ("topologyKey", .anyText)]

/-- Which other pods to be near to, or far from. -/
def podPreference (title : String) : Json.Shape := .object title [
  ("preferredDuringSchedulingIgnoredDuringExecution", .list (.object "WeightedPodAffinityTerm" [
    ("podAffinityTerm", podTerm), ("weight", .int32)])),
  ("requiredDuringSchedulingIgnoredDuringExecution", .list podTerm)]

def affinity : Json.Shape := .object "Affinity" [
  ("nodeAffinity", .object "NodeAffinity" [
    ("preferredDuringSchedulingIgnoredDuringExecution", .list (.object "PreferredSchedulingTerm" [
      ("preference", nodeTerm), ("weight", .int32)])),
    ("requiredDuringSchedulingIgnoredDuringExecution", .object "NodeSelector" [
      ("nodeSelectorTerms", .list nodeTerm)])]),
  ("podAffinity", podPreference "PodAffinity"),
  ("podAntiAffinity", podPreference "PodAntiAffinity")]

def toleration : Json.Shape := .object "Toleration" [
  ("effect", .anyText), ("key", .anyText), ("operator", .anyText),
  ("tolerationSeconds", .int64), ("value", .anyText)]

def spreadConstraint : Json.Shape := .object "TopologySpreadConstraint" [
  ("labelSelector", selector), ("matchLabelKeys", texts), ("maxSkew", .int32),
  ("minDomains", .int32), ("nodeAffinityPolicy", .anyText), ("nodeTaintsPolicy", .anyText),
  ("topologyKey", .anyText), ("whenUnsatisfiable", .anyText)]

/-- How a pod is placed. -/
def placement : List (String × Json.Shape) := [
  ("affinity", affinity),
  ("nodeName", .anyText),
  ("nodeSelector", textMap),
  ("preemptionPolicy", .anyText),
  ("priority", .int32),
  ("priorityClassName", .anyText),
  ("schedulerName", .anyText),
  ("schedulingGates", .list (named "PodSchedulingGate")),
  ("tolerations", .list toleration),
  ("topologySpreadConstraints", .list spreadConstraint)]

/-! ## Network and rights -/

/-- How a pod is known to others, and how it finds them. -/
def network : List (String × Json.Shape) := [
  ("dnsConfig", .object "PodDNSConfig" [
    ("nameservers", texts),
    ("options", .list (.object "PodDNSConfigOption" [
      ("name", .anyText), ("value", .anyText)])),
    ("searches", texts)]),
  ("dnsPolicy", .anyText),
  ("enableServiceLinks", .truth),
  ("hostAliases", .list (.object "HostAlias" [("hostnames", texts), ("ip", .anyText)])),
  ("hostIPC", .truth),
  ("hostNetwork", .truth),
  ("hostPID", .truth),
  ("hostUsers", .truth),
  ("hostname", .anyText),
  ("setHostnameAsFQDN", .truth),
  ("subdomain", .anyText)]

def podSecurity : Json.Shape := .object "PodSecurityContext" <| [
  ("fsGroup", .int64),
  ("fsGroupChangePolicy", .anyText),
  ("seLinuxChangePolicy", .anyText),
  ("supplementalGroups", .list .int64),
  ("supplementalGroupsPolicy", .anyText),
  ("sysctls", .list (.object "Sysctl" [("name", .anyText), ("value", .anyText)]))] ++
  confinement

/-! ## Pods -/

def podSpec : Json.Shape := .object "PodSpec" <| [
  ("activeDeadlineSeconds", .int64),
  ("automountServiceAccountToken", .truth),
  ("containers", .list container),
  ("ephemeralContainers", .list ephemeralContainer),
  ("imagePullSecrets", .list localReference),
  ("initContainers", .list container),
  ("os", named "PodOS"),
  ("overhead", textMap),
  ("readinessGates", .list (.object "PodReadinessGate" [("conditionType", .anyText)])),
  ("resourceClaims", .list (.object "PodResourceClaim" [
    ("name", .anyText), ("resourceClaimName", .anyText),
    ("resourceClaimTemplateName", .anyText)])),
  ("resources", resources),
  ("restartPolicy", .anyText),
  ("runtimeClassName", .anyText),
  ("securityContext", podSecurity),
  ("serviceAccount", .anyText),
  ("serviceAccountName", .anyText),
  ("shareProcessNamespace", .truth),
  ("terminationGracePeriodSeconds", .int64),
  ("volumes", .list volume)] ++ placement ++ network

/-- Addresses of one pod or machine. -/
def addresses (title : String) : Json.Shape := .list <| .object title [("ip", .anyText)]

def podStatus : Json.Shape := .object "PodStatus" [
  ("conditions", .list (condition "PodCondition" [("lastProbeTime", moment)])),
  ("containerStatuses", .list containerStatus),
  ("ephemeralContainerStatuses", .list containerStatus),
  ("hostIP", .anyText),
  ("hostIPs", addresses "HostIP"),
  ("initContainerStatuses", .list containerStatus),
  ("message", .anyText),
  ("nominatedNodeName", .anyText),
  ("phase", .anyText),
  ("podIP", .anyText),
  ("podIPs", addresses "PodIP"),
  ("qosClass", .anyText),
  ("reason", .anyText),
  ("resize", .anyText),
  ("resourceClaimStatuses", .list (.object "PodResourceClaimStatus" [
    ("name", .anyText), ("resourceClaimName", .anyText)])),
  ("startTime", moment)]

def pod : Json.Shape := root .pod [("spec", podSpec), ("status", podStatus)]

end Shape
end Api
end RedisKeeper
