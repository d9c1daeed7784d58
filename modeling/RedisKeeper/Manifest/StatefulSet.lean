import RedisKeeper.Manifest.Owner
import RedisKeeper.Topology.Target

/-
The StatefulSet behind a group of a cluster or behind a single instance.

Its container, its data volume and its claim template have its own name.  Where
storage is configured, the data volume comes from the claim template.
-/
namespace RedisKeeper
namespace Manifest

open Json

def redisPort : UInt16 := 6379

/-- The port on which the nodes of a cluster talk to each other. -/
def busPort : UInt16 := 16379

def dataDirectory : String := "/data"

def extraConfigVolume : String := "external-config"

def extraConfigPath : String := "/etc/redis/external.conf.d"

/-- What sets one StatefulSet apart from another. -/
structure Blueprint where
  name : String
  setup : String
  role : String
  replicas : Int32
  container : ContainerSettings
  storage : Option Storage
  /-- The ConfigMap that is included, if any. -/
  configMap : Option String
  nodeSelector : StringMap
  /-- Whether the server takes part in a cluster. -/
  clustered : Bool
deriving DecidableEq

structure ContainerPort where
  name : String
  number : UInt16
deriving DecidableEq

structure Mount where
  volume : String
  path : String
  readOnly : Option Bool
deriving DecidableEq

inductive VolumeSource where
  | emptyDir
  | configMap (name : String)
deriving DecidableEq

structure Volume where
  name : String
  source : VolumeSource
deriving DecidableEq

/-- A check that a command in the container succeeds. -/
structure Probe where
  command : List String
  initialDelay : Nat
  period : Nat
  timeout : Nat
  failureThreshold : Nat
deriving DecidableEq

structure Container where
  name : String
  image : String
  imagePullPolicy : Option String
  command : List String
  args : List String
  ports : List ContainerPort
  resources : Option ResourceBounds
  mounts : List Mount
  readiness : Probe
  liveness : Probe
deriving DecidableEq

/-- A template from which each pod gets a claim of its own. -/
structure Claim where
  metadata : Metadata
  accessModes : List String
  storageClassName : Option String
  size : String
deriving DecidableEq

structure StatefulSet where
  metadata : Metadata
  replicas : Int32
  serviceName : String
  selector : StringMap
  podLabels : StringMap
  podAnnotations : StringMap
  container : Container
  volumes : List Volume
  nodeSelector : Option StringMap
  claims : Option (List Claim)
deriving DecidableEq

/-! ## Making one -/

/-- The arguments of the server. -/
def serverArguments (clustered withConfig : Bool) : List String :=
  ["--port", toString redisPort.toNat, "--dir", dataDirectory] ++
  (if clustered then
    ["--cluster-enabled", "yes", "--cluster-config-file", dataDirectory ++ "/nodes.conf"]
   else []) ++
  (if withConfig then ["--include", extraConfigPath ++ "/redis-additional.conf"] else [])

def Probe.ping (initialDelay : Nat) : Probe where
  command := ["redis-cli", "ping"]
  initialDelay := initialDelay
  period := 10
  timeout := 5
  failureThreshold := 3

namespace Blueprint

def ports (b : Blueprint) : List ContainerPort :=
  ⟨"redis-client", redisPort⟩ :: if b.clustered then [⟨"redis-bus", busPort⟩] else []

def mounts (b : Blueprint) : List Mount :=
  ⟨b.name, dataDirectory, none⟩ ::
    if b.configMap.isSome then [⟨extraConfigVolume, extraConfigPath, some true⟩] else []

def containerOf (b : Blueprint) : Container where
  name := b.name
  image := b.container.image
  imagePullPolicy := b.container.imagePullPolicy
  command := ["redis-server"]
  args := serverArguments b.clustered b.configMap.isSome
  ports := b.ports
  resources := b.container.resources
  mounts := b.mounts
  readiness := Probe.ping 5
  liveness := Probe.ping 15

def volumes (b : Blueprint) : List Volume :=
  (if b.storage.isNone then [⟨b.name, .emptyDir⟩] else []) ++
  (b.configMap.map fun name => ⟨extraConfigVolume, .configMap name⟩).toList

def claim (b : Blueprint) (storage : Storage) (labels annotations : StringMap) : Claim where
  metadata := { name := some b.name, labels := some labels, annotations := some annotations }
  accessModes :=
    if storage.claimTemplate.accessModes.isEmpty then ["ReadWriteOnce"]
    else storage.claimTemplate.accessModes
  storageClassName := storage.claimTemplate.storageClassName
  size := storage.claimTemplate.size

def build (b : Blueprint) (owner : Owner) : StatefulSet :=
  let labels := labels b.name b.setup b.role owner.metadata.labelMap
  let annotations := annotations b.name owner.metadata.annotationMap
  { metadata := owner.metadataOf b.name labels annotations
    replicas := b.replicas
    serviceName := headlessName b.name
    selector := selector b.name b.setup b.role
    podLabels := labels
    podAnnotations := annotations
    container := b.containerOf
    volumes := b.volumes
    nodeSelector := if b.nodeSelector.isEmpty then none else some b.nodeSelector
    claims := b.storage.map fun storage => [b.claim storage labels annotations] }

end Blueprint
end Manifest

/-- The blueprint of a group of a cluster. -/
def RedisCluster.blueprint (c : RedisCluster) (role : Role) : Manifest.Blueprint where
  name := roleObjectName c.name role
  setup := Manifest.clusterSetup
  role := role.name
  replicas := c.spec.replicas role
  container := c.spec.container
  storage := c.spec.storage
  configMap := c.spec.configMap role
  nodeSelector := c.spec.nodeSelector
  clustered := true

def RedisCluster.statefulSet (c : RedisCluster) (role : Role) : Manifest.StatefulSet :=
  (c.blueprint role).build c.owner

/-- The blueprint of a single instance, which has one replica. -/
def RedisSingle.blueprint (s : RedisSingle) : Manifest.Blueprint where
  name := s.name
  setup := Manifest.singleSetup
  role := Manifest.singleSetup
  replicas := 1
  container := s.spec.container
  storage := s.spec.storage
  configMap := s.spec.configMap
  nodeSelector := s.spec.nodeSelector
  clustered := false

def RedisSingle.statefulSet (s : RedisSingle) : Manifest.StatefulSet :=
  s.blueprint.build s.owner

/-! ## Writing it -/

namespace Manifest

open Json

def ContainerPort.toJson (p : ContainerPort) : Json :=
  object [
    ("containerPort", some (.int p.number.toNat)),
    ("name", some (.str p.name)),
    ("protocol", some (.str "TCP"))]

def Mount.toJson (m : Mount) : Json :=
  object [
    ("mountPath", some (.str m.path)),
    ("name", some (.str m.volume)),
    ("readOnly", m.readOnly.map .bool)]

def Volume.toJson (v : Volume) : Json :=
  match v.source with
  | .emptyDir => object [("emptyDir", some (object [])), ("name", some (.str v.name))]
  | .configMap name =>
    object [
      ("configMap", some (object [("name", some (.str name))])),
      ("name", some (.str v.name))]

def Probe.toJson (p : Probe) : Json :=
  object [
    ("exec", some (object [("command", some (strings p.command))])),
    ("failureThreshold", some (.int p.failureThreshold)),
    ("initialDelaySeconds", some (.int p.initialDelay)),
    ("periodSeconds", some (.int p.period)),
    ("timeoutSeconds", some (.int p.timeout))]

def boundsJson (b : ResourceBounds) : Json :=
  object [
    ("limits", b.limits.map fun q => ofMap q.toMap),
    ("requests", b.requests.map fun q => ofMap q.toMap)]

def Container.toJson (c : Container) : Json :=
  object [
    ("args", some (strings c.args)),
    ("command", some (strings c.command)),
    ("image", some (.str c.image)),
    ("imagePullPolicy", c.imagePullPolicy.map .str),
    ("livenessProbe", some c.liveness.toJson),
    ("name", some (.str c.name)),
    ("ports", some (.arr (c.ports.map ContainerPort.toJson))),
    ("readinessProbe", some c.readiness.toJson),
    ("resources", c.resources.map boundsJson),
    ("volumeMounts", some (.arr (c.mounts.map Mount.toJson)))]

def Claim.toJson (c : Claim) : Json :=
  object [
    ("apiVersion", some (.str "v1")),
    ("kind", some (.str "PersistentVolumeClaim")),
    ("metadata", some c.metadata.toJson),
    ("spec", some (object [
      ("accessModes", some (strings c.accessModes)),
      ("resources", some (object [
        ("requests", some (object [("storage", some (.str c.size))]))])),
      ("storageClassName", c.storageClassName.map .str)]))]

namespace StatefulSet

def podTemplate (s : StatefulSet) : Json :=
  object [
    ("metadata", some (object [
      ("annotations", some (ofMap s.podAnnotations)),
      ("labels", some (ofMap s.podLabels))])),
    ("spec", some (object [
      ("containers", some (.arr [s.container.toJson])),
      ("nodeSelector", s.nodeSelector.map ofMap),
      ("volumes", some (.arr (s.volumes.map Volume.toJson)))]))]

def toJson (s : StatefulSet) : Json :=
  object [
    ("apiVersion", some (.str "apps/v1")),
    ("kind", some (.str "StatefulSet")),
    ("metadata", some s.metadata.toJson),
    ("spec", some (object [
      ("replicas", some (ofInt32 s.replicas)),
      ("selector", some (object [("matchLabels", some (ofMap s.selector))])),
      ("serviceName", some (.str s.serviceName)),
      ("template", some s.podTemplate),
      ("volumeClaimTemplates", s.claims.map fun claims => .arr (claims.map Claim.toJson))]))]

end StatefulSet
end Manifest
end RedisKeeper
