import RedisKeeper.Api.Shape.Basic

/-
The shape of a container and of what is known about one that runs.
-/
namespace RedisKeeper
namespace Api
namespace Shape

open Json

/-! ## Hooks and probes -/

def execAction : Json.Shape := .object "ExecAction" [("command", texts)]

def httpGetAction : Json.Shape := .object "HTTPGetAction" [
  ("host", .anyText),
  ("httpHeaders", .list (.object "HTTPHeader" [("name", .anyText), ("value", .anyText)])),
  ("path", .anyText),
  ("port", .int32OrText),
  ("scheme", .anyText)]

def tcpSocketAction : Json.Shape := .object "TCPSocketAction" [
  ("host", .anyText), ("port", .int32OrText)]

def hook : Json.Shape := .object "LifecycleHandler" [
  ("exec", execAction),
  ("httpGet", httpGetAction),
  ("sleep", .object "SleepAction" [("seconds", .int64)]),
  ("tcpSocket", tcpSocketAction)]

def probe : Json.Shape := .object "Probe" [
  ("exec", execAction),
  ("failureThreshold", .int32),
  ("grpc", .object "GRPCAction" [("port", .int32), ("service", .anyText)]),
  ("httpGet", httpGetAction),
  ("initialDelaySeconds", .int32),
  ("periodSeconds", .int32),
  ("successThreshold", .int32),
  ("tcpSocket", tcpSocketAction),
  ("terminationGracePeriodSeconds", .int64),
  ("timeoutSeconds", .int32)]

/-! ## Rights -/

/-- Who a process runs as, and how it is confined. -/
def confinement : List (String × Json.Shape) := [
  ("appArmorProfile", .object "AppArmorProfile" [
    ("localhostProfile", .anyText), ("type", .anyText)]),
  ("runAsGroup", .int64),
  ("runAsNonRoot", .truth),
  ("runAsUser", .int64),
  ("seLinuxOptions", .object "SELinuxOptions" [
    ("level", .anyText), ("role", .anyText), ("type", .anyText), ("user", .anyText)]),
  ("seccompProfile", .object "SeccompProfile" [
    ("localhostProfile", .anyText), ("type", .anyText)]),
  ("windowsOptions", .object "WindowsSecurityContextOptions" [
    ("gmsaCredentialSpec", .anyText), ("gmsaCredentialSpecName", .anyText),
    ("hostProcess", .truth), ("runAsUserName", .anyText)])]

def containerSecurity : Json.Shape := .object "SecurityContext" <| [
  ("allowPrivilegeEscalation", .truth),
  ("capabilities", .object "Capabilities" [("add", texts), ("drop", texts)]),
  ("privileged", .truth),
  ("procMount", .anyText),
  ("readOnlyRootFilesystem", .truth)] ++ confinement

/-! ## Containers -/

/-- A key of a stored map. -/
def keyReference (title : String) : Json.Shape := .object title [
  ("key", .anyText), ("name", .anyText), ("optional", .truth)]

/-- A stored map that may be missing. -/
def mapReference (title : String) : Json.Shape := .object title [
  ("name", .anyText), ("optional", .truth)]

def envEntry : Json.Shape := .object "EnvVar" [
  ("name", .anyText),
  ("value", .anyText),
  ("valueFrom", .object "EnvVarSource" [
    ("configMapKeyRef", keyReference "ConfigMapKeySelector"),
    ("fieldRef", fieldReference),
    ("resourceFieldRef", resourceReference),
    ("secretKeyRef", keyReference "SecretKeySelector")])]

def envSource : Json.Shape := .object "EnvFromSource" [
  ("configMapRef", mapReference "ConfigMapEnvSource"),
  ("prefix", .anyText),
  ("secretRef", mapReference "SecretEnvSource")]

def containerFields : List (String × Json.Shape) := [
  ("args", texts),
  ("command", texts),
  ("env", .list envEntry),
  ("envFrom", .list envSource),
  ("image", .anyText),
  ("imagePullPolicy", .anyText),
  ("lifecycle", .object "Lifecycle" [("postStart", hook), ("preStop", hook)]),
  ("livenessProbe", probe),
  ("name", .anyText),
  ("ports", .list (.object "ContainerPort" [
    ("containerPort", .int32), ("hostIP", .anyText), ("hostPort", .int32), ("name", .anyText),
    ("protocol", .anyText)])),
  ("readinessProbe", probe),
  ("resizePolicy", .list (.object "ContainerResizePolicy" [
    ("resourceName", .anyText), ("restartPolicy", .anyText)])),
  ("resources", resources),
  ("restartPolicy", .anyText),
  ("securityContext", containerSecurity),
  ("startupProbe", probe),
  ("stdin", .truth),
  ("stdinOnce", .truth),
  ("terminationMessagePath", .anyText),
  ("terminationMessagePolicy", .anyText),
  ("tty", .truth),
  ("volumeDevices", .list (.object "VolumeDevice" [
    ("devicePath", .anyText), ("name", .anyText)])),
  ("volumeMounts", .list (.object "VolumeMount" [
    ("mountPath", .anyText), ("mountPropagation", .anyText), ("name", .anyText),
    ("readOnly", .truth), ("recursiveReadOnly", .anyText), ("subPath", .anyText),
    ("subPathExpr", .anyText)])),
  ("workingDir", .anyText)]

def container : Json.Shape := .object "Container" containerFields

/-- A container that is added to a running pod. -/
def ephemeralContainer : Json.Shape :=
  .object "EphemeralContainer" <| ("targetContainerName", .anyText) :: containerFields

/-! ## Running containers -/

def containerState : Json.Shape := .object "ContainerState" [
  ("running", .object "ContainerStateRunning" [("startedAt", moment)]),
  ("terminated", .object "ContainerStateTerminated" [
    ("containerID", .anyText), ("exitCode", .int32), ("finishedAt", moment),
    ("message", .anyText), ("reason", .anyText), ("signal", .int32), ("startedAt", moment)]),
  ("waiting", .object "ContainerStateWaiting" [("message", .anyText), ("reason", .anyText)])]

def containerStatus : Json.Shape := .object "ContainerStatus" [
  ("allocatedResources", textMap),
  ("allocatedResourcesStatus", .list (.object "ResourceStatus" [
    ("name", .anyText),
    ("resources", .list (.object "ResourceHealth" [
      ("health", .anyText), ("resourceID", .anyText)]))])),
  ("containerID", .anyText),
  ("image", .anyText),
  ("imageID", .anyText),
  ("lastState", containerState),
  ("name", .anyText),
  ("ready", .truth),
  ("resources", resources),
  ("restartCount", .int32),
  ("started", .truth),
  ("state", containerState),
  ("user", .object "ContainerUser" [("linux", .object "LinuxContainerUser" [
    ("gid", .int64), ("supplementalGroups", .list .int64), ("uid", .int64)])]),
  ("volumeMounts", .list (.object "VolumeMountStatus" [
    ("mountPath", .anyText), ("name", .anyText), ("readOnly", .truth),
    ("recursiveReadOnly", .anyText)]))]

end Shape
end Api
end RedisKeeper
