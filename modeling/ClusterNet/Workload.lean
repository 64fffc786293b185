import ClusterNet.Json.Basic

/- The pods that components run: containers with their ports, probes and mounts, and the volumes
   behind the mounts. -/
namespace ClusterNet

structure ContainerPort where
  name : String
  number : Nat
  deriving DecidableEq, Repr

structure Mount where
  volume : String
  path : String
  readOnly : Bool
  propagation : Option String
  deriving DecidableEq, Repr

inductive VolumeSource where
  | configMap (name : String)
  | secret (name : String)
  | hostPath (path : String)
  deriving DecidableEq, Repr

structure Volume where
  name : String
  source : VolumeSource
  deriving DecidableEq, Repr

structure Timing where
  initialDelay : Nat
  timeout : Nat
  deriving DecidableEq, Repr

structure Probe where
  path : String
  port : Nat
  timing : Option Timing
  deriving DecidableEq, Repr

structure FieldVariable where
  name : String
  path : String
  deriving DecidableEq, Repr

structure Container where
  name : String
  image : String
  command : List String
  args : List String
  privileged : Bool
  env : List FieldVariable
  ports : List ContainerPort
  readiness : Option Probe
  liveness : Option Probe
  mounts : List Mount
  deriving DecidableEq, Repr

structure PodSpec where
  serviceAccount : String
  hostNetwork : Bool
  hostPid : Bool
  priorityClass : Option String
  onControlPlane : Bool
  container : Container
  volumes : List Volume
  deriving DecidableEq, Repr

def Container.new (name image : String) (command args : List String) : Container :=
  ⟨name, image, command, args, false, [], [], none, none, []⟩

def Mount.writable (volume path : String) : Mount := ⟨volume, path, false, none⟩

def Mount.fixed (volume path : String) : Mount := ⟨volume, path, true, none⟩

def presentIf (present : Bool) (json : Json) : Option Json := if present then some json else none

def presentList (items : List Json) : Option Json :=
  if items.isEmpty then none else some (.list items)

def ContainerPort.toJson (p : ContainerPort) : Json :=
  .object [("containerPort", .natural p.number), ("name", .text p.name)]

def Mount.toJson (m : Mount) : Json :=
  .ofFields [
    ("mountPath", some (.text m.path)),
    ("mountPropagation", m.propagation.map .text),
    ("name", some (.text m.volume)),
    ("readOnly", presentIf m.readOnly (.boolean true))]

def Volume.toJson (v : Volume) : Json :=
  match v.source with
  | .configMap name =>
    .object [("configMap", .object [("name", .text name)]), ("name", .text v.name)]
  | .secret name =>
    .object [("name", .text v.name), ("secret", .object [("secretName", .text name)])]
  | .hostPath path => .object [("hostPath", .object [("path", .text path)]), ("name", .text v.name)]

def Probe.toJson (p : Probe) : Json :=
  .ofFields [
    ("httpGet", some (.object [("path", .text p.path), ("port", .natural p.port)])),
    ("initialDelaySeconds", p.timing.map fun t => .natural t.initialDelay),
    ("timeoutSeconds", p.timing.map fun t => .natural t.timeout)]

def FieldVariable.toJson (v : FieldVariable) : Json :=
  .object [
    ("name", .text v.name),
    ("valueFrom", .object [("fieldRef", .object [("fieldPath", .text v.path)])])]

def Container.toJson (c : Container) : Json :=
  .ofFields [
    ("args", presentList (c.args.map .text)),
    ("command", presentList (c.command.map .text)),
    ("env", presentList (c.env.map FieldVariable.toJson)),
    ("image", some (.text c.image)),
    ("imagePullPolicy", some (.text "IfNotPresent")),
    ("livenessProbe", c.liveness.map Probe.toJson),
    ("name", some (.text c.name)),
    ("ports", presentList (c.ports.map ContainerPort.toJson)),
    ("readinessProbe", c.readiness.map Probe.toJson),
    ("securityContext", presentIf c.privileged (.object [("privileged", .boolean true)])),
    ("terminationMessagePolicy", some (.text "FallbackToLogsOnError")),
    ("volumeMounts", presentList (c.mounts.map Mount.toJson))]

def PodSpec.toJson (p : PodSpec) : Json :=
  .ofFields [
    ("containers", some (.list [p.container.toJson])),
    ("hostNetwork", presentIf p.hostNetwork (.boolean true)),
    ("hostPID", presentIf p.hostPid (.boolean true)),
    ("nodeSelector",
      presentIf p.onControlPlane (.object [("node-role.kubernetes.io/control-plane", .text "")])),
    ("priorityClassName", p.priorityClass.map .text),
    ("serviceAccountName", some (.text p.serviceAccount)),
    ("tolerations", some (.list [.object [("operator", .text "Exists")]])),
    ("volumes", some (.list (p.volumes.map Volume.toJson)))]

end ClusterNet
