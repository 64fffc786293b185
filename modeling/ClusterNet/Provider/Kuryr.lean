import ClusterNet.Provider.Basic
import ClusterNet.Network.Sizing
import ClusterNet.Version.Rollout
import ClusterNet.Ini
import ClusterNet.Yaml.Printer

/- Kuryr: pod and service networking backed by OpenStack. Service addresses come from an OpenStack
   subnet around the service network. That side is set up once, so most settings cannot change. -/
namespace ClusterNet.Kuryr

def provider : String := "kuryr"

def namespaceName : String := "lattice-kuryr"

def accountName : String := "kuryr"

def configField : String := "spec.defaultNetwork.kuryrConfig"

def field (name : String) : String := configField ++ "." ++ name

def isActive (s : Spec) : Bool := s.type? = some .kuryr

/-- The service network and as much again, if there is a service network that can be read. -/
def computedServiceNetwork (s : Spec) : Option String := do
  let network ← (Network.read (← s.serviceNetwork.head?)).toOption
  return (← network.expand).text

def fillConfig (s : Spec) (k : KuryrConfig) : KuryrConfig where
  serviceNetwork := k.serviceNetwork.orElse fun _ => computedServiceNetwork s
  prepopulation := some (k.prepopulation.getD false)
  poolMax := some (k.poolMax.getD 0)
  poolMin := some (k.poolMin.getD 1)
  poolBatch := some (k.poolBatch.getD 3)
  daemonProbesPort := some (k.daemonProbesPort.getD 8090)
  controllerProbesPort := some (k.controllerProbesPort.getD 8082)
  mtu := k.mtu

def fillDefaults (s : Spec) : Spec :=
  { s with defaultNetwork.kuryr := some (fillConfig s (s.kuryr.getD .empty)) }

def poolLimitProblems (name : String) (value : Option UInt32) (most : Nat) : List Problem :=
  match value with
  | some v =>
    if most < v.toNat then
      [.semantic (field name) s!"{v.toNat} must not exceed poolMaxPorts ({most})"]
    else []
  | none => []

/-- A largest pool size of zero sets no limit. -/
def poolProblems (k : KuryrConfig) : List Problem :=
  (if k.poolBatch = some 0 then [.semantic (field "poolBatchPorts") "must be at least 1"] else [])
    ++ (match k.poolMin, k.poolBatch with
      | some least, some batch =>
        if batch.toNat < least.toNat then
          [.semantic (field "poolMinPorts")
            s!"{least.toNat} must not exceed poolBatchPorts ({batch.toNat})"]
        else []
      | _, _ => [])
    ++ (match k.poolMax with
      | some most =>
        if most = 0 then []
        else
          poolLimitProblems "poolMinPorts" k.poolMin most.toNat
            ++ poolLimitProblems "poolBatchPorts" k.poolBatch most.toNat
      | none => [])

def portProblems (name : String) (port : Option UInt32) : List Problem :=
  match port with
  | some p =>
    if p.toNat < 1 ∨ 65535 < p.toNat then
      [.semantic (field name) s!"{p.toNat} is not a valid port (1-65535)"]
    else []
  | none => []

def leastMtu : Nat := 1280

def probeProblems (k : KuryrConfig) : List Problem :=
  portProblems "daemonProbesPort" k.daemonProbesPort
    ++ portProblems "controllerProbesPort" k.controllerProbesPort
    ++ (match k.daemonProbesPort, k.controllerProbesPort with
      | some daemon, some controller =>
        if daemon = controller then
          [.semantic (field "controllerProbesPort")
            s!"{controller.toNat} is already used by daemonProbesPort"]
        else []
      | _, _ => [])
    ++ (match k.mtu with
      | some mtu =>
        if mtu.toNat < leastMtu ∨ 65535 < mtu.toNat then
          [.semantic (field "mtu") s!"{mtu.toNat} must be between {leastMtu} and 65535"]
        else []
      | none => [])

def serviceHostField : String := field "openStackServiceNetwork"

/-- Sizes are compared only when there is one service network and it can be read. -/
def serviceHostProblems (s : Spec) (k : KuryrConfig) : List Problem :=
  let single := s.serviceNetwork.length = 1
  match k.serviceNetwork with
  | some text =>
    match Network.read text with
    | .error e => [.semantic serviceHostField e.message]
    | .ok host =>
      match s.serviceNetworks with
      | [service] =>
        if single then Network.sizingProblems serviceHostField service host s.clusterNetworks
        else []
      | _ => []
  | none =>
    if single ∧ s.serviceNetworks.length = 1 then [.structural serviceHostField "must be set"]
    else []

def validate (s : Spec) : List Problem :=
  (Spec.requireOne Spec.serviceField s.serviceNetwork.length).toList
    ++ (Spec.requireOne Spec.clusterField s.clusterNetwork.length).toList
    ++ s.serviceProblems ++ s.clusterProblems
    ++ match s.kuryr with
      | none => [.structural configField "required when the default network type is Kuryr"]
      | some k => serviceHostProblems s k ++ poolProblems k ++ probeProblems k

/-- The mtu is never filled in, so setting or clearing it is a change too. -/
def mtuProblems (before after : Option UInt32) : List Problem :=
  if before = after then []
  else
    let old := Text.optional writeNat32 before
    let now := Text.optional writeNat32 after
    [.unsafeChange (field "mtu") s!"{old} -> {now}; the pod MTU is fixed at bootstrap"]

def configChanges (before after : KuryrConfig) : List Problem :=
  unchanged serviceHostField Text.quoted before.serviceNetwork after.serviceNetwork
    ++ unchanged (field "poolMinPorts") writeNat32 before.poolMin after.poolMin
    ++ unchanged (field "poolBatchPorts") writeNat32 before.poolBatch after.poolBatch
    ++ unchanged (field "poolMaxPorts") writeNat32 before.poolMax after.poolMax
    ++ unchanged (field "enablePortPoolsPrepopulation") writeFlag before.prepopulation
      after.prepopulation
    ++ unchanged (field "daemonProbesPort") writeNat32 before.daemonProbesPort
      after.daemonProbesPort
    ++ unchanged (field "controllerProbesPort") writeNat32 before.controllerProbesPort
      after.controllerProbesPort
    ++ mtuProblems before.mtu after.mtu

def unsafeChanges (previous next : Spec) : List Problem :=
  if previous = next then []
  else
    match previous.kuryr, next.kuryr with
    | some before, some after => configChanges before after
    | _, _ => []

structure Settings where
  serviceNetwork : String
  poolMin : UInt32
  poolMax : UInt32
  poolBatch : UInt32
  prepopulation : Bool
  daemonProbesPort : UInt32
  controllerProbesPort : UInt32
  mtu : Option UInt32
  deriving DecidableEq, Repr

def Settings.ofSpec (s : Spec) : Except Problem Settings := do
  match s.kuryr with
  | none => .error (.renderContract provider "kuryrConfig is missing")
  | some k =>
    let serviceNetwork ← filled provider "openStackServiceNetwork" k.serviceNetwork
    match Network.read serviceNetwork with
    | .error e => .error (.renderContract provider e.message)
    | .ok _ =>
      return {
        serviceNetwork
        poolMin := ← filled provider "poolMinPorts" k.poolMin
        poolMax := ← filled provider "poolMaxPorts" k.poolMax
        poolBatch := ← filled provider "poolBatchPorts" k.poolBatch
        prepopulation := ← filled provider "enablePortPoolsPrepopulation" k.prepopulation
        daemonProbesPort := ← filled provider "daemonProbesPort" k.daemonProbesPort
        controllerProbesPort := ← filled provider "controllerProbesPort" k.controllerProbesPort
        mtu := k.mtu }

def userDomain (f : OpenStackFacts) : String := f.credentials.userDomain.getD "Default"

/-- Listener access lists came with this version of the load balancer. -/
def hasAccessLists (f : OpenStackFacts) : Bool := f.octaviaVersion.any (Version.isAtLeast · 2 13)

def caDirectory : String := "/etc/ssl/certs/openstack"

def caFile : String := "ca-bundle.pem"

def confSections (s : Settings) (f : OpenStackFacts) (api : ApiServer) : List Ini.Section :=
  [⟨"DEFAULT", [("debug", "false"), ("use_stderr", "true")]⟩,
    ⟨"kubernetes", [
      ("api_root", api.url),
      ("ssl_ca_crt_file", "/var/run/secrets/kubernetes.io/serviceaccount/ca.crt"),
      ("token_file", "/var/run/secrets/kubernetes.io/serviceaccount/token"),
      ("enabled_handlers",
        "vif,kuryrport,service,endpoints,kuryrloadbalancer,kuryrnetwork,namespace,policy"),
      ("pod_subnets_driver", "namespace"),
      ("pod_security_groups_driver", "policy"),
      ("service_security_groups_driver", "policy"),
      ("controller_ha", "true"),
      ("controller_ha_elector_port", "16401")]⟩,
    ⟨"cni_daemon", [
      ("daemon_enabled", "true"),
      ("docker_mode", "true"),
      ("netns_proc_dir", "/host/proc")]⟩,
    ⟨"cni_health_server", [("port", writeNat32 s.daemonProbesPort)]⟩,
    ⟨"health_server", [("port", writeNat32 s.controllerProbesPort)]⟩,
    ⟨"neutron", Ini.settings [
      ("auth_type", some "password"),
      ("auth_url", some f.authUrl),
      ("project_id", some f.projectId),
      ("username", some f.credentials.username),
      ("password", some f.credentials.password),
      ("user_domain_name", some (userDomain f)),
      ("region_name", f.region),
      ("cafile", f.caBundle.map fun _ => caDirectory ++ "/" ++ caFile)]⟩,
    ⟨"neutron_defaults", Ini.settings [
      ("project", some f.projectId),
      ("service_subnet", some f.serviceSubnet),
      ("pod_security_groups", some (",".intercalate f.podSecurityGroups)),
      ("resource_tags", some "lattice-managed"),
      ("external_svc_net", f.externalNetwork),
      ("network_device_mtu", s.mtu.map writeNat32)]⟩]
    ++ (if f.workerSubnets.isEmpty then []
      else
        [⟨"pod_vif_nested", [("worker_nodes_subnets", ",".intercalate f.workerSubnets)]⟩])
    ++ [⟨"namespace_subnet", [("pod_router", f.router), ("pod_subnet_pool", f.podSubnetPool)]⟩,
    ⟨"octavia_defaults", Ini.settings [
      ("member_mode", some "L3"),
      ("enforce_sg_rules", some (writeFlag !(hasAccessLists f))),
      ("lb_algorithm",
        some (if f.octaviaProvider = some "ovn" then "SOURCE_IP_PORT" else "ROUND_ROBIN")),
      ("provider", f.octaviaProvider)]⟩,
    ⟨"vif_pool", [
      ("ports_pool_min", writeNat32 s.poolMin),
      ("ports_pool_max", writeNat32 s.poolMax),
      ("ports_pool_batch", writeNat32 s.poolBatch),
      ("ports_pool_update_frequency", "30"),
      ("ports_pool_prepopulation", writeFlag s.prepopulation)]⟩]

def conf (s : Settings) (f : OpenStackFacts) (api : ApiServer) : String :=
  Ini.write (confSections s f api)

def clouds (f : OpenStackFacts) : Json :=
  .object [("clouds", .object [("openstack", .ofFields [
    ("auth", some (.object [
      ("auth_url", .text f.authUrl),
      ("password", .text f.credentials.password),
      ("project_id", .text f.projectId),
      ("user_domain_name", .text (userDomain f)),
      ("username", .text f.credentials.username)])),
    ("region_name", f.region.map .text)])])]

def configMapName : String := "kuryr-config"

def secretName : String := "kuryr-credentials"

def caMapName : String := "kuryr-openstack-ca"

def mounts (hasCa : Bool) : List Mount :=
  [.writable "config" "/etc/kuryr", .fixed "credentials" "/etc/kuryr/credentials"]
    ++ if hasCa then [.fixed "ca" caDirectory] else []

def volumes (hasCa : Bool) : List Volume :=
  [⟨"config", .configMap configMapName⟩, ⟨"credentials", .secret secretName⟩]
    ++ if hasCa then [⟨"ca", .configMap caMapName⟩] else []

def probe (path : String) (port : UInt32) : Probe := ⟨path, port.toNat, some ⟨15, 5⟩⟩

def configArgument : String := "--config-file=/etc/kuryr/kuryr.conf"

def controllerPod (r : Release) (s : Settings) (hasCa : Bool) : PodSpec where
  serviceAccount := accountName
  hostNetwork := true
  hostPid := false
  priorityClass := some "system-cluster-critical"
  onControlPlane := true
  container :=
    { Container.new "kuryr-controller" r.images.kuryrController ["kuryr-k8s-controller"]
        [configArgument] with
      readiness := some (probe "/ready" s.controllerProbesPort)
      liveness := some (probe "/alive" s.controllerProbesPort)
      mounts := mounts hasCa }
  volumes := volumes hasCa

def daemonPod (r : Release) (s : Settings) (hasCa : Bool) : PodSpec where
  serviceAccount := accountName
  hostNetwork := true
  hostPid := false
  priorityClass := some "system-node-critical"
  onControlPlane := false
  container :=
    { Container.new "kuryr-cni" r.images.kuryrDaemon ["kuryr-daemon"] [configArgument] with
      privileged := true
      readiness := some (probe "/ready" s.daemonProbesPort)
      liveness := some (probe "/alive" s.daemonProbesPort)
      mounts := mounts hasCa ++ [
        .writable "bin" "/opt/cni/bin",
        .writable "net-conf" "/etc/cni/net.d",
        .writable "proc" "/host/proc"] }
  volumes := volumes hasCa ++ [
    ⟨"bin", .hostPath "/opt/cni/bin"⟩,
    ⟨"net-conf", .hostPath "/etc/cni/net.d"⟩,
    ⟨"proc", .hostPath "/proc"⟩]

def baseObjects : List Manifest := [
  .namespaceObject namespaceName provider,
  .serviceAccount accountName namespaceName provider,
  .clusterRole "lattice-kuryr" provider [
    ⟨[""], ["pods", "services", "endpoints", "namespaces", "nodes"],
      ["get", "list", "watch", "patch", "update"]⟩,
    ⟨["openstack.org"],
      ["kuryrnetworks", "kuryrports", "kuryrloadbalancers", "kuryrnetworkpolicies"], ["*"]⟩,
    ⟨["networking.k8s.io"], ["networkpolicies"], ["get", "list", "watch", "update", "patch"]⟩,
    ⟨["coordination.k8s.io"], ["leases"], ["get", "create", "update"]⟩],
  .clusterRoleBinding "lattice-kuryr" provider "lattice-kuryr" accountName namespaceName]

/-- On an upgrade the controller waits for the daemon, on a downgrade the daemon for the
    controller. -/
def heldBack (r : Release) (facts : Facts) (progress : Progress) : Bool × Bool :=
  match Rollout.order facts.runningVersion r.version with
  | .nodesFirst => (false, !progress.daemonUpdated)
  | .controllersFirst => (!progress.controllerUpdated, false)
  | .simultaneous => (false, false)

def holdBack (hold : Bool) (m : Manifest) : Manifest := if hold then m.markCreateOnly else m

def missingFacts (facts : Facts) : List String :=
  (if facts.openStack.isNone then ["OpenStack facts"] else [])
    ++ (if facts.apiServer.isNone then ["API server endpoint"] else [])

def workloads (r : Release) (s : Settings) (facts : Facts) (f : OpenStackFacts) (api : ApiServer) :
    List Manifest :=
  let hasCa := f.caBundle.isSome
  let (holdDaemon, holdController) := heldBack r facts f.rollout
  [.secret secretName namespaceName provider "clouds.yaml" (Yaml.text (clouds f)),
    .configMap configMapName namespaceName provider "kuryr.conf" (conf s f api)]
    ++ (f.caBundle.map (.configMap caMapName namespaceName provider caFile ·)).toList
    ++ [holdBack holdDaemon
        (.daemonSet "kuryr-cni" namespaceName provider (daemonPod r s hasCa)),
      holdBack holdController
        (.deployment "kuryr-controller" namespaceName provider 1 (controllerPod r s hasCa))]

def workloadData (r : Release) (s : Settings) (f : OpenStackFacts) (api : ApiServer) :
    List (String × Json) :=
  (f.caBundle.map fun ca => ("caBundle", .text ca)).toList ++ [
    ("cloudsYaml", .text (Yaml.text (clouds f))),
    ("controllerImage", .text r.images.kuryrController),
    ("daemonImage", .text r.images.kuryrDaemon),
    ("kuryrConf", .text (conf s f api))]

def render (r : Release) (s : Spec) (facts : Facts) : Except Problem Rendering := do
  let settings ← Settings.ofSpec s
  let data : List (String × Json) := [("openStackServiceNetwork", .text settings.serviceNetwork)]
  match facts.openStack, facts.apiServer with
  | some f, some api =>
    return ⟨baseObjects ++ workloads r settings facts f api,
      .ofList (data ++ workloadData r settings f api), []⟩
  | _, _ =>
    let missing := " and ".intercalate (missingFacts facts)
    return ⟨baseObjects, .ofList data,
      [.discoveryUnavailable provider s!"{missing} not discovered; workloads withheld"]⟩

end ClusterNet.Kuryr
