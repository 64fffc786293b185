import ClusterNet.Provider.Basic
import ClusterNet.Duration
import ClusterNet.Yaml.Printer

/- The standalone kube-proxy, for pod networks that do not implement services themselves. It can be
   reconfigured at any time. -/
namespace ClusterNet.KubeProxy

def provider : String := "kube-proxy"

def namespaceName : String := "lattice-kube-proxy"

def accountName : String := "kube-proxy"

def field (name : String) : String := "spec.kubeProxyConfig." ++ name

def metricsPort : Nat := 9102

def healthPort : Nat := 10256

/-- Networks installed by others get a proxy; Kuryr balances load without one. -/
def deployedByDefault (s : Spec) : Bool := s.type? = some .thirdParty

def isActive (s : Spec) : Bool := s.deployProxy.getD (deployedByDefault s)

def startsWithIpv6 (s : Spec) : Bool :=
  (s.clusterNetwork.head?.bind fun entry => (Network.read entry.cidr).toOption).any
    (·.family = .v6)

def fillConfig (s : Spec) (p : ProxyConfig) : ProxyConfig where
  bindAddress := some (p.bindAddress.getD (if startsWithIpv6 s then "::" else "0.0.0.0"))
  syncPeriod := some (p.syncPeriod.getD "30s")
  arguments := p.arguments

def fillDefaults (s : Spec) : Spec :=
  let s' := { s with deployProxy := some (isActive s) }
  if isActive s then { s' with proxy := some (fillConfig s (s.proxy.getD .empty)) } else s'

def addressProblems : Option String → List Problem
  | none => []
  | some text =>
    match Address.read text with
    | some _ => []
    | none => [.semantic (field "bindAddress") s!"{Text.quoted text} is not an IP address"]

def periodProblems : Option String → List Problem
  | none => []
  | some text =>
    match Duration.read text with
    | .ok total =>
      if total = .zero then [.semantic (field "iptablesSyncPeriod") "must be greater than zero"]
      else []
    | .error e =>
      [.semantic (field "iptablesSyncPeriod")
        s!"{Text.quoted text} is not a duration: {e.message}"]

def fixedValue? (name : String) : Option Nat :=
  if name = "metrics-port" then some metricsPort
  else if name = "healthz-port" then some healthPort
  else none

def isReserved (name : String) : Bool :=
  name ∈ ["config", "hostname-override", "metrics-bind-address", "healthz-bind-address"]

def valueProblems (name : String) (values : List String) : List Problem :=
  let place := field ("proxyArguments." ++ name)
  if values.isEmpty then [.semantic place "must have at least one value"]
  else
    match fixedValue? name with
    | some port =>
      if values.all (· = toString port) then []
      else [.semantic place s!"may only be set to {port}"]
    | none => if isReserved name then [.semantic place "may not be overridden"] else []

def argumentProblems (name : String) (values : List String) : List Problem :=
  (if name.isEmpty ∨ name.toList.head? = some '-' then
    [.semantic (field ("proxyArguments." ++ name))
      "argument names are given without leading dashes"]
  else []) ++ valueProblems name values

def configProblems (p : ProxyConfig) : List Problem :=
  addressProblems p.bindAddress ++ periodProblems p.syncPeriod
    ++ p.arguments.entries.flatMap fun (name, values) => argumentProblems name values

def validate (s : Spec) : List Problem :=
  (if s.clusterNetwork.isEmpty then
    [.structural Spec.clusterField "at least one entry is required to deploy kube-proxy"]
  else [])
    ++ s.clusterProblems
    ++ match s.proxy with
      | some p => configProblems p
      | none => []

def configFile : String := "kube-proxy-config.yaml"

def configMapName : String := "kube-proxy-config"

def configuration (bind : Address) (clusterCidr syncPeriod : String) : Json :=
  .object [
    ("apiVersion", .text "kubeproxy.config.k8s.io/v1alpha1"),
    ("bindAddress", .text bind.text),
    ("clusterCIDR", .text clusterCidr),
    ("healthzBindAddress", .text (bind.withPort healthPort)),
    ("iptables", .object [("syncPeriod", .text syncPeriod)]),
    ("kind", .text "KubeProxyConfiguration"),
    ("metricsBindAddress", .text (bind.withPort metricsPort)),
    ("mode", .text "iptables")]

def overrides (p : ProxyConfig) : List String :=
  p.arguments.entries.flatMap fun (name, values) => values.map fun value => s!"--{name}={value}"

/-- The fixed flags, then the overrides by name. -/
def arguments (p : ProxyConfig) : List String :=
  ["--config=/config/" ++ configFile, "--hostname-override=$(NODE_NAME)"] ++ overrides p

def pod (r : Release) (args : List String) : PodSpec where
  serviceAccount := accountName
  hostNetwork := true
  hostPid := false
  priorityClass := some "system-node-critical"
  onControlPlane := false
  container :=
    { Container.new "kube-proxy" r.images.kubeProxy ["kube-proxy"] args with
      privileged := true
      env := [⟨"NODE_NAME", "spec.nodeName"⟩]
      ports := [⟨"metrics", metricsPort⟩]
      readiness := some ⟨"/healthz", healthPort, none⟩
      mounts := [.writable "config" "/config", .fixed "lib-modules" "/lib/modules"] }
  volumes := [⟨"config", .configMap configMapName⟩, ⟨"lib-modules", .hostPath "/lib/modules"⟩]

def objects (r : Release) (config : String) (args : List String) : List Manifest := [
  .namespaceObject namespaceName provider,
  .serviceAccount accountName namespaceName provider,
  .clusterRoleBinding "lattice-kube-proxy" provider "system:node-proxier" accountName namespaceName,
  .configMap configMapName namespaceName provider configFile config,
  .daemonSet "kube-proxy" namespaceName provider (pod r args),
  .service "kube-proxy-metrics" namespaceName provider ⟨"metrics", metricsPort, metricsPort⟩]

def render (r : Release) (s : Spec) : Except Problem Rendering := do
  match s.proxy with
  | none => .error (.renderContract provider "kubeProxyConfig is missing")
  | some p =>
    match Address.read (← filled provider "bindAddress" p.bindAddress) with
    | none => .error (.renderContract provider "bindAddress is not an IP address")
    | some bind =>
      let syncPeriod ← filled provider "iptablesSyncPeriod" p.syncPeriod
      if s.clusterNetwork.isEmpty then .error (.renderContract provider "no cluster network")
      else
        let clusterCidr := ",".intercalate (s.clusterNetwork.map ClusterEntry.cidr)
        let config := Yaml.text (configuration bind clusterCidr syncPeriod)
        let args := arguments p
        return ⟨objects r config args,
          .ofList [
            ("args", .texts args),
            ("config", .text config),
            ("image", .text r.images.kubeProxy)],
          []⟩

end ClusterNet.KubeProxy
