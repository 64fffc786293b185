import ClusterNet.Provider.Basic
import ClusterNet.Label
import ClusterNet.Version
import ClusterNet.Json.Printer
import ClusterNet.Json.Reader

/- Multus and the secondary networks it attaches to pods. -/
namespace ClusterNet.Multus

def provider : String := "multus"

def namespaceName : String := "lattice-multus"

def accountName : String := "multus"

def defaultNamespace : String := "default"

def networksField : String := "spec.additionalNetworks"

def isDisabled (s : Spec) : Bool := s.disableMultiNetwork.getD false

/-- Requested networks make it active even if it is disabled, so that the contradiction is found. -/
def isActive (s : Spec) : Bool := !isDisabled s || !s.attachments.isEmpty

def fillMacvlan (m : Macvlan) : Macvlan :=
  { m with mode := some (m.mode.getD .bridge), ipam := some (m.ipam.getD ⟨.dhcp, none⟩) }

def fillAttachment (a : Attachment) : Attachment :=
  { a with
    namespaceName := some (a.namespaceName.getD defaultNamespace)
    macvlan := match a.kind with
      | .simpleMacvlan => some (fillMacvlan (a.macvlan.getD .empty))
      | .raw => a.macvlan }

def fillDefaults (s : Spec) : Spec :=
  { s with
    disableMultiNetwork := some (isDisabled s)
    attachments := s.attachments.map fillAttachment }

def identity (a : Attachment) : String × String :=
  (a.namespaceName.getD defaultNamespace, a.name)

def identityText (a : Attachment) : String := (identity a).1 ++ "/" ++ (identity a).2

def labelProblems (place what : String) (label : String) : List Problem :=
  ((Label.complaint? label what).map (.semantic s!"{place}.{what}")).toList

/-- Raw configuration is a JSON object that bears the network's name. -/
def rawProblems (place name raw : String) : List Problem :=
  match Json.read raw with
  | .error e => [.semantic place s!"not valid JSON: {e.message}"]
  | .ok json =>
    match json.entries? with
    | none => [.semantic place "must be a JSON object"]
    | some entries =>
      match (lookup "name" entries).bind Json.text? with
      | none => [.semantic place "must contain a \"name\" string"]
      | some found =>
        if found = name then []
        else
          [.semantic place
            s!"name {Text.quoted found} does not match network name {Text.quoted name}"]

def longestInterface : Nat := 15

def isInterfaceName (s : String) : Bool :=
  !s.isEmpty && s.utf8ByteSize ≤ longestInterface && '/' ∉ s.toList && !s.toList.any Text.isBlank

def gatewayProblems (place : String) : Option String → List Problem
  | none => []
  | some gateway =>
    match Address.read gateway with
    | some _ => []
    | none => [.semantic s!"{place}.gateway" s!"{Text.quoted gateway} is not an IP address"]

def addressProblems (place : String) (a : StaticAddress) : List Problem :=
  (match Network.readExact a.address with
    | some _ => []
    | none => [.semantic s!"{place}.address" s!"{Text.quoted a.address} is not an address/prefix"])
    ++ gatewayProblems place a.gateway

def routeProblems (place : String) (r : StaticRoute) : List Problem :=
  (match Network.readExact r.destination with
    | some _ => []
    | none => [.semantic s!"{place}.destination" s!"{Text.quoted r.destination} is not a CIDR"])
    ++ gatewayProblems place r.gateway

def staticProblems (place : String) (s : StaticIpam) : List Problem :=
  (if s.addresses.isEmpty then
    [.structural s!"{place}.addresses" "at least one address is required"]
  else [])
    ++ (s.addresses.zipIdx.flatMap fun (a, i) => addressProblems s!"{place}.addresses[{i}]" a)
    ++ (s.routes.zipIdx.flatMap fun (r, i) => routeProblems s!"{place}.routes[{i}]" r)

def ipamProblems (place : String) (i : Ipam) : List Problem :=
  let inner := s!"{place}.staticIPAMConfig"
  match i.kind, i.static with
  | .static, none => [.structural inner "required for Static IPAM"]
  | .static, some s => staticProblems inner s
  | .dhcp, some _ => [.structural inner "only valid for Static IPAM"]
  | .dhcp, none => []

def macvlanProblems (place : String) (m : Macvlan) : List Problem :=
  (match m.master with
    | some master =>
      if isInterfaceName master then []
      else [.semantic s!"{place}.master" s!"{Text.quoted master} is not a valid interface name"]
    | none => [])
    ++ (match m.mtu with
      | some mtu =>
        if mtu.toNat < 68 ∨ 65535 < mtu.toNat then
          [.semantic s!"{place}.mtu" s!"{mtu.toNat} must be between 68 and 65535"]
        else []
      | none => [])
    ++ (match m.ipam with
      | some i => ipamProblems s!"{place}.ipamConfig" i
      | none => [])

def contentProblems (place : String) (a : Attachment) : List Problem :=
  match a.kind with
  | .raw =>
    (if a.macvlan.isSome then
      [.structural s!"{place}.simpleMacvlanConfig" "only valid for SimpleMacvlan networks"]
    else [])
      ++ match a.rawConfig with
        | some raw => rawProblems s!"{place}.rawCNIConfig" a.name raw
        | none => [.structural s!"{place}.rawCNIConfig" "required for Raw networks"]
  | .simpleMacvlan =>
    (if a.rawConfig.isSome then
      [.structural s!"{place}.rawCNIConfig" "only valid for Raw networks"]
    else [])
      ++ match a.macvlan with
        | some m => macvlanProblems s!"{place}.simpleMacvlanConfig" m
        | none => []

def attachmentProblems (place : String) (a : Attachment) : List Problem :=
  labelProblems place "name" a.name
    ++ (a.namespaceName.map (labelProblems place "namespace")).getD []
    ++ contentProblems place a

/-- The problems of the networks from the `i`-th on, given the identities before it. -/
def networkProblems (i : Nat) (seen : List (String × String)) : List Attachment → List Problem
  | [] => []
  | a :: rest =>
    let place := s!"{networksField}[{i}]"
    attachmentProblems place a
      ++ (if identity a ∈ seen then
        [.semantic s!"{place}.name" s!"duplicate network {identityText a}"]
      else [])
      ++ networkProblems (i + 1) (identity a :: seen) rest

def validate (s : Spec) : List Problem :=
  (if isDisabled s ∧ ¬s.attachments.isEmpty then
    [.structural networksField
      "additional networks require multus, but disableMultiNetwork is true"]
  else [])
    ++ networkProblems 0 [] s.attachments

/-- The kind a network had before; of repeated ones the last counts. -/
def kindBefore? (attachments : List Attachment) (key : String × String) : Option AttachmentKind :=
  (attachments.reverse.find? (identity · = key)).map Attachment.kind

def kindChanges (before : List Attachment) (i : Nat) (a : Attachment) : List Problem :=
  match kindBefore? before (identity a) with
  | none => []
  | some old =>
    if old = a.kind then []
    else
      [.unsafeChange s!"{networksField}[{i}].type"
        (s!"network {identityText a} was {old.name}, now {a.kind.name}; "
          ++ "remove and re-add it instead")]

def unsafeChanges (previous next : Spec) : List Problem :=
  if previous = next then []
  else
    unchanged "spec.disableMultiNetwork" writeFlag previous.disableMultiNetwork
        next.disableMultiNetwork
      ++ next.attachments.zipIdx.flatMap fun (a, i) => kindChanges previous.attachments i a

def cniVersion : String := "0.3.1"

def StaticAddress.config (a : StaticAddress) : Json :=
  .ofFields [("address", some (.text a.address)), ("gateway", a.gateway.map .text)]

def StaticRoute.config (r : StaticRoute) : Json :=
  .ofFields [("dst", some (.text r.destination)), ("gw", r.gateway.map .text)]

def ipamConfig (i : Ipam) : Json :=
  match i.kind, i.static with
  | .static, some s =>
    .object [
      ("addresses", .list (s.addresses.map StaticAddress.config)),
      ("routes", .list (s.routes.map StaticRoute.config)),
      ("type", .text "static")]
  | .static, none => .object [("type", .text "static")]
  | .dhcp, _ => .object [("type", .text "dhcp")]

def macvlanConfig (name : String) (m : Macvlan) (mode : MacvlanMode) (ipam : Ipam) : Json :=
  .ofFields [
    ("cniVersion", some (.text cniVersion)),
    ("ipam", some (ipamConfig ipam)),
    ("master", m.master.map .text),
    ("mode", some (.text mode.name)),
    ("mtu", m.mtu.map fun mtu => .natural mtu.toNat),
    ("name", some (.text name)),
    ("type", some (.text "macvlan"))]

/-- The configuration document of a network: the user's own text, or one made from the structured
    fields. -/
def configText (a : Attachment) : Except Problem String :=
  match a.kind with
  | .raw => filled provider "rawCNIConfig" a.rawConfig
  | .simpleMacvlan =>
    match a.macvlan with
    | none => .error (.renderContract provider s!"simpleMacvlanConfig for {a.name} is unset")
    | some m => do
      let mode ← filled provider "simpleMacvlanConfig.mode" m.mode
      let ipam ← filled provider "simpleMacvlanConfig.ipamConfig" m.ipam
      return (macvlanConfig a.name m mode ipam).compact

def daemonConfig : String :=
  Json.compact (.object [
    ("chrootDir", .text "/hostroot"),
    ("cniConfigDir", .text "/host/etc/cni/net.d"),
    ("cniVersion", .text cniVersion),
    ("logLevel", .text "verbose"),
    ("logToStderr", .boolean true),
    ("multusAutoconfigDir", .text "/host/run/multus/cni/net.d"),
    ("multusConfigFile", .text "auto"),
    ("socketDir", .text "/host/run/multus/socket")])

def configMapName : String := "multus-daemon-config"

def daemonPod (r : Release) : PodSpec where
  serviceAccount := accountName
  hostNetwork := true
  hostPid := true
  priorityClass := some "system-node-critical"
  onControlPlane := false
  container :=
    { Container.new "kube-multus" r.images.multus ["/usr/src/multus-cni/bin/multus-daemon"]
        ["--config=/etc/cni/net.d/multus.d/daemon-config.json"] with
      privileged := true
      mounts := [
        .fixed "daemon-config" "/etc/cni/net.d/multus.d",
        ⟨"hostroot", "/hostroot", false, some "HostToContainer"⟩,
        .writable "cni" "/host/etc/cni/net.d",
        .writable "host-run" "/host/run"] }
  volumes := [
    ⟨"daemon-config", .configMap configMapName⟩,
    ⟨"hostroot", .hostPath "/"⟩,
    ⟨"cni", .hostPath "/etc/cni/net.d"⟩,
    ⟨"host-run", .hostPath "/run"⟩]

def admissionPort : Nat := 6443

def admissionPod (r : Release) : PodSpec where
  serviceAccount := accountName
  hostNetwork := false
  hostPid := false
  priorityClass := none
  onControlPlane := true
  container :=
    { Container.new "multus-admission-controller" r.images.multusAdmission ["/usr/bin/webhook"]
        ["-bind-address=0.0.0.0",
          "-port=6443",
          "-tls-private-key-file=/etc/webhook/tls.key",
          "-tls-cert-file=/etc/webhook/tls.crt"] with
      ports := [⟨"webhook", admissionPort⟩]
      mounts := [.fixed "webhook-certs" "/etc/webhook"] }
  volumes := [⟨"webhook-certs", .secret "multus-admission-controller-secret"⟩]

/-- Releases up to 4.13 ship an admission controller of their own. -/
def hasAdmission (r : Release) : Bool := Version.isAtMost r.version 4 13

def baseObjects (r : Release) : List Manifest := [
  .namespaceObject namespaceName provider,
  .serviceAccount accountName namespaceName provider,
  .clusterRole "lattice-multus" provider [
    ⟨["k8s.cni.cncf.io"], ["*"], ["*"]⟩,
    ⟨[""], ["pods", "pods/status"], ["get", "list", "watch", "update"]⟩,
    ⟨["", "events.k8s.io"], ["events"], ["create", "patch", "update"]⟩],
  .clusterRoleBinding "lattice-multus" provider "lattice-multus" accountName namespaceName,
  .configMap configMapName namespaceName provider "daemon-config.json" daemonConfig,
  .daemonSet "multus" namespaceName provider (daemonPod r)]

def admissionObjects (r : Release) : List Manifest :=
  if hasAdmission r then
    [.deployment "multus-admission-controller" namespaceName provider 2 (admissionPod r),
      .service "multus-admission-controller" namespaceName provider
        ⟨"webhook", 443, admissionPort⟩]
  else []

def definition (a : Attachment) (config : String) : Manifest :=
  .attachmentDefinition a.name (identity a).1 provider config

def render (r : Release) (s : Spec) : Except Problem Rendering := do
  if isDisabled s then
    .error (.renderContract provider "render called with disableMultiNetwork set")
  else
    let configs ← s.attachments.mapM fun a => (configText a).map (a, ·)
    let networks := Dict.ofList (configs.map fun (a, config) => (identityText a, .text config))
    return ⟨baseObjects r ++ admissionObjects r
        ++ configs.map fun (a, config) => definition a config,
      .ofList [
        ("daemonConfig", .text daemonConfig),
        ("image", .text r.images.multus),
        ("legacyAdmissionController", .boolean (hasAdmission r)),
        ("networks", .ofDict networks)],
      []⟩

end ClusterNet.Multus
