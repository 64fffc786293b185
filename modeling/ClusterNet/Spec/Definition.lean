import ClusterNet.Spec.Wire
import ClusterNet.Status

/- The definition of the resource that holds a spec and its status: names, versions and the schema
   that the cluster checks resources against. -/
namespace ClusterNet.Definition

abbrev Schema := Dict Json

namespace Schema

def ofType (type : String) : Schema := Dict.empty.insert "type" (.text type)

def text : Schema := ofType "string"

def boolean : Schema := ofType "boolean"

def count : Schema :=
  ((ofType "integer").insert "format" (.text "uint32")).insert "minimum"
    (.number (.real ⟨false, 0⟩))

def choice (names : List String) : Schema := text.insert "enum" (.texts names)

def list (items : Schema) : Schema := (ofType "array").insert "items" (.ofDict items)

def dict (values : Schema) : Schema :=
  (ofType "object").insert "additionalProperties" (.ofDict values)

def described (description : String) (s : Schema) : Schema :=
  s.insert "description" (.text description)

def titled (title : String) (s : Schema) : Schema := s.insert "title" (.text title)

def nullable (s : Schema) : Schema := s.insert "nullable" (.boolean true)

def fallback (value : Json) (s : Schema) : Schema := s.insert "default" value

def record (required : List String) (fields : List (String × Schema)) : Schema :=
  let properties := Dict.ofList (fields.map fun (name, schema) => (name, Json.ofDict schema))
  let s := (ofType "object").insert "properties" (.ofDict properties)
  if required.isEmpty then s else s.insert "required" (.texts required)

def option (name description : String) (s : Schema) : String × Schema :=
  (name, s.nullable.described description)

def field (name description : String) (s : Schema) : String × Schema :=
  (name, s.described description)

end Schema

open Schema

def staticAddress : Schema :=
  (record ["address"] [
    field "address" "Address in CIDR form (e.g., \"192.168.1.10/24\")" text,
    option "gateway" "Default gateway for this address" text]).described
    "A static interface address"

def staticRoute : Schema :=
  (record ["destination"] [
    field "destination" "Destination CIDR" text,
    option "gateway" "Next hop" text]).described "A static route"

def staticIpam : Schema :=
  record [] [
    field "addresses" "Interface addresses" (list staticAddress),
    field "routes" "Routes installed in the pod" (list staticRoute)]

def ipam : Schema :=
  record ["type"] [
    field "type" "IPAM flavor" (choice (IpamKind.all.map IpamKind.name)),
    option "staticIpamConfig" "Static addresses and routes (used by `Static`)" staticIpam]

def macvlan : Schema :=
  record [] [
    option "master" "Host interface to attach to (unset: the default route interface)" text,
    option "mode" "macvlan mode (default: bridge)"
      (choice (MacvlanMode.all.map MacvlanMode.name)),
    option "mtu" "MTU for the macvlan interface" count,
    option "ipamConfig" "IP address management (default: DHCP)" ipam]

def attachment : Schema :=
  (record ["name", "type"] [
    field "name" "Network name (also the NetworkAttachmentDefinition name)" text,
    option "namespace"
      "Namespace the NetworkAttachmentDefinition is created in (default: \"default\")" text,
    field "type" "How the CNI configuration is provided"
      (choice (AttachmentKind.all.map AttachmentKind.name)),
    option "rawCNIConfig" "Raw CNI configuration JSON (required for `Raw`)" text,
    option "simpleMacvlanConfig" "Generated macvlan configuration (used by `SimpleMacvlan`)"
      macvlan]).described
    "A secondary network made available to pods via a NetworkAttachmentDefinition"

def kuryr : Schema :=
  record [] [
    option "openStackServiceNetwork"
      ("CIDR of the OpenStack subnet for service VIPs "
        ++ "(default: the service network expanded by one prefix bit)") text,
    option "enablePortPoolsPrepopulation"
      "Pre-create Neutron ports so pods start without waiting on Neutron" boolean,
    option "poolMaxPorts" "Maximum ports kept in a pool (0 = unlimited)" count,
    option "poolMinPorts" "Minimum free ports kept in a pool before it is repopulated" count,
    option "poolBatchPorts" "Ports created in one bulk request when repopulating a pool" count,
    option "daemonProbesPort" "Health probe port of the kuryr-cni daemon" count,
    option "controllerProbesPort" "Health probe port of the kuryr-controller" count,
    option "mtu" "MTU for pod interfaces (unset: taken from the Neutron network)" count]

def proxy : Schema :=
  record [] [
    option "bindAddress"
      "Address kube-proxy binds to (default: 0.0.0.0, or :: on IPv6 clusters)" text,
    option "iptablesSyncPeriod"
      "Maximum interval between full iptables syncs, as a duration (e.g., \"30s\")" text,
    field "proxyArguments"
      "Extra command-line arguments, keyed by flag name without leading dashes" (dict (list text))]

def nodeIdentity : Schema :=
  record [] [
    option "enabled" "Deploy the webhook (default: true)" boolean,
    option "webhookPort" "Port the webhook server listens on (default: 9743)" count]

def clusterEntry : Schema :=
  (record ["cidr"] [
    field "cidr" "Network CIDR (e.g., \"10.128.0.0/14\")" text,
    option "hostPrefix" "Prefix length of the subnet allocated to each node" count]).described
    "A pod network CIDR and the per-node subnet size carved out of it"

def defaultNetwork : Schema :=
  record [] [
    field "type" "Provider type tag (e.g., \"Kuryr\", \"ThirdParty\")" (text.fallback (.text "")),
    option "kuryrConfig" "Kuryr (OpenStack-integrated SDN) configuration" kuryr]

def spec : Schema :=
  (record [] [
    field "serviceNetwork" "CIDRs for service ClusterIPs (some providers require exactly one)"
      ((list text).fallback (.list [])),
    field "clusterNetwork" "CIDRs from which pod IPs are allocated"
      ((list clusterEntry).fallback (.list [])),
    field "defaultNetwork" "The default pod network provider and its configuration"
      (defaultNetwork.fallback DefaultNetwork.empty.toJson),
    option "kubeProxyConfig" "Standalone kube-proxy configuration" proxy,
    option "deployKubeProxy"
      "Whether to deploy the standalone kube-proxy (unset: decided by network type)" boolean,
    option "disableMultiNetwork"
      "Disable multus and secondary network attachments (unset: false)" boolean,
    field "additionalNetworks" "Secondary networks attached to pods through multus"
      (list attachment),
    option "nodeIdentity" "Network node identity admission webhook configuration"
      nodeIdentity]).described
    ("Specification for a LatticeNetwork\n\n"
      ++ "Fields left unset are filled with computed defaults by the network pipeline. "
      ++ "Explicitly set fields are never overwritten.")

def status : Schema :=
  ((record [] [
    field "phase" "Phase of the last reconcile pass"
      ((choice (Phase.all.map Phase.name)).fallback (.text Phase.pending.name)),
    option "message" "Human-readable summary" text,
    field "errors" "Every validation or change-safety error from a rejected pass" (list text),
    field "configHashes" "Config hash per rendered provider" (dict text),
    option "observedRelease" "Release version the manifests were rendered for" text]).described
    "Status for a LatticeNetwork").nullable

def resource : Schema :=
  ((record ["spec"] [("spec", spec), ("status", status)]).described
    "Auto-generated derived type for NetworkSpec via `CustomResource`").titled "LatticeNetwork"

def column (name type path : String) : Json :=
  .object [("jsonPath", .text path), ("name", .text name), ("type", .text type)]

def names : Json :=
  .object [
    ("categories", .list []),
    ("kind", .text "LatticeNetwork"),
    ("plural", .text "latticenetworks"),
    ("shortNames", .texts ["lnet"]),
    ("singular", .text "latticenetwork")]

def version : Json :=
  .object [
    ("additionalPrinterColumns", .list [
      column "Phase" "string" ".status.phase",
      column "Type" "string" ".spec.defaultNetwork.type",
      column "Age" "date" ".metadata.creationTimestamp"]),
    ("name", .text "v1alpha1"),
    ("schema", .object [("openAPIV3Schema", .ofDict resource)]),
    ("served", .boolean true),
    ("storage", .boolean true),
    ("subresources", .object [("status", .object [])])]

def toJson : Json :=
  .object [
    ("apiVersion", .text "apiextensions.k8s.io/v1"),
    ("kind", .text "CustomResourceDefinition"),
    ("metadata", .object [("name", .text "latticenetworks.network.lattice.dev")]),
    ("spec", .object [
      ("group", .text "network.lattice.dev"),
      ("names", names),
      ("scope", .text "Cluster"),
      ("versions", .list [version])])]

end ClusterNet.Definition
