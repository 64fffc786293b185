import ClusterNet.Provider.Basic
import ClusterNet.Version

/- The admission webhook that keeps nodes to their own objects. It came with release 4.14. -/
namespace ClusterNet.NodeIdentity

def provider : String := "node-identity"

def namespaceName : String := "lattice-network-node-identity"

def accountName : String := "network-node-identity"

def isEnabled (s : Spec) : Bool := (s.nodeIdentity.bind NodeIdentityConfig.enabled).getD true

def isActive (r : Release) (s : Spec) : Bool := isEnabled s && Version.isAtLeast r.version 4 14

def defaultPort : UInt32 := 9743

def fillConfig (n : NodeIdentityConfig) : NodeIdentityConfig :=
  ⟨some (n.enabled.getD true), some (n.webhookPort.getD defaultPort)⟩

def fillDefaults (s : Spec) : Spec :=
  { s with nodeIdentity := some (fillConfig (s.nodeIdentity.getD .empty)) }

def validate (s : Spec) : List Problem :=
  match s.nodeIdentity.bind NodeIdentityConfig.webhookPort with
  | some port =>
    if port.toNat < 1024 ∨ 65535 < port.toNat then
      [.semantic "spec.nodeIdentity.webhookPort"
        s!"{port.toNat} must be between 1024 and 65535"]
    else []
  | none => []

def pod (r : Release) (port : Nat) : PodSpec where
  serviceAccount := accountName
  hostNetwork := true
  hostPid := false
  priorityClass := some "system-cluster-critical"
  onControlPlane := true
  container :=
    { Container.new "webhook" r.images.nodeIdentity ["/usr/bin/network-node-identity"]
        [s!"--webhook-port={port}",
          "--webhook-cert-dir=/etc/webhook-cert",
          "--webhook-host=127.0.0.1",
          "--loglevel=2"] with
      ports := [⟨"webhook", port⟩]
      mounts := [.fixed "webhook-cert" "/etc/webhook-cert"] }
  volumes := [⟨"webhook-cert", .secret "network-node-identity-cert"⟩]

def servicePort : Nat := 443

def webhook (caBundle : String) : Json :=
  .object [
    ("admissionReviewVersions", .texts ["v1"]),
    ("clientConfig", .object [
      ("caBundle", .text caBundle),
      ("service", .object [
        ("name", .text accountName),
        ("namespace", .text namespaceName),
        ("port", .natural servicePort)])]),
    ("failurePolicy", .text "Fail"),
    ("matchPolicy", .text "Equivalent"),
    ("name", .text "network-node-identity.lattice.dev"),
    ("rules", .list [.object [
      ("apiGroups", .texts [""]),
      ("apiVersions", .texts ["v1"]),
      ("operations", .texts ["UPDATE"]),
      ("resources", .texts ["nodes/status"]),
      ("scope", .text "*")]]),
    ("sideEffects", .text "None")]

def objects (r : Release) (port : Nat) : List Manifest := [
  .namespaceObject namespaceName provider,
  .serviceAccount accountName namespaceName provider,
  .clusterRole "lattice-network-node-identity" provider [
    ⟨[""], ["nodes"], ["get", "list", "watch"]⟩,
    ⟨["certificates.k8s.io"], ["certificatesigningrequests"], ["get", "list", "watch"]⟩],
  .clusterRoleBinding "lattice-network-node-identity" provider "lattice-network-node-identity"
    accountName namespaceName,
  .daemonSet "network-node-identity" namespaceName provider (pod r port),
  .service accountName namespaceName provider ⟨"webhook", servicePort, port⟩]

/-- The webhook is registered once its certificate authority is known, and waits until its pods are
    ready. -/
def registration (facts : WebhookFacts) : List Manifest × List Problem :=
  match facts.caBundle with
  | some ca =>
    let m := Manifest.validatingWebhook "network-node-identity" provider (webhook ca)
    ([if facts.ready then m else m.markCreateWait], [])
  | none =>
    ([], [.discoveryUnavailable provider
      "webhook CA bundle not yet issued; ValidatingWebhookConfiguration withheld"])

def render (r : Release) (s : Spec) (facts : Facts) : Except Problem Rendering := do
  let port ← filled provider "webhookPort" (s.nodeIdentity.bind NodeIdentityConfig.webhookPort)
  let (registered, warnings) := registration facts.webhook
  return ⟨objects r port.toNat ++ registered,
    .ofList [
      ("caBundle", facts.webhook.caBundle.elim .null .text),
      ("image", .text r.images.nodeIdentity),
      ("webhookPort", .natural port.toNat)],
    warnings⟩

end ClusterNet.NodeIdentity
