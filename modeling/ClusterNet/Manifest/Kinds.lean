import ClusterNet.Manifest
import ClusterNet.Workload

/- The kinds of objects that components are made of. Each carries the labels of its component. -/
namespace ClusterNet.Manifest

def nameLabel : String := "app.kubernetes.io/name"

def managedByLabel : String := "app.kubernetes.io/managed-by"

def managedByValue : String := "lattice"

def configHashKey : String := "network.lattice.dev/config-hash"

/-- Asks for creation of the object if it is missing, and for no update. -/
def createOnlyKey : String := "network.lattice.dev/create-only"

/-- Asks for creation to wait until prerequisites are ready. -/
def createWaitKey : String := "network.lattice.dev/create-wait"

def markCreateOnly (m : Manifest) : Manifest := m.annotate createOnlyKey "true"

def markCreateWait (m : Manifest) : Manifest := m.annotate createWaitKey "true"

def componentLabels (component : String) : Dict String :=
  .ofList [(managedByLabel, managedByValue), (nameLabel, component)]

def ofComponent (apiVersion kind name component : String) : Manifest :=
  (new apiVersion kind name).withLabels (componentLabels component)

def namespaceObject (name component : String) : Manifest :=
  ofComponent "v1" "Namespace" name component

def serviceAccount (name space component : String) : Manifest :=
  (ofComponent "v1" "ServiceAccount" name component).withNamespace space

structure Rule where
  apiGroups : List String
  resources : List String
  verbs : List String

def Rule.toJson (r : Rule) : Json :=
  .object [
    ("apiGroups", .texts r.apiGroups),
    ("resources", .texts r.resources),
    ("verbs", .texts r.verbs)]

def rbacVersion : String := "rbac.authorization.k8s.io/v1"

def clusterRole (name component : String) (rules : List Rule) : Manifest :=
  (ofComponent rbacVersion "ClusterRole" name component).withField "rules"
    (.list (rules.map Rule.toJson))

def clusterRoleBinding (name component role account space : String) : Manifest :=
  ((ofComponent rbacVersion "ClusterRoleBinding" name component).withField "roleRef"
    (.object [
      ("apiGroup", .text "rbac.authorization.k8s.io"),
      ("kind", .text "ClusterRole"),
      ("name", .text role)])).withField "subjects"
    (.list [.object [
      ("kind", .text "ServiceAccount"),
      ("name", .text account),
      ("namespace", .text space)]])

def configMap (name space component file content : String) : Manifest :=
  ((ofComponent "v1" "ConfigMap" name component).withNamespace space).withData
    (.object [(file, .text content)])

def secret (name space component file content : String) : Manifest :=
  (((ofComponent "v1" "Secret" name component).withNamespace space).withField "type"
    (.text "Opaque")).withField "stringData" (.object [(file, .text content)])

def selector (component : String) : Json := .object [(nameLabel, .text component)]

def podTemplate (component : String) (pod : PodSpec) : Json :=
  .object [
    ("metadata", .object [("labels", selector component)]),
    ("spec", pod.toJson)]

def daemonSet (name space component : String) (pod : PodSpec) : Manifest :=
  ((ofComponent "apps/v1" "DaemonSet" name component).withNamespace space).withSpec
    (.object [
      ("selector", .object [("matchLabels", selector component)]),
      ("template", podTemplate component pod),
      ("updateStrategy", .object [
        ("rollingUpdate", .object [("maxUnavailable", .text "10%")]),
        ("type", .text "RollingUpdate")])])

def deployment (name space component : String) (replicas : Nat) (pod : PodSpec) : Manifest :=
  ((ofComponent "apps/v1" "Deployment" name component).withNamespace space).withSpec
    (.object [
      ("replicas", .natural replicas),
      ("selector", .object [("matchLabels", selector component)]),
      ("template", podTemplate component pod)])

structure ServicePort where
  name : String
  port : Nat
  target : Nat

def ServicePort.toJson (p : ServicePort) : Json :=
  .object [
    ("name", .text p.name),
    ("port", .natural p.port),
    ("targetPort", .natural p.target)]

def service (name space component : String) (port : ServicePort) : Manifest :=
  ((ofComponent "v1" "Service" name component).withNamespace space).withSpec
    (.object [("ports", .list [port.toJson]), ("selector", selector component)])

def validatingWebhook (name component : String) (webhook : Json) : Manifest :=
  (ofComponent "admissionregistration.k8s.io/v1" "ValidatingWebhookConfiguration" name
    component).withField "webhooks" (.list [webhook])

def attachmentDefinition (name space component config : String) : Manifest :=
  ((ofComponent "k8s.cni.cncf.io/v1" "NetworkAttachmentDefinition" name component).withNamespace
    space).withSpec (.object [("config", .text config)])

end ClusterNet.Manifest
