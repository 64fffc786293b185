import ClusterNet.Json.Basic
import ClusterNet.Problem

/- Rendered objects: kind and metadata, and free-form content. -/
namespace ClusterNet

structure Metadata where
  name : String
  namespaceName : Option String
  labels : Option (Dict String)
  annotations : Option (Dict String)
  deriving DecidableEq, Repr

structure Manifest where
  apiVersion : String
  kind : String
  metadata : Metadata
  spec : Option Json
  data : Option Json
  fields : Dict Json
  deriving DecidableEq, Repr

namespace Manifest

def new (apiVersion kind name : String) : Manifest :=
  ⟨apiVersion, kind, ⟨name, none, none, none⟩, none, none, .empty⟩

def withNamespace (m : Manifest) (name : String) : Manifest :=
  { m with metadata.namespaceName := some name }

def withSpec (m : Manifest) (spec : Json) : Manifest := { m with spec := some spec }

def withData (m : Manifest) (data : Json) : Manifest := { m with data := some data }

def withField (m : Manifest) (key : String) (value : Json) : Manifest :=
  { m with fields := m.fields.insert key value }

def withLabels (m : Manifest) (labels : Dict String) : Manifest :=
  { m with metadata.labels := some ((m.metadata.labels.getD .empty).union labels) }

def annotate (m : Manifest) (key value : String) : Manifest :=
  { m with metadata.annotations := some ((m.metadata.annotations.getD .empty).insert key value) }

def annotation? (m : Manifest) (key : String) : Option String :=
  m.metadata.annotations.bind (·.get? key)

def isNamespace (m : Manifest) : Bool := m.kind = "Namespace"

def isWorkload (m : Manifest) : Bool := m.kind = "DaemonSet" || m.kind = "Deployment"

def key (m : Manifest) : String :=
  match m.metadata.namespaceName with
  | some name => s!"{m.kind}/{name}/{m.metadata.name}"
  | none => s!"{m.kind}/{m.metadata.name}"

inductive TemplateFault where
  | noTemplate
  | metadataNotObject
  | annotationsNotObject
  deriving DecidableEq, Repr

def TemplateFault.message : TemplateFault → String
  | .noTemplate => "object has no pod template"
  | .metadataNotObject => "pod template metadata is not an object"
  | .annotationsNotObject => "pod template annotations is not an object"

def objectUnder (fault : TemplateFault) (key : String) (entries : List (String × Json)) :
    Except TemplateFault (List (String × Json)) :=
  match lookup key entries with
  | none => .ok []
  | some (.object inner) => .ok inner
  | some _ => .error fault

/-- The objects on the way to the annotations of the pod template, from the outside in: the spec,
    its template, the template's metadata and the annotations, of which the last two may be absent.
    -/
structure TemplatePath where
  spec : List (String × Json)
  template : List (String × Json)
  metadata : List (String × Json)
  annotations : List (String × Json)

def templatePath (m : Manifest) : Except TemplateFault TemplatePath := do
  match m.spec with
  | some (.object spec) =>
    match lookup "template" spec with
    | some (.object template) =>
      let metadata ← objectUnder .metadataNotObject "metadata" template
      let annotations ← objectUnder .annotationsNotObject "annotations" metadata
      return ⟨spec, template, metadata, annotations⟩
    | _ => .error .noTemplate
  | _ => .error .noTemplate

def TemplatePath.withAnnotations (p : TemplatePath) (annotations : List (String × Json)) : Json :=
  let metadata := put "annotations" (.object annotations) p.metadata
  let template := put "metadata" (.object metadata) p.template
  .object (put "template" (.object template) p.spec)

/-- Annotate the pod template, creating its metadata and annotations where they are absent. -/
def annotateTemplate (m : Manifest) (key value : String) : Except Problem Manifest :=
  match m.templatePath with
  | .ok path => .ok (m.withSpec (path.withAnnotations (put key (.text value) path.annotations)))
  | .error fault => .error (.renderContract m.key fault.message)

def templateAnnotation? (m : Manifest) (key : String) : Option String := do
  ((← (← m.spec).at? ["template", "metadata", "annotations"]).get? key).bind Json.text?

end Manifest
end ClusterNet
