import ClusterNet.Proofs.Assembly
import ClusterNet.Proofs.Containers

/- What the pods of an object are declared to be: their labels, their account, their volumes, and
   the ports, probes and mounts of each container, as these are read off the object. All of it is
   read back as it was written, and the stamp of a pass leaves it alone. -/
namespace ClusterNet

namespace Json

def natural? : Json → Option Nat
  | .number (.integer (.ofNat n)) => some n
  | _ => none

def textUnder? (key : String) (json : Json) : Option String := (json.get? key).bind text?

def naturalUnder? (key : String) (json : Json) : Option Nat := (json.get? key).bind natural?

def itemsUnder (key : String) (json : Json) : List Json := ((json.get? key).bind items?).getD []

end Json

def portsOf (container : Json) : List Nat :=
  (container.itemsUnder "ports").filterMap (Json.naturalUnder? "containerPort")

def mountsOf (container : Json) : List Json := container.itemsUnder "volumeMounts"

theorem portsOf_toJson (c : Container) : portsOf c.toJson = c.ports.map ContainerPort.number := by
  have written : c.toJson.get? "ports" = presentList (c.ports.map ContainerPort.toJson) := by
    rw [Container.toJson, Json.get?_ofFields (by simp)]
    rfl
  have each : Json.naturalUnder? "containerPort" ∘ ContainerPort.toJson =
      some ∘ ContainerPort.number := rfl
  rw [portsOf, Json.itemsUnder, written, items_presentList, List.filterMap_map, each,
    List.filterMap_eq_map]

theorem mountsOf_toJson (c : Container) : mountsOf c.toJson = c.mounts.map Mount.toJson := by
  have written : c.toJson.get? "volumeMounts" = presentList (c.mounts.map Mount.toJson) := by
    rw [Container.toJson, Json.get?_ofFields (by simp)]
    rfl
  rw [mountsOf, Json.itemsUnder, written, items_presentList]

def probePort? (kind : String) (container : Json) : Option Nat :=
  ((container.get? kind).bind (Json.get? "httpGet")).bind (Json.naturalUnder? "port")

def probesOf (container : Json) : List Nat :=
  (probePort? "readinessProbe" container).toList ++ (probePort? "livenessProbe" container).toList

theorem Probe.port_toJson (p : Probe) :
    (p.toJson.get? "httpGet").bind (Json.naturalUnder? "port") = some p.port := by
  rw [toJson, Json.get?_ofFields (by simp)]
  rfl

theorem probesOf_toJson (c : Container) :
    probesOf c.toJson = (c.readiness.toList ++ c.liveness.toList).map Probe.port := by
  have asked (probe : Option Probe) :
      ((probe.map Probe.toJson).bind (Json.get? "httpGet")).bind (Json.naturalUnder? "port") =
        probe.map Probe.port := by
    cases probe with
    | none => rfl
    | some p => exact p.port_toJson
  have readiness : probePort? "readinessProbe" c.toJson = c.readiness.map Probe.port := by
    rw [probePort?, Container.toJson, Json.get?_ofFields (by simp)]
    exact asked c.readiness
  have liveness : probePort? "livenessProbe" c.toJson = c.liveness.map Probe.port := by
    rw [probePort?, Container.toJson, Json.get?_ofFields (by simp)]
    exact asked c.liveness
  rw [probesOf, readiness, liveness, List.map_append, Option.toList_map, Option.toList_map]

theorem Mount.volume_toJson (m : Mount) : m.toJson.textUnder? "name" = some m.volume := by
  rw [Json.textUnder?, toJson, Json.get?_ofFields (by simp)]
  rfl

theorem Mount.path_toJson (m : Mount) : m.toJson.textUnder? "mountPath" = some m.path := by
  rw [Json.textUnder?, toJson, Json.get?_ofFields (by simp)]
  rfl

theorem Volume.name_toJson (v : Volume) : v.toJson.textUnder? "name" = some v.name := by
  obtain ⟨name, source⟩ := v
  cases source <;> rfl

namespace Manifest

def pod? (m : Manifest) : Option Json := m.spec.bind (·.at? ["template", "spec"])

def podLabels (m : Manifest) : List (String × Json) :=
  ((m.spec.bind (·.at? ["template", "metadata", "labels"])).bind Json.entries?).getD []

def account? (m : Manifest) : Option String := m.pod?.bind (Json.textUnder? "serviceAccountName")

def volumes (m : Manifest) : List Json := (m.pod?.map (Json.itemsUnder "volumes")).getD []

def probePorts (m : Manifest) : List Nat := m.containers.flatMap probesOf

def servicePorts (m : Manifest) : List Json := (m.spec.map (Json.itemsUnder "ports")).getD []

theorem containers_eq (m : Manifest) :
    m.containers = (m.pod?.map (Json.itemsUnder "containers")).getD [] := by
  have path (spec : Json) : spec.at? ["template", "spec", "containers"] =
      (spec.at? ["template", "spec"]).bind (Json.at? ["containers"]) :=
    Json.at?_append ["template", "spec"] ["containers"] spec
  have read : m.spec.bind (·.at? ["template", "spec", "containers"]) =
      m.pod?.bind (Json.at? ["containers"]) := by
    simp only [pod?, path, Option.bind_assoc]
  rw [containers, read]
  cases m.pod? with
  | none => rfl
  | some pod => simp [Json.at?, Json.itemsUnder]

/-- The pods of an object: whose they are and what runs in them. -/
structure Runs (m : Manifest) (component : String) (pod : PodSpec) : Prop where
  labels : m.podLabels = [(nameLabel, .text component)]
  pod : m.pod? = some pod.toJson

section

variable (name space component : String) (replicas : Nat) (pod : PodSpec)

theorem runs_daemonSet : (daemonSet name space component pod).Runs component pod := ⟨rfl, rfl⟩

theorem runs_deployment : (deployment name space component replicas pod).Runs component pod :=
  ⟨rfl, rfl⟩

end

section

variable {m : Manifest} {component : String} {pod : PodSpec}

theorem Runs.annotate (runs : m.Runs component pod) (key value : String) :
    (m.annotate key value).Runs component pod := ⟨runs.labels, runs.pod⟩

theorem Runs.account (runs : m.Runs component pod) : m.account? = some pod.serviceAccount := by
  rw [account?, runs.pod, Option.bind_some, Json.textUnder?, PodSpec.toJson,
    Json.get?_ofFields (by simp)]
  rfl

theorem Runs.volumes (runs : m.Runs component pod) :
    m.volumes = pod.volumes.map Volume.toJson := by
  rw [Manifest.volumes, runs.pod, Option.map_some, Json.itemsUnder, PodSpec.toJson,
    Json.get?_ofFields (by simp)]
  rfl

theorem Runs.containers (runs : m.Runs component pod) :
    m.containers = [pod.container.toJson] := by
  rw [containers_eq, runs.pod, Option.map_some, Json.itemsUnder, PodSpec.toJson,
    Json.get?_ofFields (by simp)]
  rfl

theorem Runs.probePorts (runs : m.Runs component pod) :
    m.probePorts =
      (pod.container.readiness.toList ++ pod.container.liveness.toList).map Probe.port := by
  rw [Manifest.probePorts, runs.containers, List.flatMap_singleton, probesOf_toJson]

end

end Manifest

namespace Pass

open Manifest

theorem pod?_stamped {hash : String} {m : Manifest} (fresh : m.Fresh) :
    (stamped hash m).pod? = m.pod? := by
  cases workload : m.isWorkload with
  | false => rw [stamped_of_other workload]
  | true =>
    obtain ⟨path, found, bare⟩ := bare_of_fresh fresh workload
    obtain ⟨given, template, -, -⟩ := templatePath_eq_ok.mp found
    rw [stamped_of_workload workload found bare]
    simp [pod?, withSpec, given, Json.at?, Json.get?, Json.entries?, template,
      TemplatePath.withAnnotations, lookup_put_self, lookup_put_of_ne]

theorem podLabels_stamped {hash : String} {m : Manifest} (fresh : m.Fresh) :
    (stamped hash m).podLabels = m.podLabels := by
  cases workload : m.isWorkload with
  | false => rw [stamped_of_other workload]
  | true =>
    obtain ⟨path, found, bare⟩ := bare_of_fresh fresh workload
    obtain ⟨given, template, outer, -⟩ := templatePath_eq_ok.mp found
    rw [stamped_of_workload workload found bare]
    have labels : m.podLabels = ((lookup "labels" path.metadata).bind Json.entries?).getD [] := by
      rcases objectUnder_eq_ok outer with metadata | ⟨absent, nothing⟩
      · simp [podLabels, given, Json.at?, Json.get?, Json.entries?, template, metadata]
      · simp [podLabels, given, Json.at?, Json.get?, Json.entries?, template, absent, nothing,
          lookup]
    rw [labels]
    simp [podLabels, withSpec, Json.at?, Json.get?, Json.entries?, TemplatePath.withAnnotations,
      lookup_put_self, lookup_put_of_ne]

section

variable {hash : String} {m : Manifest}

theorem account?_stamped (fresh : m.Fresh) : (stamped hash m).account? = m.account? := by
  rw [account?, account?, pod?_stamped fresh]

theorem volumes_stamped (fresh : m.Fresh) : (stamped hash m).volumes = m.volumes := by
  rw [Manifest.volumes, Manifest.volumes, pod?_stamped fresh]

theorem containers_stamped (fresh : m.Fresh) : (stamped hash m).containers = m.containers := by
  rw [containers_eq, containers_eq, pod?_stamped fresh]

theorem fields_stamped (fresh : m.Fresh) : (stamped hash m).fields = m.fields := by
  rcases stamped_of_fresh fresh with same | ⟨spec, same⟩
  · rw [same]
  · rw [same]
    rfl

theorem data_stamped (fresh : m.Fresh) : (stamped hash m).data = m.data := by
  rcases stamped_of_fresh fresh with same | ⟨spec, same⟩
  · rw [same]
  · rw [same]
    rfl

end

end Pass
end ClusterNet
