import ClusterNet.Proofs.Homes
import ClusterNet.Proofs.Progress
import ClusterNet.Proofs.Sufficiency
import ClusterNet.Proofs.Trust

/- References between the objects of a pass. An object names others in plain text: its account, the
   subjects and the role of a binding, the configuration behind a volume, the service behind a
   webhook. Whatever is named is rendered along with it, by the same component. -/
namespace ClusterNet

namespace Manifest

def itemsOf (m : Manifest) (field : String) : List Json :=
  ((m.fields.get? field).bind Json.items?).getD []

structure BindsAccount (objects : List Manifest) (subject : Json) (space name : String) : Prop where
  isAccount : subject.textUnder? "kind" = some "ServiceAccount"
  inside : subject.textUnder? "namespace" = some space
  named : subject.textUnder? "name" = some name
  held : Holds objects ⟨"ServiceAccount", some space, name⟩

/-- The role that Kubernetes itself brings for proxies. -/
def proxierRole : String := "system:node-proxier"

structure GrantsRole (objects : List Manifest) (ref : Json) (name : String) : Prop where
  isRole : ref.textUnder? "kind" = some "ClusterRole"
  named : ref.textUnder? "name" = some name
  held : Holds objects ⟨"ClusterRole", none, name⟩ ∨ name = proxierRole

structure CallsService (objects : List Manifest) (hook service : Json) (space name : String)
    (number : Nat) : Prop where
  called : hook.at? ["clientConfig", "service"] = some service
  inside : service.textUnder? "namespace" = some space
  named : service.textUnder? "name" = some name
  through : service.naturalUnder? "port" = some number
  held : ∃ m ∈ objects, m.identity = ⟨"Service", some space, name⟩ ∧
    ∃ port ∈ m.servicePorts, port.naturalUnder? "port" = some number

structure MountsVolumes (containers volumes : List Json) (names : List String) : Prop where
  named : volumes.map (Json.textUnder? "name") = names.map some
  distinct : names.Nodup
  mounts : ∀ c ∈ containers, ∀ mount ∈ mountsOf c,
    ∃ name ∈ names, mount.textUnder? "name" = some name

/-- What stands behind the volumes of one kind is in the namespace of the pods. -/
def VolumesHeld (objects : List Manifest) (space : Option String) (volumes : List Json)
    (kind source key : String) : Prop :=
  ∀ v ∈ volumes, ∀ given, v.get? source = some given →
    ∃ name, given.textUnder? key = some name ∧ Holds objects ⟨kind, space, name⟩

/-- All that an object refers to is among the objects. -/
structure Linked (objects : List Manifest) (m : Manifest) : Prop where
  account : m.isWorkload → ∃ name, m.account? = some name ∧
    Holds objects ⟨"ServiceAccount", m.metadata.namespaceName, name⟩
  subjects : ∀ subject ∈ m.itemsOf "subjects", ∃ space name, BindsAccount objects subject space name
  role : ∀ ref, m.fields.get? "roleRef" = some ref → ∃ name, GrantsRole objects ref name
  mounts : m.isWorkload → ∃ names, MountsVolumes m.containers m.volumes names
  configMaps : m.isWorkload →
    VolumesHeld objects m.metadata.namespaceName m.volumes "ConfigMap" "configMap" "name"
  secrets : m.isWorkload → m.component? = some Kuryr.provider →
    VolumesHeld objects m.metadata.namespaceName m.volumes "Secret" "secret" "secretName"
  webhooks : ∀ hook ∈ m.itemsOf "webhooks", ∃ service space name number,
    CallsService objects hook service space name number

section

variable {objects : List Manifest} {m : Manifest}

/-- The fields in which objects other than workloads refer to others are absent. -/
structure Unbound (m : Manifest) : Prop where
  subjects : m.fields.get? "subjects" = none
  role : m.fields.get? "roleRef" = none
  webhooks : m.fields.get? "webhooks" = none

theorem linked_of_other (other : m.isWorkload = false) (unbound : m.Unbound) :
    Linked objects m where
  account workload := absurd workload (by simp [other])
  subjects := by
    rw [itemsOf, unbound.subjects]
    exact nofun
  role := by
    rw [unbound.role]
    exact nofun
  mounts workload := absurd workload (by simp [other])
  configMaps workload := absurd workload (by simp [other])
  secrets workload := absurd workload (by simp [other])
  webhooks := by
    rw [itemsOf, unbound.webhooks]
    exact nofun

section

variable (name space component : String)

theorem linked_namespaceObject : Linked objects (namespaceObject name component) :=
  linked_of_other rfl ⟨rfl, rfl, rfl⟩

theorem linked_serviceAccount : Linked objects (serviceAccount name space component) :=
  linked_of_other rfl ⟨rfl, rfl, rfl⟩

theorem linked_clusterRole (rules : List Rule) :
    Linked objects (clusterRole name component rules) :=
  linked_of_other rfl ⟨rfl, rfl, rfl⟩

theorem linked_configMap (file content : String) :
    Linked objects (configMap name space component file content) :=
  linked_of_other rfl ⟨rfl, rfl, rfl⟩

theorem linked_secret (file content : String) :
    Linked objects (secret name space component file content) :=
  linked_of_other rfl ⟨rfl, rfl, rfl⟩

theorem linked_service (port : ServicePort) :
    Linked objects (service name space component port) :=
  linked_of_other rfl ⟨rfl, rfl, rfl⟩

theorem linked_attachmentDefinition (config : String) :
    Linked objects (attachmentDefinition name space component config) :=
  linked_of_other rfl ⟨rfl, rfl, rfl⟩

end

theorem linked_binding {name component role account space : String}
    (held : Holds objects ⟨"ServiceAccount", some space, account⟩)
    (granted : Holds objects ⟨"ClusterRole", none, role⟩ ∨ role = proxierRole) :
    Linked objects (clusterRoleBinding name component role account space) where
  account := nofun
  subjects := by
    intro subject listed
    rw [List.mem_singleton.mp listed]
    exact ⟨space, account, rfl, rfl, rfl, held⟩
  role := by
    rintro ref ⟨⟩
    exact ⟨role, rfl, rfl, granted⟩
  mounts := nofun
  configMaps := nofun
  secrets := nofun
  webhooks := nofun

theorem Linked.annotate (linked : Linked objects m) (key value : String) :
    Linked objects (m.annotate key value) :=
  ⟨linked.account, linked.subjects, linked.role, linked.mounts, linked.configMaps, linked.secrets,
    linked.webhooks⟩

end

end Manifest

open Manifest

def VolumeSource.configMap? : VolumeSource → Option String
  | .configMap name => some name
  | .secret _ | .hostPath _ => none

def VolumeSource.secret? : VolumeSource → Option String
  | .secret name => some name
  | .configMap _ | .hostPath _ => none

namespace Volume

theorem configMap_toJson (v : Volume) :
    v.toJson.get? "configMap" =
      v.source.configMap?.map fun name => .object [("name", .text name)] := by
  obtain ⟨name, source⟩ := v
  cases source <;> rfl

theorem secret_toJson (v : Volume) :
    v.toJson.get? "secret" =
      v.source.secret?.map fun name => .object [("secretName", .text name)] := by
  obtain ⟨name, source⟩ := v
  cases source <;> rfl

end Volume

namespace PodSpec

structure Mounted (pod : PodSpec) : Prop where
  distinct : (pod.volumes.map Volume.name).Nodup
  mounts : ∀ mount ∈ pod.container.mounts, mount.volume ∈ pod.volumes.map Volume.name

def configMaps (pod : PodSpec) : List String := pod.volumes.filterMap (·.source.configMap?)

def secrets (pod : PodSpec) : List String := pod.volumes.filterMap (·.source.secret?)

end PodSpec

namespace Manifest

section

variable {objects : List Manifest} {m : Manifest} {component : String} {pod : PodSpec}

theorem mountsVolumes_of_runs (runs : m.Runs component pod) (mounted : pod.Mounted) :
    MountsVolumes m.containers m.volumes (pod.volumes.map Volume.name) where
  named := by
    rw [runs.volumes, List.map_map, List.map_map]
    exact List.map_congr_left fun v _ => Volume.name_toJson v
  distinct := mounted.distinct
  mounts := by
    rw [runs.containers, List.forall_mem_singleton, mountsOf_toJson, List.forall_mem_map]
    intro mount listed
    exact ⟨mount.volume, mounted.mounts mount listed, mount.volume_toJson⟩

theorem volumesHeld_of_runs (runs : m.Runs component pod) {kind source key : String}
    {read : VolumeSource → Option String}
    (written : ∀ v : Volume,
      v.toJson.get? source = (read v.source).map fun name => .object [(key, .text name)])
    {space : Option String}
    (held : ∀ name ∈ pod.volumes.filterMap (read ·.source), Holds objects ⟨kind, space, name⟩) :
    VolumesHeld objects space m.volumes kind source key := by
  intro v listed given found
  rw [runs.volumes] at listed
  obtain ⟨volume, own, rfl⟩ := List.mem_map.mp listed
  rw [written] at found
  obtain ⟨name, same, rfl⟩ := Option.map_eq_some_iff.mp found
  refine ⟨name, ?_, held name (List.mem_filterMap.mpr ⟨volume, own, same⟩)⟩
  simp [Json.textUnder?, Json.get?, Json.entries?, lookup, Json.text?]

structure Provided (objects : List Manifest) (space component : String) (pod : PodSpec) : Prop where
  mounted : pod.Mounted
  account : Holds objects ⟨"ServiceAccount", some space, pod.serviceAccount⟩
  configMaps : ∀ name ∈ pod.configMaps, Holds objects ⟨"ConfigMap", some space, name⟩
  secrets : component = Kuryr.provider →
    ∀ name ∈ pod.secrets, Holds objects ⟨"Secret", some space, name⟩

variable {space : String}

theorem linked_workload (runs : m.Runs component pod) (unbound : m.Unbound)
    (home : m.metadata.namespaceName = some space) (own : m.component? = some component)
    (provided : Provided objects space component pod) : Linked objects m where
  account _ := ⟨pod.serviceAccount, runs.account, home ▸ provided.account⟩
  subjects := by
    rw [itemsOf, unbound.subjects]
    exact nofun
  role := by
    rw [unbound.role]
    exact nofun
  mounts _ := ⟨_, mountsVolumes_of_runs runs provided.mounted⟩
  configMaps _ := home ▸ volumesHeld_of_runs runs Volume.configMap_toJson provided.configMaps
  secrets _ kuryr := by
    have same : component = Kuryr.provider := Option.some.inj (own.symm.trans kuryr)
    rw [home]
    exact volumesHeld_of_runs runs Volume.secret_toJson (provided.secrets same)
  webhooks := by
    rw [itemsOf, unbound.webhooks]
    exact nofun

theorem linked_daemonSet (name : String) (provided : Provided objects space component pod) :
    Linked objects (daemonSet name space component pod) :=
  linked_workload (runs_daemonSet ..) ⟨rfl, rfl, rfl⟩ rfl (by simp [daemonSet]) provided

theorem linked_deployment (name : String) (replicas : Nat)
    (provided : Provided objects space component pod) :
    Linked objects (deployment name space component replicas pod) :=
  linked_workload (runs_deployment ..) ⟨rfl, rfl, rfl⟩ rfl (by simp [deployment]) provided

end

end Manifest

namespace Kuryr

theorem daemonPod_mounted (r : Release) (s : Settings) (hasCa : Bool) :
    (daemonPod r s hasCa).Mounted := by
  constructor
  · cases hasCa <;> simp [daemonPod, volumes]
  · cases hasCa <;> simp [daemonPod, volumes, mounts, Mount.writable, Mount.fixed]

theorem controllerPod_mounted (r : Release) (s : Settings) (hasCa : Bool) :
    (controllerPod r s hasCa).Mounted := by
  constructor
  · cases hasCa <;> simp [controllerPod, volumes]
  · cases hasCa <;> simp [controllerPod, volumes, mounts, Mount.writable, Mount.fixed]

def mountedMaps (hasCa : Bool) : List String :=
  configMapName :: if hasCa then [caMapName] else []

theorem configMaps_daemonPod (r : Release) (s : Settings) (hasCa : Bool) :
    (daemonPod r s hasCa).configMaps = mountedMaps hasCa := by
  cases hasCa <;> rfl

theorem configMaps_controllerPod (r : Release) (s : Settings) (hasCa : Bool) :
    (controllerPod r s hasCa).configMaps = mountedMaps hasCa := by
  cases hasCa <;> rfl

theorem secrets_daemonPod (r : Release) (s : Settings) (hasCa : Bool) :
    (daemonPod r s hasCa).secrets = [secretName] := by
  cases hasCa <;> rfl

theorem secrets_controllerPod (r : Release) (s : Settings) (hasCa : Bool) :
    (controllerPod r s hasCa).secrets = [secretName] := by
  cases hasCa <;> rfl

section

variable {objects : List Manifest}

theorem linked_holdBack {m : Manifest} (linked : Linked objects m) (hold : Bool) :
    Linked objects (holdBack hold m) := by
  cases hold with
  | false => exact linked
  | true => exact linked.annotate _ _

theorem linked_baseObjects (base : ∀ i ∈ identities.take 4, Holds objects i) :
    ∀ m ∈ baseObjects, Linked objects m := by
  have account := base ⟨"ServiceAccount", some namespaceName, accountName⟩ (by decide)
  have role := base ⟨"ClusterRole", none, "lattice-kuryr"⟩ (by decide)
  simp only [baseObjects, List.forall_mem_cons]
  exact ⟨linked_namespaceObject .., linked_serviceAccount .., linked_clusterRole ..,
    linked_binding account (.inl role), List.forall_mem_nil _⟩

theorem linked_workloads {r : Release} {s : Settings} {facts : Facts} {f : OpenStackFacts}
    {api : ApiServer} (account : Holds objects ⟨"ServiceAccount", some namespaceName, accountName⟩)
    (configMaps : ∀ name ∈ mountedMaps f.caBundle.isSome,
      Holds objects ⟨"ConfigMap", some namespaceName, name⟩)
    (secret : Holds objects ⟨"Secret", some namespaceName, secretName⟩) :
    ∀ m ∈ workloads r s facts f api, Linked objects m := by
  have secrets : ∀ name ∈ [secretName], Holds objects ⟨"Secret", some namespaceName, name⟩ :=
    List.forall_mem_singleton.mpr secret
  have daemon : Provided objects namespaceName provider (daemonPod r s f.caBundle.isSome) := by
    refine ⟨daemonPod_mounted .., account, ?_, fun _ => ?_⟩
    · rwa [configMaps_daemonPod]
    · rwa [secrets_daemonPod]
  have controller :
      Provided objects namespaceName provider (controllerPod r s f.caBundle.isSome) := by
    refine ⟨controllerPod_mounted .., account, ?_, fun _ => ?_⟩
    · rwa [configMaps_controllerPod]
    · rwa [secrets_controllerPod]
  simp only [workloads, List.forall_mem_append, List.forall_mem_cons]
  refine ⟨⟨⟨linked_secret .., linked_configMap .., List.forall_mem_nil _⟩, ?_⟩,
    linked_holdBack (linked_daemonSet _ daemon) _,
    linked_holdBack (linked_deployment _ _ controller) _, List.forall_mem_nil _⟩
  intro m member
  obtain ⟨ca, -, rfl⟩ := Option.map_eq_some_iff.mp (Option.mem_toList.mp member)
  exact linked_configMap ..

end

theorem linked_of_render {r : Release} {s : Spec} {facts : Facts} {a : Rendering}
    (run : render r s facts = .ok a) : ∀ m ∈ a.objects, Linked a.objects m := by
  have known := identities_under run
  obtain ⟨settings, -, ⟨f, api, cloud, server, listed, -⟩ | ⟨missing, listed, -⟩⟩ :=
    parts_of_render run
  · -- Of a complete rendering only the map of the authority may be missing. It is behind a volume
    -- in just those passes that render it.
    have held : ∀ i ∈ if f.caBundle.isSome then identities else identities.eraseIdx 6,
        Holds a.objects i := by
      intro i given
      unfold Holds
      rwa [known, identitiesUnder, cloud, server]
    have always : ∀ i ∈ identities.eraseIdx 6, Holds a.objects i := by
      intro i given
      refine held i ?_
      split
      · exact List.mem_of_mem_eraseIdx given
      · exact given
    have base : ∀ i ∈ identities.take 4, Holds a.objects i := by
      have early : (identities.take 4).Sublist (identities.eraseIdx 6) := by decide
      intro i given
      exact always i (early.subset given)
    have maps : ∀ name ∈ mountedMaps f.caBundle.isSome,
        Holds a.objects ⟨"ConfigMap", some namespaceName, name⟩ := by
      intro name given
      refine held _ ?_
      revert name
      cases f.caBundle.isSome <;> decide
    have each : ∀ m ∈ baseObjects ++ workloads r settings facts f api, Linked a.objects m := by
      rw [List.forall_mem_append]
      exact ⟨linked_baseObjects base,
        linked_workloads (always _ (by decide)) maps (always _ (by decide))⟩
    intro m member
    exact each m (listed ▸ member)
  · have base : ∀ i ∈ identities.take 4, Holds a.objects i := by
      intro i given
      unfold Holds
      rwa [known, identitiesUnder_of_missing missing]
    intro m member
    exact linked_baseObjects base m (listed ▸ member)

end Kuryr

namespace KubeProxy

theorem pod_mounted (r : Release) (args : List String) : (pod r args).Mounted := by
  constructor
  · simp [pod]
  · simp [pod, Mount.writable, Mount.fixed]

theorem linked_of_render {r : Release} {s : Spec} {a : Rendering} (run : render r s = .ok a) :
    ∀ m ∈ a.objects, Linked a.objects m := by
  have held : ∀ i ∈ identities, Holds a.objects i := by
    intro i known
    unfold Holds
    rwa [identities_of_render run]
  have account := held ⟨"ServiceAccount", some namespaceName, accountName⟩ (by decide)
  have configMap := held ⟨"ConfigMap", some namespaceName, configMapName⟩ (by decide)
  obtain ⟨p, config, -, listed, -⟩ := parts_of_render run
  have provided : Provided a.objects namespaceName provider (pod r (arguments p)) :=
    ⟨pod_mounted .., account, List.forall_mem_singleton.mpr configMap, nofun⟩
  have each : ∀ m ∈ objects r config (arguments p), Linked a.objects m := by
    simp only [objects, List.forall_mem_cons]
    exact ⟨linked_namespaceObject .., linked_serviceAccount .., linked_binding account (.inr rfl),
      linked_configMap .., linked_daemonSet _ provided, linked_service .., List.forall_mem_nil _⟩
  intro m member
  exact each m (listed ▸ member)

end KubeProxy

namespace Multus

theorem daemonPod_mounted (r : Release) : (daemonPod r).Mounted := by
  constructor
  · simp [daemonPod]
  · simp [daemonPod, Mount.writable, Mount.fixed]

theorem admissionPod_mounted (r : Release) : (admissionPod r).Mounted := by
  constructor
  · simp [admissionPod]
  · simp [admissionPod, Mount.fixed]

section

variable {objects : List Manifest}

theorem linked_baseObjects {r : Release} (base : ∀ i ∈ identities.take 6, Holds objects i) :
    ∀ m ∈ baseObjects r, Linked objects m := by
  have account := base ⟨"ServiceAccount", some namespaceName, accountName⟩ (by decide)
  have role := base ⟨"ClusterRole", none, "lattice-multus"⟩ (by decide)
  have configMap := base ⟨"ConfigMap", some namespaceName, configMapName⟩ (by decide)
  have provided : Provided objects namespaceName provider (daemonPod r) :=
    ⟨daemonPod_mounted r, account, List.forall_mem_singleton.mpr configMap, nofun⟩
  simp only [baseObjects, List.forall_mem_cons]
  exact ⟨linked_namespaceObject .., linked_serviceAccount .., linked_clusterRole ..,
    linked_binding account (.inl role), linked_configMap .., linked_daemonSet _ provided,
      List.forall_mem_nil _⟩

theorem linked_admissionObjects {r : Release}
    (account : Holds objects ⟨"ServiceAccount", some namespaceName, accountName⟩) :
    ∀ m ∈ admissionObjects r, Linked objects m := by
  have provided : Provided objects namespaceName provider (admissionPod r) :=
    ⟨admissionPod_mounted r, account, nofun, nofun⟩
  unfold admissionObjects
  split
  · simp only [List.forall_mem_cons]
    exact ⟨linked_deployment _ _ provided, linked_service .., List.forall_mem_nil _⟩
  · exact List.forall_mem_nil _

end

theorem linked_of_render {r : Release} {s : Spec} {a : Rendering} (run : render r s = .ok a) :
    ∀ m ∈ a.objects, Linked a.objects m := by
  obtain ⟨configs, -, listed, -⟩ := parts_of_render run
  have base : ∀ i ∈ identities.take 6, Holds a.objects i := by
    intro i given
    unfold Holds
    rw [listed, List.map_append, List.map_append]
    exact List.mem_append_left _ (List.mem_append_left _ given)
  have each : ∀ m ∈ baseObjects r ++ admissionObjects r ++
      configs.map (fun n => definition n.1 n.2), Linked a.objects m := by
    simp only [List.forall_mem_append, List.forall_mem_map]
    exact ⟨⟨linked_baseObjects base, linked_admissionObjects (base _ (by decide))⟩,
      fun _ _ => linked_attachmentDefinition ..⟩
  intro m member
  exact each m (listed ▸ member)

end Multus

namespace NodeIdentity

theorem pod_mounted (r : Release) (port : Nat) : (pod r port).Mounted := by
  constructor
  · simp [pod]
  · simp [pod, Mount.fixed]

section

variable {objects : List Manifest}

theorem linked_objects {r : Release} {port : Nat}
    (base : ∀ i ∈ identities.take 6, Holds objects i) :
    ∀ m ∈ NodeIdentity.objects r port, Linked objects m := by
  have account := base ⟨"ServiceAccount", some namespaceName, accountName⟩ (by decide)
  have role := base ⟨"ClusterRole", none, "lattice-network-node-identity"⟩ (by decide)
  have provided : Provided objects namespaceName provider (pod r port) :=
    ⟨pod_mounted .., account, nofun, nofun⟩
  simp only [NodeIdentity.objects, List.forall_mem_cons]
  exact ⟨linked_namespaceObject .., linked_serviceAccount .., linked_clusterRole ..,
    linked_binding account (.inl role), linked_daemonSet _ provided, linked_service ..,
      List.forall_mem_nil _⟩

theorem linked_webhook (ca : String) {port : Nat}
    (service : .service accountName namespaceName provider ⟨"webhook", servicePort, port⟩ ∈
      objects) :
    Linked objects (.validatingWebhook "network-node-identity" provider (webhook ca)) where
  account := nofun
  subjects := nofun
  role := nofun
  mounts := nofun
  configMaps := nofun
  secrets := nofun
  webhooks := by
    intro hook listed
    rw [List.mem_singleton.mp listed]
    exact ⟨_, namespaceName, accountName, servicePort, rfl, rfl, rfl, rfl, _, service, rfl, _,
      List.mem_singleton.mpr rfl, rfl⟩

theorem linked_registration {facts : WebhookFacts} {port : Nat}
    (service : .service accountName namespaceName provider ⟨"webhook", servicePort, port⟩ ∈
      objects) :
    ∀ m ∈ (registration facts).1, Linked objects m := by
  unfold registration
  split
  · next ca given =>
    have linked := linked_webhook ca service
    rw [List.forall_mem_singleton]
    split
    · exact linked
    · exact linked.annotate _ _
  · exact List.forall_mem_nil _

end

theorem linked_of_render {r : Release} {s : Spec} {facts : Facts} {a : Rendering}
    (run : render r s facts = .ok a) : ∀ m ∈ a.objects, Linked a.objects m := by
  obtain ⟨port, listed, -⟩ := parts_of_render run
  have base : ∀ i ∈ identities.take 6, Holds a.objects i := by
    intro i given
    unfold Holds
    rw [listed, List.map_append]
    exact List.mem_append_left _ given
  have service : .service accountName namespaceName provider
      ⟨"webhook", servicePort, port.toNat⟩ ∈ a.objects := by
    rw [listed]
    exact List.mem_append_left _ (by simp [NodeIdentity.objects])
  have each : ∀ m ∈ objects r port.toNat ++ (registration facts.webhook).1,
      Linked a.objects m := by
    rw [List.forall_mem_append]
    exact ⟨linked_objects base, linked_registration service⟩
  intro m member
  exact each m (listed ▸ member)

end NodeIdentity

theorem Provider.linked_of_render {r : Release} {s : Spec} {facts : Facts} {p : Provider}
    {a : Rendering} (run : p.render r s facts = .ok a) : ∀ m ∈ a.objects, Linked a.objects m := by
  cases p with
  | kuryr => exact Kuryr.linked_of_render run
  | kubeProxy => exact KubeProxy.linked_of_render run
  | multus => exact Multus.linked_of_render run
  | nodeIdentity => exact NodeIdentity.linked_of_render run

namespace Manifest

section

variable {objects others : List Manifest}

theorem VolumesHeld.mono (covers : Covers others objects) {space : Option String}
    {volumes : List Json} {kind source key : String}
    (held : VolumesHeld objects space volumes kind source key) :
    VolumesHeld others space volumes kind source key := by
  intro v listed given found
  obtain ⟨name, named, held⟩ := held v listed given found
  exact ⟨name, named, held.mono covers⟩

theorem CallsService.mono (covers : Covers others objects) {hook service : Json}
    {space name : String} {number : Nat}
    (calls : CallsService objects hook service space name number) :
    CallsService others hook service space name number := by
  obtain ⟨m, member, same, port⟩ := calls.held
  have kind : m.kind = "Service" := congrArg Identity.kind same
  have other : m.isWorkload = false := by simp [isWorkload, kind]
  exact ⟨calls.called, calls.inside, calls.named, calls.through, m, covers.same m member other,
    same, port⟩

theorem Linked.mono (covers : Covers others objects) {m : Manifest} (linked : Linked objects m) :
    Linked others m where
  account workload := by
    obtain ⟨name, named, held⟩ := linked.account workload
    exact ⟨name, named, held.mono covers⟩
  subjects subject listed := by
    obtain ⟨space, name, binds⟩ := linked.subjects subject listed
    exact ⟨space, name, binds.isAccount, binds.inside, binds.named, binds.held.mono covers⟩
  role ref given := by
    obtain ⟨name, grants⟩ := linked.role ref given
    exact ⟨name, grants.isRole, grants.named, grants.held.imp_left (·.mono covers)⟩
  mounts := linked.mounts
  configMaps workload := (linked.configMaps workload).mono covers
  secrets workload own := (linked.secrets workload own).mono covers
  webhooks hook listed := by
    obtain ⟨service, space, name, number, calls⟩ := linked.webhooks hook listed
    exact ⟨service, space, name, number, calls.mono covers⟩

end
end Manifest

namespace Pass

/-- The stamp touches nothing that refers to another object. -/
theorem linked_stamped {objects : List Manifest} {hash : String} {m : Manifest} (fresh : m.Fresh)
    (linked : Linked objects m) : Linked objects (stamped hash m) := by
  have space : (stamped hash m).metadata.namespaceName = m.metadata.namespaceName :=
    congrArg Identity.space (identity_stamped fresh)
  refine ⟨?_, ?_, ?_, ?_, ?_, ?_, ?_⟩
  · rw [isWorkload_stamped fresh, account?_stamped fresh, space]
    exact linked.account
  · rw [itemsOf, fields_stamped fresh]
    exact linked.subjects
  · rw [fields_stamped fresh]
    exact linked.role
  · rw [isWorkload_stamped fresh, containers_stamped fresh, volumes_stamped fresh]
    exact linked.mounts
  · rw [isWorkload_stamped fresh, volumes_stamped fresh, space]
    exact linked.configMaps
  · rw [isWorkload_stamped fresh, component?_stamped fresh, volumes_stamped fresh, space]
    exact linked.secrets
  · rw [itemsOf, fields_stamped fresh]
    exact linked.webhooks

section

variable {r : Release} {s : Spec} {facts : Facts} {providers : List Provider}
  {rendering : Provider → Rendering}

theorem linked_of_outcome (renders : ∀ p ∈ providers, p.render r s facts = .ok (rendering p))
    {m : Manifest}
    (applied : m ∈ (outcome r s (providers.map fun p => partOf p (rendering p))).objects) :
    Linked (outcome r s (providers.map fun p => partOf p (rendering p))).objects m := by
  have fresh := fun p member => Provider.fresh_of_render (renders p member)
  obtain ⟨p, taking, given, listed, rfl⟩ := source_of_applied fresh applied
  have linked := Provider.linked_of_render (renders p taking) given listed
  exact linked_stamped (fresh p taking given listed) (linked.mono (covers_of_outcome fresh taking))

end

theorem trust_of_reconcile {r : Release} {s : Spec} {previous : Option Spec} {facts : Facts}
    {result : Outcome} (run : reconcile r s previous facts = .ok result) {m : Manifest}
    (applied : m ∈ result.objects) {text : String} (found : m.file? Kuryr.confFile = some text) :
    ∃ settings f api, Kuryr.Configured result.spec facts text settings f api ∧
      Kuryr.Trusts result.objects (Kuryr.confSections settings f api) text := by
  obtain ⟨type, rendering, -, renders, same⟩ := outcome_of_reconcile run
  rw [same] at applied
  obtain ⟨settings, f, api, configured, mounted⟩ := trust_of_outcome renders applied found
  exact ⟨settings, f, api, configured, same ▸ mounted⟩

/-- A pass leaves no reference open: namespaces come first, what is named is there, and a file of
    certificates that Kuryr is told of is mounted, unless its name came with a value that was
    discovered. -/
theorem reconcile_closes_references {r : Release} {s : Spec} {previous : Option Spec}
    {facts : Facts} {result : Outcome} (run : reconcile r s previous facts = .ok result) :
    (∀ m ∈ result.objects, m.kind ≠ Multus.definitionKind → AfterNamespace result.objects m) ∧
    (∀ m ∈ result.objects, Linked result.objects m) ∧
    ∀ m ∈ result.objects, ∀ text, m.file? Kuryr.confFile = some text →
      ∃ settings f api, Kuryr.Configured result.spec facts text settings f api ∧
        Kuryr.Trusts result.objects (Kuryr.confSections settings f api) text := by
  obtain ⟨type, rendering, -, renders, same⟩ := outcome_of_reconcile run
  refine ⟨?_, ?_, ?_⟩
  · intro m applied fixed
    rw [same] at applied ⊢
    exact afterNamespace_of_outcome renders applied fixed
  · intro m applied
    rw [same] at applied ⊢
    exact linked_of_outcome renders applied
  · exact fun m applied text found => trust_of_reconcile run applied found

def authorityFacts : Facts :=
  { rollingFacts "4.14.0" .none true with
    openStack := (rollingFacts "4.14.0" .none true).openStack.map fun f =>
      { f with caBundle := some "authority" } }

theorem kuryrSample_references_close :
    ∃ result, reconcile .builtIn kuryrSample none authorityFacts = .ok result ∧
      (∀ m ∈ result.objects, Linked result.objects m) ∧
      ∃ m ∈ result.objects, ∃ text path, m.file? Kuryr.confFile = some text ∧
        Ini.Sets text "cafile" path ∧ Kuryr.TrustMounted result.objects path := by
  obtain ⟨result, run, -⟩ := reconcile_of_check kuryrSample_accepted authorityFacts
  obtain ⟨-, linked, trust⟩ := reconcile_closes_references run
  have conf : (reconcile .builtIn kuryrSample none authorityFacts).toOption.any
      (·.objects.any fun m => (m.file? Kuryr.confFile).isSome) = true := by
    decide +kernel
  rw [run] at conf
  obtain ⟨m, applied, found⟩ := List.any_eq_true.mp conf
  obtain ⟨text, found⟩ := Option.isSome_iff_exists.mp found
  obtain ⟨settings, f, api, ⟨-, cloud, server, rfl⟩, mounted⟩ := trust m applied text found
  obtain ⟨known, plain⟩ : f.caBundle.isSome ∧
      ∀ text ∈ api.host :: f.texts, '\n' ∉ text.toList := by
    cases cloud
    cases server
    decide
  have shown := Kuryr.conf_sets_cafile settings api known
  have oneLine := Kuryr.confSections_oneLine settings plain
  refine ⟨result, run, linked, m, applied, _, _, found, shown, ?_⟩
  refine (mounted.lines _ shown).resolve_right ?_
  rintro ⟨part, listed, carried⟩
  exact Ini.Section.not_carries_of_oneLine (oneLine part listed) _ _ carried

/-- A region whose name goes on with a setting. -/
def brokenRegion : String := "RegionOne\ncafile = /etc/ssl/other/ca.pem"

def brokenRegionFacts : Facts :=
  { rollingFacts "4.14.0" .none true with
    openStack := (rollingFacts "4.14.0" .none true).openStack.map fun f =>
      { f with region := some brokenRegion } }

/-- The configuration names a file of certificates that no map has. -/
theorem broken_region_opens_trust :
    ∃ result, reconcile .builtIn kuryrSample none brokenRegionFacts = .ok result ∧
      ∃ m ∈ result.objects, ∃ text, m.file? Kuryr.confFile = some text ∧
        Ini.Sets text "cafile" "/etc/ssl/other/ca.pem" ∧
        ¬Kuryr.TrustMounted result.objects "/etc/ssl/other/ca.pem" := by
  obtain ⟨result, run, -⟩ := reconcile_of_check kuryrSample_accepted brokenRegionFacts
  have conf : (reconcile .builtIn kuryrSample none brokenRegionFacts).toOption.any
      (·.objects.any fun m => (m.file? Kuryr.confFile).isSome) = true := by
    decide +kernel
  have unmapped : (reconcile .builtIn kuryrSample none brokenRegionFacts).toOption.all
      (·.objects.all fun m => (m.file? "ca.pem").isNone) = true := by
    decide +kernel
  rw [run] at conf unmapped
  obtain ⟨m, applied, found⟩ := List.any_eq_true.mp conf
  obtain ⟨text, found⟩ := Option.isSome_iff_exists.mp found
  obtain ⟨settings, f, api, ⟨-, cloud, -, rfl⟩, -⟩ := trust_of_reconcile run applied found
  have known : f.region = some brokenRegion := by
    cases cloud
    rfl
  obtain ⟨part, listed, set⟩ := Kuryr.region_set settings api known
  have carried : part.Carries "cafile" "/etc/ssl/other/ca.pem" := ⟨_, set, by decide⟩
  have shown := (Kuryr.conf_sets_iff (by simp [Ini.Word])).mpr ⟨part, listed, .inr carried⟩
  refine ⟨result, run, m, applied, _, found, shown, ?_⟩
  rintro ⟨directory, file, same, plain, mounted⟩
  have path : "/etc/ssl/other" ++ "/" ++ "ca.pem" = directory ++ "/" ++ file := same
  obtain ⟨-, rfl⟩ := eq_of_slash_ended (by decide) plain path
  -- No map holds a file of that name, so no workload can mount it.
  obtain ⟨w, -, -, mounts⟩ := mounted _ List.mem_cons_self
  obtain ⟨map, held, holds⟩ := mounts.held
  have absent := List.all_eq_true.mp unmapped map held
  rw [Option.isNone_iff_eq_none.mp absent] at holds
  cases holds

end Pass
end ClusterNet
