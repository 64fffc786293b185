import ClusterNet.Proofs.Homes
import ClusterNet.Proofs.Pods
import ClusterNet.Proofs.Records

/- Which pods a service reaches. A service reaches all pods of its component in its namespace, as
   pods bear no other label than that of their component. They serve its port, with one exception:
   the service of the admission controller of Multus reaches the daemon of Multus as well, which
   serves no port. -/
namespace ClusterNet

namespace Manifest

def wantedLabels (m : Manifest) : List (String × Json) :=
  ((m.spec.bind (Json.get? "selector")).bind Json.entries?).getD []

def isService (m : Manifest) : Bool := m.kind = "Service"

def podPorts (m : Manifest) : List Nat := m.containers.flatMap portsOf

structure Selects (service workload : Manifest) : Prop where
  space : service.metadata.namespaceName = workload.metadata.namespaceName
  labels : ∀ label ∈ service.wantedLabels, label ∈ workload.podLabels

/-- The pods declare every port that the service sends requests to. -/
def Serves (workload service : Manifest) : Prop :=
  ∀ port ∈ service.servicePorts, ∃ number ∈ workload.podPorts,
    port.naturalUnder? "targetPort" = some number

section

variable {m : Manifest} {name space component : String} {port : ServicePort} {pod : PodSpec}

theorem Runs.podPorts (runs : m.Runs component pod) :
    m.podPorts = pod.container.ports.map ContainerPort.number := by
  rw [Manifest.podPorts, runs.containers, List.flatMap_singleton, portsOf_toJson]

theorem serves_service_iff (runs : m.Runs component pod) :
    m.Serves (service name space component port) ↔
      port.target ∈ pod.container.ports.map ContainerPort.number := by
  have listed : (service name space component port).servicePorts = [port.toJson] := rfl
  have target : port.toJson.naturalUnder? "targetPort" = some port.target := rfl
  rw [Serves, listed, List.forall_mem_singleton, runs.podPorts, target]
  simp only [Option.some.injEq, exists_eq_right']

theorem selects_of_runs (runs : m.Runs component pod)
    (home : m.metadata.namespaceName = some space) :
    Selects (service name space component port) m where
  space := home.symm
  labels := by
    rw [runs.labels]
    exact fun _ member => member

end
end Manifest

open Manifest

def Rendering.services (a : Rendering) : List Manifest := a.objects.filter isService

namespace KubeProxy

theorem serves_of_render {r : Release} {s : Spec} {a : Rendering} (run : render r s = .ok a) :
    ∀ svc ∈ a.services, ∀ w ∈ a.workloads, w.Serves svc := by
  obtain ⟨_, _, _, listed, -⟩ := parts_of_render run
  have services : a.services =
      [.service "kube-proxy-metrics" namespaceName provider
        ⟨"metrics", metricsPort, metricsPort⟩] := by
    rw [Rendering.services, listed]
    rfl
  obtain ⟨p, -, -, workloads, -⟩ := workloads_of_render run
  rw [services, workloads]
  simp only [List.forall_mem_singleton, serves_service_iff (runs_daemonSet ..)]
  exact List.mem_singleton.mpr rfl

end KubeProxy

namespace NodeIdentity

theorem serves_of_render {r : Release} {s : Spec} {facts : Facts} {a : Rendering}
    (run : render r s facts = .ok a) : ∀ svc ∈ a.services, ∀ w ∈ a.workloads, w.Serves svc := by
  obtain ⟨port, listed, -⟩ := parts_of_render run
  have registration : (registration facts.webhook).1.filter isService = [] := by
    unfold NodeIdentity.registration
    split
    · split <;> rfl
    · rfl
  have services : a.services =
      [.service accountName namespaceName provider ⟨"webhook", servicePort, port.toNat⟩] := by
    rw [Rendering.services, listed, List.filter_append, registration]
    rfl
  have workloads : a.workloads =
      [.daemonSet "network-node-identity" namespaceName provider (pod r port.toNat)] := by
    rw [Rendering.workloads, listed, List.filter_append, registration_without_workloads]
    rfl
  rw [services, workloads]
  simp only [List.forall_mem_singleton, serves_service_iff (runs_daemonSet ..)]
  exact List.mem_singleton.mpr rfl

end NodeIdentity

namespace Multus

def admissionService : Manifest :=
  .service "multus-admission-controller" namespaceName provider ⟨"webhook", 443, admissionPort⟩

def daemonIdentity : Identity := ⟨"DaemonSet", some namespaceName, "multus"⟩

theorem services_of_render {r : Release} {s : Spec} {a : Rendering} (run : render r s = .ok a) :
    a.services = if hasAdmission r then [admissionService] else [] := by
  obtain ⟨configs, -, listed, -⟩ := parts_of_render run
  have definitions : (configs.map fun n => definition n.1 n.2).filter isService = [] := by
    simp only [List.filter_eq_nil_iff, List.forall_mem_map]
    exact fun _ _ => Bool.false_ne_true
  rw [Rendering.services, listed, List.filter_append, List.filter_append, definitions,
    List.append_nil, admissionObjects]
  split <;> rfl

theorem admission_serves (r : Release) : (admission r).Serves admissionService :=
  (serves_service_iff (runs_deployment ..)).mpr (List.mem_singleton.mpr rfl)

theorem daemon_serves_not (r : Release) : ¬(daemon r).Serves admissionService := by
  intro serves
  cases (serves_service_iff (runs_daemonSet ..)).mp serves

theorem daemon_selected (r : Release) : Selects admissionService (daemon r) :=
  selects_of_runs (runs_daemonSet ..) rfl

theorem serves_iff_of_render {r : Release} {s : Spec} {a : Rendering} (run : render r s = .ok a) :
    ∀ svc ∈ a.services, ∀ w ∈ a.workloads, w.Serves svc ↔ w.identity ≠ daemonIdentity := by
  rw [services_of_render run, workloads_of_render run]
  cases hasAdmission r with
  | false =>
    intro svc absent
    cases absent
  | true =>
    simp only [↓reduceIte, List.forall_mem_singleton, List.forall_mem_cons]
    have other : (admission r).identity ≠ daemonIdentity := by
      intro same
      have kinds : "Deployment" = "DaemonSet" := congrArg Identity.kind same
      exact absurd kinds (by decide)
    constructor
    · exact iff_of_false (daemon_serves_not r) fun different => different rfl
    · exact iff_of_true (admission_serves r) other

end Multus

namespace Provider

def podKinds : List String := ["DaemonSet", "Deployment", "Service"]

section

variable {r : Release} {s : Spec} {facts : Facts} {p : Provider} {a : Rendering}

theorem home_of_podKind (run : p.render r s facts = .ok a) {m : Manifest}
    (listed : m ∈ a.objects) (kind : m.kind ∈ podKinds) :
    m.metadata.namespaceName = some p.home := by
  have apart : ∀ k ∈ podKinds, k ≠ Multus.definitionKind ∧ k ∉ clusterKinds := by decide
  obtain ⟨fixed, namespaced⟩ := apart m.kind kind
  rw [space_of_render run listed fixed, spaceFor, if_neg namespaced]

theorem kind_of_workload {m : Manifest} (workload : m.isWorkload = true) : m.kind ∈ podKinds := by
  simp only [isWorkload, Bool.or_eq_true, decide_eq_true_eq] at workload
  rcases workload with daemonSet | deployment
  · simp [podKinds, daemonSet]
  · simp [podKinds, deployment]

theorem kind_of_service {m : Manifest} (service : m.isService = true) : m.kind ∈ podKinds := by
  have kind : m.kind = "Service" := of_decide_eq_true service
  simp [podKinds, kind]

theorem multus_of_daemon (run : p.render r s facts = .ok a) {m : Manifest} (listed : m ∈ a.objects)
    (daemon : m.identity = Multus.daemonIdentity) : p = .multus := by
  have kind : m.kind = "DaemonSet" := congrArg Identity.kind daemon
  have space : m.metadata.namespaceName = some (home .multus) := congrArg Identity.space daemon
  have own := home_of_podKind run listed (by simp [podKinds, kind])
  exact home_injective (Option.some.inj (own.symm.trans space))

theorem kuryr_without_services (run : Kuryr.render r s facts = .ok a) : a.services = [] := by
  have kinds : ∀ i ∈ Kuryr.identities, i.kind ≠ "Service" := by decide
  refine List.filter_eq_nil_iff.mpr ?_
  intro m listed service
  have known := (Kuryr.identities_of_render run).subset (List.mem_map_of_mem listed)
  exact kinds _ known (of_decide_eq_true service)

theorem serves_iff_of_render (run : p.render r s facts = .ok a) {svc w : Manifest}
    (service : svc ∈ a.services) (workload : w ∈ a.workloads) :
    w.Serves svc ↔ w.identity ≠ Multus.daemonIdentity := by
  -- The identity of that daemon is in the namespace of Multus, where no other component renders.
  have others (serves : p ≠ .multus → w.Serves svc) (other : p ≠ .multus) :
      w.Serves svc ↔ w.identity ≠ Multus.daemonIdentity := by
    refine iff_of_true (serves other) fun daemon => other ?_
    exact multus_of_daemon run (List.mem_filter.mp workload).1 daemon
  cases p with
  | kuryr =>
    rw [kuryr_without_services run] at service
    cases service
  | kubeProxy => exact others (fun _ => KubeProxy.serves_of_render run svc service w workload) nofun
  | multus => exact Multus.serves_iff_of_render run svc service w workload
  | nodeIdentity =>
    exact others (fun _ => NodeIdentity.serves_of_render run svc service w workload) nofun

/-- The one service that reaches pods which do not serve it. -/
theorem admission_of_failure (run : p.render r s facts = .ok a) {svc w : Manifest}
    (service : svc ∈ a.services) (workload : w ∈ a.workloads) (fails : ¬w.Serves svc) :
    p = .multus ∧ Multus.hasAdmission r = true := by
  have daemon := not_not.mp (mt (serves_iff_of_render run service workload).mpr fails)
  have multus := multus_of_daemon run (List.mem_filter.mp workload).1 daemon
  refine ⟨multus, ?_⟩
  subst multus
  rw [Multus.services_of_render run] at service
  split at service
  · assumption
  · cases service

end

end Provider

namespace Pass

section

variable {hash : String} {m : Manifest}

theorem serves_stamped_iff (fresh : m.Fresh) (svc : Manifest) :
    (stamped hash m).Serves svc ↔ m.Serves svc := by
  rw [Serves, Serves, podPorts, podPorts, containers_stamped fresh]

theorem selects_stamped_iff (fresh : m.Fresh) (svc : Manifest) :
    Selects svc (stamped hash m) ↔ Selects svc m := by
  have space : (stamped hash m).metadata.namespaceName = m.metadata.namespaceName :=
    congrArg Identity.space (identity_stamped fresh)
  have borne : (stamped hash m).podLabels = m.podLabels := podLabels_stamped fresh
  constructor
  · rintro ⟨home, labels⟩
    exact ⟨home.trans space, borne ▸ labels⟩
  · rintro ⟨home, labels⟩
    exact ⟨home.trans space.symm, borne.symm ▸ labels⟩

end

section

variable {r : Release} {s : Spec} {facts : Facts} {providers : List Provider}
  {rendering : Provider → Rendering}

theorem service_of_applied (fresh : ∀ p ∈ providers, ∀ m ∈ (rendering p).objects, m.Fresh)
    {svc : Manifest}
    (applied : svc ∈ (outcome r s (providers.map fun p => partOf p (rendering p))).objects)
    (service : svc.isService = true) :
    ∃ p ∈ providers, svc ∈ (rendering p).services := by
  obtain ⟨p, taking, given, listed, same⟩ := source_of_applied fresh applied
  have kind : svc.kind = given.kind := same ▸ kind_stamped (fresh p taking given listed)
  have service' : given.kind = "Service" := kind ▸ of_decide_eq_true service
  have other : given.isWorkload = false := by simp [isWorkload, service']
  rw [stamped_of_other other] at same
  exact ⟨p, taking, List.mem_filter.mpr ⟨same ▸ listed, service⟩⟩

theorem workload_of_applied (fresh : ∀ p ∈ providers, ∀ m ∈ (rendering p).objects, m.Fresh)
    {w : Manifest}
    (applied : w ∈ (outcome r s (providers.map fun p => partOf p (rendering p))).objects)
    (workload : w.isWorkload = true) :
    ∃ p ∈ providers, ∃ given ∈ (rendering p).workloads, ∃ hash, w = stamped hash given := by
  obtain ⟨p, taking, given, listed, same⟩ := source_of_applied fresh applied
  have workload' : given.isWorkload = true := by
    rwa [same, isWorkload_stamped (fresh p taking given listed)] at workload
  exact ⟨p, taking, given, List.mem_filter.mpr ⟨listed, workload'⟩, _, same⟩

/-- A service and a workload that it selects are of one component. -/
theorem rendered_together (renders : ∀ p ∈ providers, p.render r s facts = .ok (rendering p))
    {svc w : Manifest}
    (service : svc ∈ (outcome r s (providers.map fun p => partOf p (rendering p))).objects)
    (isService : svc.isService = true)
    (workload : w ∈ (outcome r s (providers.map fun p => partOf p (rendering p))).objects)
    (isWorkload : w.isWorkload = true) (selects : Selects svc w) :
    ∃ p ∈ providers, svc ∈ (rendering p).services ∧
      ∃ given ∈ (rendering p).workloads, given.Fresh ∧ ∃ hash, w = stamped hash given := by
  have fresh := fun p member => Provider.fresh_of_render (renders p member)
  obtain ⟨p, taking, service⟩ := service_of_applied fresh service isService
  obtain ⟨q, taking', given, own, hash, rfl⟩ := workload_of_applied fresh workload isWorkload
  obtain ⟨listed, -⟩ := List.mem_filter.mp service
  obtain ⟨listed', isWorkload'⟩ := List.mem_filter.mp own
  have shape := fresh q taking' given listed'
  -- Both are in the namespace of their component, and those are apart.
  have space := ((selects_stamped_iff shape svc).mp selects).space
  rw [Provider.home_of_podKind (renders p taking) listed (Provider.kind_of_service isService),
    Provider.home_of_podKind (renders q taking') listed'
      (Provider.kind_of_workload isWorkload')] at space
  cases Provider.home_injective (Option.some.inj space)
  exact ⟨p, taking, service, given, own, shape, hash, rfl⟩

end

/-- A pass that renders the admission controller of Multus gives it a service that reaches more than
    the controller. -/
theorem daemon_reached {r : Release} {s : Spec} {previous : Option Spec} {facts : Facts}
    {result : Outcome} (run : reconcile r s previous facts = .ok result)
    (active : Multus.isActive result.spec = true) (shipped : Multus.hasAdmission r = true) :
    ∃ svc ∈ result.objects, svc.isService ∧ ∃ w ∈ result.objects, w.isWorkload ∧
      Selects svc w ∧ ¬w.Serves svc := by
  obtain ⟨type, rendering, -, renders, same⟩ := outcome_of_reconcile run
  have fresh := fun p member => Provider.fresh_of_render (renders p member)
  have taking : .multus ∈ Pass.active r (Provider.forType type) result.spec :=
    List.mem_filter.mpr ⟨multus_mem_forType type, active⟩
  have multus := renders .multus taking
  have service : Multus.admissionService ∈ (rendering .multus).services := by
    rw [Multus.services_of_render multus, if_pos shipped]
    exact List.mem_singleton.mpr rfl
  have daemon : Multus.daemon r ∈ (rendering .multus).workloads := by
    rw [Multus.workloads_of_render multus]
    exact List.mem_cons_self
  have shape : (Multus.daemon r).Fresh := .daemonSet ..
  rw [same]
  refine ⟨_, mem_outcome_objects fresh taking (List.mem_filter.mp service).1 rfl, rfl,
    _, applied_of_source fresh taking (List.mem_filter.mp daemon).1, ?_, ?_, ?_⟩
  · exact isWorkload_stamped shape
  · exact (selects_stamped_iff shape _).mpr (Multus.daemon_selected r)
  · exact mt (serves_stamped_iff shape _).mp (Multus.daemon_serves_not r)

/-- Whatever a service reaches serves its port, but for the daemon of Multus, and that is reached in
    just those passes that render the admission controller of Multus. -/
theorem selected_pods_serve_iff {r : Release} {s : Spec} {previous : Option Spec} {facts : Facts}
    {result : Outcome} (run : reconcile r s previous facts = .ok result) :
    (∀ svc ∈ result.objects, svc.isService → ∀ w ∈ result.objects, w.isWorkload →
      Selects svc w → (w.Serves svc ↔ w.identity ≠ Multus.daemonIdentity)) ∧
    ((∃ svc ∈ result.objects, svc.isService ∧ ∃ w ∈ result.objects, w.isWorkload ∧
      Selects svc w ∧ ¬w.Serves svc) ↔ Multus.isActive result.spec ∧ Multus.hasAdmission r) := by
  obtain ⟨type, rendering, -, renders, same⟩ := outcome_of_reconcile run
  refine ⟨?_, ?_, ?_⟩
  · intro svc service isService w workload isWorkload selects
    rw [same] at service workload
    obtain ⟨p, taking, service, given, own, shape, hash, rfl⟩ :=
      rendered_together renders service isService workload isWorkload selects
    rw [serves_stamped_iff shape, identity_stamped shape]
    exact Provider.serves_iff_of_render (renders p taking) service own
  · rintro ⟨svc, service, isService, w, workload, isWorkload, selects, fails⟩
    rw [same] at service workload
    obtain ⟨p, taking, service, given, own, shape, hash, rfl⟩ :=
      rendered_together renders service isService workload isWorkload selects
    rw [serves_stamped_iff shape] at fails
    obtain ⟨rfl, shipped⟩ := Provider.admission_of_failure (renders p taking) service own fails
    exact ⟨(List.mem_filter.mp taking).2, shipped⟩
  · rintro ⟨active, shipped⟩
    exact daemon_reached run active shipped

/-- The built-in release ships no admission controller. -/
theorem kuryrSample_services_serve :
    ∃ result, reconcile .builtIn kuryrSample none .none = .ok result ∧
      ∀ svc ∈ result.objects, svc.isService → ∀ w ∈ result.objects, w.isWorkload →
        Selects svc w → w.Serves svc := by
  obtain ⟨result, run, -⟩ := reconcile_of_check kuryrSample_accepted .none
  refine ⟨result, run, ?_⟩
  intro svc service isService w workload isWorkload selects
  by_contra fails
  obtain ⟨-, shipped⟩ := (selected_pods_serve_iff run).2.mp
    ⟨svc, service, isService, w, workload, isWorkload, selects, fails⟩
  exact absurd shipped (by decide +kernel)

theorem admission_service_reaches_daemon :
    ∃ result, reconcile (shipping "4.13.0" "admission:v1") multusSample none .none = .ok result ∧
      ∃ svc ∈ result.objects, svc.isService ∧ ∃ w ∈ result.objects, w.isWorkload ∧
        Selects svc w ∧ ¬w.Serves svc := by
  obtain ⟨result, run, same⟩ :=
    reconcile_of_check (multusSample_accepted "admission:v1" (by simp)) .none
  refine ⟨result, run, daemon_reached run ?_ ?_⟩
  · rw [same]
    decide +kernel
  · decide +kernel

end Pass
end ClusterNet
