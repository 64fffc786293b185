import ClusterNet.Proofs.Containers
import ClusterNet.Proofs.Refilling

/- What the hash of a companion component records of its workloads. Everything that varies in a pod
   template can be recovered from the render data, with one exception: Multus records the image of
   its daemon and that there is an admission controller, but not that controller's image. -/
namespace ClusterNet

theorem Dict.value_unique {α : Type} {first second : List (String × α)} {a b : α}
    (key : String) (same : Dict.ofList first = Dict.ofList second)
    (once : (first.map Prod.fst).Nodup) (again : (second.map Prod.fst).Nodup)
    (left : (key, a) ∈ first) (right : (key, b) ∈ second) : a = b := by
  have found := get?_ofList_of_mem once left
  rw [same, get?_ofList_of_mem again right] at found
  exact (Option.some.inj found).symm

theorem Json.texts_injective {first second : List String}
    (same : Json.texts first = .texts second) : first = second :=
  List.map_injective_iff.mpr (fun _ _ => Json.text.inj) (Json.list.inj same)

open Manifest

def Rendering.workloads (a : Rendering) : List Manifest := a.objects.filter isWorkload

namespace KubeProxy

theorem workloads_of_render {r : Release} {s : Spec} {a : Rendering} (run : render r s = .ok a) :
    ∃ p config, s.proxy = some p ∧
      a.workloads = [.daemonSet "kube-proxy" namespaceName provider (pod r (arguments p))] ∧
      a.data = .ofList [("args", .texts (arguments p)), ("config", .text config),
        ("image", .text r.images.kubeProxy)] := by
  obtain ⟨p, config, configured, objects, data, -⟩ := parts_of_render run
  refine ⟨p, config, configured, ?_, data⟩
  rw [Rendering.workloads, objects]
  rfl

theorem workloads_recorded {r₁ r₂ : Release} {s₁ s₂ : Spec} {a b : Rendering}
    (first : render r₁ s₁ = .ok a) (second : render r₂ s₂ = .ok b) (same : a.data = b.data) :
    a.workloads = b.workloads := by
  obtain ⟨p, _, -, left, leftData⟩ := workloads_of_render first
  obtain ⟨q, _, -, right, rightData⟩ := workloads_of_render second
  rw [leftData, rightData] at same
  have args : Json.texts (arguments p) = .texts (arguments q) :=
    Dict.value_unique "args" same (by simp) (by simp) (by simp) (by simp)
  have image : Json.text r₁.images.kubeProxy = .text r₂.images.kubeProxy :=
    Dict.value_unique "image" same (by simp) (by simp) (by simp) (by simp)
  rw [left, right, pod, pod, Json.texts_injective args, Json.text.inj image]

end KubeProxy

namespace NodeIdentity

theorem registration_without_workloads (facts : WebhookFacts) :
    (registration facts).1.filter isWorkload = [] := by
  unfold registration
  split
  · split <;> rfl
  · rfl

theorem workloads_of_render {r : Release} {s : Spec} {facts : Facts} {a : Rendering}
    (run : render r s facts = .ok a) :
    ∃ port : UInt32, a.workloads =
        [.daemonSet "network-node-identity" namespaceName provider (pod r port.toNat)] ∧
      a.data = .ofList [("caBundle", facts.webhook.caBundle.elim .null .text),
        ("image", .text r.images.nodeIdentity), ("webhookPort", .natural port.toNat)] := by
  obtain ⟨port, objects, data, -⟩ := parts_of_render run
  refine ⟨port, ?_, data⟩
  rw [Rendering.workloads, objects, List.filter_append, registration_without_workloads]
  rfl

theorem workloads_recorded {r₁ r₂ : Release} {s₁ s₂ : Spec} {f₁ f₂ : Facts} {a b : Rendering}
    (first : render r₁ s₁ f₁ = .ok a) (second : render r₂ s₂ f₂ = .ok b)
    (same : a.data = b.data) : a.workloads = b.workloads := by
  obtain ⟨p, left, leftData⟩ := workloads_of_render first
  obtain ⟨q, right, rightData⟩ := workloads_of_render second
  rw [leftData, rightData] at same
  have image : Json.text r₁.images.nodeIdentity = .text r₂.images.nodeIdentity :=
    Dict.value_unique "image" same (by simp) (by simp) (by simp) (by simp)
  have port : Json.natural p.toNat = .natural q.toNat :=
    Dict.value_unique "webhookPort" same (by simp) (by simp) (by simp) (by simp)
  have port : p.toNat = q.toNat := Int.ofNat.inj (Number.integer.inj (Json.number.inj port))
  rw [left, right, pod, pod, port, Json.text.inj image]

end NodeIdentity

namespace Multus

def daemon (r : Release) : Manifest :=
  .daemonSet "multus" namespaceName provider (daemonPod r)

def admission (r : Release) : Manifest :=
  .deployment "multus-admission-controller" namespaceName provider 2 (admissionPod r)

theorem definitions_without_workloads (configs : List (Attachment × String)) :
    (configs.map fun n => definition n.1 n.2).filter isWorkload = [] := by
  simp only [List.filter_eq_nil_iff, List.forall_mem_map]
  exact fun _ _ => Bool.false_ne_true

theorem workloads_of_render {r : Release} {s : Spec} {a : Rendering} (run : render r s = .ok a) :
    a.workloads = daemon r :: (if hasAdmission r then [admission r] else []) := by
  obtain ⟨configs, -, objects, -⟩ := parts_of_render run
  rw [Rendering.workloads, objects, List.filter_append, List.filter_append,
    definitions_without_workloads, List.append_nil, admissionObjects]
  split <;> rfl

theorem render_without_attachments {s : Spec} (enabled : isDisabled s = false)
    (nothing : s.attachments = []) (r : Release) :
    render r s = .ok ⟨baseObjects r ++ admissionObjects r,
      .ofList [("daemonConfig", .text daemonConfig), ("image", .text r.images.multus),
        ("legacyAdmissionController", .boolean (hasAdmission r)),
        ("networks", .ofDict .empty)], []⟩ := by
  simp only [render, enabled, nothing, Bool.false_eq_true, ↓reduceIte, List.mapM_nil, pure_bind,
    List.map_nil, List.append_nil]
  rfl

theorem admission_eq_iff {r₁ r₂ : Release} :
    admission r₁ = admission r₂ ↔ r₁.images.multusAdmission = r₂.images.multusAdmission := by
  constructor
  · intro same
    have images := congrArg Manifest.images same
    rw [admission, admission, images_of_containers (containers_deployment ..),
      images_of_containers (containers_deployment ..)] at images
    exact List.head_eq_of_cons_eq images
  · intro image
    rw [admission, admission, admissionPod, admissionPod, image]

theorem workloads_recorded_iff {r₁ r₂ : Release} {s₁ s₂ : Spec} {a b : Rendering}
    (first : render r₁ s₁ = .ok a) (second : render r₂ s₂ = .ok b) (same : a.data = b.data) :
    a.workloads = b.workloads ↔
      (hasAdmission r₁ = true → r₁.images.multusAdmission = r₂.images.multusAdmission) := by
  obtain ⟨_, -, -, leftData, -⟩ := parts_of_render first
  obtain ⟨_, -, -, rightData, -⟩ := parts_of_render second
  rw [leftData, rightData] at same
  have image : Json.text r₁.images.multus = .text r₂.images.multus :=
    Dict.value_unique "image" same (by simp) (by simp) (by simp) (by simp)
  have controller : Json.boolean (hasAdmission r₁) = .boolean (hasAdmission r₂) :=
    Dict.value_unique "legacyAdmissionController" same (by simp) (by simp) (by simp)
      (by simp)
  have daemons : daemon r₁ = daemon r₂ := by
    rw [daemon, daemon, daemonPod, daemonPod, Json.text.inj image]
  rw [workloads_of_render first, workloads_of_render second, daemons,
    ← Json.boolean.inj controller]
  split
  · next shipped =>
    rw [List.cons_inj_right, List.cons.injEq, and_iff_left rfl, admission_eq_iff]
    exact ⟨fun image _ => image, fun image => image shipped⟩
  · next absent => exact ⟨fun _ shipped => absurd shipped absent, fun _ => rfl⟩

end Multus

/-- Companions that recorded the same run the same workloads, in any two renders, unless both run
    the admission controller of Multus and the releases differ in its image. -/
theorem Provider.companion_workloads_recorded {p : Provider} (companion : p ∈ companions)
    {r₁ r₂ : Release} {s₁ s₂ : Spec} {f₁ f₂ : Facts} {a b : Rendering}
    (first : p.render r₁ s₁ f₁ = .ok a) (second : p.render r₂ s₂ f₂ = .ok b)
    (same : a.data = b.data) :
    a.workloads = b.workloads ↔ (p = .multus → Multus.hasAdmission r₁ = true →
      r₁.images.multusAdmission = r₂.images.multusAdmission) := by
  cases p with
  | kuryr => exact absurd companion (by decide)
  | kubeProxy => exact iff_of_true (KubeProxy.workloads_recorded first second same) nofun
  | multus =>
    rw [Multus.workloads_recorded_iff first second same]
    exact ⟨fun image _ => image, fun image => image rfl⟩
  | nodeIdentity => exact iff_of_true (NodeIdentity.workloads_recorded first second same) nofun

def multusSample : Spec :=
  { Spec.empty with defaultNetwork := ⟨"ThirdParty", none⟩, deployProxy := some false }

def shipping (version image : String) : Release :=
  ⟨version, { Images.builtIn with multusAdmission := image }⟩

theorem multusSample_workloads_recorded :
    ∃ a b, Multus.render (shipping "4.12.0" "admission:v1") multusSample = .ok a ∧
      Multus.render (shipping "4.13.0" "admission:v1") multusSample = .ok b ∧
        a.workloads = b.workloads := by
  have rendered (version : String) := Multus.render_without_attachments (s := multusSample) rfl rfl
    (shipping version "admission:v1")
  have first : Provider.multus.render (shipping "4.12.0" "admission:v1") multusSample .none =
    .ok _ := rendered "4.12.0"
  have second : Provider.multus.render (shipping "4.13.0" "admission:v1") multusSample .none =
    .ok _ := rendered "4.13.0"
  have same := Provider.companion_workloads_recorded (by decide) first second (by decide +kernel)
  exact ⟨_, _, first, second, same.mpr fun _ _ => rfl⟩

namespace Pass

theorem multusSample_accepted : ∀ image ∈ ["admission:v1", "admission:v2"],
    check (shipping "4.13.0" image) multusSample none =
      .ok (defaulted (Provider.forType .thirdParty) multusSample) := by
  decide +kernel

/-- Two passes whose releases differ in nothing but the image of the admission controller: the
    render data is equal, the workloads are not. -/
theorem admission_image_unrecorded :
    ∃ first second a b,
      reconcile (shipping "4.13.0" "admission:v1") multusSample none .none = .ok first ∧
      reconcile (shipping "4.13.0" "admission:v2") multusSample none .none = .ok second ∧
      Multus.render (shipping "4.13.0" "admission:v1") first.spec = .ok a ∧
      Multus.render (shipping "4.13.0" "admission:v2") second.spec = .ok b ∧
      a.data = b.data ∧ a.workloads ≠ b.workloads := by
  obtain ⟨first, firstRun, firstSpec⟩ :=
    reconcile_of_check (multusSample_accepted "admission:v1" (by simp)) .none
  obtain ⟨second, secondRun, secondSpec⟩ :=
    reconcile_of_check (multusSample_accepted "admission:v2" (by simp)) .none
  have before := Multus.render_without_attachments (s := first.spec)
    (by rw [firstSpec]; rfl) (by rw [firstSpec]; rfl) (shipping "4.13.0" "admission:v1")
  have after := Multus.render_without_attachments (s := second.spec)
    (by rw [secondSpec]; rfl) (by rw [secondSpec]; rfl) (shipping "4.13.0" "admission:v2")
  refine ⟨first, second, _, _, firstRun, secondRun, before, after, rfl, ?_⟩
  intro same
  have images := (Multus.workloads_recorded_iff before after rfl).mp same (by decide +kernel)
  exact absurd images (by decide)

end Pass
end ClusterNet
