import Mathlib.Data.List.Flatten
import Mathlib.Data.List.Nodup
import ClusterNet.Proofs.Assembly
import ClusterNet.Proofs.Separators

/- The keys under which objects are applied. A key is the text of an object's identity: its kind,
   its namespace and its name. Components render objects of fixed identities, of which no two share
   a text, and one definition for each network. Networks are named by labels, and these hold no
   slash, so the definitions have texts of their own. -/
namespace ClusterNet

namespace Manifest

structure Identity where
  kind : String
  space : Option String
  name : String
  deriving DecidableEq, Repr

def Identity.text (i : Identity) : String :=
  match i.space with
  | some space => s!"{i.kind}/{space}/{i.name}"
  | none => s!"{i.kind}/{i.name}"

def identity (m : Manifest) : Identity := ⟨m.kind, m.metadata.namespaceName, m.metadata.name⟩

def Identity.isNamespace (i : Identity) : Bool := i.kind = "Namespace"

def Identity.namespacesFirst (ids : List Identity) : List Identity :=
  ids.filter isNamespace ++ ids.filter (!·.isNamespace)

theorem Identity.namespacesFirst_sublist {few many : List Identity} (fewer : few.Sublist many) :
    (namespacesFirst few).Sublist (namespacesFirst many) :=
  (fewer.filter _).append (fewer.filter _)

def Holds (objects : List Manifest) (i : Identity) : Prop := i ∈ objects.map identity

/-- What is among the objects is among the others too, and what is no workload unchanged. -/
structure Covers (others objects : List Manifest) : Prop where
  known : ∀ m ∈ objects, Holds others m.identity
  same : ∀ m ∈ objects, m.isWorkload = false → m ∈ others

theorem Holds.mono {others objects : List Manifest} (covers : Covers others objects)
    {i : Identity} (held : Holds objects i) : Holds others i := by
  obtain ⟨m, member, rfl⟩ := List.mem_map.mp held
  exact covers.known m member

theorem key_eq_text (m : Manifest) : m.key = m.identity.text := rfl

theorem identity_withoutHash (m : Manifest) : m.withoutHash.identity = m.identity := by
  unfold withoutHash
  cases m.templatePath <;> rfl

theorem Identity.text_of_space (kind space name : String) :
    (Identity.mk kind (some space) name).text = kind ++ "/" ++ (space ++ "/" ++ name) := by
  simp [text, toString, String.append_assoc]

theorem Identity.exists_text (i : Identity) : ∃ rest, i.text = i.kind ++ "/" ++ rest := by
  obtain ⟨kind, _ | space, name⟩ := i
  · exact ⟨name, rfl⟩
  · exact ⟨_, text_of_space kind space name⟩

theorem Identity.kind_of_text {i j : Identity} (plain : '/' ∉ i.kind.toList)
    (plain' : '/' ∉ j.kind.toList) (same : i.text = j.text) : i.kind = j.kind := by
  obtain ⟨left, first⟩ := i.exists_text
  obtain ⟨right, second⟩ := j.exists_text
  rw [first, second] at same
  exact (eq_of_slash_joined plain plain' same).1

end Manifest

open Manifest

namespace Kuryr

def identities : List Identity := [
  ⟨"Namespace", none, namespaceName⟩,
  ⟨"ServiceAccount", some namespaceName, accountName⟩,
  ⟨"ClusterRole", none, "lattice-kuryr"⟩,
  ⟨"ClusterRoleBinding", none, "lattice-kuryr"⟩,
  ⟨"Secret", some namespaceName, secretName⟩,
  ⟨"ConfigMap", some namespaceName, configMapName⟩,
  ⟨"ConfigMap", some namespaceName, caMapName⟩,
  ⟨"DaemonSet", some namespaceName, "kuryr-cni"⟩,
  ⟨"Deployment", some namespaceName, "kuryr-controller"⟩]

theorem identity_holdBack (hold : Bool) (m : Manifest) :
    (holdBack hold m).identity = m.identity := by
  cases hold <;> rfl

/-- What is rendered once so much was discovered: all of it but for the map of an authority that is
    not known, or only what Kuryr needs to be let in. -/
def identitiesUnder (facts : Facts) : List Identity :=
  match facts.openStack, facts.apiServer with
  | some f, some _ => if f.caBundle.isSome then identities else identities.eraseIdx 6
  | _, _ => identities.take 4

theorem identitiesUnder_of_missing {facts : Facts}
    (missing : facts.openStack = none ∨ facts.apiServer = none) :
    identitiesUnder facts = identities.take 4 := by
  unfold identitiesUnder
  rcases missing with cloud | server
  · rw [cloud]
  · rw [server]
    cases facts.openStack <;> rfl

theorem identities_under {r : Release} {s : Spec} {facts : Facts} {a : Rendering}
    (run : render r s facts = .ok a) : a.objects.map identity = identitiesUnder facts := by
  obtain ⟨settings, -, ⟨f, api, cloud, server, complete, -⟩ | ⟨missing, withheld, -⟩⟩ :=
    parts_of_render run
  · rw [complete, identitiesUnder, cloud, server]
    simp only [workloads, List.map_append, List.map_cons, List.map_nil, identity_holdBack]
    cases f.caBundle <;> rfl
  · rw [withheld, identitiesUnder_of_missing missing]
    rfl

theorem identities_of_render {r : Release} {s : Spec} {facts : Facts} {a : Rendering}
    (run : render r s facts = .ok a) : (a.objects.map identity).Sublist identities := by
  rw [identities_under run]
  unfold identitiesUnder
  split
  · split
    · exact .refl _
    · exact List.eraseIdx_sublist identities 6
  · exact List.take_sublist 4 identities

end Kuryr

namespace KubeProxy

def identities : List Identity := [
  ⟨"Namespace", none, namespaceName⟩,
  ⟨"ServiceAccount", some namespaceName, accountName⟩,
  ⟨"ClusterRoleBinding", none, "lattice-kube-proxy"⟩,
  ⟨"ConfigMap", some namespaceName, configMapName⟩,
  ⟨"DaemonSet", some namespaceName, "kube-proxy"⟩,
  ⟨"Service", some namespaceName, "kube-proxy-metrics"⟩]

theorem identities_of_render {r : Release} {s : Spec} {a : Rendering} (run : render r s = .ok a) :
    a.objects.map identity = identities := by
  obtain ⟨p, config, -, objects, -⟩ := parts_of_render run
  rw [objects]
  rfl

end KubeProxy

namespace Multus

/-- The objects that are there whatever networks are requested. -/
def identities : List Identity := [
  ⟨"Namespace", none, namespaceName⟩,
  ⟨"ServiceAccount", some namespaceName, accountName⟩,
  ⟨"ClusterRole", none, "lattice-multus"⟩,
  ⟨"ClusterRoleBinding", none, "lattice-multus"⟩,
  ⟨"ConfigMap", some namespaceName, configMapName⟩,
  ⟨"DaemonSet", some namespaceName, "multus"⟩,
  ⟨"Deployment", some namespaceName, "multus-admission-controller"⟩,
  ⟨"Service", some namespaceName, "multus-admission-controller"⟩]

def definitionKind : String := "NetworkAttachmentDefinition"

def definitionIdentity (a : Attachment) : Identity :=
  ⟨definitionKind, some (identity a).1, a.name⟩

theorem text_definitionIdentity (a : Attachment) :
    (definitionIdentity a).text = definitionKind ++ "/" ++ identityText a :=
  Identity.text_of_space ..

theorem fixed_identities (r : Release) :
    ((baseObjects r ++ admissionObjects r).map Manifest.identity).Sublist identities := by
  unfold admissionObjects
  split
  · exact .refl _
  · exact List.take_sublist 6 identities

def textOf (a : Attachment) : String := (configText a).toOption.getD ""

theorem textOf_of_config {a : Attachment} {text : String} (config : configText a = .ok text) :
    textOf a = text := by
  rw [textOf, config]
  rfl

theorem configs_eq {attachments : List Attachment} {configs : List (Attachment × String)}
    (each : attachments.mapM (fun n => (configText n).map (n, ·)) = .ok configs) :
    configs = attachments.map fun n => (n, textOf n) := by
  refine (map_of_mapM ?_ each).2
  intro n config made
  cases text : configText n with
  | error problem =>
    rw [text] at made
    cases made
  | ok document =>
    rw [text] at made
    cases made
    rw [textOf_of_config text]

theorem networks_of_configs {attachments : List Attachment} {configs : List (Attachment × String)}
    (each : attachments.mapM (fun n => (configText n).map (n, ·)) = .ok configs) :
    configs.map Prod.fst = attachments := by
  rw [configs_eq each, List.map_map]
  exact List.map_id _

theorem identities_of_render {r : Release} {s : Spec} {a : Rendering} (run : render r s = .ok a) :
    (a.objects.map Manifest.identity).Sublist
      (identities ++ s.attachments.map definitionIdentity) := by
  obtain ⟨configs, each, objects, -⟩ := parts_of_render run
  rw [objects, List.map_append, ← networks_of_configs each, List.map_map, List.map_map]
  exact (fixed_identities r).append (.refl _)

def configOf? (m : Manifest) : Option String :=
  (m.spec.bind (Json.get? "config")).bind Json.text?

theorem networks_of_render {r : Release} {s : Spec} {a : Rendering} (run : render r s = .ok a)
    (apart : (s.attachments.map identityText).Nodup) :
    ∃ networks : Dict Json, a.data.get? "networks" = some (.ofDict networks) ∧
      networks.keys.Perm (s.attachments.map identityText) ∧
      ∀ n ∈ s.attachments, ∃ config, networks.get? (identityText n) = some (.text config) ∧
        definition n config ∈ a.objects := by
  obtain ⟨configs, each, objects, data, -⟩ := parts_of_render run
  have paired := networks_of_configs each
  have texts : (configs.map fun n => (identityText n.1, Json.text n.2)).map Prod.fst =
      s.attachments.map identityText := by
    rw [← paired, List.map_map, List.map_map]
    rfl
  refine ⟨.ofList (configs.map fun n => (identityText n.1, .text n.2)), ?_, ?_, ?_⟩
  · rw [data]
    exact Dict.get?_ofList_of_mem (by simp) (by simp)
  · refine (List.perm_ext_iff_of_nodup (Dict.keys_nodup _) apart).mpr ?_
    intro key
    rw [Dict.mem_keys_ofList, texts]
  · intro n member
    rw [← paired] at member
    obtain ⟨⟨_, config⟩, listed, rfl⟩ := List.mem_map.mp member
    refine ⟨config, Dict.get?_ofList_of_mem (texts ▸ apart) ?_, ?_⟩
    · exact List.mem_map.mpr ⟨_, listed, rfl⟩
    · rw [objects]
      exact List.mem_append_right _ (List.mem_map.mpr ⟨_, listed, rfl⟩)

/-- Networks whose namespaces are labels are told apart by the joined text as well. -/
theorem identityTexts_nodup {attachments : List Attachment}
    (apart : (attachments.map identity).Nodup)
    (labelled : ∀ a ∈ attachments, Label.fault? (identity a).1 = none) :
    (attachments.map identityText).Nodup := by
  refine List.Nodup.map_on ?_ (.of_map _ apart)
  intro a first b second same
  have plain := Label.plain_of_valid (labelled a first)
  have plain' := Label.plain_of_valid (labelled b second)
  exact List.inj_on_of_nodup_map apart first second
    (Prod.ext_iff.mpr (eq_of_slash_joined plain plain' same))

theorem definition_texts_nodup {attachments : List Attachment}
    (apart : (attachments.map identityText).Nodup) :
    ((attachments.map definitionIdentity).map Identity.text).Nodup := by
  have joined : Identity.text ∘ definitionIdentity =
      (definitionKind ++ "/" ++ ·) ∘ identityText := funext text_definitionIdentity
  have injective : Function.Injective (definitionKind ++ "/" ++ · : String → String) :=
    fun _ _ same => (String.append_right_inj _).mp same
  rw [List.map_map, joined, ← List.map_map]
  exact apart.map injective

end Multus

namespace NodeIdentity

def identities : List Identity := [
  ⟨"Namespace", none, namespaceName⟩,
  ⟨"ServiceAccount", some namespaceName, accountName⟩,
  ⟨"ClusterRole", none, "lattice-network-node-identity"⟩,
  ⟨"ClusterRoleBinding", none, "lattice-network-node-identity"⟩,
  ⟨"DaemonSet", some namespaceName, "network-node-identity"⟩,
  ⟨"Service", some namespaceName, accountName⟩,
  ⟨"ValidatingWebhookConfiguration", none, "network-node-identity"⟩]

def identitiesUnder (facts : WebhookFacts) : List Identity :=
  if facts.caBundle.isSome then identities else identities.take 6

theorem identities_under {r : Release} {s : Spec} {facts : Facts} {a : Rendering}
    (run : render r s facts = .ok a) :
    a.objects.map identity = identitiesUnder facts.webhook := by
  obtain ⟨port, objects, -⟩ := parts_of_render run
  rw [objects, registration, identitiesUnder]
  cases facts.webhook.caBundle with
  | none => rfl
  | some ca => cases facts.webhook.ready <;> rfl

theorem identities_of_render {r : Release} {s : Spec} {facts : Facts} {a : Rendering}
    (run : render r s facts = .ok a) : (a.objects.map identity).Sublist identities := by
  rw [identities_under run]
  unfold identitiesUnder
  split
  · exact .refl _
  · exact List.take_sublist 6 identities

end NodeIdentity

namespace Provider

/-- What the objects of a component may be known by, given the spec. -/
def identities (s : Spec) : Provider → List Identity
  | .kuryr => Kuryr.identities
  | .kubeProxy => KubeProxy.identities
  | .multus => Multus.identities ++ s.attachments.map Multus.definitionIdentity
  | .nodeIdentity => NodeIdentity.identities

theorem identities_of_render {r : Release} {s : Spec} {facts : Facts} {p : Provider}
    {a : Rendering} (run : p.render r s facts = .ok a) :
    (a.objects.map identity).Sublist (p.identities s) := by
  cases p with
  | kuryr => exact Kuryr.identities_of_render run
  | kubeProxy => exact KubeProxy.identities_of_render run ▸ .refl _
  | multus => exact Multus.identities_of_render run
  | nodeIdentity => exact NodeIdentity.identities_of_render run

def fixedIdentities : List Identity :=
  Kuryr.identities ++ KubeProxy.identities ++ Multus.identities ++ NodeIdentity.identities

theorem fixed_texts_nodup : (fixedIdentities.map Identity.text).Nodup := by
  decide +kernel

theorem fixed_kinds : ∀ i ∈ fixedIdentities,
    i.kind ≠ Multus.definitionKind ∧ '/' ∉ i.kind.toList := by
  decide +kernel

theorem all_identities_perm (s : Spec) :
    (all.flatMap (identities s)).Perm
      (fixedIdentities ++ s.attachments.map Multus.definitionIdentity) := by
  simp only [all, identities, fixedIdentities, List.flatMap_cons, List.flatMap_nil,
    List.append_nil, List.append_assoc]
  exact ((List.perm_append_comm.append_left _).append_left _).append_left _

theorem all_texts_nodup {s : Spec} (apart : (s.attachments.map Multus.identityText).Nodup) :
    ((all.flatMap (identities s)).map Identity.text).Nodup := by
  refine ((all_identities_perm s).map Identity.text).nodup_iff.mpr ?_
  rw [List.map_append, List.nodup_append]
  refine ⟨fixed_texts_nodup, Multus.definition_texts_nodup apart, ?_⟩
  -- A fixed identity and a definition differ in kind, which is read off the text.
  intro _ first _ second same
  obtain ⟨i, fixed, rfl⟩ := List.mem_map.mp first
  obtain ⟨j, defined, rfl⟩ := List.mem_map.mp second
  obtain ⟨a, -, rfl⟩ := List.mem_map.mp defined
  obtain ⟨different, plain⟩ := fixed_kinds i fixed
  have plain' : '/' ∉ Multus.definitionKind.toList := by decide
  exact different (Identity.kind_of_text plain plain' same)

end Provider

namespace Pass

theorem identityTexts_of_accepted {r : Release} {type : NetworkType} {s : Spec}
    (accepted : Accepted r type s) : (s.attachments.map Multus.identityText).Nodup := by
  obtain ⟨apart, sound⟩ := attachments_of_accepted accepted
  have filled := accepted.filled _ (multus_mem_forType type)
  refine Multus.identityTexts_nodup apart ?_
  intro a member
  have space := Multus.namespace_of_filled (Multus.attachment_of_filled filled member)
  exact (sound a member).namespaceName _ space

section

variable {providers : List Provider} {rendering : Provider → Rendering}

theorem identity_stamped {hash : String} {m : Manifest} (fresh : m.Fresh) :
    (stamped hash m).identity = m.identity := by
  rw [← identity_withoutHash, withoutHash_stamped fresh]

theorem kind_stamped {hash : String} {m : Manifest} (fresh : m.Fresh) :
    (stamped hash m).kind = m.kind := congrArg Identity.kind (identity_stamped fresh)

theorem isWorkload_stamped {hash : String} {m : Manifest} (fresh : m.Fresh) :
    (stamped hash m).isWorkload = m.isWorkload := by
  rw [isWorkload, isWorkload, kind_stamped fresh]

theorem covers_of_outcome {r : Release} {s : Spec}
    (fresh : ∀ p ∈ providers, ∀ m ∈ (rendering p).objects, m.Fresh)
    {p : Provider} (taking : p ∈ providers) :
    Covers (outcome r s (providers.map fun p => partOf p (rendering p))).objects
      (rendering p).objects where
  known m member := by
    refine List.mem_map.mpr ⟨_, applied_of_source fresh taking member, ?_⟩
    exact identity_stamped (fresh p taking m member)
  same _ member other := mem_outcome_objects fresh taking member other

theorem identities_outcome {o : Outcome} (assembles : Assembles providers rendering o) :
    o.objects.map identity = Identity.namespacesFirst
      (providers.flatMap fun p => (rendering p).objects.map identity) := by
  have stripped : o.objects.map identity = (o.objects.map withoutHash).map identity := by
    rw [List.map_map]
    exact List.map_congr_left fun m _ => (identity_withoutHash m).symm
  rw [stripped, assembles.order, ← List.map_flatMap, Identity.namespacesFirst, List.map_append,
    List.filter_map, List.filter_map]
  rfl

theorem identities_perm {o : Outcome} (assembles : Assembles providers rendering o) :
    (o.objects.map identity).Perm
      (providers.flatMap fun p => (rendering p).objects.map identity) := by
  rw [identities_outcome assembles]
  exact List.filter_append_perm ..

theorem identities_sublist {r : Release} {s : Spec} {facts : Facts}
    (taking : providers.Sublist Provider.all)
    (renders : ∀ p ∈ providers, p.render r s facts = .ok (rendering p)) :
    (providers.flatMap fun p => (rendering p).objects.map identity).Sublist
      (Provider.all.flatMap (Provider.identities s)) :=
  (List.Sublist.flatMap_right providers fun p member =>
    Provider.identities_of_render (renders p member)).trans (taking.flatMap _)

theorem keys_nodup {r : Release} {type : NetworkType} {s : Spec} {facts : Facts} {o : Outcome}
    (accepted : Accepted r type s) (taking : providers.Sublist Provider.all)
    (renders : ∀ p ∈ providers, p.render r s facts = .ok (rendering p))
    (assembles : Assembles providers rendering o) : (o.objects.map key).Nodup := by
  have texts := Provider.all_texts_nodup (identityTexts_of_accepted accepted)
  have keys : o.objects.map key = (o.objects.map identity).map Identity.text := by
    rw [List.map_map]
    rfl
  rw [keys, ((identities_perm assembles).map Identity.text).nodup_iff]
  exact texts.sublist ((identities_sublist taking renders).map Identity.text)

end

theorem active_sublist (r : Release) (type : NetworkType) (s : Spec) :
    (active r (Provider.forType type) s).Sublist Provider.all := by
  have all : (Provider.forType type).Sublist Provider.all := by cases type <;> decide
  exact List.filter_sublist.trans all

/-- No object of a pass is applied under the key of another one; and Multus records each network
    once, with the configuration of its definition. -/
theorem reconcile_tells_objects_apart {r : Release} {s : Spec} {previous : Option Spec}
    {facts : Facts} {result : Outcome} (run : reconcile r s previous facts = .ok result) :
    (result.objects.map key).Nodup ∧
      (Multus.isActive result.spec = true → ∃ networks : Dict Json,
        (result.data.get? "multus").bind (·.get? "networks") = some (.ofDict networks) ∧
        networks.keys.Perm (result.spec.attachments.map Multus.identityText) ∧
        ∀ a ∈ result.spec.attachments, ∃ config,
          networks.get? (Multus.identityText a) = some (.text config) ∧
          ∃ m ∈ result.objects,
            m.key = "NetworkAttachmentDefinition/" ++ Multus.identityText a ∧
            Multus.configOf? m = some config) := by
  obtain ⟨type, rendering, known, renders, same⟩ := outcome_of_reconcile run
  obtain ⟨type', accepted⟩ := accepted_of_check (parts_of_reconcile run).1
  cases known.symm.trans accepted.known
  have fresh := fun p member => Provider.fresh_of_render (renders p member)
  have assembles : Assembles (active r (Provider.forType type) result.spec) rendering result :=
    same ▸ assembles_outcome (active_names_nodup ..) fresh
  refine ⟨keys_nodup accepted (active_sublist ..) renders assembles, ?_⟩
  intro taking
  have member : .multus ∈ active r (Provider.forType type) result.spec :=
    List.mem_filter.mpr ⟨multus_mem_forType type, taking⟩
  obtain ⟨networks, data, keys, each⟩ :=
    Multus.networks_of_render (renders _ member) (identityTexts_of_accepted accepted)
  refine ⟨networks, ?_, keys, ?_⟩
  · exact (congrArg (Option.bind · _) (assembles.records _ member).1).trans data
  · intro a requested
    obtain ⟨config, stored, defined⟩ := each a requested
    refine ⟨config, stored, Multus.definition a config, ?_, ?_, rfl⟩
    · rw [same]
      exact mem_outcome_objects fresh member defined rfl
    · exact (key_eq_text _).trans (Multus.text_definitionIdentity a)

def namesakes : Spec :=
  { kuryrSample with
    attachments := [⟨"storage", none, .simpleMacvlan, none, none⟩,
      ⟨"storage", some "backup", .raw, some "\x7b\"name\":\"storage\"\x7d", none⟩] }

theorem namesakes_accepted :
    check .builtIn namesakes none = .ok (defaulted (Provider.forType .kuryr) namesakes) := by
  decide +kernel

theorem namesakes_are_told_apart :
    ∃ result networks, reconcile .builtIn namesakes none .none = .ok result ∧
      (result.objects.map key).Nodup ∧
      (result.data.get? "multus").bind (·.get? "networks") = some (.ofDict networks) ∧
      networks.keys.Perm ["default/storage", "backup/storage"] := by
  obtain ⟨result, run, same⟩ := reconcile_of_check namesakes_accepted .none
  obtain ⟨apart, recorded⟩ := reconcile_tells_objects_apart run
  rw [same] at recorded
  obtain ⟨networks, data, keys, -⟩ := recorded rfl
  exact ⟨result, networks, run, apart, data, keys⟩

end Pass
end ClusterNet
