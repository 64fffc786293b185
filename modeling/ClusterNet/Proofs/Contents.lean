import ClusterNet.Proofs.Assembly
import ClusterNet.Proofs.Envelopes

/- What components put into their objects: values whose keys ascend and whose numbers are whole and
   not too large, none of them null, under names that are not those of the envelope. Such an object
   is got back from whatever is written for it, and the hash of the pass keeps it so. -/
namespace ClusterNet

open Wire Json

namespace Json

variable {depth : Nat}

/-- A value that is its own canonical form, and is read back from its text. -/
abbrev Settled (depth : Nat) (json : Json) : Prop := Legible (· < ·) depth json

theorem LegibleField.presentIf {apart : String → String → Prop} {json : Json}
    (legible : Legible apart depth json) (present : Bool) :
    LegibleField apart depth (presentIf present json) := by
  cases present with
  | true => exact .always legible
  | false => exact nofun

theorem settled_of_lookup {entries : List (String × Json)} {key : String} {value : Json}
    (settled : Settled (depth + 1) (.object entries)) (found : lookup key entries = some value) :
    Settled depth value := by
  obtain ⟨keys, each⟩ := settled
  have member := (lookup_eq_some_iff (keys.imp String.ne_of_lt)).mp found
  exact legibleEntries_iff.mp each _ member

theorem settled_put {entries : List (String × Json)} {key : String} {value : Json}
    (settled : Settled (depth + 1) (.object entries)) (own : Settled depth value) :
    Settled (depth + 1) (.object (put key value entries)) := by
  obtain ⟨keys, each⟩ := settled
  have sorted := sorted_put key value (List.pairwise_map.mp keys)
  refine legible_object (List.pairwise_map.mpr sorted) ?_
  intro entry member
  rcases mem_put member with rfl | listed
  · exact own
  · exact legibleEntries_iff.mp each entry listed

end Json

def Whole (n : Nat) : Prop := n < Nat.pow 2 64

instance (n : Nat) : Decidable (Whole n) := inferInstanceAs (Decidable (n < Nat.pow 2 64))

theorem whole_nat32 (n : UInt32) : Whole n.toNat := Nat.lt_trans n.toNat_lt (by decide)

structure Probe.Modest (p : Probe) : Prop where
  port : Whole p.port
  timing : ∀ t ∈ p.timing, Whole t.initialDelay ∧ Whole t.timeout

structure Container.Modest (c : Container) : Prop where
  ports : ∀ p ∈ c.ports, Whole p.number
  readiness : ∀ p ∈ c.readiness, p.Modest
  liveness : ∀ p ∈ c.liveness, p.Modest

section

variable {depth : Nat}

theorem ContainerPort.settled {p : ContainerPort} (whole : Whole p.number) :
    Settled (depth + 1) p.toJson := by
  have keys : ["containerPort", "name"].Pairwise (· < ·) := by decide
  exact ⟨keys, legible_natural whole, legible_text _, trivial⟩

theorem Mount.settled (m : Mount) : Settled (depth + 1) m.toJson := by
  have keys : ["mountPath", "mountPropagation", "name", "readOnly"].Pairwise (· < ·) := by decide
  refine legible_ofFields keys ?_
  simp only [List.forall_mem_cons]
  exact ⟨.always (legible_text _), .optional legible_text _, .always (legible_text _),
    .presentIf (legible_boolean _) _, nofun⟩

theorem Volume.settled (v : Volume) : Settled (depth + 2) v.toJson := by
  have inner (key s : String) : Settled (depth + 1) (.object [(key, .text s)]) :=
    legible_single (legible_text s) key
  unfold toJson
  split
  · have keys : ["configMap", "name"].Pairwise (· < ·) := by decide
    exact ⟨keys, inner .., legible_text _, trivial⟩
  · have keys : ["name", "secret"].Pairwise (· < ·) := by decide
    exact ⟨keys, legible_text _, inner .., trivial⟩
  · have keys : ["hostPath", "name"].Pairwise (· < ·) := by decide
    exact ⟨keys, inner .., legible_text _, trivial⟩

theorem Probe.settled {p : Probe} (modest : p.Modest) : Settled (depth + 2) p.toJson := by
  have keys : ["httpGet", "initialDelaySeconds", "timeoutSeconds"].Pairwise (· < ·) := by decide
  have target : ["path", "port"].Pairwise (· < ·) := by decide
  refine legible_ofFields keys ?_
  simp only [List.forall_mem_cons]
  exact ⟨.always ⟨target, legible_text _, legible_natural modest.port, trivial⟩,
    .mapped fun t given => legible_natural (modest.timing t given).1,
    .mapped fun t given => legible_natural (modest.timing t given).2, nofun⟩

theorem FieldVariable.settled (v : FieldVariable) : Settled (depth + 3) v.toJson := by
  have keys : ["name", "valueFrom"].Pairwise (· < ·) := by decide
  exact ⟨keys, legible_text _, legible_single (legible_single (legible_text _) _) _, trivial⟩

theorem Container.settled {c : Container} (modest : c.Modest) : Settled (depth + 5) c.toJson := by
  have keys : ["args", "command", "env", "image", "imagePullPolicy", "livenessProbe", "name",
      "ports", "readinessProbe", "securityContext", "terminationMessagePolicy",
      "volumeMounts"].Pairwise (· < ·) := by decide
  refine legible_ofFields keys ?_
  simp only [List.forall_mem_cons]
  exact ⟨.omitted (legible_list legible_text _) _, .omitted (legible_list legible_text _) _,
    .omitted (legible_list FieldVariable.settled _) _, .always (legible_text _),
    .always (legible_text _), .mapped fun p given => Probe.settled (modest.liveness p given),
    .always (legible_text _),
    .omitted (legible_mapped fun p given => ContainerPort.settled (modest.ports p given)) _,
    .mapped fun p given => Probe.settled (modest.readiness p given),
    .presentIf (legible_single (legible_boolean _) _) _, .always (legible_text _),
    .omitted (legible_list Mount.settled _) _, nofun⟩

theorem PodSpec.settled {p : PodSpec} (modest : p.container.Modest) :
    Settled (depth + 7) p.toJson := by
  have keys : ["containers", "hostNetwork", "hostPID", "nodeSelector", "priorityClassName",
      "serviceAccountName", "tolerations", "volumes"].Pairwise (· < ·) := by decide
  refine legible_ofFields keys ?_
  simp only [List.forall_mem_cons]
  exact ⟨.always ⟨Container.settled modest, trivial⟩, .presentIf (legible_boolean _) _,
    .presentIf (legible_boolean _) _, .presentIf (legible_single (legible_text _) _) _,
    .optional legible_text _, .always (legible_text _),
    .always ⟨legible_single (legible_text _) _, trivial⟩,
    .always (legible_list Volume.settled _), nofun⟩

end

namespace Manifest

structure Settled (depth : Nat) (m : Manifest) : Prop where
  readable : m.Readable
  spec : LegibleField (· < ·) depth m.spec
  data : LegibleField (· < ·) depth m.data
  fields : ∀ entry ∈ m.fields.entries, Json.Settled depth entry.2

section

variable {depth : Nat} {m : Manifest}

theorem settled_ofComponent (apiVersion kind name component : String) :
    (ofComponent apiVersion kind name component).Settled depth :=
  ⟨⟨nofun, nofun, nofun⟩, nofun, nofun, nofun⟩

theorem Settled.withNamespace (settled : m.Settled depth) (space : String) :
    (m.withNamespace space).Settled depth :=
  ⟨⟨settled.readable.spec, settled.readable.data, settled.readable.fields⟩, settled.spec,
    settled.data, settled.fields⟩

theorem Settled.annotate (settled : m.Settled depth) (key value : String) :
    (m.annotate key value).Settled depth :=
  ⟨⟨settled.readable.spec, settled.readable.data, settled.readable.fields⟩, settled.spec,
    settled.data, settled.fields⟩

theorem Settled.withSpec (settled : m.Settled depth) {entries : List (String × Json)}
    (own : Json.Settled depth (.object entries)) : (m.withSpec (.object entries)).Settled depth :=
  ⟨⟨nofun, settled.readable.data, settled.readable.fields⟩, .always own, settled.data,
    settled.fields⟩

theorem Settled.withData (settled : m.Settled depth) {entries : List (String × Json)}
    (own : Json.Settled depth (.object entries)) : (m.withData (.object entries)).Settled depth :=
  ⟨⟨settled.readable.spec, nofun, settled.readable.fields⟩, settled.spec, .always own,
    settled.fields⟩

theorem Settled.withField (settled : m.Settled depth) {key : String} {value : Json}
    (own : Json.Settled depth value) (free : key ∉ envelopeKeys) :
    (m.withField key value).Settled depth := by
  refine ⟨⟨settled.readable.spec, settled.readable.data, ?_⟩, settled.spec, settled.data, ?_⟩
  · intro other member
    rcases Dict.mem_keys_insert.mp member with rfl | listed
    · exact free
    · exact settled.readable.fields other listed
  · intro entry member
    rcases mem_put member with rfl | listed
    · exact own
    · exact settled.fields entry listed

theorem settled_namespaceObject (name component : String) :
    (namespaceObject name component).Settled depth := settled_ofComponent ..

theorem settled_serviceAccount (name space component : String) :
    (serviceAccount name space component).Settled depth :=
  (settled_ofComponent ..).withNamespace space

theorem settled_rule (r : Rule) : Json.Settled (depth + 2) r.toJson := by
  have keys : ["apiGroups", "resources", "verbs"].Pairwise (· < ·) := by decide
  exact ⟨keys, legible_texts _, legible_texts _, legible_texts _, trivial⟩

theorem settled_clusterRole (name component : String) (rules : List Rule) :
    (clusterRole name component rules).Settled (depth + 3) :=
  (settled_ofComponent ..).withField (legible_list settled_rule rules) (by decide)

theorem settled_clusterRoleBinding (name component role account space : String) :
    (clusterRoleBinding name component role account space).Settled (depth + 2) := by
  have roleKeys : ["apiGroup", "kind", "name"].Pairwise (· < ·) := by decide
  have accountKeys : ["kind", "name", "namespace"].Pairwise (· < ·) := by decide
  refine ((settled_ofComponent ..).withField ?_ (by decide)).withField ?_ (by decide)
  · exact ⟨roleKeys, legible_text _, legible_text _, legible_text _, trivial⟩
  · exact ⟨⟨accountKeys, legible_text _, legible_text _, legible_text _, trivial⟩, trivial⟩

theorem settled_configMap (name space component file content : String) :
    (configMap name space component file content).Settled (depth + 1) :=
  ((settled_ofComponent ..).withNamespace space).withData (legible_single (legible_text _) file)

theorem settled_secret (name space component file content : String) :
    (secret name space component file content).Settled (depth + 1) :=
  (((settled_ofComponent ..).withNamespace space).withField (legible_text _) (by decide)).withField
    (legible_single (legible_text _) file) (by decide)

theorem settled_selector (component : String) : Json.Settled (depth + 1) (selector component) :=
  legible_single (legible_text component) nameLabel

theorem settled_podTemplate (component : String) {pod : PodSpec}
    (modest : pod.container.Modest) : Json.Settled (depth + 8) (podTemplate component pod) := by
  have keys : ["metadata", "spec"].Pairwise (· < ·) := by decide
  exact ⟨keys, legible_single (settled_selector component) _, PodSpec.settled modest, trivial⟩

theorem settled_daemonSet (name space component : String) {pod : PodSpec}
    (modest : pod.container.Modest) : (daemonSet name space component pod).Settled (depth + 9) := by
  have keys : ["selector", "template", "updateStrategy"].Pairwise (· < ·) := by decide
  have strategy : ["rollingUpdate", "type"].Pairwise (· < ·) := by decide
  refine ((settled_ofComponent ..).withNamespace space).withSpec ?_
  exact ⟨keys, legible_single (settled_selector component) _,
    settled_podTemplate component modest,
    ⟨strategy, legible_single (legible_text _) _, legible_text _, trivial⟩, trivial⟩

theorem settled_deployment (name space component : String) {replicas : Nat} {pod : PodSpec}
    (whole : Whole replicas) (modest : pod.container.Modest) :
    (deployment name space component replicas pod).Settled (depth + 9) := by
  have keys : ["replicas", "selector", "template"].Pairwise (· < ·) := by decide
  refine ((settled_ofComponent ..).withNamespace space).withSpec ?_
  exact ⟨keys, legible_natural whole, legible_single (settled_selector component) _,
    settled_podTemplate component modest, trivial⟩

theorem settled_service (name space component : String) {port : ServicePort}
    (number : Whole port.port) (target : Whole port.target) :
    (service name space component port).Settled (depth + 3) := by
  have keys : ["ports", "selector"].Pairwise (· < ·) := by decide
  have portKeys : ["name", "port", "targetPort"].Pairwise (· < ·) := by decide
  refine ((settled_ofComponent ..).withNamespace space).withSpec ?_
  exact ⟨keys, ⟨⟨portKeys, legible_text _, legible_natural number, legible_natural target,
    trivial⟩, trivial⟩, settled_selector component, trivial⟩

theorem settled_attachmentDefinition (name space component config : String) :
    (attachmentDefinition name space component config).Settled (depth + 1) :=
  ((settled_ofComponent ..).withNamespace space).withSpec (legible_single (legible_text _) _)

theorem canonical_of_settledField {value : Option Json}
    (settled : LegibleField (· < ·) depth value) : value.map canonical = value := by
  cases value with
  | none => rfl
  | some json => exact congrArg some (canonical_of_ascending depth json (settled json rfl))

theorem canonical_entriesWith (settled : m.Settled depth) (metadata : Json) :
    (m.entriesWith metadata).map canonicalEntry = m.entriesWith metadata.canonical := by
  have free : m.fields.entries.map canonicalEntry = m.fields.entries := by
    refine (List.map_congr_left fun entry member => ?_).trans (List.map_id _)
    exact congrArg (entry.1, ·) (canonical_of_ascending depth _ (settled.fields entry member))
  have envelopes : m.envelope metadata.canonical =
      (m.envelope metadata).map fun field => (field.1, field.2.map canonical) := by
    simp only [envelope, List.map_cons, List.map_nil, canonical_of_settledField settled.spec,
      canonical_of_settledField settled.data]
    rfl
  have known : ((m.envelope metadata).filterMap fun field => field.2.map (field.1, ·)).map
      canonicalEntry =
        (m.envelope metadata.canonical).filterMap fun field => field.2.map (field.1, ·) := by
    rw [envelopes, List.filterMap_map, List.map_filterMap]
    refine List.filterMap_congr fun field _ => ?_
    cases h : field.2 <;> simp [h, canonicalEntry]
  rw [entriesWith, List.map_append, known, free]
  rfl

theorem legible_toJson (settled : m.Settled (depth + 2)) :
    Legible (· ≠ ·) (depth + 3) m.toJson := by
  have apart {json : Json} (own : Json.Settled (depth + 2) json) :
      Legible (· ≠ ·) (depth + 2) json := Legible.imp String.ne_of_lt _ _ own
  have envelope : ∀ field ∈ m.envelope m.metadata.toJson,
      LegibleField (· ≠ ·) (depth + 2) field.2 := by
    simp only [Manifest.envelope, List.forall_mem_cons]
    exact ⟨.always (legible_text _), .always (legible_text _),
      .always (Metadata.legible depth m.metadata), fun _ given => apart (settled.spec _ given),
      fun _ given => apart (settled.data _ given), List.forall_mem_nil _⟩
  refine legible_object (keys_entriesWith_nodup settled.readable _) fun entry member => ?_
  rcases List.mem_append.mp member with known | free
  · obtain ⟨field, listed, present⟩ := List.mem_filterMap.mp known
    obtain ⟨json, given, rfl⟩ := Option.map_eq_some_iff.mp present
    exact envelope field listed json given
  · exact apart (settled.fields entry free)

theorem Settled.roundTrips (settled : m.Settled (maxDepth - 1)) : RoundTrips m.toJson read m := by
  have once := keys_entriesWith_nodup settled.readable m.metadata.toJson
  refine roundTrips_of_ordered (legible_toJson settled) (read_toJson settled.readable) ?_
  have moved := (canonicalEntries_perm once).symm
  rw [canonical_entriesWith settled] at moved
  have distinct := distinct_of_legible _ _ (Metadata.legible 0 m.metadata)
  exact read_of_perm settled.readable (alike_canonical (fun _ => rfl) _ distinct) moved

end

end Manifest

open Manifest

section

variable {depth : Nat}

namespace Kuryr

theorem probe_modest (path : String) (port : UInt32) : (probe path port).Modest where
  port := whole_nat32 port
  timing := by
    rintro t ⟨⟩
    decide

theorem daemonPod_modest (r : Release) (s : Settings) (hasCa : Bool) :
    (daemonPod r s hasCa).container.Modest where
  ports := nofun
  readiness := by
    rintro p ⟨⟩
    exact probe_modest ..
  liveness := by
    rintro p ⟨⟩
    exact probe_modest ..

theorem controllerPod_modest (r : Release) (s : Settings) (hasCa : Bool) :
    (controllerPod r s hasCa).container.Modest where
  ports := nofun
  readiness := by
    rintro p ⟨⟩
    exact probe_modest ..
  liveness := by
    rintro p ⟨⟩
    exact probe_modest ..

theorem holdBack_settled {m : Manifest} (settled : m.Settled depth) (hold : Bool) :
    (holdBack hold m).Settled depth := by
  cases hold with
  | false => exact settled
  | true => exact settled.annotate createOnlyKey "true"

theorem settled_of_render {r : Release} {s : Spec} {facts : Facts} {a : Rendering}
    (run : render r s facts = .ok a) : ∀ m ∈ a.objects, m.Settled (depth + 9) := by
  have base : ∀ m ∈ baseObjects, m.Settled (depth + 9) := by
    simp only [baseObjects, List.forall_mem_cons]
    exact ⟨settled_namespaceObject .., settled_serviceAccount .., settled_clusterRole ..,
      settled_clusterRoleBinding .., List.forall_mem_nil _⟩
  rcases objects_of_render run with withheld | ⟨settings, f, api, complete⟩
  · rw [withheld]
    exact base
  · rw [complete, List.forall_mem_append]
    refine ⟨base, ?_⟩
    simp only [workloads, List.forall_mem_append, List.forall_mem_cons]
    refine ⟨⟨⟨settled_secret .., settled_configMap .., List.forall_mem_nil _⟩, ?_⟩,
      holdBack_settled (settled_daemonSet _ _ _ (daemonPod_modest ..)) _,
      holdBack_settled (settled_deployment _ _ _ (by decide) (controllerPod_modest ..)) _,
      List.forall_mem_nil _⟩
    intro m member
    obtain ⟨ca, -, rfl⟩ := Option.map_eq_some_iff.mp (Option.mem_toList.mp member)
    exact settled_configMap ..

end Kuryr

namespace KubeProxy

theorem pod_modest (r : Release) (args : List String) : (pod r args).container.Modest where
  ports := by
    rintro p (_ | ⟨_, ⟨⟩⟩)
    decide
  readiness := by
    rintro p ⟨⟩
    exact ⟨by decide, nofun⟩
  liveness := nofun

theorem settled_of_render {r : Release} {s : Spec} {a : Rendering} (run : render r s = .ok a) :
    ∀ m ∈ a.objects, m.Settled (depth + 9) := by
  obtain ⟨p, config, -, objects, -⟩ := parts_of_render run
  simp only [objects, KubeProxy.objects, List.forall_mem_cons]
  exact ⟨settled_namespaceObject .., settled_serviceAccount .., settled_clusterRoleBinding ..,
    settled_configMap .., settled_daemonSet _ _ _ (pod_modest ..),
    settled_service _ _ _ (by decide) (by decide), List.forall_mem_nil _⟩

end KubeProxy

namespace Multus

theorem daemonPod_modest (r : Release) : (daemonPod r).container.Modest := ⟨nofun, nofun, nofun⟩

theorem admissionPod_modest (r : Release) : (admissionPod r).container.Modest where
  ports := by
    rintro p (_ | ⟨_, ⟨⟩⟩)
    decide
  readiness := nofun
  liveness := nofun

theorem settled_of_render {r : Release} {s : Spec} {a : Rendering} (run : render r s = .ok a) :
    ∀ m ∈ a.objects, m.Settled (depth + 9) := by
  obtain ⟨configs, -, objects, -⟩ := parts_of_render run
  simp only [objects, List.forall_mem_append, List.forall_mem_map]
  refine ⟨⟨?_, ?_⟩, fun _ _ => settled_attachmentDefinition ..⟩
  · simp only [baseObjects, List.forall_mem_cons]
    exact ⟨settled_namespaceObject .., settled_serviceAccount .., settled_clusterRole ..,
      settled_clusterRoleBinding .., settled_configMap ..,
      settled_daemonSet _ _ _ (daemonPod_modest r), List.forall_mem_nil _⟩
  · unfold admissionObjects
    split
    · simp only [List.forall_mem_cons]
      exact ⟨settled_deployment _ _ _ (by decide) (admissionPod_modest r),
        settled_service _ _ _ (by decide) (by decide), List.forall_mem_nil _⟩
    · exact List.forall_mem_nil _

end Multus

namespace NodeIdentity

theorem pod_modest (r : Release) (port : UInt32) : (pod r port.toNat).container.Modest where
  ports := by
    rintro p (_ | ⟨_, ⟨⟩⟩)
    exact whole_nat32 port
  readiness := nofun
  liveness := nofun

theorem webhook_settled (ca : String) : Json.Settled (depth + 4) (webhook ca) := by
  have keys : ["admissionReviewVersions", "clientConfig", "failurePolicy", "matchPolicy", "name",
      "rules", "sideEffects"].Pairwise (· < ·) := by decide
  refine ⟨keys, legible_texts _, ?client, legible_text _, legible_text _, legible_text _, ?rules,
    legible_text _, trivial⟩
  case client =>
    have clientKeys : ["caBundle", "service"].Pairwise (· < ·) := by decide
    have serviceKeys : ["name", "namespace", "port"].Pairwise (· < ·) := by decide
    exact ⟨clientKeys, legible_text _, ⟨serviceKeys, legible_text _, legible_text _,
      legible_natural (by decide), trivial⟩, trivial⟩
  case rules =>
    have ruleKeys : ["apiGroups", "apiVersions", "operations", "resources", "scope"].Pairwise
      (· < ·) := by decide
    exact ⟨⟨ruleKeys, legible_texts _, legible_texts _, legible_texts _, legible_texts _,
      legible_text _, trivial⟩, trivial⟩

theorem registration_settled (facts : WebhookFacts) :
    ∀ m ∈ (registration facts).1, m.Settled (depth + 9) := by
  have registered (ca : String) :
      (validatingWebhook "network-node-identity" provider (webhook ca)).Settled (depth + 9) :=
    (settled_ofComponent ..).withField ⟨webhook_settled ca, trivial⟩ (by decide)
  unfold registration
  split
  · rw [List.forall_mem_singleton]
    split
    · exact registered _
    · exact (registered _).annotate createWaitKey "true"
  · exact List.forall_mem_nil _

theorem settled_of_render {r : Release} {s : Spec} {facts : Facts} {a : Rendering}
    (run : render r s facts = .ok a) : ∀ m ∈ a.objects, m.Settled (depth + 9) := by
  obtain ⟨port, objects, -⟩ := parts_of_render run
  rw [objects, List.forall_mem_append]
  refine ⟨?_, registration_settled _⟩
  simp only [NodeIdentity.objects, List.forall_mem_cons]
  exact ⟨settled_namespaceObject .., settled_serviceAccount .., settled_clusterRole ..,
    settled_clusterRoleBinding .., settled_daemonSet _ _ _ (pod_modest r port),
    settled_service _ _ _ (show Whole servicePort by decide) (whole_nat32 port),
    List.forall_mem_nil _⟩

end NodeIdentity

theorem Provider.settled_of_render {r : Release} {s : Spec} {facts : Facts} {p : Provider}
    {a : Rendering} (run : p.render r s facts = .ok a) :
    ∀ m ∈ a.objects, m.Settled (depth + 9) := by
  cases p with
  | kuryr => exact Kuryr.settled_of_render run
  | kubeProxy => exact KubeProxy.settled_of_render run
  | multus => exact Multus.settled_of_render run
  | nodeIdentity => exact NodeIdentity.settled_of_render run

namespace Pass

theorem settled_stamped {hash : String} {m : Manifest} (fresh : m.Fresh)
    (settled : m.Settled (depth + 4)) : (stamped hash m).Settled (depth + 4) := by
  cases workload : m.isWorkload with
  | false => rwa [stamped_of_other workload]
  | true =>
    obtain ⟨path, found, bare⟩ := bare_of_fresh fresh workload
    obtain ⟨given, template, metadata, -⟩ := templatePath_eq_ok.mp found
    have spec : Json.Settled (depth + 4) (.object path.spec) := settled.spec _ given
    have pods : Json.Settled (depth + 3) (.object path.template) := settled_of_lookup spec template
    have inner : Json.Settled (depth + 2) (.object path.metadata) := by
      rcases objectUnder_eq_ok metadata with held | ⟨-, nothing⟩
      · exact settled_of_lookup pods held
      · rw [nothing]
        exact legible_object .nil (List.forall_mem_nil _)
    rw [stamped_of_workload workload found bare]
    have hashed : Json.Settled (depth + 1) (.object [(configHashKey, .text hash)]) :=
      legible_single (legible_text hash) configHashKey
    exact (settled.annotate _ _).withSpec (settled_put spec (settled_put pods
      (settled_put inner hashed)))

theorem settled_of_reconcile {r : Release} {s : Spec} {previous : Option Spec} {facts : Facts}
    {result : Outcome} (run : reconcile r s previous facts = .ok result) :
    ∀ m ∈ result.objects, m.Settled (depth + 9) := by
  intro m applied
  obtain ⟨type, rendering, -, renders, output⟩ := outcome_of_reconcile run
  have fresh := fun p taking => Provider.fresh_of_render (renders p taking)
  rw [output] at applied
  obtain ⟨p, taking, given, listed, rfl⟩ := source_of_applied fresh applied
  exact settled_stamped (fresh p taking given listed)
    (Provider.settled_of_render (renders p taking) given listed)

end Pass

end

end ClusterNet
