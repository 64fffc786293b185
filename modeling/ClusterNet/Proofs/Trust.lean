import ClusterNet.Proofs.Identities
import ClusterNet.Proofs.Pods
import ClusterNet.Proofs.Sections

/- The certificate authority of the cloud. Where the configuration of Kuryr names a file of
   certificates, both of its workloads find that file in a map that is rendered along with them.
   The one exception is a name that comes with a value, on a line behind a line break: values are
   written as they were discovered. -/
namespace ClusterNet

namespace Manifest

def file? (m : Manifest) (name : String) : Option String := m.data.bind (Json.textUnder? name)

/-- The container of the pods finds a file of a map in a directory. -/
def MountsFile (objects : List Manifest) (w : Manifest) (directory file : String) : Prop :=
  ∃ c, w.containers = [c] ∧
    ∃ mount ∈ mountsOf c, mount.textUnder? "mountPath" = some directory ∧
    ∃ volume ∈ w.volumes, volume.textUnder? "name" = mount.textUnder? "name" ∧
    ∃ given name, volume.get? "configMap" = some given ∧ given.textUnder? "name" = some name ∧
    ∃ m ∈ objects, m.identity = ⟨"ConfigMap", w.metadata.namespaceName, name⟩ ∧
      (m.file? file).isSome

theorem MountsFile.held {objects : List Manifest} {w : Manifest} {directory file : String}
    (mounts : MountsFile objects w directory file) : ∃ m ∈ objects, (m.file? file).isSome := by
  obtain ⟨c, -, mount, -, -, volume, -, -, given, name, -, -, m, held, -, holds⟩ := mounts
  exact ⟨m, held, holds⟩

theorem mountsFile_of_runs {objects : List Manifest} {w : Manifest} {component : String}
    {pod : PodSpec} (runs : w.Runs component pod) {space : String}
    (home : w.metadata.namespaceName = some space) {mount : Mount} {name file : String}
    (mounted : mount ∈ pod.container.mounts)
    (volume : ⟨mount.volume, .configMap name⟩ ∈ pod.volumes) {m : Manifest} (held : m ∈ objects)
    (same : m.identity = ⟨"ConfigMap", some space, name⟩) (holds : (m.file? file).isSome) :
    MountsFile objects w mount.path file := by
  refine ⟨_, runs.containers, mount.toJson, ?_, mount.path_toJson,
    Volume.toJson ⟨mount.volume, .configMap name⟩, ?_, ?_, _, name, rfl, rfl, m, held,
    home ▸ same, holds⟩
  · rw [mountsOf_toJson]
    exact List.mem_map_of_mem mounted
  · rw [runs.volumes]
    exact List.mem_map_of_mem volume
  · rw [Volume.name_toJson, Mount.volume_toJson]

end Manifest

open Manifest

namespace Kuryr

def confFile : String := "kuryr.conf"

theorem cafile_of_confSections (s : Settings) (f : OpenStackFacts) (api : ApiServer) :
    ∀ part ∈ confSections s f api, ∀ path, ("cafile", path) ∈ part.settings →
      f.caBundle.isSome ∧ path = caDirectory ++ "/" ++ caFile := by
  have authority : ∀ path, some path = f.caBundle.map (fun _ => caDirectory ++ "/" ++ caFile) →
      f.caBundle.isSome ∧ path = caDirectory ++ "/" ++ caFile := by
    intro path given
    obtain ⟨ca, known, same⟩ := Option.map_eq_some_iff.mp given.symm
    exact ⟨Option.isSome_of_eq_some known, same.symm⟩
  unfold confSections
  split <;> simpa [Ini.mem_settings] using authority

theorem region_set (s : Settings) {f : OpenStackFacts} (api : ApiServer) {name : String}
    (known : f.region = some name) :
    ∃ part ∈ confSections s f api, ("region_name", name) ∈ part.settings := by
  simp [confSections, Ini.mem_settings, known]

theorem confSections_named (s : Settings) (f : OpenStackFacts) (api : ApiServer) :
    ∀ part ∈ confSections s f api, part.Named := by
  have plain : ∀ part ∈ confSections s f api, '\n' ∉ part.name.toList := by
    unfold confSections
    split <;> simp
  have words : ∀ part ∈ confSections s f api, ∀ setting ∈ part.settings, Ini.Word setting.1 := by
    simp only [confSections, List.forall_mem_append, List.forall_mem_cons,
      Ini.forall_settings_cons, Ini.Word]
    split <;> simp [Ini.settings]
  intro part member
  exact ⟨plain part member, words part member⟩

theorem confSections_cons (s : Settings) (f : OpenStackFacts) (api : ApiServer) :
    ∃ first others, confSections s f api = first :: others :=
  ⟨_, _, rfl⟩

theorem conf_sets_iff {s : Settings} {f : OpenStackFacts} {api : ApiServer} {key value : String}
    (word : Ini.Word key) :
    Ini.Sets (conf s f api) key value ↔
      ∃ part ∈ confSections s f api, part.Shows key value ∨ part.Carries key value := by
  have named := confSections_named s f api
  obtain ⟨first, others, same⟩ := confSections_cons s f api
  rw [conf]
  rw [same] at named ⊢
  exact Ini.sets_write_iff named word

theorem caPath_shown : (Ini.lines (caDirectory ++ "/" ++ caFile)).head? =
    some (caDirectory ++ "/" ++ caFile).toList := by
  decide

theorem conf_sets_cafile (s : Settings) {f : OpenStackFacts} (api : ApiServer)
    (known : f.caBundle.isSome) :
    Ini.Sets (conf s f api) "cafile" (caDirectory ++ "/" ++ caFile) := by
  obtain ⟨ca, same⟩ := Option.isSome_iff_exists.mp known
  have set : ∃ part ∈ confSections s f api,
      ("cafile", caDirectory ++ "/" ++ caFile) ∈ part.settings := by
    simp [confSections, Ini.mem_settings, same]
  obtain ⟨part, listed, member⟩ := set
  exact (conf_sets_iff (by simp [Ini.Word])).mpr ⟨part, listed, .inl ⟨_, member, caPath_shown⟩⟩

def workloadIdentities : List Identity :=
  [⟨"DaemonSet", some namespaceName, "kuryr-cni"⟩,
    ⟨"Deployment", some namespaceName, "kuryr-controller"⟩]

def caMap (ca : String) : Manifest := .configMap caMapName namespaceName provider caFile ca

theorem caMap_mem_workloads (r : Release) (s : Settings) (facts : Facts) {f : OpenStackFacts}
    (api : ApiServer) {ca : String} (known : f.caBundle = some ca) :
    caMap ca ∈ workloads r s facts f api := by
  simp [workloads, known, caMap]

section

variable {objects : List Manifest} {ca : String}

theorem mountsFile_of_workload {m : Manifest} {pod : PodSpec} (runs : m.Runs provider pod)
    (home : m.metadata.namespaceName = some namespaceName) (held : caMap ca ∈ objects)
    (mounted : ∀ mount ∈ mounts true, mount ∈ pod.container.mounts)
    (behind : ∀ volume ∈ volumes true, volume ∈ pod.volumes) (hold : Bool) :
    MountsFile objects (holdBack hold m) caDirectory caFile := by
  have mount := mounted (.fixed "ca" caDirectory) (by simp [mounts])
  have volume := behind ⟨"ca", .configMap caMapName⟩ (by simp [volumes])
  cases hold with
  | false => exact mountsFile_of_runs runs home mount volume held rfl rfl
  | true => exact mountsFile_of_runs (runs.annotate ..) home mount volume held rfl rfl

theorem workloads_mount_authority (r : Release) (s : Settings) (facts : Facts)
    {f : OpenStackFacts} (api : ApiServer) (known : f.caBundle = some ca)
    (held : caMap ca ∈ objects) :
    ∀ i ∈ workloadIdentities, ∃ w ∈ workloads r s facts f api, w.identity = i ∧
      MountsFile objects w caDirectory caFile := by
  simp only [workloadIdentities, List.forall_mem_cons, workloads, known, Option.isSome_some]
  refine ⟨⟨_, List.mem_append_right _ List.mem_cons_self, identity_holdBack .., ?_⟩,
    ⟨_, List.mem_append_right _ (List.mem_cons_of_mem _ List.mem_cons_self),
      identity_holdBack .., ?_⟩, List.forall_mem_nil _⟩
  · exact mountsFile_of_workload (runs_daemonSet ..) rfl held
      (fun _ => List.mem_append_left _) (fun _ => List.mem_append_left _) _
  · exact mountsFile_of_workload (runs_deployment ..) rfl held (fun _ member => member)
      (fun _ member => member) _

end

theorem file?_holdBack (hold : Bool) (m : Manifest) (name : String) :
    (holdBack hold m).file? name = m.file? name := by
  cases hold <;> rfl

theorem baseObjects_without_conf : ∀ m ∈ baseObjects, m.file? confFile = none := by
  simp only [baseObjects, List.forall_mem_cons]
  exact ⟨rfl, rfl, rfl, rfl, List.forall_mem_nil _⟩

theorem conf_of_workloads {r : Release} {s : Settings} {facts : Facts} {f : OpenStackFacts}
    {api : ApiServer} {text : String} :
    ∀ m ∈ workloads r s facts f api, m.file? confFile = some text → text = conf s f api := by
  have plain {m : Manifest} (absent : m.file? confFile = none)
      (found : m.file? confFile = some text) : text = conf s f api := by
    rw [absent] at found
    cases found
  simp only [workloads, List.forall_mem_append, List.forall_mem_cons, file?_holdBack]
  refine ⟨⟨⟨plain rfl, fun found => (Option.some.inj found).symm, List.forall_mem_nil _⟩, ?_⟩,
    plain rfl, plain rfl, List.forall_mem_nil _⟩
  intro m member
  obtain ⟨ca, -, rfl⟩ := Option.map_eq_some_iff.mp (Option.mem_toList.mp member)
  exact plain rfl

/-- The configuration is rendered in full or not at all. -/
theorem conf_of_render {r : Release} {s : Spec} {facts : Facts} {a : Rendering}
    (run : render r s facts = .ok a) {m : Manifest} (listed : m ∈ a.objects) {text : String}
    (found : m.file? confFile = some text) :
    ∃ settings f api, Settings.ofSpec s = .ok settings ∧ facts.openStack = some f ∧
      facts.apiServer = some api ∧ text = conf settings f api ∧
      a.objects = baseObjects ++ workloads r settings facts f api := by
  obtain ⟨settings, configured, ⟨f, api, cloud, server, complete, -⟩ | ⟨-, withheld, -⟩⟩ :=
    parts_of_render run
  · refine ⟨settings, f, api, configured, cloud, server, ?_, complete⟩
    rw [complete] at listed
    rcases List.mem_append.mp listed with base | workload
    · rw [baseObjects_without_conf m base] at found
      cases found
    · exact conf_of_workloads m workload found
  · rw [withheld] at listed
    rw [baseObjects_without_conf m listed] at found
    cases found

end Kuryr

namespace Provider

theorem kuryr_of_conf {r : Release} {s : Spec} {facts : Facts} {p : Provider} {a : Rendering}
    (run : p.render r s facts = .ok a) {m : Manifest} (listed : m ∈ a.objects) {text : String}
    (found : m.file? Kuryr.confFile = some text) : p = .kuryr := by
  by_contra other
  have absent : ∀ m ∈ a.objects, m.file? Kuryr.confFile = none := by
    cases p with
    | kuryr => exact (other rfl).elim
    | kubeProxy =>
      obtain ⟨_, _, -, made, -⟩ := KubeProxy.parts_of_render run
      simp only [made, KubeProxy.objects, List.forall_mem_cons]
      exact ⟨rfl, rfl, rfl, rfl, rfl, rfl, List.forall_mem_nil _⟩
    | multus =>
      obtain ⟨_, -, made, -⟩ := Multus.parts_of_render run
      simp only [made, Multus.baseObjects, Multus.admissionObjects, List.forall_mem_append,
        List.forall_mem_cons, List.forall_mem_map]
      refine ⟨⟨⟨rfl, rfl, rfl, rfl, rfl, rfl, List.forall_mem_nil _⟩, ?_⟩, fun _ _ => rfl⟩
      split
      · simp only [List.forall_mem_cons]
        exact ⟨rfl, rfl, List.forall_mem_nil _⟩
      · exact List.forall_mem_nil _
    | nodeIdentity =>
      obtain ⟨_, made, -⟩ := NodeIdentity.parts_of_render run
      simp only [made, NodeIdentity.objects, List.forall_mem_append, List.forall_mem_cons]
      refine ⟨⟨rfl, rfl, rfl, rfl, rfl, rfl, List.forall_mem_nil _⟩, ?_⟩
      unfold NodeIdentity.registration
      split
      · rw [List.forall_mem_singleton]
        split <;> rfl
      · exact List.forall_mem_nil _
  rw [absent m listed] at found
  cases found

end Provider

namespace Kuryr

/-- Both workloads find the file of that path. -/
def TrustMounted (objects : List Manifest) (path : String) : Prop :=
  ∃ directory file, path = directory ++ "/" ++ file ∧ '/' ∉ file.toList ∧
    ∀ i ∈ workloadIdentities, ∃ w ∈ objects, w.identity = i ∧ MountsFile objects w directory file

structure Configured (s : Spec) (facts : Facts) (text : String) (settings : Settings)
    (f : OpenStackFacts) (api : ApiServer) : Prop where
  filled : Settings.ofSpec s = .ok settings
  cloud : facts.openStack = some f
  server : facts.apiServer = some api
  written : text = conf settings f api

/-- The files of certificates that a configuration names are there, by what its sections set and
    by what its text sets, but for lines that came with a value. -/
structure Trusts (objects : List Manifest) (sections : List Ini.Section) (text : String) :
    Prop where
  settings : ∀ part ∈ sections, ∀ path, ("cafile", path) ∈ part.settings →
    TrustMounted objects path
  lines : ∀ path, Ini.Sets text "cafile" path →
    TrustMounted objects path ∨ ∃ part ∈ sections, part.Carries "cafile" path

theorem trusts_of_settings {objects : List Manifest} {s : Settings} {f : OpenStackFacts}
    {api : ApiServer} (mounted : ∀ part ∈ confSections s f api, ∀ path,
      ("cafile", path) ∈ part.settings → TrustMounted objects path) :
    Trusts objects (confSections s f api) (conf s f api) where
  settings := mounted
  lines path set := by
    have word : Ini.Word "cafile" := by simp [Ini.Word]
    obtain ⟨part, member, shown | carried⟩ := (conf_sets_iff word).mp set
    · obtain ⟨given, listed, head⟩ := shown
      obtain ⟨-, same⟩ := cafile_of_confSections s f api part member given listed
      subst same
      -- The renderer's own path has no line break, so all of it is shown.
      have own := String.toList_inj.mp (Option.some.inj (head.symm.trans caPath_shown))
      exact .inl (mounted part member path (own ▸ listed))
    · exact .inr ⟨part, member, carried⟩

end Kuryr

namespace Pass

section

variable {objects : List Manifest} {hash : String} {w : Manifest} {directory file : String}

theorem mountsFile_stamped (fresh : w.Fresh) (mounts : MountsFile objects w directory file) :
    MountsFile objects (stamped hash w) directory file := by
  have space : (stamped hash w).metadata.namespaceName = w.metadata.namespaceName :=
    congrArg Identity.space (identity_stamped fresh)
  rw [MountsFile, containers_stamped fresh, volumes_stamped fresh, space]
  exact mounts

theorem file?_stamped (fresh : w.Fresh) (name : String) :
    (stamped hash w).file? name = w.file? name := by
  rw [file?, file?, data_stamped fresh]

end

theorem trust_of_outcome {r : Release} {s : Spec} {facts : Facts} {providers : List Provider}
    {rendering : Provider → Rendering}
    (renders : ∀ p ∈ providers, p.render r s facts = .ok (rendering p)) {m : Manifest}
    (applied : m ∈ (outcome r s (providers.map fun p => partOf p (rendering p))).objects)
    {text : String} (found : m.file? Kuryr.confFile = some text) :
    ∃ settings f api, Kuryr.Configured s facts text settings f api ∧
      Kuryr.Trusts (outcome r s (providers.map fun p => partOf p (rendering p))).objects
        (Kuryr.confSections settings f api) text := by
  have fresh := fun p member => Provider.fresh_of_render (renders p member)
  obtain ⟨p, taking, given, listed, rfl⟩ := source_of_applied fresh applied
  rw [file?_stamped (fresh p taking given listed)] at found
  cases Provider.kuryr_of_conf (renders p taking) listed found
  have run := renders .kuryr taking
  obtain ⟨settings, f, api, configured, cloud, server, written, complete⟩ :=
    Kuryr.conf_of_render run listed found
  refine ⟨settings, f, api, ⟨configured, cloud, server, written⟩, ?_⟩
  subst written
  refine Kuryr.trusts_of_settings ?_
  intro part member path set
  obtain ⟨known, rfl⟩ := Kuryr.cafile_of_confSections settings f api part member path set
  obtain ⟨ca, known⟩ := Option.isSome_iff_exists.mp known
  have rendered : Kuryr.caMap ca ∈ (rendering .kuryr).objects := by
    rw [complete]
    exact List.mem_append_right _ (Kuryr.caMap_mem_workloads r settings facts api known)
  -- Only workloads are stamped, so the map is applied as it was rendered.
  have held := mem_outcome_objects (r := r) (s := s) fresh taking rendered rfl
  refine ⟨Kuryr.caDirectory, Kuryr.caFile, rfl, by decide, ?_⟩
  intro i expected
  obtain ⟨w, workload, same, mounts⟩ :=
    Kuryr.workloads_mount_authority r settings facts api known held i expected
  have own : w ∈ (rendering .kuryr).objects := complete ▸ List.mem_append_right _ workload
  have shape := fresh .kuryr taking w own
  exact ⟨_, applied_of_source fresh taking own, (identity_stamped shape).trans same,
    mountsFile_stamped shape mounts⟩

end Pass
end ClusterNet
