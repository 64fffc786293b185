import ClusterNet.Proofs.Records
import ClusterNet.Proofs.Waiting

/- What the hash of Kuryr records of its workloads. The ports of the probes and the mounts of the
   authority are recorded only as far as the configuration and the authority are. As long as no fact
   has a line break, the sections of the configuration are read back off its text, the ports with
   them, and the render data determines all that is rendered but for what waits. -/
namespace ClusterNet

def OpenStackFacts.texts (f : OpenStackFacts) : List String :=
  [f.authUrl, f.projectId, f.credentials.username, f.credentials.password, f.podSubnetPool,
      f.serviceSubnet, f.router]
    ++ f.region.toList ++ f.credentials.userDomain.toList ++ f.externalNetwork.toList
    ++ f.octaviaProvider.toList ++ f.octaviaVersion.toList ++ f.workerSubnets
    ++ f.podSecurityGroups

section

variable {c : Char}

theorem not_mem_natural (other : c.isDigit = false) (n : Nat) : c ∉ (toString n).toList := by
  intro member
  have digit := Nat.isDigit_of_mem_toDigits (b := 10) (n := n) (by decide) (by decide)
    (by simpa using member)
  rw [digit] at other
  cases other

theorem not_mem_joined {texts : List String} (comma : c ≠ ',')
    (plain : ∀ text ∈ texts, c ∉ text.toList) : c ∉ (",".intercalate texts).toList := by
  have chars : (",".intercalate texts).toList = [','].intercalate (texts.map String.toList) := by
    simp
  rw [chars]
  intro member
  rcases mem_joined member with same | ⟨part, listed, inside⟩
  · exact comma same
  · obtain ⟨text, given, rfl⟩ := List.mem_map.mp listed
    exact plain text given inside

end

theorem ApiServer.url_plain {a : ApiServer} (plain : '\n' ∉ a.host.toList) :
    '\n' ∉ a.url.toList := by
  have port := not_mem_natural (c := '\n') rfl a.port.toNat
  unfold url
  generalize toString a.port.toNat = digits at port ⊢
  split <;> simp [toString, plain, port]

theorem filter_parted {α : Type} {p : α → Bool} {refused taken : List α}
    (out : ∀ a ∈ refused, p a = false) (inside : ∀ a ∈ taken, p a = true) :
    (refused ++ taken).filter p = taken ∧ (refused ++ taken).filter (!p ·) = refused := by
  rw [List.filter_append, List.filter_append, List.filter_eq_self.mpr inside,
    List.filter_eq_nil_iff.mpr (by simpa using out),
    List.filter_eq_self.mpr (by simpa using out),
    List.filter_eq_nil_iff.mpr (by simpa using inside)]
  exact ⟨List.nil_append _, List.append_nil _⟩

open Manifest

namespace Kuryr

theorem writeFlag_plain (b : Bool) : '\n' ∉ (writeFlag b).toList := by
  cases b <;> decide

theorem confSections_oneLine (s : Settings) {f : OpenStackFacts} {api : ApiServer}
    (plain : ∀ text ∈ api.host :: f.texts, '\n' ∉ text.toList) :
    ∀ part ∈ confSections s f api, part.OneLine := by
  have url := ApiServer.url_plain (List.forall_mem_cons.mp plain).1
  have number (n : UInt32) : '\n' ∉ (writeNat32 n).toList := not_mem_natural rfl n.toNat
  have enforced := writeFlag_plain !hasAccessLists f
  have prepopulated := writeFlag_plain s.prepopulation
  simp only [OpenStackFacts.texts, List.forall_mem_cons, List.forall_mem_append,
    Option.mem_toList] at plain
  obtain ⟨-, ⟨⟨⟨⟨⟨⟨⟨auth, project, user, password, pool, subnet, router, -⟩, region⟩, domain⟩,
    network⟩, provider⟩, -⟩, workers⟩, groups⟩ := plain
  have workers := not_mem_joined (by decide) workers
  have groups := not_mem_joined (by decide) groups
  have domain : '\n' ∉ (userDomain f).toList := by
    unfold userDomain
    cases given : f.credentials.userDomain with
    | none => decide
    | some name => exact domain name given
  have authority : '\n' ∉ (caDirectory ++ "/" ++ caFile).toList := by decide
  have algorithm : '\n' ∉ (if f.octaviaProvider = some "ovn" then "SOURCE_IP_PORT"
      else "ROUND_ROBIN").toList := by
    split <;> decide
  simp only [confSections, List.forall_mem_append, List.forall_mem_cons, Ini.Section.OneLine,
    Ini.forall_settings_cons]
  split <;> simp_all [Ini.settings]

/-- The two facts that the workloads need, with no line break in a text that the configuration is
    written from. -/
structure Discovered (facts : Facts) (f : OpenStackFacts) (api : ApiServer) : Prop where
  cloud : facts.openStack = some f
  server : facts.apiServer = some api
  plain : ∀ text ∈ api.host :: f.texts, '\n' ∉ text.toList

theorem read_conf (s : Settings) {f : OpenStackFacts} {api : ApiServer}
    (plain : ∀ text ∈ api.host :: f.texts, '\n' ∉ text.toList) :
    Ini.read (conf s f api) = confSections s f api := by
  have named := confSections_named s f api
  have oneLine := confSections_oneLine s plain
  obtain ⟨first, others, same⟩ := confSections_cons s f api
  rw [conf]
  rw [same] at named oneLine ⊢
  exact Ini.read_write named oneLine

theorem probe_sections (s : Settings) {f : OpenStackFacts} {api : ApiServer}
    (plain : ∀ text ∈ api.host :: f.texts, '\n' ∉ text.toList) :
    Ini.valuesIn (conf s f api) "cni_health_server" "port" = [writeNat32 s.daemonProbesPort] ∧
      Ini.valuesIn (conf s f api) "health_server" "port" =
        [writeNat32 s.controllerProbesPort] := by
  rw [Ini.valuesIn, Ini.valuesIn, read_conf s plain, confSections]
  split <;> simp

theorem writeNat32_injective {m n : UInt32} (same : writeNat32 m = writeNat32 n) : m = n := by
  have read := congrArg (fun text => Nat.ofDigitChars 10 text.toList 0) same
  exact UInt32.toNat_inj.mp (by simpa [writeNat32] using read)

theorem ports_of_conf {s s' : Settings} {f f' : OpenStackFacts} {api api' : ApiServer}
    (plain : ∀ text ∈ api.host :: f.texts, '\n' ∉ text.toList)
    (plain' : ∀ text ∈ api'.host :: f'.texts, '\n' ∉ text.toList)
    (same : conf s f api = conf s' f' api') :
    s.daemonProbesPort = s'.daemonProbesPort ∧
      s.controllerProbesPort = s'.controllerProbesPort := by
  obtain ⟨daemon, controller⟩ := probe_sections s plain
  obtain ⟨daemon', controller'⟩ := probe_sections s' plain'
  rw [same] at daemon controller
  constructor
  · exact writeNat32_injective (List.head_eq_of_cons_eq (daemon.symm.trans daemon'))
  · exact writeNat32_injective (List.head_eq_of_cons_eq (controller.symm.trans controller'))

structure Recorded (r : Release) (s : Settings) (f : OpenStackFacts) (api : ApiServer)
    (data : Dict Json) : Prop where
  authority : data.get? "caBundle" = f.caBundle.map .text
  clouds : data.get? "cloudsYaml" = some (.text (Yaml.text (clouds f)))
  controller : data.get? "controllerImage" = some (.text r.images.kuryrController)
  daemon : data.get? "daemonImage" = some (.text r.images.kuryrDaemon)
  conf : data.get? "kuryrConf" = some (.text (conf s f api))

theorem recorded_unique {r r' : Release} {s s' : Settings} {f f' : OpenStackFacts}
    {api api' : ApiServer} {data : Dict Json} (first : Recorded r s f api data)
    (second : Recorded r' s' f' api' data) :
    f.caBundle = f'.caBundle ∧ Yaml.text (Kuryr.clouds f) = Yaml.text (Kuryr.clouds f') ∧
      r.images.kuryrController = r'.images.kuryrController ∧
      r.images.kuryrDaemon = r'.images.kuryrDaemon ∧
      Kuryr.conf s f api = Kuryr.conf s' f' api' := by
  have text {key left right : String} (one : data.get? key = some (.text left))
      (two : data.get? key = some (.text right)) : left = right :=
    Json.text.inj (Option.some.inj (one.symm.trans two))
  refine ⟨?_, text first.clouds second.clouds, text first.controller second.controller,
    text first.daemon second.daemon, text first.conf second.conf⟩
  have injective : Function.Injective Json.text := fun _ _ => Json.text.inj
  exact Option.map_injective injective (first.authority.symm.trans second.authority)

theorem recorded_workloadData (r : Release) (s : Settings) (f : OpenStackFacts)
    (api : ApiServer) (network : String) :
    Recorded r s f api
      (.ofList (("openStackServiceNetwork", .text network) :: workloadData r s f api)) := by
  have distinct : ((("openStackServiceNetwork", Json.text network) ::
      workloadData r s f api).map Prod.fst).Nodup := by
    unfold workloadData
    cases f.caBundle <;> simp
  have found {key : String} {value : Json} (listed : (key, value) ∈ workloadData r s f api) :=
    Dict.get?_ofList_of_mem distinct (List.mem_cons_of_mem _ listed)
  refine ⟨?_, found ?_, found ?_, found ?_, found ?_⟩
  · cases known : f.caBundle with
    | none =>
      rw [Option.map_none, ← Option.not_isSome_iff_eq_none, ← Dict.mem_keys_iff,
        Dict.mem_keys_ofList]
      simp [workloadData, known]
    | some ca => exact found (by simp [workloadData, known])
  all_goals simp [workloadData]

theorem recorded_of_render {r : Release} {s : Spec} {facts : Facts} {a : Rendering}
    (run : render r s facts = .ok a) {f : OpenStackFacts} {api : ApiServer}
    (cloud : facts.openStack = some f) (server : facts.apiServer = some api) :
    ∃ settings, a.objects = baseObjects ++ workloads r settings facts f api ∧
      Recorded r settings f api a.data := by
  obtain ⟨settings, -, run⟩ := bind_eq_ok.mp run
  rw [cloud, server] at run
  cases run
  exact ⟨settings, rfl, recorded_workloadData ..⟩

/-- Equal, or one is the other marked to be created only once. -/
def SameButCreateOnly (m n : Manifest) : Prop :=
  m = n ∨ m = n.markCreateOnly ∨ n = m.markCreateOnly

theorem same_holdBack (hold hold' : Bool) (m : Manifest) :
    SameButCreateOnly (holdBack hold m) (holdBack hold' m) := by
  cases hold with
  | false =>
    cases hold' with
    | false => exact .inl rfl
    | true => exact .inr (.inr rfl)
  | true =>
    cases hold' with
    | false => exact .inr (.inl rfl)
    | true => exact .inl rfl

theorem daemon_congr {r r' : Release} {s s' : Settings} {f f' : OpenStackFacts}
    (image : r.images.kuryrDaemon = r'.images.kuryrDaemon)
    (port : s.daemonProbesPort = s'.daemonProbesPort) (authority : f.caBundle = f'.caBundle) :
    daemon r s f = daemon r' s' f' := by
  rw [daemon, daemon, daemonPod, daemonPod, image, port, authority]

theorem controller_congr {r r' : Release} {s s' : Settings} {f f' : OpenStackFacts}
    (image : r.images.kuryrController = r'.images.kuryrController)
    (port : s.controllerProbesPort = s'.controllerProbesPort)
    (authority : f.caBundle = f'.caBundle) : controller r s f = controller r' s' f' := by
  rw [controller, controller, controllerPod, controllerPod, image, port, authority]

theorem files_congr {s s' : Settings} {f f' : OpenStackFacts} {api api' : ApiServer}
    (credentials : Yaml.text (clouds f) = Yaml.text (clouds f'))
    (written : conf s f api = conf s' f' api') (authority : f.caBundle = f'.caBundle) :
    files s f api = files s' f' api' := by
  rw [files, files, credentials, written, authority]

theorem baseObjects_without_workloads : ∀ m ∈ baseObjects, m.isWorkload = false := by
  simp only [baseObjects, List.forall_mem_cons]
  exact ⟨rfl, rfl, rfl, rfl, List.forall_mem_nil _⟩

theorem files_without_workloads (s : Settings) (f : OpenStackFacts) (api : ApiServer) :
    ∀ m ∈ files s f api, m.isWorkload = false :=
  forall_mem_files rfl rfl fun _ => rfl

theorem isWorkload_holdBack (hold : Bool) (m : Manifest) :
    (holdBack hold m).isWorkload = m.isWorkload := by
  cases hold <;> rfl

theorem objects_parted {r : Release} {s : Settings} {facts : Facts} {f : OpenStackFacts}
    {api : ApiServer} {a : Rendering}
    (objects : a.objects = baseObjects ++ workloads r s facts f api) :
    a.workloads = [holdBack (heldBack r facts f.rollout).1 (daemon r s f),
        holdBack (heldBack r facts f.rollout).2 (controller r s f)] ∧
      a.objects.filter (!·.isWorkload) = baseObjects ++ files s f api := by
  rw [Rendering.workloads, objects, workloads_eq, ← List.append_assoc]
  apply filter_parted
  · rw [List.forall_mem_append]
    exact ⟨baseObjects_without_workloads, files_without_workloads s f api⟩
  · simp only [List.forall_mem_cons, isWorkload_holdBack]
    exact ⟨rfl, rfl, List.forall_mem_nil _⟩

/-- Both probes ask the one port that the section sets. -/
def ProbesFollow (text name : String) (m : Manifest) : Prop :=
  ∃ port : Nat, m.probePorts = [port, port] ∧ Ini.valuesIn text name "port" = [toString port]

structure Serves (a : Rendering) (daemon controller : Manifest) (text : String) : Prop where
  workloads : a.workloads = [daemon, controller]
  identities : [daemon, controller].map identity = workloadIdentities
  written : ∃ m ∈ a.objects, m.identity = ⟨"ConfigMap", some namespaceName, configMapName⟩ ∧
    m.file? confFile = some text
  daemonProbes : ProbesFollow text "cni_health_server" daemon
  controllerProbes : ProbesFollow text "health_server" controller

theorem probePorts_holdBack {m : Manifest} {pod : PodSpec} (runs : m.Runs provider pod)
    (hold : Bool) : (holdBack hold m).probePorts =
      (pod.container.readiness.toList ++ pod.container.liveness.toList).map Probe.port := by
  cases hold with
  | false => exact runs.probePorts
  | true => exact (runs.annotate ..).probePorts

theorem serves_of_objects {r : Release} {s : Settings} {facts : Facts} {f : OpenStackFacts}
    {api : ApiServer} {a : Rendering}
    (objects : a.objects = baseObjects ++ workloads r s facts f api)
    (plain : ∀ text ∈ api.host :: f.texts, '\n' ∉ text.toList) :
    Serves a (holdBack (heldBack r facts f.rollout).1 (daemon r s f))
      (holdBack (heldBack r facts f.rollout).2 (controller r s f)) (conf s f api) where
  workloads := (objects_parted objects).1
  identities := by
    simp only [List.map_cons, identity_holdBack]
    rfl
  written := by
    refine ⟨.configMap configMapName namespaceName provider confFile (conf s f api), ?_, rfl, rfl⟩
    rw [objects, workloads_eq, files]
    simp [confFile]
  daemonProbes := ⟨s.daemonProbesPort.toNat, probePorts_holdBack (runs_daemonSet ..) _,
    (probe_sections s plain).1⟩
  controllerProbes := ⟨s.controllerProbesPort.toNat, probePorts_holdBack (runs_deployment ..) _,
    (probe_sections s plain).2⟩

/-- Two renderings of Kuryr that recorded the same have the same workloads, but for what waits, and
    the same other objects, the configuration and the credentials among them, as long as no fact of
    theirs has a line break, the authority apart. The probes ask the ports that the configuration
    sets for them. -/
theorem data_determines_workloads {r₁ r₂ : Release} {s₁ s₂ : Spec} {facts₁ facts₂ : Facts}
    {f₁ f₂ : OpenStackFacts} {api₁ api₂ : ApiServer} {a b : Rendering}
    (first : render r₁ s₁ facts₁ = .ok a) (second : render r₂ s₂ facts₂ = .ok b)
    (known₁ : Discovered facts₁ f₁ api₁) (known₂ : Discovered facts₂ f₂ api₂)
    (same : a.data = b.data) :
    ∃ daemon controller daemon' controller' text, Serves a daemon controller text ∧
      Serves b daemon' controller' text ∧ SameButCreateOnly daemon daemon' ∧
      SameButCreateOnly controller controller' ∧
      a.objects.filter (!·.isWorkload) = b.objects.filter (!·.isWorkload) := by
  obtain ⟨settings₁, left, data₁⟩ := recorded_of_render first known₁.cloud known₁.server
  obtain ⟨settings₂, right, data₂⟩ := recorded_of_render second known₂.cloud known₂.server
  rw [same] at data₁
  obtain ⟨authority, credentials, controllerImage, daemonImage, written⟩ :=
    recorded_unique data₁ data₂
  obtain ⟨daemonPort, controllerPort⟩ := ports_of_conf known₁.plain known₂.plain written
  have serves := serves_of_objects right known₂.plain
  rw [← written, ← daemon_congr daemonImage daemonPort authority,
    ← controller_congr controllerImage controllerPort authority] at serves
  refine ⟨_, _, _, _, _, serves_of_objects left known₁.plain, serves, same_holdBack ..,
    same_holdBack .., ?_⟩
  rw [(objects_parted left).2, (objects_parted right).2, files_congr credentials written authority]

theorem data_withoutProgress {r : Release} {s : Spec} {f g : Facts} {a b : Rendering}
    (first : render r s f = .ok a) (second : render r s g = .ok b)
    (same : f.withoutProgress = g.withoutProgress) : a.data = b.data := by
  have runs := render_unmarked r s f
  rw [same, ← render_unmarked r s g, first, second] at runs
  have unmarked : a.unmarked = b.unmarked := Except.ok.inj runs
  have data : a.unmarked.data = b.unmarked.data := congrArg Rendering.data unmarked
  exact data

end Kuryr

namespace Pass

theorem render_of_check {r : Release} {s d : Spec} {previous : Option Spec}
    (accepted : check r s previous = .ok d) (kuryr : s.type? = some .kuryr) (facts : Facts) :
    ∃ a, Kuryr.render r d facts = .ok a := by
  obtain ⟨type, rendering, known, -, filled, renders, -⟩ := outcome_of_check accepted facts
  cases kuryr.symm.trans known
  rw [active_kuryr filled.known, List.forall_mem_cons] at renders
  exact ⟨_, renders.1⟩

theorem kuryrSample_upgrade_recorded :
    ∃ a b, Kuryr.render .builtIn (defaulted (Provider.forType .kuryr) kuryrSample)
        (rollingFacts "4.13.0" .none false) = .ok a ∧
      Kuryr.render .builtIn (defaulted (Provider.forType .kuryr) kuryrSample)
        (rollingFacts "4.14.0" ⟨true, true⟩ true) = .ok b ∧
      a.data = b.data ∧
      ∃ daemon controller daemon' controller' text, Kuryr.Serves a daemon controller text ∧
        Kuryr.Serves b daemon' controller' text ∧ Kuryr.SameButCreateOnly daemon daemon' ∧
        Kuryr.SameButCreateOnly controller controller' ∧
        a.objects.filter (!·.isWorkload) = b.objects.filter (!·.isWorkload) := by
  obtain ⟨a, first⟩ :=
    render_of_check kuryrSample_accepted rfl (rollingFacts "4.13.0" .none false)
  obtain ⟨b, second⟩ :=
    render_of_check kuryrSample_accepted rfl (rollingFacts "4.14.0" ⟨true, true⟩ true)
  have before : Kuryr.Discovered (rollingFacts "4.13.0" .none false) _ _ :=
    ⟨rfl, rfl, by decide⟩
  have after : Kuryr.Discovered (rollingFacts "4.14.0" ⟨true, true⟩ true) _ _ :=
    ⟨rfl, rfl, by decide⟩
  have same : a.data = b.data := Kuryr.data_withoutProgress first second rfl
  exact ⟨a, b, first, second, same,
    Kuryr.data_determines_workloads first second before after same⟩

end Pass
end ClusterNet
