import ClusterNet.Proofs.Criteria
import ClusterNet.Proofs.NetworkTexts

/- Which fields the problems of a spec are about. Validation of Kuryr looks at the two lists of
   networks, at the network for service addresses and at the other settings, and what it finds in
   one of these places does not depend on what is wrong in another. Only the sizes of networks are
   compared, and that takes networks that can be read. -/
namespace ClusterNet

def Problem.field? : Problem → Option String
  | .structural field _ | .semantic field _ | .unsafeChange field _ => some field
  | _ => none

/-- The problems with the fields in question, in the order in which they were found. -/
def problemsOn (concerned : String → Prop) [DecidablePred concerned] (found : List Problem) :
    List Problem :=
  found.filter fun q => q.field?.any fun field => decide (concerned field)

def About (concerned : String → Prop) (found : List Problem) : Prop :=
  ∀ q ∈ found, ∃ field ∈ q.field?, concerned field

section

variable {concerned other : String → Prop} {field detail : String} {xs ys : List Problem}

@[simp] theorem about_nil : About concerned [] := nofun

@[simp] theorem about_structural :
    About concerned (.structural field detail :: xs) ↔ concerned field ∧ About concerned xs := by
  simp [About, Problem.field?]

@[simp] theorem about_semantic :
    About concerned (.semantic field detail :: xs) ↔ concerned field ∧ About concerned xs := by
  simp [About, Problem.field?]

@[simp] theorem about_append :
    About concerned (xs ++ ys) ↔ About concerned xs ∧ About concerned ys :=
  List.forall_mem_append

theorem About.flatMap {α : Type} {items : List α} {f : α → List Problem}
    (each : ∀ a ∈ items, About concerned (f a)) : About concerned (items.flatMap f) := by
  intro q found
  obtain ⟨a, member, inside⟩ := List.mem_flatMap.mp found
  exact each a member q inside

theorem About.mono (about : About concerned xs) (wider : ∀ f, concerned f → other f) :
    About other xs := by
  intro q found
  obtain ⟨f, own, holds⟩ := about q found
  exact ⟨f, own, wider f holds⟩

section

variable [DecidablePred concerned]

theorem problemsOn_append :
    problemsOn concerned (xs ++ ys) = problemsOn concerned xs ++ problemsOn concerned ys :=
  List.filter_append ..

theorem problemsOn_eq_self (about : About concerned xs) : problemsOn concerned xs = xs := by
  apply List.filter_eq_self.mpr
  intro q found
  obtain ⟨f, own, holds⟩ := about q found
  rw [own]
  exact decide_eq_true holds

theorem problemsOn_eq_nil (about : About other xs) (apart : ∀ f, other f → ¬concerned f) :
    problemsOn concerned xs = [] := by
  apply List.filter_eq_nil_iff.mpr
  intro q found
  obtain ⟨f, own, holds⟩ := about q found
  rw [own]
  intro held
  exact apart f holds (of_decide_eq_true held)

end

end

def Under (path field : String) : Prop := path.toList <+: field.toList

instance (path field : String) : Decidable (Under path field) :=
  inferInstanceAs (Decidable (_ <+: _))

theorem Under.refl (path : String) : Under path path := List.prefix_refl _

theorem under_entry (path : String) (i : Nat) (rest : String) :
    Under path s!"{path}[{i}{rest}" := by
  simp only [Under, toString, String.toList_append, List.append_assoc]
  exact List.prefix_append ..

/-- Nothing is under two paths neither of which is under the other. -/
theorem apart_of_paths {path other field : String} (apart : ¬Under path other)
    (apart' : ¬Under other path) (under : Under path field) : ¬Under other field := by
  intro under'
  rcases List.prefix_or_prefix_of_prefix under under' with above | below
  · exact apart above
  · exact apart' below

namespace Spec

def NetworkField (field : String) : Prop := Under serviceField field ∨ Under clusterField field

instance : DecidablePred NetworkField := fun _ => inferInstanceAs (Decidable (_ ∨ _))

def networkProblems (s : Spec) : List Problem :=
  (requireOne serviceField s.serviceNetwork.length).toList
    ++ (requireOne clusterField s.clusterNetwork.length).toList
    ++ s.serviceProblems ++ s.clusterProblems

theorem requireOne_about (field : String) (count : Nat) :
    About (Under field) (requireOne field count).toList := by
  unfold requireOne
  split <;> simp [Under.refl]

theorem serviceEntryProblems_about (i : Nat) (cidr : String) :
    About (Under serviceField) (serviceEntryProblems i cidr) := by
  unfold serviceEntryProblems
  split
  · exact about_nil
  · exact about_semantic.mpr ⟨under_entry serviceField i "]", about_nil⟩

theorem clusterEntryProblems_about (i : Nat) (entry : ClusterEntry) :
    About (Under clusterField) (clusterEntryProblems i entry) := by
  unfold clusterEntryProblems hostPrefixProblems
  split
  · split
    · exact about_nil
    · split
      · exact about_semantic.mpr ⟨under_entry clusterField i "].hostPrefix", about_nil⟩
      · exact about_nil
  · exact about_semantic.mpr ⟨under_entry clusterField i "].cidr", about_nil⟩

theorem serviceProblems_about (s : Spec) : About (Under serviceField) s.serviceProblems :=
  About.flatMap fun (cidr, i) _ => serviceEntryProblems_about i cidr

theorem clusterProblems_about (s : Spec) : About (Under clusterField) s.clusterProblems :=
  About.flatMap fun (entry, i) _ => clusterEntryProblems_about i entry

theorem networkProblems_about (s : Spec) : About NetworkField s.networkProblems := by
  have service {found} (about : About (Under serviceField) found) : About NetworkField found :=
    about.mono fun _ => .inl
  have cluster {found} (about : About (Under clusterField) found) : About NetworkField found :=
    about.mono fun _ => .inr
  simp only [networkProblems, about_append]
  exact ⟨⟨⟨service (requireOne_about _ _), cluster (requireOne_about _ _)⟩,
    service s.serviceProblems_about⟩, cluster s.clusterProblems_about⟩

end Spec

namespace Kuryr

/-- All settings but the network for service addresses. -/
def settingNames : List String :=
  ["poolMinPorts", "poolBatchPorts", "poolMaxPorts", "enablePortPoolsPrepopulation",
    "daemonProbesPort", "controllerProbesPort", "mtu"]

def SettingField (f : String) : Prop := f ∈ settingNames.map field

instance : DecidablePred SettingField := fun f => inferInstanceAs (Decidable (f ∈ _))

def configProblems (s : Spec) : List Problem :=
  match s.kuryr with
  | none => [.structural configField "required when the default network type is Kuryr"]
  | some k => serviceHostProblems s k ++ poolProblems k ++ probeProblems k

theorem validate_eq (s : Spec) : validate s = s.networkProblems ++ configProblems s := rfl

theorem sizingProblems_about (field : String) (service host : Network) (clusters : List Network) :
    About (· = field) (Network.sizingProblems field service host clusters) := by
  intro q found
  obtain ⟨fault, -, rfl⟩ := List.mem_map.mp found
  exact ⟨field, rfl, rfl⟩

theorem serviceHostProblems_about (s : Spec) (k : KuryrConfig) :
    About (· = serviceHostField) (serviceHostProblems s k) := by
  simp only [serviceHostProblems]
  repeat' split
  all_goals first | exact sizingProblems_about _ _ _ _ | simp

theorem settingField_of_name {name : String} (listed : name ∈ settingNames) :
    SettingField (field name) := List.mem_map_of_mem listed

theorem poolLimitProblems_about {name : String} (listed : name ∈ settingNames)
    (value : Option UInt32) (most : Nat) :
    About SettingField (poolLimitProblems name value most) := by
  unfold poolLimitProblems
  repeat' split
  all_goals simp [settingField_of_name listed]

theorem portProblems_about {name : String} (listed : name ∈ settingNames) (port : Option UInt32) :
    About SettingField (portProblems name port) := by
  unfold portProblems
  repeat' split
  all_goals simp [settingField_of_name listed]

theorem poolProblems_about (k : KuryrConfig) : About SettingField (poolProblems k) := by
  have least : "poolMinPorts" ∈ settingNames := by decide
  have batch : "poolBatchPorts" ∈ settingNames := by decide
  simp only [poolProblems, about_append]
  refine ⟨⟨?_, ?_⟩, ?_⟩
  · split <;> simp [settingField_of_name batch]
  · repeat' split
    all_goals simp [settingField_of_name least]
  · repeat' split
    all_goals simp [poolLimitProblems_about, least, batch]

theorem probeProblems_about (k : KuryrConfig) : About SettingField (probeProblems k) := by
  have daemon : "daemonProbesPort" ∈ settingNames := by decide
  have controller : "controllerProbesPort" ∈ settingNames := by decide
  have mtu : "mtu" ∈ settingNames := by decide
  simp only [probeProblems, about_append]
  refine ⟨⟨⟨portProblems_about daemon _, portProblems_about controller _⟩, ?_⟩, ?_⟩
  · repeat' split
    all_goals simp [settingField_of_name controller]
  · repeat' split
    all_goals simp [settingField_of_name mtu]

theorem SettingField.under {f : String} (setting : SettingField f) : Under configField f := by
  obtain ⟨name, -, rfl⟩ := List.mem_map.mp setting
  simp only [Under, field, String.toList_append, List.append_assoc]
  exact List.prefix_append ..

theorem under_of_host {f : String} (same : f = serviceHostField) : Under configField f := by
  subst same
  decide

theorem configProblems_about (s : Spec) : About (Under configField) (configProblems s) := by
  unfold configProblems
  split
  · exact about_structural.mpr ⟨Under.refl configField, about_nil⟩
  · next k _ =>
    have hosting := (serviceHostProblems_about s k).mono fun _ => under_of_host
    have pools := (poolProblems_about k).mono fun _ => SettingField.under
    have probes := (probeProblems_about k).mono fun _ => SettingField.under
    exact about_append.mpr ⟨about_append.mpr ⟨hosting, pools⟩, probes⟩

theorem networkField_apart {f : String} (network : Spec.NetworkField f) : ¬Under configField f := by
  rcases network with service | cluster
  · exact apart_of_paths (by decide) (by decide) service
  · exact apart_of_paths (by decide) (by decide) cluster

theorem validate_on_networks (s : Spec) :
    problemsOn Spec.NetworkField (validate s) = s.networkProblems := by
  have config := problemsOn_eq_nil (configProblems_about s)
    fun _ under network => networkField_apart network under
  rw [validate_eq, problemsOn_append, problemsOn_eq_self s.networkProblems_about, config,
    List.append_nil]

theorem validate_on_config {concerned : String → Prop} [DecidablePred concerned]
    (inside : ∀ f, concerned f → Under configField f) (s : Spec) :
    problemsOn concerned (validate s) = problemsOn concerned (configProblems s) := by
  have networks := problemsOn_eq_nil s.networkProblems_about
    fun f network held => networkField_apart network (inside f held)
  rw [validate_eq, problemsOn_append, networks, List.nil_append]

theorem host_not_setting : ¬SettingField serviceHostField := by decide

section

variable {s : Spec} {k : KuryrConfig} (configured : s.kuryr = some k)

include configured

theorem validate_on_settings :
    problemsOn SettingField (validate s) = poolProblems k ++ probeProblems k := by
  have host : problemsOn SettingField (serviceHostProblems s k) = [] :=
    problemsOn_eq_nil (serviceHostProblems_about s k) fun _ same => same ▸ host_not_setting
  rw [validate_on_config (fun _ => SettingField.under), configProblems, configured]
  simp only [problemsOn_append]
  rw [host, problemsOn_eq_self (poolProblems_about k), problemsOn_eq_self (probeProblems_about k),
    List.nil_append]

theorem validate_on_host :
    problemsOn (· = serviceHostField) (validate s) = serviceHostProblems s k := by
  have apart (f : String) (setting : SettingField f) : ¬f = serviceHostField := by
    rintro rfl
    exact host_not_setting setting
  rw [validate_on_config (fun _ => under_of_host), configProblems, configured]
  simp only [problemsOn_append]
  rw [problemsOn_eq_self (serviceHostProblems_about s k),
    problemsOn_eq_nil (poolProblems_about k) apart,
    problemsOn_eq_nil (probeProblems_about k) apart, List.append_nil, List.append_nil]

end

theorem validate_on_host_of_absent {s : Spec} (absent : s.kuryr = none) :
    problemsOn (· = serviceHostField) (validate s) = [] := by
  have apart : configField ≠ serviceHostField := by decide
  rw [validate_on_config (fun _ => under_of_host), configProblems, absent]
  exact problemsOn_eq_nil (about_structural.mpr ⟨rfl, about_nil⟩) fun _ same => same ▸ apart

/-- The sizes of the two networks can be compared. -/
structure Sized (s : Spec) (service host : Network) : Prop where
  service : s.SoleService service
  host : ∃ k, s.kuryr = some k ∧ k.NamesHost host

def IsSizing (q : Problem) : Prop :=
  ∃ service host fault, q = Network.SizingFault.problem serviceHostField service host fault

theorem message_begins (service host : Network) (fault : Network.SizingFault) :
    ∃ rest, (fault.message service host).toList = host.text.toList ++ rest := by
  cases fault <;>
    simp only [Network.SizingFault.message, toString, String.toList_append, List.append_assoc] <;>
    exact ⟨_, rfl⟩

/-- No network is written with the letter that the other complaint begins with. -/
theorem unread_not_sizing (e : Network.ReadError) :
    ¬IsSizing (.semantic serviceHostField e.message) := by
  rintro ⟨service, host, fault, same⟩
  have texts : e.message = fault.message service host := (Problem.semantic.inj same).2
  obtain ⟨rest, begins⟩ := message_begins service host fault
  have plain : ∀ c ∈ host.text.toList, c ≠ 'i' :=
    host.forall_mem_text (p := fun c => c ≠ 'i') (by decide) (by decide) (by decide) (by decide)
  rw [← texts] at begins
  cases written : host.text.toList with
  | nil => simp [Network.text_toList] at written
  | cons c cs =>
    rw [written] at begins plain
    have first : 'i' = c := by
      have heads := congrArg List.head? begins
      simpa [Network.ReadError.message, toString] using heads
    exact plain c List.mem_cons_self first.symm

theorem sized_of_hostProblem {s : Spec} {k : KuryrConfig} {q : Problem}
    (found : q ∈ serviceHostProblems s k) (sizing : IsSizing q) :
    ∃ service host, s.SoleService service ∧ k.NamesHost host := by
  cases given : k.serviceNetwork with
  | none =>
    -- That the setting is missing is a structural problem.
    obtain ⟨service, host, fault, rfl⟩ := sizing
    simp [serviceHostProblems, given, Network.SizingFault.problem] at found
  | some text =>
    cases read : Network.read text with
    | error e =>
      rw [hostProblems_of_unread given read, List.mem_singleton] at found
      subst found
      exact absurd sizing (unread_not_sizing e)
    | ok host =>
      simp only [serviceHostProblems, given, read] at found
      split at found
      · next service services =>
        split at found
        · next single =>
          exact ⟨service, host, Spec.sole_of_single single services, text, given, read⟩
        · cases found
      · cases found

theorem sized_of_sizing {s : Spec} {q : Problem} (found : q ∈ validate s) (sizing : IsSizing q) :
    ∃ service host, Sized s service host := by
  have onHost : q ∈ problemsOn (· = serviceHostField) (validate s) := by
    obtain ⟨service, host, fault, rfl⟩ := sizing
    have own : decide (serviceHostField = serviceHostField) = true := decide_eq_true rfl
    exact List.mem_filter.mpr ⟨found, own⟩
  cases configured : s.kuryr with
  | none =>
    rw [validate_on_host_of_absent configured] at onHost
    cases onHost
  | some k =>
    rw [validate_on_host configured] at onHost
    obtain ⟨service, host, sole, named⟩ := sized_of_hostProblem onHost sizing
    exact ⟨service, host, sole, k, configured, named⟩

theorem sizing_of_sized {s : Spec} {service host : Network} (sized : Sized s service host) :
    problemsOn (· = serviceHostField) (validate s) =
      Network.sizingProblems serviceHostField service host s.clusterNetworks := by
  obtain ⟨sole, k, configured, named⟩ := sized
  rw [validate_on_host configured, hostProblems_of_named sole named]

/-- What is wrong in one place is reported whatever is wrong in the others. The settings are checked
    wherever there is a configuration, the networks with and without one, and the sizes exactly
    where both networks can be read. -/
theorem validation_masks_nothing :
    (∀ a b k, a.kuryr = some k → b.kuryr = some k →
      problemsOn SettingField (validate a) = problemsOn SettingField (validate b) ∧
      problemsOn SettingField (validate a) = poolProblems k ++ probeProblems k) ∧
    (∀ a b : Spec, a.serviceNetwork = b.serviceNetwork → a.clusterNetwork = b.clusterNetwork →
      problemsOn Spec.NetworkField (validate a) = problemsOn Spec.NetworkField (validate b) ∧
      problemsOn Spec.NetworkField (validate a) = a.networkProblems) ∧
    (∀ s service host, Sized s service host →
      problemsOn (· = serviceHostField) (validate s) =
        Network.sizingProblems serviceHostField service host s.clusterNetworks) ∧
    ∀ s, ∀ q ∈ validate s, IsSizing q → ∃ service host, Sized s service host := by
  refine ⟨?_, ?_, fun _ _ _ => sizing_of_sized, fun _ _ => sized_of_sizing⟩
  · intro a b k configured configured'
    rw [validate_on_settings configured, validate_on_settings configured']
    exact ⟨rfl, rfl⟩
  · intro a b service cluster
    have same : a.networkProblems = b.networkProblems := by
      simp only [Spec.networkProblems, Spec.serviceProblems, Spec.clusterProblems, service, cluster]
    rw [validate_on_networks, validate_on_networks, same]
    exact ⟨rfl, rfl⟩

/-- The first cluster network meets 172.30.0.0/15 and is smaller than what each node gets; the
    second cannot be read. -/
def faultySpec (services : List String) (config : Option KuryrConfig) : Spec :=
  { Spec.empty with
    serviceNetwork := services
    clusterNetwork := [⟨"172.30.0.0/16", some 8⟩, ⟨"bogus", none⟩]
    defaultNetwork := ⟨"Kuryr", config⟩ }

def faultyConfig : KuryrConfig :=
  { KuryrConfig.empty with
    serviceNetwork := some "172.30.0.0/15"
    poolBatch := some 0
    mtu := some 9 }

def otherBlock : Network := ⟨⟨.v4, 0xAC1E0000, by decide⟩, 16, by decide⟩

theorem faults_are_all_reported :
    problemsOn SettingField (validate (faultySpec [] (some faultyConfig))) =
        problemsOn SettingField (validate (faultySpec ["172.31.5.9/16"] (some faultyConfig))) ∧
      problemsOn Spec.NetworkField (validate (faultySpec ["172.31.5.9/16"] none)) =
        problemsOn Spec.NetworkField
          (validate (faultySpec ["172.31.5.9/16"] (some faultyConfig))) ∧
      ∃ service host, Sized (faultySpec ["172.31.5.9/16"] (some faultyConfig)) service host ∧
        problemsOn (· = serviceHostField)
            (validate (faultySpec ["172.31.5.9/16"] (some faultyConfig))) =
          Network.sizingProblems serviceHostField service host [otherBlock] := by
  obtain ⟨settings, networks, sizing, only⟩ := validation_masks_nothing
  have overlap : (Network.SizingFault.meets otherBlock).problem serviceHostField
      Network.serviceBlock (Network.serviceBlock.supernet 1) ∈
        validate (faultySpec ["172.31.5.9/16"] (some faultyConfig)) := by decide +kernel
  obtain ⟨service, host, sized⟩ := only _ _ overlap ⟨_, _, _, rfl⟩
  have clusters : (faultySpec ["172.31.5.9/16"] (some faultyConfig)).clusterNetworks =
      [otherBlock] := by decide +kernel
  have reported := sizing _ _ _ sized
  rw [clusters] at reported
  exact ⟨(settings _ _ faultyConfig rfl rfl).1, (networks _ _ rfl rfl).1, service, host, sized,
    reported⟩

end Kuryr
end ClusterNet
