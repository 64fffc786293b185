import ClusterNet.Proofs.Attribution
import ClusterNet.Proofs.SoundNetworks
import ClusterNet.Provider

/- The order in which validation reports what it finds. What is missing or out of place is meant to
   be told before values that are wrong. A list of problems keeps that order if its parts do, and if
   no part that finds wrong values stands before one that finds something missing; so the order can
   be read off the spec. -/
namespace ClusterNet

def Problem.isSemantic : Problem → Bool
  | .semantic .. => true
  | _ => false

/-- No structural problem comes after a semantic one. -/
def StructuralFirst (found : List Problem) : Prop :=
  found.Pairwise fun a b => ¬(a.isSemantic = true ∧ b.isStructural = true)

def AllSemantic (found : List Problem) : Prop := ∀ q ∈ found, q.isSemantic = true

def NoSemantic (found : List Problem) : Prop := ∀ q ∈ found, q.isSemantic = false

def NoStructural (found : List Problem) : Prop := ∀ q ∈ found, q.isStructural = false

section

variable {field detail : String} {xs ys : List Problem}

@[simp] theorem allSemantic_nil : AllSemantic [] := nofun

@[simp] theorem allSemantic_semantic :
    AllSemantic (.semantic field detail :: xs) ↔ AllSemantic xs := by
  simp [AllSemantic, Problem.isSemantic]

@[simp] theorem allSemantic_append :
    AllSemantic (xs ++ ys) ↔ AllSemantic xs ∧ AllSemantic ys :=
  List.forall_mem_append

theorem AllSemantic.flatMap {α : Type} {items : List α} {f : α → List Problem}
    (each : ∀ a ∈ items, AllSemantic (f a)) : AllSemantic (items.flatMap f) := by
  intro q found
  obtain ⟨a, member, inside⟩ := List.mem_flatMap.mp found
  exact each a member q inside

@[simp] theorem noSemantic_nil : NoSemantic [] := nofun

@[simp] theorem noSemantic_structural :
    NoSemantic (.structural field detail :: xs) ↔ NoSemantic xs := by
  simp [NoSemantic, Problem.isSemantic]

@[simp] theorem noSemantic_append : NoSemantic (xs ++ ys) ↔ NoSemantic xs ∧ NoSemantic ys :=
  List.forall_mem_append

@[simp] theorem noStructural_nil : NoStructural [] := nofun

@[simp] theorem noStructural_structural : ¬NoStructural (.structural field detail :: xs) := by
  simp [NoStructural, Problem.isStructural]

@[simp] theorem noStructural_append :
    NoStructural (xs ++ ys) ↔ NoStructural xs ∧ NoStructural ys :=
  List.forall_mem_append

theorem AllSemantic.noStructural (semantic : AllSemantic xs) : NoStructural xs := by
  intro q found
  have kind := semantic q found
  cases q <;> first | rfl | cases kind

theorem AllSemantic.noSemantic_iff (semantic : AllSemantic xs) : NoSemantic xs ↔ xs = [] := by
  constructor
  · intro none
    refine List.eq_nil_iff_forall_not_mem.mpr ?_
    intro q found
    cases (semantic q found).symm.trans (none q found)
  · rintro rfl
    exact noSemantic_nil

theorem structuralFirst_append :
    StructuralFirst (xs ++ ys) ↔
      StructuralFirst xs ∧ StructuralFirst ys ∧ (NoSemantic xs ∨ NoStructural ys) := by
  have apart : (∀ a ∈ xs, ∀ b ∈ ys, ¬(a.isSemantic = true ∧ b.isStructural = true)) ↔
      NoSemantic xs ∨ NoStructural ys := by
    constructor
    · intro never
      by_cases clean : NoSemantic xs
      · exact .inl clean
      · refine .inr fun b later => Bool.eq_false_iff.mpr fun structural => clean fun a earlier => ?_
        exact Bool.eq_false_iff.mpr fun semantic => never a earlier b later ⟨semantic, structural⟩
    · rintro (clean | clean) a earlier b later ⟨semantic, structural⟩
      · cases semantic.symm.trans (clean a earlier)
      · cases structural.symm.trans (clean b later)
  rw [StructuralFirst, List.pairwise_append, apart]
  rfl

theorem NoStructural.structuralFirst (none : NoStructural xs) : StructuralFirst xs := by
  refine List.pairwise_of_forall_mem_list ?_
  rintro a - b later ⟨-, structural⟩
  cases structural.symm.trans (none b later)

theorem NoSemantic.structuralFirst (none : NoSemantic xs) : StructuralFirst xs := by
  refine List.pairwise_of_forall_mem_list ?_
  rintro a earlier b - ⟨semantic, -⟩
  cases semantic.symm.trans (none a earlier)

theorem NoStructural.append_iff (none : NoStructural ys) :
    StructuralFirst (xs ++ ys) ↔ StructuralFirst xs := by
  rw [structuralFirst_append, and_iff_left ⟨none.structuralFirst, .inr none⟩]

theorem NoSemantic.append_iff (none : NoSemantic xs) :
    StructuralFirst (xs ++ ys) ↔ StructuralFirst ys := by
  rw [structuralFirst_append, and_iff_right none.structuralFirst, and_iff_left (.inl none)]

end

namespace Spec

theorem requireOne_structural (field : String) (count : Nat) :
    NoSemantic (requireOne field count).toList := by
  unfold requireOne
  split <;> simp

theorem serviceProblems_semantic (s : Spec) : AllSemantic s.serviceProblems := by
  refine AllSemantic.flatMap fun (cidr, i) _ => ?_
  change AllSemantic (serviceEntryProblems i cidr)
  unfold serviceEntryProblems
  split <;> simp

theorem clusterProblems_semantic (s : Spec) : AllSemantic s.clusterProblems := by
  refine AllSemantic.flatMap fun (entry, i) _ => ?_
  change AllSemantic (clusterEntryProblems i entry)
  unfold clusterEntryProblems hostPrefixProblems
  repeat' split
  all_goals simp

end Spec

namespace Kuryr

theorem serviceHostProblems_semantic {s : Spec} {k : KuryrConfig} {text : String}
    (given : k.serviceNetwork = some text) : AllSemantic (serviceHostProblems s k) := by
  simp only [serviceHostProblems, given]
  split
  · simp
  · split
    · split
      · intro q found
        obtain ⟨fault, -, rfl⟩ := List.mem_map.mp found
        rfl
      · simp
    · simp

theorem poolLimitProblems_semantic (name : String) (value : Option UInt32) (most : Nat) :
    AllSemantic (poolLimitProblems name value most) := by
  unfold poolLimitProblems
  repeat' split
  all_goals simp

theorem poolProblems_semantic (k : KuryrConfig) : AllSemantic (poolProblems k) := by
  unfold poolProblems
  rw [allSemantic_append, allSemantic_append]
  refine ⟨⟨?_, ?_⟩, ?_⟩
  all_goals repeat' split
  all_goals simp [poolLimitProblems_semantic]

theorem portProblems_semantic (name : String) (port : Option UInt32) :
    AllSemantic (portProblems name port) := by
  unfold portProblems
  repeat' split
  all_goals simp

theorem probeProblems_semantic (k : KuryrConfig) : AllSemantic (probeProblems k) := by
  unfold probeProblems
  simp only [allSemantic_append, portProblems_semantic, true_and]
  constructor
  all_goals repeat' split
  all_goals simp

/-- The configuration or its network for service addresses is missing. Without a single service
    network it is not asked for the latter. -/
def LacksSetting (s : Spec) : Prop :=
  ∀ k ∈ s.kuryr, k.serviceNetwork = none ∧ ∃ service, s.SoleService service

def NetworksRight (s : Spec) : Prop :=
  (∀ cidr ∈ s.serviceNetwork, ∃ service, Network.read cidr = .ok service) ∧
    ∀ entry ∈ s.clusterNetwork, ∃ cluster, entry.Names cluster

section

variable {s : Spec}

theorem networkProblems_structuralFirst : StructuralFirst s.networkProblems := by
  have lengths := noSemantic_append.mpr
    ⟨Spec.requireOne_structural Spec.serviceField s.serviceNetwork.length,
      Spec.requireOne_structural Spec.clusterField s.clusterNetwork.length⟩
  have services := s.serviceProblems_semantic.noStructural
  have clusters := s.clusterProblems_semantic.noStructural
  rw [Spec.networkProblems, clusters.append_iff, services.append_iff]
  exact lengths.structuralFirst

theorem noSemantic_networkProblems : NoSemantic s.networkProblems ↔ NetworksRight s := by
  have services := entries_clean_iff Spec.serviceEntryProblems
    (fun _ _ => Spec.serviceEntryProblems_eq_nil) s.serviceNetwork
  have clusters := entries_clean_iff Spec.clusterEntryProblems
    (fun _ _ => Spec.clusterEntryProblems_eq_nil) s.clusterNetwork
  rw [NetworksRight, ← services, ← clusters, Spec.networkProblems, noSemantic_append,
    noSemantic_append, noSemantic_append, s.serviceProblems_semantic.noSemantic_iff,
    s.clusterProblems_semantic.noSemantic_iff]
  simp only [Spec.requireOne_structural, true_and]
  rfl

theorem settings_semantic (k : KuryrConfig) : AllSemantic (poolProblems k ++ probeProblems k) :=
  allSemantic_append.mpr ⟨poolProblems_semantic k, probeProblems_semantic k⟩

theorem hostProblems_of_no_service {k : KuryrConfig} (unset : k.serviceNetwork = none)
    (several : ¬∃ service, s.SoleService service) : serviceHostProblems s k = [] := by
  have missing : ¬(s.serviceNetwork.length = 1 ∧ s.serviceNetworks.length = 1) := by
    rintro ⟨single, found⟩
    obtain ⟨service, services⟩ := List.length_eq_one_iff.mp found
    exact several ⟨service, Spec.sole_of_single single services⟩
  simp only [serviceHostProblems, unset, if_neg missing]

theorem configProblems_structuralFirst : StructuralFirst (configProblems s) := by
  unfold configProblems
  cases s.kuryr with
  | none => exact List.pairwise_singleton ..
  | some k =>
    have settings := (settings_semantic k).noStructural
    change StructuralFirst (serviceHostProblems s k ++ poolProblems k ++ probeProblems k)
    rw [List.append_assoc, settings.append_iff]
    cases given : k.serviceNetwork with
    | some text => exact (serviceHostProblems_semantic given).noStructural.structuralFirst
    | none =>
      by_cases sole : ∃ service, s.SoleService service
      · obtain ⟨service, sole⟩ := sole
        rw [hostProblems_of_unset sole given]
        exact List.pairwise_singleton ..
      · rw [hostProblems_of_no_service given sole]
        exact List.Pairwise.nil

theorem noStructural_configProblems : NoStructural (configProblems s) ↔ ¬LacksSetting s := by
  unfold configProblems LacksSetting
  cases s.kuryr with
  | none => simp
  | some k =>
    change NoStructural (serviceHostProblems s k ++ poolProblems k ++ probeProblems k) ↔ _
    have settings := (settings_semantic k).noStructural
    rw [List.append_assoc, noStructural_append, and_iff_left settings]
    cases given : k.serviceNetwork with
    | some text => simp [given, (serviceHostProblems_semantic given).noStructural]
    | none =>
      by_cases sole : ∃ service, s.SoleService service
      · obtain ⟨service, sole⟩ := sole
        rw [hostProblems_of_unset sole given]
        simpa [given] using ⟨service, sole⟩
      · rw [hostProblems_of_no_service given sole]
        simpa [given] using sole

theorem validate_structuralFirst_iff :
    StructuralFirst (validate s) ↔ (LacksSetting s → NetworksRight s) := by
  rw [validate_eq, structuralFirst_append, noSemantic_networkProblems, noStructural_configProblems,
    and_iff_right networkProblems_structuralFirst, and_iff_right configProblems_structuralFirst,
    or_comm, imp_iff_not_or]

end

end Kuryr
/-- Static settings are there exactly where they are used, with an address at least. -/
def Ipam.WellShaped (i : Ipam) : Prop :=
  match i.kind, i.static with
  | .static, some s => s.addresses ≠ []
  | .dhcp, none => True
  | _, _ => False

def Ipam.ValuesSound (i : Ipam) : Prop :=
  i.kind = .static →
    ∀ s ∈ i.static, (∀ a ∈ s.addresses, a.Sound) ∧ ∀ r ∈ s.routes, r.Sound

structure Macvlan.InterfaceSound (m : Macvlan) : Prop where
  master : ∀ name ∈ m.master, Multus.isInterfaceName name
  mtu : ∀ mtu ∈ m.mtu, 68 ≤ mtu.toNat ∧ mtu.toNat ≤ 65535

namespace Attachment

def WellShaped (a : Attachment) : Prop :=
  match a.kind with
  | .raw => a.macvlan = none ∧ a.rawConfig.isSome
  | .simpleMacvlan => a.rawConfig = none ∧ ∀ m ∈ a.macvlan, ∀ i ∈ m.ipam, i.WellShaped

@[mk_iff] structure NamesSound (a : Attachment) : Prop where
  name : Label.fault? a.name = none
  namespaceName : ∀ space ∈ a.namespaceName, Label.fault? space = none

def ContentSound (a : Attachment) : Prop :=
  match a.kind with
  | .raw => ∀ text ∈ a.rawConfig, BearsName text a.name
  | .simpleMacvlan => ∀ m ∈ a.macvlan, m.InterfaceSound ∧ ∀ i ∈ m.ipam, i.ValuesSound

/-- The values that are looked at before the shape of the address block are sound if that is wrong.
    -/
def InterfaceFirst (a : Attachment) : Prop :=
  a.kind = .simpleMacvlan → ∀ m ∈ a.macvlan, (∃ i ∈ m.ipam, ¬i.WellShaped) → m.InterfaceSound

theorem interfaceFirst_of_wellShaped {a : Attachment} (shaped : a.WellShaped) :
    a.InterfaceFirst := by
  rintro kind m given ⟨i, inside, misshapen⟩
  simp only [WellShaped, kind] at shaped
  exact absurd (shaped.2 m given i inside) misshapen

end Attachment

namespace Multus

section

variable {place : String}

theorem labelProblems_semantic (what label : String) :
    AllSemantic (labelProblems place what label) := by
  unfold labelProblems
  cases Label.complaint? label what <;> simp

theorem rawProblems_semantic (name raw : String) : AllSemantic (rawProblems place name raw) := by
  unfold rawProblems
  repeat' split
  all_goals simp

theorem gatewayProblems_semantic (gateway : Option String) :
    AllSemantic (gatewayProblems place gateway) := by
  unfold gatewayProblems
  repeat' split
  all_goals simp

theorem addressProblems_semantic (a : StaticAddress) : AllSemantic (addressProblems place a) := by
  unfold addressProblems
  split <;> simp [gatewayProblems_semantic]

theorem routeProblems_semantic (r : StaticRoute) : AllSemantic (routeProblems place r) := by
  unfold routeProblems
  split <;> simp [gatewayProblems_semantic]

def staticShapeProblems (place : String) (s : StaticIpam) : List Problem :=
  if s.addresses.isEmpty then
    [.structural s!"{place}.addresses" "at least one address is required"]
  else []

def staticValueProblems (place : String) (s : StaticIpam) : List Problem :=
  (s.addresses.zipIdx.flatMap fun (a, i) => addressProblems s!"{place}.addresses[{i}]" a)
    ++ (s.routes.zipIdx.flatMap fun (r, i) => routeProblems s!"{place}.routes[{i}]" r)

theorem staticProblems_eq (s : StaticIpam) :
    staticProblems place s = staticShapeProblems place s ++ staticValueProblems place s :=
  List.append_assoc ..

theorem noSemantic_staticShapeProblems (s : StaticIpam) :
    NoSemantic (staticShapeProblems place s) := by
  unfold staticShapeProblems
  split <;> simp

theorem noStructural_staticShapeProblems {s : StaticIpam} :
    NoStructural (staticShapeProblems place s) ↔ s.addresses ≠ [] := by
  unfold staticShapeProblems
  split <;> simp_all

theorem staticValueProblems_semantic (place : String) (s : StaticIpam) :
    AllSemantic (staticValueProblems place s) := by
  refine allSemantic_append.mpr ⟨?_, ?_⟩
  · exact AllSemantic.flatMap fun (a, i) _ => addressProblems_semantic a
  · exact AllSemantic.flatMap fun (r, i) _ => routeProblems_semantic r

theorem staticValueProblems_eq_nil {s : StaticIpam} :
    staticValueProblems place s = [] ↔
      (∀ a ∈ s.addresses, a.Sound) ∧ ∀ r ∈ s.routes, r.Sound := by
  have addresses := entries_clean_iff (fun i => addressProblems s!"{place}.addresses[{i}]")
    (fun _ _ => addressProblems_eq_nil) s.addresses
  have routes := entries_clean_iff (fun i => routeProblems s!"{place}.routes[{i}]")
    (fun _ _ => routeProblems_eq_nil) s.routes
  rw [staticValueProblems, List.append_eq_nil_iff, addresses, routes]

theorem ipamProblems_structuralFirst (i : Ipam) : StructuralFirst (ipamProblems place i) := by
  unfold ipamProblems
  split
  · exact List.pairwise_singleton ..
  · next s _ _ =>
    have values := (staticValueProblems_semantic s!"{place}.staticIPAMConfig" s).noStructural
    rw [staticProblems_eq, values.append_iff]
    exact (noSemantic_staticShapeProblems s).structuralFirst
  · exact List.pairwise_singleton ..
  · exact List.Pairwise.nil

theorem noStructural_ipamProblems {i : Ipam} :
    NoStructural (ipamProblems place i) ↔ i.WellShaped := by
  unfold ipamProblems Ipam.WellShaped
  cases i.kind <;> cases i.static
  case static.some s =>
    have values := staticValueProblems_semantic s!"{place}.staticIPAMConfig" s
    change NoStructural (staticProblems _ s) ↔ s.addresses ≠ []
    rw [staticProblems_eq, noStructural_append, and_iff_left values.noStructural,
      noStructural_staticShapeProblems]
  all_goals simp

theorem noSemantic_ipamProblems {i : Ipam} :
    NoSemantic (ipamProblems place i) ↔ i.ValuesSound := by
  unfold ipamProblems Ipam.ValuesSound
  cases i.kind <;> cases i.static
  case static.some s =>
    have values := staticValueProblems_semantic s!"{place}.staticIPAMConfig" s
    change NoSemantic (staticProblems _ s) ↔ _
    rw [staticProblems_eq, noSemantic_append, and_iff_right (noSemantic_staticShapeProblems s),
      values.noSemantic_iff, staticValueProblems_eq_nil]
    simp
  all_goals simp

def interfaceProblems (place : String) (m : Macvlan) : List Problem :=
  macvlanProblems place { m with ipam := none }

theorem macvlanProblems_eq (m : Macvlan) :
    macvlanProblems place m =
      interfaceProblems place m ++ (m.ipam.map (ipamProblems s!"{place}.ipamConfig")).getD [] := by
  unfold interfaceProblems macvlanProblems
  cases m.ipam <;> simp

theorem interfaceProblems_semantic (place : String) (m : Macvlan) :
    AllSemantic (interfaceProblems place m) := by
  unfold interfaceProblems macvlanProblems
  rw [allSemantic_append, allSemantic_append]
  refine ⟨⟨?_, ?_⟩, by simp⟩
  all_goals repeat' split
  all_goals simp

theorem interfaceProblems_eq_nil {m : Macvlan} :
    interfaceProblems place m = [] ↔ m.InterfaceSound := by
  rw [interfaceProblems, macvlanProblems_eq_nil, Macvlan.sound_iff]
  constructor
  · rintro ⟨master, mtu, -⟩
    exact ⟨master, mtu⟩
  · rintro ⟨master, mtu⟩
    exact ⟨master, mtu, nofun⟩

theorem noStructural_macvlanProblems {m : Macvlan} :
    NoStructural (macvlanProblems place m) ↔ ∀ i ∈ m.ipam, i.WellShaped := by
  rw [macvlanProblems_eq, noStructural_append,
    and_iff_right (interfaceProblems_semantic place m).noStructural]
  cases m.ipam <;> simp [noStructural_ipamProblems]

theorem noSemantic_macvlanProblems {m : Macvlan} :
    NoSemantic (macvlanProblems place m) ↔
      m.InterfaceSound ∧ ∀ i ∈ m.ipam, i.ValuesSound := by
  rw [macvlanProblems_eq, noSemantic_append, (interfaceProblems_semantic place m).noSemantic_iff,
    interfaceProblems_eq_nil]
  cases m.ipam <;> simp [noSemantic_ipamProblems]

theorem macvlanProblems_structuralFirst_iff {m : Macvlan} :
    StructuralFirst (macvlanProblems place m) ↔
      ((∃ i ∈ m.ipam, ¬i.WellShaped) → m.InterfaceSound) := by
  have interface := interfaceProblems_semantic place m
  rw [macvlanProblems_eq, structuralFirst_append, interface.noSemantic_iff,
    interfaceProblems_eq_nil, and_iff_right interface.noStructural.structuralFirst]
  cases m.ipam with
  | none => simp [NoSemantic.structuralFirst]
  | some i =>
    simp only [Option.map_some, Option.getD_some, Option.mem_some_iff, exists_eq_left',
      noStructural_ipamProblems, ipamProblems_structuralFirst, true_and]
    exact or_comm.trans Classical.or_iff_not_imp_left

theorem noStructural_contentProblems {a : Attachment} :
    NoStructural (contentProblems place a) ↔ a.WellShaped := by
  unfold contentProblems Attachment.WellShaped
  cases a.kind with
  | raw =>
    cases a.macvlan <;> cases a.rawConfig <;> simp [(rawProblems_semantic _ _).noStructural]
  | simpleMacvlan =>
    cases a.macvlan <;> cases a.rawConfig <;> simp [noStructural_macvlanProblems]

theorem noSemantic_contentProblems {a : Attachment} :
    NoSemantic (contentProblems place a) ↔ a.ContentSound := by
  unfold contentProblems Attachment.ContentSound
  cases a.kind with
  | raw =>
    cases a.macvlan <;> cases a.rawConfig <;>
      simp [(rawProblems_semantic _ _).noSemantic_iff, rawProblems_eq_nil]
  | simpleMacvlan =>
    cases a.macvlan <;> cases a.rawConfig <;> simp [noSemantic_macvlanProblems]

theorem contentProblems_structuralFirst_iff {a : Attachment} :
    StructuralFirst (contentProblems place a) ↔ a.InterfaceFirst := by
  unfold contentProblems Attachment.InterfaceFirst
  cases a.kind with
  | raw =>
    have foreign : NoSemantic (if a.macvlan.isSome then
        [.structural s!"{place}.simpleMacvlanConfig" "only valid for SimpleMacvlan networks"]
      else []) := by
      split <;> simp
    simp only [foreign.append_iff, reduceCtorEq, false_implies, iff_true]
    cases a.rawConfig with
    | none => exact List.pairwise_singleton ..
    | some raw => exact (rawProblems_semantic a.name raw).noStructural.structuralFirst
  | simpleMacvlan =>
    have foreign : NoSemantic (if a.rawConfig.isSome then
        [.structural s!"{place}.rawCNIConfig" "only valid for Raw networks"]
      else []) := by
      split <;> simp
    simp only [foreign.append_iff, forall_const]
    cases a.macvlan with
    | none => simp [NoSemantic.structuralFirst]
    | some m => simp [macvlanProblems_structuralFirst_iff]

theorem attachmentProblems_eq (a : Attachment) :
    attachmentProblems place a =
      (labelProblems place "name" a.name
        ++ (a.namespaceName.map (labelProblems place "namespace")).getD [])
      ++ contentProblems place a := rfl

theorem namesProblems_semantic (place : String) (a : Attachment) :
    AllSemantic (labelProblems place "name" a.name
      ++ (a.namespaceName.map (labelProblems place "namespace")).getD []) := by
  cases a.namespaceName <;> simp [labelProblems_semantic]

theorem namesProblems_eq_nil {a : Attachment} :
    labelProblems place "name" a.name
      ++ (a.namespaceName.map (labelProblems place "namespace")).getD [] = [] ↔ a.NamesSound := by
  rw [List.append_eq_nil_iff, labelProblems_eq_nil, Attachment.namesSound_iff]
  cases a.namespaceName <;> simp [labelProblems_eq_nil]

theorem noStructural_attachmentProblems {a : Attachment} :
    NoStructural (attachmentProblems place a) ↔ a.WellShaped := by
  rw [attachmentProblems_eq, noStructural_append,
    and_iff_right (namesProblems_semantic place a).noStructural, noStructural_contentProblems]

theorem noSemantic_attachmentProblems {a : Attachment} :
    NoSemantic (attachmentProblems place a) ↔ a.NamesSound ∧ a.ContentSound := by
  rw [attachmentProblems_eq, noSemantic_append, (namesProblems_semantic place a).noSemantic_iff,
    namesProblems_eq_nil, noSemantic_contentProblems]

theorem attachmentProblems_structuralFirst_iff {a : Attachment} :
    StructuralFirst (attachmentProblems place a) ↔
      (¬a.WellShaped → a.NamesSound ∧ a.InterfaceFirst) := by
  have names := namesProblems_semantic place a
  rw [attachmentProblems_eq, structuralFirst_append, names.noSemantic_iff, namesProblems_eq_nil,
    contentProblems_structuralFirst_iff, noStructural_contentProblems,
    and_iff_right names.noStructural.structuralFirst]
  constructor
  · rintro ⟨interface, named | shaped⟩ misshapen
    · exact ⟨named, interface⟩
    · exact absurd shaped misshapen
  · intro ordered
    by_cases shaped : a.WellShaped
    · exact ⟨Attachment.interfaceFirst_of_wellShaped shaped, .inr shaped⟩
    · exact ⟨(ordered shaped).2, .inl (ordered shaped).1⟩

end

section

variable {i : Nat} {seen : List (String × String)} {a : Attachment} {rest : List Attachment}

theorem networkProblems_cons :
    ∃ duplicate, AllSemantic duplicate ∧ (duplicate = [] ↔ identity a ∉ seen) ∧
      networkProblems i seen (a :: rest) =
        (attachmentProblems s!"{networksField}[{i}]" a ++ duplicate)
          ++ networkProblems (i + 1) (identity a :: seen) rest := by
  refine ⟨_, ?_, ?_, rfl⟩
  · split <;> simp
  · simp

theorem noStructural_networkProblems :
    NoStructural (networkProblems i seen rest) ↔ ∀ a ∈ rest, a.WellShaped := by
  induction rest generalizing i seen with
  | nil => simp [networkProblems]
  | cons a rest ih =>
    obtain ⟨duplicate, semantic, -, whole⟩ := networkProblems_cons
    rw [whole, noStructural_append, noStructural_append, ih, noStructural_attachmentProblems,
      and_iff_left semantic.noStructural, List.forall_mem_cons]

/-- A network is told to be wrong in order, and before it wrong values are told only if no later
    network is misshapen. -/
theorem structuralFirst_cons :
    StructuralFirst (networkProblems i seen (a :: rest)) ↔
      (¬a.WellShaped → a.NamesSound ∧ a.InterfaceFirst) ∧
      StructuralFirst (networkProblems (i + 1) (identity a :: seen) rest) ∧
      (((a.NamesSound ∧ a.ContentSound) ∧ identity a ∉ seen) ∨ ∀ b ∈ rest, b.WellShaped) := by
  obtain ⟨duplicate, semantic, new, whole⟩ := networkProblems_cons
  rw [whole, structuralFirst_append, semantic.noStructural.append_iff, noSemantic_append,
    attachmentProblems_structuralFirst_iff, noSemantic_attachmentProblems, semantic.noSemantic_iff,
    new, noStructural_networkProblems]

/-- The networks before a misshapen one are in order and different from each other, and so are its
    own values that are looked at before its shape. The list of identities that were seen carries
    the induction. -/
theorem networkProblems_structuralFirst_iff {attachments : List Attachment} :
    StructuralFirst (networkProblems i seen attachments) ↔
      ∀ before a after, attachments = before ++ a :: after → ¬a.WellShaped →
        (∀ b ∈ before, identity b ∉ seen) ∧ (before.map identity).Nodup ∧
          (∀ b ∈ before, b.NamesSound ∧ b.ContentSound) ∧ a.NamesSound ∧ a.InterfaceFirst := by
  induction attachments generalizing i seen with
  | nil => simp [networkProblems, NoSemantic.structuralFirst]
  | cons a rest ih =>
    rw [structuralFirst_cons, ih]
    constructor
    · rintro ⟨own, later, apart⟩ before b after split misshapen
      rcases List.cons_eq_append_iff.mp split with ⟨rfl, same⟩ | ⟨before, rfl, rfl⟩
      · cases same
        exact ⟨List.forall_mem_nil _, .nil, List.forall_mem_nil _, own misshapen⟩
      · obtain ⟨unseen, different, sound, self⟩ := later before b after rfl misshapen
        have member : b ∈ before ++ b :: after := List.mem_append_right _ List.mem_cons_self
        obtain ⟨first, new⟩ := apart.resolve_right fun shaped => misshapen (shaped b member)
        have absent : identity a ∉ before.map identity := by
          intro found
          obtain ⟨c, earlier, same⟩ := List.mem_map.mp found
          exact unseen c earlier (same ▸ List.mem_cons_self)
        refine ⟨?_, List.nodup_cons.mpr ⟨absent, different⟩, ?_, self⟩
        · refine List.forall_mem_cons.mpr ⟨new, fun c earlier found => ?_⟩
          exact unseen c earlier (List.mem_cons_of_mem _ found)
        · exact List.forall_mem_cons.mpr ⟨first, sound⟩
    · intro each
      refine ⟨fun misshapen => (each [] a rest rfl misshapen).2.2.2, ?_, ?_⟩
      · rintro before b after rfl misshapen
        obtain ⟨unseen, different, sound, self⟩ := each (a :: before) b after rfl misshapen
        obtain ⟨absent, different⟩ := List.nodup_cons.mp different
        refine ⟨?_, different, (List.forall_mem_cons.mp sound).2, self⟩
        intro c earlier found
        rcases List.mem_cons.mp found with same | found
        · exact absent (List.mem_map.mpr ⟨c, earlier, same⟩)
        · exact unseen c (List.mem_cons_of_mem _ earlier) found
      · refine Classical.or_iff_not_imp_right.mpr fun misplaced => ?_
        simp only [not_forall] at misplaced
        obtain ⟨b, member, misshapen⟩ := misplaced
        obtain ⟨before, after, rfl⟩ := List.append_of_mem member
        obtain ⟨unseen, -, sound, -⟩ := each (a :: before) b after rfl misshapen
        exact ⟨sound a List.mem_cons_self, unseen a List.mem_cons_self⟩

end

/-- Every network before a misshapen one is in order, and no two of them have the same name. -/
def ShapesFirst (attachments : List Attachment) : Prop :=
  ∀ before a after, attachments = before ++ a :: after → ¬a.WellShaped →
    (before.map identity).Nodup ∧ (∀ b ∈ before, b.NamesSound ∧ b.ContentSound) ∧
      a.NamesSound ∧ a.InterfaceFirst

theorem validate_structuralFirst_iff {s : Spec} :
    StructuralFirst (validate s) ↔ ShapesFirst s.attachments := by
  have unwanted : NoSemantic (if isDisabled s ∧ ¬s.attachments.isEmpty then
      [.structural networksField
        "additional networks require multus, but disableMultiNetwork is true"]
    else []) := by
    split <;> simp
  rw [validate, unwanted.append_iff, networkProblems_structuralFirst_iff]
  simp [ShapesFirst]

end Multus

namespace KubeProxy

theorem configProblems_semantic (p : ProxyConfig) : AllSemantic (configProblems p) := by
  unfold configProblems
  rw [allSemantic_append, allSemantic_append]
  refine ⟨⟨?_, ?_⟩, AllSemantic.flatMap fun (name, values) _ => ?_⟩
  · unfold addressProblems
    repeat' split
    all_goals simp
  · unfold periodProblems
    repeat' split
    all_goals simp
  · change AllSemantic (argumentProblems name values)
    unfold argumentProblems valueProblems
    rw [allSemantic_append]
    constructor
    all_goals repeat' split
    all_goals simp

theorem validate_structuralFirst (s : Spec) : StructuralFirst (validate s) := by
  have lacking : NoSemantic (if s.clusterNetwork.isEmpty then
      [.structural Spec.clusterField "at least one entry is required to deploy kube-proxy"]
    else []) := by
    split <;> simp
  have clusters := s.clusterProblems_semantic.noStructural
  rw [validate, List.append_assoc, lacking.append_iff]
  cases s.proxy with
  | none => exact (noStructural_append.mpr ⟨clusters, noStructural_nil⟩).structuralFirst
  | some p =>
    have settings := (configProblems_semantic p).noStructural
    exact (noStructural_append.mpr ⟨clusters, settings⟩).structuralFirst

end KubeProxy

theorem NodeIdentity.validate_structuralFirst (s : Spec) : StructuralFirst (validate s) := by
  unfold validate
  repeat' split
  all_goals first | exact List.pairwise_singleton .. | exact List.Pairwise.nil

namespace Provider

def TellsInOrder (s : Spec) : Provider → Prop
  | .kuryr => Kuryr.LacksSetting s → Kuryr.NetworksRight s
  | .multus => Multus.ShapesFirst s.attachments
  | .kubeProxy | .nodeIdentity => True

/-- Two components always tell first what is missing. Kuryr looks for its configuration after it has
    read the networks, and Multus looks at one network after the other; so these two keep the order
    only where no value that is looked at before is wrong. -/
theorem structural_first_iff (p : Provider) (s : Spec) :
    StructuralFirst (p.validate s) ↔ p.TellsInOrder s := by
  cases p with
  | kuryr => exact Kuryr.validate_structuralFirst_iff
  | multus => exact Multus.validate_structuralFirst_iff
  | kubeProxy => exact iff_of_true (KubeProxy.validate_structuralFirst s) trivial
  | nodeIdentity => exact iff_of_true (NodeIdentity.validate_structuralFirst s) trivial

def unconfiguredRaw : Spec :=
  { Spec.empty with
    defaultNetwork := ⟨"ThirdParty", none⟩
    attachments := [⟨"Storage", none, .raw, none, none⟩] }

def unreadKuryr : Spec :=
  { Spec.empty with
    serviceNetwork := ["10.0.0.0"]
    clusterNetwork := [⟨"10.128.0.0/14", none⟩]
    defaultNetwork := ⟨"Kuryr", none⟩ }

theorem missing_blocks_are_told_last :
    (multus.validate unconfiguredRaw = [
        .semantic "spec.additionalNetworks[0].name"
          "name must start with a lowercase letter or digit: Storage",
        .structural "spec.additionalNetworks[0].rawCNIConfig" "required for Raw networks"] ∧
      ¬StructuralFirst (multus.validate unconfiguredRaw)) ∧
    ((kuryr.validate unreadKuryr).map Problem.isStructural = [false, true] ∧
      ¬StructuralFirst (kuryr.validate unreadKuryr)) := by
  have network : multus.validate unconfiguredRaw = [
      .semantic "spec.additionalNetworks[0].name"
        "name must start with a lowercase letter or digit: Storage",
      .structural "spec.additionalNetworks[0].rawCNIConfig" "required for Raw networks"] := by
    decide +kernel
  refine ⟨⟨network, ?_⟩, by decide +kernel, ?_⟩
  · rw [network, StructuralFirst]
    decide
  · unfold StructuralFirst
    decide +kernel

end Provider
end ClusterNet
