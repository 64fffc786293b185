import Mathlib.Tactic.MkIffOfInductiveProp
import ClusterNet.Provider.Multus

/- What the validation of Multus demands of the additional networks. Each of them has to be sound,
   which does not depend on where it stands among the others, and no two may have the same name in
   one namespace. So neither does the order of the networks matter. -/
namespace ClusterNet

@[mk_iff] structure StaticAddress.Sound (a : StaticAddress) : Prop where
  address : (Network.readExact a.address).isSome
  gateway : ∀ text ∈ a.gateway, (Address.read text).isSome

@[mk_iff] structure StaticRoute.Sound (r : StaticRoute) : Prop where
  destination : (Network.readExact r.destination).isSome
  gateway : ∀ text ∈ r.gateway, (Address.read text).isSome

@[mk_iff] structure StaticIpam.Sound (s : StaticIpam) : Prop where
  some : s.addresses ≠ []
  addresses : ∀ a ∈ s.addresses, a.Sound
  routes : ∀ r ∈ s.routes, r.Sound

/-- Static settings are there exactly where they are used. -/
@[mk_iff] inductive Ipam.Sound : Ipam → Prop
  | static {s : StaticIpam} (sound : s.Sound) : Sound ⟨.static, some s⟩
  | dhcp : Sound ⟨.dhcp, none⟩

@[mk_iff] structure Macvlan.Sound (m : Macvlan) : Prop where
  master : ∀ name ∈ m.master, Multus.isInterfaceName name
  mtu : ∀ mtu ∈ m.mtu, 68 ≤ mtu.toNat ∧ mtu.toNat ≤ 65535
  ipam : ∀ i ∈ m.ipam, i.Sound

/-- The text is a JSON object that bears the name. -/
def BearsName (text name : String) : Prop :=
  ∃ entries, Json.read text = .ok (.object entries) ∧ lookup "name" entries = some (.text name)

namespace Attachment

/-- A network is configured in one of two ways, and not in the other one too. -/
def Configured (a : Attachment) : Prop :=
  match a.kind with
  | .raw => a.macvlan = none ∧ ∃ text, a.rawConfig = some text ∧ BearsName text a.name
  | .simpleMacvlan => a.rawConfig = none ∧ ∀ m ∈ a.macvlan, m.Sound

@[mk_iff] structure Sound (a : Attachment) : Prop where
  name : Label.fault? a.name = none
  namespaceName : ∀ space ∈ a.namespaceName, Label.fault? space = none
  configured : a.Configured

end Attachment

theorem entries_clean_iff {α β : Type} (problems : Nat → α → List β) {good : α → Prop}
    (each : ∀ i a, problems i a = [] ↔ good a) (entries : List α) :
    entries.zipIdx.flatMap (fun (a, i) => problems i a) = [] ↔ ∀ a ∈ entries, good a := by
  simp only [List.flatMap_eq_nil_iff, each]
  constructor
  · intro clean a member
    obtain ⟨i, found⟩ := List.mem_iff_getElem?.mp member
    exact clean (a, i) (List.mk_mem_zipIdx_iff_getElem?.mpr found)
  · intro clean entry member
    exact clean _ (List.fst_mem_of_mem_zipIdx member)

namespace Multus

variable {place : String}

theorem labelProblems_eq_nil {what label : String} :
    labelProblems place what label = [] ↔ Label.fault? label = none := by
  simp [labelProblems, Label.complaint?]

theorem rawProblems_eq_nil {name raw : String} :
    rawProblems place name raw = [] ↔ BearsName raw name := by
  unfold rawProblems BearsName
  split
  · next e failed => simp [failed]
  · next json read =>
    cases json with
    | object entries =>
      cases found : lookup "name" entries with
      | none => simp [read, found, Json.entries?]
      | some value => cases value <;> simp [read, found, Json.entries?, Json.text?]
    | _ => simp [read, Json.entries?]

theorem gatewayProblems_eq_nil {gateway : Option String} :
    gatewayProblems place gateway = [] ↔ ∀ text ∈ gateway, (Address.read text).isSome := by
  cases gateway with
  | none => simp [gatewayProblems]
  | some text => cases read : Address.read text <;> simp [gatewayProblems, read]

theorem addressProblems_eq_nil {a : StaticAddress} :
    addressProblems place a = [] ↔ a.Sound := by
  rw [addressProblems, List.append_eq_nil_iff, gatewayProblems_eq_nil, StaticAddress.sound_iff]
  cases Network.readExact a.address <;> simp

theorem routeProblems_eq_nil {r : StaticRoute} : routeProblems place r = [] ↔ r.Sound := by
  rw [routeProblems, List.append_eq_nil_iff, gatewayProblems_eq_nil, StaticRoute.sound_iff]
  cases Network.readExact r.destination <;> simp

theorem staticProblems_eq_nil {s : StaticIpam} : staticProblems place s = [] ↔ s.Sound := by
  have addresses := entries_clean_iff (fun i => addressProblems s!"{place}.addresses[{i}]")
    (fun _ _ => addressProblems_eq_nil) s.addresses
  have routes := entries_clean_iff (fun i => routeProblems s!"{place}.routes[{i}]")
    (fun _ _ => routeProblems_eq_nil) s.routes
  rw [staticProblems, List.append_eq_nil_iff, List.append_eq_nil_iff, addresses, routes,
    StaticIpam.sound_iff, and_assoc]
  simp

theorem ipamProblems_eq_nil {i : Ipam} : ipamProblems place i = [] ↔ i.Sound := by
  obtain ⟨kind, static⟩ := i
  cases kind <;> cases static <;> simp [ipamProblems, Ipam.sound_iff, staticProblems_eq_nil]

theorem macvlanProblems_eq_nil {m : Macvlan} : macvlanProblems place m = [] ↔ m.Sound := by
  simp only [macvlanProblems, List.append_eq_nil_iff, and_assoc, Macvlan.sound_iff]
  refine and_congr ?_ (and_congr ?_ ?_)
  · cases m.master <;> simp
  · cases m.mtu <;> simp
  · cases m.ipam <;> simp [ipamProblems_eq_nil]

theorem contentProblems_eq_nil {a : Attachment} :
    contentProblems place a = [] ↔ a.Configured := by
  unfold contentProblems Attachment.Configured
  cases a.kind with
  | raw => cases a.macvlan <;> cases a.rawConfig <;> simp [rawProblems_eq_nil]
  | simpleMacvlan => cases a.macvlan <;> cases a.rawConfig <;> simp [macvlanProblems_eq_nil]

theorem attachmentProblems_eq_nil {a : Attachment} :
    attachmentProblems place a = [] ↔ a.Sound := by
  rw [attachmentProblems, List.append_eq_nil_iff, List.append_eq_nil_iff, labelProblems_eq_nil,
    contentProblems_eq_nil, Attachment.sound_iff, and_assoc]
  cases a.namespaceName <;> simp [labelProblems_eq_nil]

/-- The list of identities that were seen carries the induction, as it does in validation. -/
theorem networkProblems_eq_nil {i : Nat} {seen : List (String × String)}
    {attachments : List Attachment} :
    networkProblems i seen attachments = [] ↔
      (attachments.map identity).Nodup ∧ (∀ a ∈ attachments, identity a ∉ seen) ∧
        ∀ a ∈ attachments, a.Sound := by
  induction attachments generalizing i seen with
  | nil => simp [networkProblems]
  | cons a rest ih =>
    simp only [networkProblems, List.append_eq_nil_iff, attachmentProblems_eq_nil, ih,
      List.map_cons, List.nodup_cons, List.mem_cons, List.mem_map]
    grind

theorem validate_eq_nil {s : Spec} :
    validate s = [] ↔ (isDisabled s = true → s.attachments = []) ∧
      (s.attachments.map identity).Nodup ∧ ∀ a ∈ s.attachments, a.Sound := by
  rw [validate, List.append_eq_nil_iff, networkProblems_eq_nil]
  simp

end Multus
end ClusterNet
