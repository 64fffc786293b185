import ClusterNet.Proofs.Contents
import ClusterNet.Proofs.Definitions
import ClusterNet.Proofs.Pods

/- The configuration that a definition carries. Whoever parses it finds an object that bears the
   name of the network. The settings of a structured network are all in it: they are read off again,
   and what is not set is not there. -/
namespace ClusterNet

namespace Json

section

variable {α : Type} (key : String) (read : Json → Option α) (json : Json)

def optionalUnder? : Option (Option α) :=
  match json.get? key with
  | none => some none
  | some value => (read value).map some

def listUnder? : Option (List α) := ((json.get? key).bind items?).bind (·.mapM read)

end

theorem text?_text (s : String) : (Json.text s).text? = some s := rfl

def nat32? (json : Json) : Option UInt32 :=
  json.natural?.bind fun n => if bound : n < UInt32.size then some (.ofNatLT n bound) else none

theorem nat32?_natural (n : UInt32) : nat32? (.natural n.toNat) = some n := by
  have bound : n.toNat < UInt32.size := n.toNat_lt
  change (if bound : n.toNat < UInt32.size then some (UInt32.ofNatLT n.toNat bound) else none) = _
  rw [dif_pos bound, UInt32.ofNatLT_toNat]

section

variable {α : Type} {key : String} {read : Json → Option α} {write : α → Json} {json : Json}
  (each : ∀ a, read (write a) = some a)

include each

theorem optionalUnder?_written {value : Option α} (written : json.get? key = value.map write) :
    optionalUnder? key read json = some value := by
  rw [optionalUnder?, written]
  cases value with
  | none => rfl
  | some a => exact congrArg (Option.map some) (each a)

theorem mapM_written (items : List α) : (items.map write).mapM read = some items := by
  induction items with
  | nil => rfl
  | cons a rest ih =>
    rw [List.map_cons, List.mapM_cons, each, ih]
    rfl

theorem listUnder?_written {items : List α}
    (written : json.get? key = some (.list (items.map write))) :
    listUnder? key read json = some items := by
  rw [listUnder?, written]
  exact mapM_written each items

end

end Json

open Json

def StaticAddress.ofConfig? (json : Json) : Option StaticAddress := do
  let address ← json.textUnder? "address"
  let gateway ← json.optionalUnder? "gateway" text?
  return ⟨address, gateway⟩

def StaticRoute.ofConfig? (json : Json) : Option StaticRoute := do
  let destination ← json.textUnder? "dst"
  let gateway ← json.optionalUnder? "gw" text?
  return ⟨destination, gateway⟩

def Ipam.ofConfig? (json : Json) : Option Ipam := do
  match ← json.textUnder? "type" with
  | "static" =>
    let addresses ← json.listUnder? "addresses" StaticAddress.ofConfig?
    let routes ← json.listUnder? "routes" StaticRoute.ofConfig?
    return ⟨.static, some ⟨addresses, routes⟩⟩
  | "dhcp" => return ⟨.dhcp, none⟩
  | _ => none

def MacvlanMode.ofName? (name : String) : Option MacvlanMode := all.find? (·.name = name)

def Macvlan.ofConfig? (json : Json) : Option Macvlan := do
  let master ← json.optionalUnder? "master" text?
  let mode ← (← json.textUnder? "mode") |> MacvlanMode.ofName?
  let mtu ← json.optionalUnder? "mtu" nat32?
  let ipam ← (json.get? "ipam").bind Ipam.ofConfig?
  return ⟨master, some mode, mtu, some ipam⟩

namespace Multus

theorem StaticAddress.ofConfig?_config (a : StaticAddress) :
    StaticAddress.ofConfig? (config a) = some a := by
  obtain ⟨address, gateway⟩ := a
  cases gateway <;> rfl

theorem StaticRoute.ofConfig?_config (r : StaticRoute) :
    StaticRoute.ofConfig? (config r) = some r := by
  obtain ⟨destination, gateway⟩ := r
  cases gateway <;> rfl

theorem Ipam.ofConfig?_config {i : Ipam} (sound : i.Sound) :
    Ipam.ofConfig? (ipamConfig i) = some i := by
  cases sound with
  | dhcp => rfl
  | @static s sound =>
    have addresses : (ipamConfig ⟨.static, some s⟩).listUnder? "addresses"
        StaticAddress.ofConfig? = some s.addresses :=
      listUnder?_written StaticAddress.ofConfig?_config rfl
    have routes : (ipamConfig ⟨.static, some s⟩).listUnder? "routes"
        StaticRoute.ofConfig? = some s.routes :=
      listUnder?_written StaticRoute.ofConfig?_config rfl
    have kind : (ipamConfig ⟨.static, some s⟩).textUnder? "type" = some "static" := rfl
    simp only [Ipam.ofConfig?, kind, addresses, routes, Option.bind_eq_bind, Option.bind_some,
      Option.pure_def]

section

variable {name : String} {m : Macvlan} {mode : MacvlanMode} {ipam : Ipam}

theorem get?_macvlanConfig (key : String) :
    (macvlanConfig name m mode ipam).get? key = (lookup key [
      ("cniVersion", some (.text cniVersion)),
      ("ipam", some (ipamConfig ipam)),
      ("master", m.master.map .text),
      ("mode", some (.text mode.name)),
      ("mtu", m.mtu.map fun mtu => .natural mtu.toNat),
      ("name", some (.text name)),
      ("type", some (.text "macvlan"))]).join :=
  get?_ofFields (by simp) key

theorem Macvlan.ofConfig?_config (sound : ipam.Sound) :
    Macvlan.ofConfig? (macvlanConfig name m mode ipam) =
      some ⟨m.master, some mode, m.mtu, some ipam⟩ := by
  have master : (macvlanConfig name m mode ipam).optionalUnder? "master" text? = some m.master :=
    optionalUnder?_written text?_text (get?_macvlanConfig _)
  have mtu : (macvlanConfig name m mode ipam).optionalUnder? "mtu" nat32? = some m.mtu :=
    optionalUnder?_written nat32?_natural (get?_macvlanConfig _)
  have named : (macvlanConfig name m mode ipam).textUnder? "mode" = some mode.name :=
    congrArg (Option.bind · text?) (get?_macvlanConfig _)
  have known : MacvlanMode.ofName? mode.name = some mode := by cases mode <;> decide
  have managed : (macvlanConfig name m mode ipam).get? "ipam" = some (ipamConfig ipam) :=
    get?_macvlanConfig _
  simp only [Macvlan.ofConfig?, master, mtu, named, known, managed, Ipam.ofConfig?_config sound,
    Option.bind_eq_bind, Option.bind_some, Option.pure_def]

section

variable {depth : Nat}

theorem StaticAddress.settled (a : StaticAddress) : Settled (depth + 1) (config a) := by
  have keys : ["address", "gateway"].Pairwise (· < ·) := by decide
  refine legible_ofFields keys ?_
  simp only [List.forall_mem_cons]
  exact ⟨.always (legible_text _), .optional legible_text _, nofun⟩

theorem StaticRoute.settled (r : StaticRoute) : Settled (depth + 1) (config r) := by
  have keys : ["dst", "gw"].Pairwise (· < ·) := by decide
  refine legible_ofFields keys ?_
  simp only [List.forall_mem_cons]
  exact ⟨.always (legible_text _), .optional legible_text _, nofun⟩

theorem ipamConfig_settled (i : Ipam) : Settled (depth + 3) (ipamConfig i) := by
  unfold ipamConfig
  split
  · have keys : ["addresses", "routes", "type"].Pairwise (· < ·) := by decide
    exact ⟨keys, legible_list StaticAddress.settled _, legible_list StaticRoute.settled _,
      legible_text _, trivial⟩
  · exact legible_single (legible_text _) _
  · exact legible_single (legible_text _) _

theorem macvlanConfig_settled : Settled (depth + 4) (macvlanConfig name m mode ipam) := by
  have keys : ["cniVersion", "ipam", "master", "mode", "mtu", "name", "type"].Pairwise (· < ·) := by
    decide
  refine legible_ofFields keys ?_
  simp only [List.forall_mem_cons]
  exact ⟨.always (legible_text _), .always (ipamConfig_settled _), .optional legible_text _,
    .always (legible_text _), .optional (fun mtu => legible_natural (whole_nat32 mtu)) _,
    .always (legible_text _), .always (legible_text _), nofun⟩

end

theorem read_macvlanConfig :
    Json.read (macvlanConfig name m mode ipam).compact = .ok (macvlanConfig name m mode ipam) := by
  -- Reading puts keys in order; these are in order already.
  have settled : Settled (maxDepth - 4 + 4) (macvlanConfig name m mode ipam) :=
    macvlanConfig_settled
  rw [read_compact (settled.imp String.ne_of_lt), canonical_of_ascending _ _ settled]

end

end Multus

open Manifest

namespace Attachment

/-- The text configures the network: it is the user's own, or all settings with their defaults are
    read off what it is parsed as. -/
def ConfiguredBy (a : Attachment) (text : String) (json : Json) : Prop :=
  match a.kind with
  | .raw => a.rawConfig = some text
  | .simpleMacvlan =>
    ∃ m, (Multus.fillAttachment a).macvlan = some m ∧ Macvlan.ofConfig? json = some m

structure DefinedBy (a : Attachment) (m : Manifest) : Prop where
  name : m.metadata.name = a.name
  namespaceName : m.metadata.namespaceName = some (a.namespaceName.getD "default")
  config : ∃ text entries, Multus.configOf? m = some text ∧
    Json.read text = .ok (.object entries) ∧
    lookup "name" entries = some (.text m.metadata.name) ∧ a.ConfiguredBy text (.object entries)

theorem definedBy_of_config {a : Attachment} {text : String} {json : Json}
    (config : Multus.configText (Multus.fillAttachment a) = .ok text)
    (read : Json.read text = .ok json) (named : json.get? "name" = some (.text a.name))
    (configured : a.ConfiguredBy text json) :
    a.DefinedBy (Multus.definitionOf (Multus.fillAttachment a)) := by
  rw [Multus.definitionOf, Multus.textOf_of_config config]
  cases json with
  | object entries => exact ⟨rfl, rfl, text, entries, rfl, read, named, configured⟩
  | _ => cases named

theorem definedBy_of_sound {a : Attachment} (sound : (Multus.fillAttachment a).Sound) :
    a.DefinedBy (Multus.definitionOf (Multus.fillAttachment a)) := by
  obtain ⟨name, namespaceName, kind, rawConfig, macvlan⟩ := a
  cases kind with
  | raw =>
    obtain ⟨-, text, given, entries, read, named⟩ := sound.configured
    cases given
    exact definedBy_of_config rfl read named rfl
  | simpleMacvlan =>
    obtain ⟨-, settings⟩ := sound.configured
    have managed := (settings _ rfl).ipam _ rfl
    exact definedBy_of_config rfl Multus.read_macvlanConfig (Multus.get?_macvlanConfig "name")
      ⟨_, rfl, Multus.Macvlan.ofConfig?_config managed⟩

end Attachment

namespace Pass

/-- A pass defines the networks of the spec, each once and in their order, and loses nothing of
    their configuration. -/
theorem definitions_carry_networks {r : Release} {s : Spec} {previous : Option Spec}
    {facts : Facts} {result : Outcome} (run : reconcile r s previous facts = .ok result) :
    List.Forall₂ Attachment.DefinedBy s.attachments (result.objects.filter isDefinition) := by
  obtain ⟨type, -, filled, accepted, -⟩ := check_ok_iff.mp (parts_of_reconcile run).1
  have networks : result.spec.attachments = s.attachments.map Multus.fillAttachment :=
    filled ▸ attachments_defaulted type s
  have sound := (attachments_of_accepted accepted).2
  rw [networks, List.forall_mem_map] at sound
  rw [definitions_of_reconcile run, networks, List.map_map, List.forall₂_map_right_iff]
  exact List.forall₂_same.mpr fun a member => a.definedBy_of_sound (sound a member)

def definedSample : Spec :=
  { kuryrSample with
    attachments := [
      ⟨"storage", none, .raw, some "\x7b \"type\": \"bridge\", \"name\": \"storage\" \x7d", none⟩,
      ⟨"backup", some "jobs", .simpleMacvlan, none, some ⟨some "eth1", none, some 1500,
        some ⟨.static, some ⟨[⟨"10.9.0.2/24", some "10.9.0.1"⟩], [⟨"10.20.0.0/16", none⟩]⟩⟩⟩⟩] }

theorem definedSample_is_defined :
    ∃ result, reconcile .builtIn definedSample none .none = .ok result ∧
      List.Forall₂ Attachment.DefinedBy definedSample.attachments
        (result.objects.filter isDefinition) := by
  have accepted : check .builtIn definedSample none =
      .ok (defaulted (Provider.forType .kuryr) definedSample) := by
    decide +kernel
  obtain ⟨result, run, -⟩ := reconcile_of_check accepted .none
  exact ⟨result, run, definitions_carry_networks run⟩

end Pass
end ClusterNet
