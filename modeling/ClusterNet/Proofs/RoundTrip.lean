import ClusterNet.Facts
import ClusterNet.Release
import ClusterNet.Spec.Wire
import ClusterNet.Status
import ClusterNet.Proofs.Legibility
import ClusterNet.Proofs.Readback

/- Specs, facts, releases and statuses are read back from what is written for them. Each record
   names its fields in the order in which its reader looks for them. -/
namespace ClusterNet

open Wire Fields Json

namespace Wire

/-- A value is got back from what is written for it: from the document itself, with the keys put in
    order, and from its compact text. -/
structure RoundTrips {α : Type} (json : Json) (read : Json → Except Fault α) (a : α) : Prop where
  document : read json = .ok a
  ordered : read json.canonical = .ok a
  text : ∃ v, Json.read json.compact = .ok v ∧ read v = .ok a

theorem roundTrips_of_ordered {α : Type} {json : Json} {read : Json → Except Fault α} {a : α}
    (legible : Legible (· ≠ ·) maxDepth json) (document : read json = .ok a)
    (ordered : read json.canonical = .ok a) : RoundTrips json read a :=
  ⟨document, ordered, json.canonical, read_compact legible, ordered⟩

theorem ReadsBack.roundTrips {α : Type} {write : α → Json} {read : Json → Except Fault α}
    (back : ReadsBack write read) {a : α} (legible : Legible (· ≠ ·) maxDepth (write a)) :
    RoundTrips (write a) read a :=
  roundTrips_of_ordered legible (back.reads a _ (.refl (fun _ => rfl) _))
    (back.reads a _ (alike_canonical (fun _ => rfl) _ (distinct_of_legible _ _ legible)))

end Wire

theorem legible_nat32 {depth : Nat} (n : UInt32) : Legible (· ≠ ·) depth (.natural n.toNat) :=
  legible_natural (Nat.lt_trans n.toNat_lt (by decide))

theorem legible_nat16 {depth : Nat} (n : UInt16) : Legible (· ≠ ·) depth (.natural n.toNat) :=
  legible_natural (Nat.lt_trans n.toNat_lt (by decide))

theorem legible_dict {α : Type} {depth : Nat} {write : α → Json}
    (each : ∀ a, Legible (· ≠ ·) depth (write a)) (d : Dict α) :
    Legible (· ≠ ·) (depth + 1)
      (.object (d.entries.map fun entry => (entry.1, write entry.2))) := by
  refine legible_object ?_ (List.forall_mem_map.mpr fun entry _ => each entry.2)
  rw [List.map_map]
  exact d.keys_nodup

namespace StaticAddress

theorem readsBack : ReadsBack toJson read := by
  refine readsBack_record (fun _ => rfl) (fun a => by simp) fun a entries w => ?_
  exact run_seq (run_map mk
    (required_of_written readsBack_text w rfl))
    (optional_of_written readsBack_text w rfl)

theorem legible (n : Nat) (a : StaticAddress) : Legible (· ≠ ·) (n + 1) a.toJson := by
  refine legible_ofFields (by simp) ?_
  simp only [List.forall_mem_cons]
  exact ⟨.always (legible_text _), .optional legible_text _, nofun⟩

end StaticAddress

namespace StaticRoute

theorem readsBack : ReadsBack toJson read := by
  refine readsBack_record (fun _ => rfl) (fun r => by simp) fun r entries w => ?_
  exact run_seq (run_map mk
    (required_of_written readsBack_text w rfl))
    (optional_of_written readsBack_text w rfl)

theorem legible (n : Nat) (r : StaticRoute) : Legible (· ≠ ·) (n + 1) r.toJson := by
  refine legible_ofFields (by simp) ?_
  simp only [List.forall_mem_cons]
  exact ⟨.always (legible_text _), .optional legible_text _, nofun⟩

end StaticRoute

namespace StaticIpam

theorem readsBack : ReadsBack toJson read := by
  refine readsBack_record (fun _ => rfl) (fun s => by simp) fun s entries w => ?_
  exact run_seq (run_map mk
    (omitted_of_written (readsBack_list StaticAddress.readsBack) w (by simp) rfl))
    (omitted_of_written (readsBack_list StaticRoute.readsBack) w (by simp) rfl)

theorem legible (n : Nat) (s : StaticIpam) : Legible (· ≠ ·) (n + 3) s.toJson := by
  refine legible_ofFields (by simp) ?_
  simp only [List.forall_mem_cons]
  exact ⟨.omitted (legible_list (StaticAddress.legible n) _) _,
    .omitted (legible_list (StaticRoute.legible n) _) _, nofun⟩

end StaticIpam

namespace Ipam

theorem readsBack_kind : ReadsBack (fun kind => .text (IpamKind.name kind))
    (readChoice IpamKind.name IpamKind.all) :=
  readsBack_choice fun kind => by cases kind <;> rfl

theorem readsBack : ReadsBack toJson read := by
  refine readsBack_record (fun _ => rfl) (fun i => by simp) fun i entries w => ?_
  exact run_seq (run_map mk
    (required_of_written readsBack_kind w rfl))
    (optional_of_written StaticIpam.readsBack w rfl)

theorem legible (n : Nat) (i : Ipam) : Legible (· ≠ ·) (n + 4) i.toJson := by
  refine legible_ofFields (by simp) ?_
  simp only [List.forall_mem_cons]
  exact ⟨.always (legible_text _), .optional (StaticIpam.legible n) _, nofun⟩

end Ipam

namespace Macvlan

theorem readsBack_mode : ReadsBack (fun mode => .text (MacvlanMode.name mode))
    (readChoice MacvlanMode.name MacvlanMode.all) :=
  readsBack_choice fun mode => by cases mode <;> rfl

theorem readsBack : ReadsBack toJson read := by
  refine readsBack_record (fun _ => rfl) (fun m => by simp) fun m entries w => ?_
  exact run_seq (run_seq (run_seq (run_map mk
    (optional_of_written readsBack_text w rfl))
    (optional_of_written readsBack_mode w rfl))
    (optional_of_written readsBack_nat32 w rfl))
    (optional_of_written Ipam.readsBack w rfl)

theorem legible (n : Nat) (m : Macvlan) : Legible (· ≠ ·) (n + 5) m.toJson := by
  refine legible_ofFields (by simp) ?_
  simp only [List.forall_mem_cons]
  exact ⟨.optional legible_text _, .optional (fun _ => legible_text _) _, .optional legible_nat32 _,
    .optional (Ipam.legible n) _, nofun⟩

end Macvlan

namespace Attachment

theorem readsBack_kind : ReadsBack (fun kind => .text (AttachmentKind.name kind))
    (readChoice AttachmentKind.name AttachmentKind.all) :=
  readsBack_choice fun kind => by cases kind <;> rfl

theorem readsBack : ReadsBack toJson read := by
  refine readsBack_record (fun _ => rfl) (fun a => by simp) fun a entries w => ?_
  exact run_seq (run_seq (run_seq (run_seq (run_map mk
    (required_of_written readsBack_text w rfl))
    (optional_of_written readsBack_text w rfl))
    (required_of_written readsBack_kind w rfl))
    (optional_of_written readsBack_text w rfl))
    (optional_of_written Macvlan.readsBack w rfl)

theorem legible (n : Nat) (a : Attachment) : Legible (· ≠ ·) (n + 6) a.toJson := by
  refine legible_ofFields (by simp) ?_
  simp only [List.forall_mem_cons]
  exact ⟨.always (legible_text _), .optional legible_text _, .always (legible_text _),
    .optional legible_text _, .optional (Macvlan.legible n) _, nofun⟩

end Attachment

namespace KuryrConfig

theorem readsBack : ReadsBack toJson read := by
  refine readsBack_record (fun _ => rfl) (fun k => by simp) fun k entries w => ?_
  exact run_seq (run_seq (run_seq (run_seq (run_seq (run_seq (run_seq (run_map mk
    (optional_of_written readsBack_text w rfl))
    (optional_of_written readsBack_boolean w rfl))
    (optional_of_written readsBack_nat32 w rfl))
    (optional_of_written readsBack_nat32 w rfl))
    (optional_of_written readsBack_nat32 w rfl))
    (optional_of_written readsBack_nat32 w rfl))
    (optional_of_written readsBack_nat32 w rfl))
    (optional_of_written readsBack_nat32 w rfl)

theorem legible (n : Nat) (k : KuryrConfig) : Legible (· ≠ ·) (n + 1) k.toJson := by
  refine legible_ofFields (by simp) ?_
  simp only [List.forall_mem_cons]
  exact ⟨.optional legible_text _, .optional legible_boolean _, .optional legible_nat32 _,
    .optional legible_nat32 _, .optional legible_nat32 _, .optional legible_nat32 _,
    .optional legible_nat32 _, .optional legible_nat32 _, nofun⟩

end KuryrConfig

namespace ProxyConfig

theorem readsBack : ReadsBack toJson read := by
  refine readsBack_record (fun _ => rfl) (fun p => by simp) fun p entries w => ?_
  exact run_seq (run_seq (run_map mk
    (optional_of_written readsBack_text w rfl))
    (optional_of_written readsBack_text w rfl))
    (omitted_of_written (readsBack_dict readsBack_texts) w Dict.eq_empty_of_isEmpty rfl)

theorem legible (n : Nat) (p : ProxyConfig) : Legible (· ≠ ·) (n + 3) p.toJson := by
  refine legible_ofFields (by simp) ?_
  simp only [List.forall_mem_cons]
  exact ⟨.optional legible_text _, .optional legible_text _,
    .omitted (legible_dict legible_texts _) _, nofun⟩

end ProxyConfig

namespace NodeIdentityConfig

theorem readsBack : ReadsBack toJson read := by
  refine readsBack_record (fun _ => rfl) (fun n => by simp) fun n entries w => ?_
  exact run_seq (run_map mk
    (optional_of_written readsBack_boolean w rfl))
    (optional_of_written readsBack_nat32 w rfl)

theorem legible (n : Nat) (i : NodeIdentityConfig) : Legible (· ≠ ·) (n + 1) i.toJson := by
  refine legible_ofFields (by simp) ?_
  simp only [List.forall_mem_cons]
  exact ⟨.optional legible_boolean _, .optional legible_nat32 _, nofun⟩

end NodeIdentityConfig

namespace ClusterEntry

theorem readsBack : ReadsBack toJson read := by
  refine readsBack_record (fun _ => rfl) (fun c => by simp) fun c entries w => ?_
  exact run_seq (run_map mk
    (required_of_written readsBack_text w rfl))
    (optional_of_written readsBack_nat32 w rfl)

theorem legible (n : Nat) (c : ClusterEntry) : Legible (· ≠ ·) (n + 1) c.toJson := by
  refine legible_ofFields (by simp) ?_
  simp only [List.forall_mem_cons]
  exact ⟨.always (legible_text _), .optional legible_nat32 _, nofun⟩

end ClusterEntry

namespace DefaultNetwork

theorem readsBack : ReadsBack toJson read := by
  refine readsBack_record (fun _ => rfl) (fun d => by simp) fun d entries w => ?_
  exact run_seq (run_map mk
    (defaulted_of_written readsBack_text w "" rfl))
    (optional_of_written KuryrConfig.readsBack w rfl)

theorem legible (n : Nat) (d : DefaultNetwork) : Legible (· ≠ ·) (n + 2) d.toJson := by
  refine legible_ofFields (by simp) ?_
  simp only [List.forall_mem_cons]
  exact ⟨.always (legible_text _), .optional (KuryrConfig.legible n) _, nofun⟩

end DefaultNetwork

namespace Spec

theorem readsBack : ReadsBack toJson read := by
  refine readsBack_record (fun _ => rfl) (fun s => by simp) fun s entries w => ?_
  exact run_seq (run_seq (run_seq (run_seq (run_seq (run_seq (run_seq (run_map mk
    (defaulted_of_written readsBack_texts w [] rfl))
    (defaulted_of_written (readsBack_list ClusterEntry.readsBack) w [] rfl))
    (defaulted_of_written DefaultNetwork.readsBack w .empty rfl))
    (optional_of_written ProxyConfig.readsBack w rfl))
    (optional_of_written readsBack_boolean w rfl))
    (optional_of_written readsBack_boolean w rfl))
    (omitted_of_written (readsBack_list Attachment.readsBack) w (by simp) rfl))
    (optional_of_written NodeIdentityConfig.readsBack w rfl)

theorem legible (n : Nat) (s : Spec) : Legible (· ≠ ·) (n + 8) s.toJson := by
  refine legible_ofFields (by simp) ?_
  simp only [List.forall_mem_cons]
  exact ⟨.always (legible_texts _), .always (legible_list (ClusterEntry.legible _) _),
    .always (DefaultNetwork.legible _ _), .optional (ProxyConfig.legible _) _,
    .optional legible_boolean _, .optional legible_boolean _,
    .omitted (legible_list (Attachment.legible n) _) _, .optional (NodeIdentityConfig.legible _) _,
    nofun⟩

theorem roundTrips (s : Spec) : RoundTrips s.toJson read s :=
  readsBack.roundTrips (legible 119 s)

end Spec

namespace Credentials

theorem readsBack : ReadsBack toJson read := by
  refine readsBack_record (fun _ => rfl) (fun c => by simp) fun c entries w => ?_
  exact run_seq (run_seq (run_map mk
    (required_of_written readsBack_text w rfl))
    (required_of_written readsBack_text w rfl))
    (optional_of_written readsBack_text w rfl)

theorem legible (n : Nat) (c : Credentials) : Legible (· ≠ ·) (n + 1) c.toJson := by
  refine legible_ofFields (by simp) ?_
  simp only [List.forall_mem_cons]
  exact ⟨.always (legible_text _), .always (legible_text _), .optional legible_text _, nofun⟩

end Credentials

namespace Progress

theorem readsBack : ReadsBack toJson read := by
  refine readsBack_record (fun _ => rfl) (fun p => by simp) fun p entries w => ?_
  exact run_seq (run_map mk
    (defaulted_of_written readsBack_boolean w false rfl))
    (defaulted_of_written readsBack_boolean w false rfl)

theorem legible (n : Nat) (p : Progress) : Legible (· ≠ ·) (n + 1) p.toJson := by
  refine legible_ofFields (by simp) ?_
  simp only [List.forall_mem_cons]
  exact ⟨.always (legible_boolean _), .always (legible_boolean _), nofun⟩

end Progress

namespace OpenStackFacts

theorem readsBack : ReadsBack toJson read := by
  refine readsBack_record (fun _ => rfl) (fun f => by simp) fun f entries w => ?_
  exact run_seq (run_seq (run_seq (run_seq (run_seq (run_seq (run_seq (run_seq (run_seq (run_seq
    (run_seq (run_seq (run_seq (run_map mk
    (required_of_written readsBack_text w rfl))
    (optional_of_written readsBack_text w rfl))
    (required_of_written readsBack_text w rfl))
    (required_of_written Credentials.readsBack w rfl))
    (optional_of_written readsBack_text w rfl))
    (required_of_written readsBack_text w rfl))
    (required_of_written readsBack_text w rfl))
    (required_of_written readsBack_text w rfl))
    (defaulted_of_written readsBack_texts w [] rfl))
    (defaulted_of_written readsBack_texts w [] rfl))
    (optional_of_written readsBack_text w rfl))
    (optional_of_written readsBack_text w rfl))
    (optional_of_written readsBack_text w rfl))
    (defaulted_of_written Progress.readsBack w .none rfl)

theorem legible (n : Nat) (f : OpenStackFacts) : Legible (· ≠ ·) (n + 2) f.toJson := by
  refine legible_ofFields (by simp) ?_
  simp only [List.forall_mem_cons]
  exact ⟨.always (legible_text _), .optional legible_text _, .always (legible_text _),
    .always (Credentials.legible n _), .optional legible_text _, .always (legible_text _),
    .always (legible_text _), .always (legible_text _), .always (legible_texts _),
    .always (legible_texts _), .optional legible_text _, .optional legible_text _,
    .optional legible_text _, .always (Progress.legible n _), nofun⟩

end OpenStackFacts

namespace ApiServer

theorem readsBack : ReadsBack toJson read := by
  refine readsBack_record (fun _ => rfl) (fun a => by simp) fun a entries w => ?_
  exact run_seq (run_map mk
    (required_of_written readsBack_text w rfl))
    (required_of_written readsBack_nat16 w rfl)

theorem legible (n : Nat) (a : ApiServer) : Legible (· ≠ ·) (n + 1) a.toJson := by
  refine legible_ofFields (by simp) ?_
  simp only [List.forall_mem_cons]
  exact ⟨.always (legible_text _), .always (legible_nat16 _), nofun⟩

end ApiServer

namespace WebhookFacts

theorem readsBack : ReadsBack toJson read := by
  refine readsBack_record (fun _ => rfl) (fun f => by simp) fun f entries w => ?_
  exact run_seq (run_map mk
    (optional_of_written readsBack_text w rfl))
    (defaulted_of_written readsBack_boolean w false rfl)

theorem legible (n : Nat) (f : WebhookFacts) : Legible (· ≠ ·) (n + 1) f.toJson := by
  refine legible_ofFields (by simp) ?_
  simp only [List.forall_mem_cons]
  exact ⟨.optional legible_text _, .always (legible_boolean _), nofun⟩

end WebhookFacts

namespace Facts

theorem readsBack : ReadsBack toJson read := by
  refine readsBack_record (fun _ => rfl) (fun f => by simp) fun f entries w => ?_
  exact run_seq (run_seq (run_seq (run_map mk
    (optional_of_written readsBack_text w rfl))
    (optional_of_written ApiServer.readsBack w rfl))
    (optional_of_written OpenStackFacts.readsBack w rfl))
    (defaulted_of_written WebhookFacts.readsBack w .none rfl)

theorem legible (n : Nat) (f : Facts) : Legible (· ≠ ·) (n + 3) f.toJson := by
  refine legible_ofFields (by simp) ?_
  simp only [List.forall_mem_cons]
  exact ⟨.optional legible_text _, .optional (ApiServer.legible _) _,
    .optional (OpenStackFacts.legible n) _, .always (WebhookFacts.legible _ _), nofun⟩

theorem roundTrips (f : Facts) : RoundTrips f.toJson read f :=
  readsBack.roundTrips (legible 124 f)

end Facts

namespace Images

theorem toJson_eq (i : Images) : i.toJson = .ofFields [
    ("kuryrController", some (.text i.kuryrController)),
    ("kuryrDaemon", some (.text i.kuryrDaemon)),
    ("kubeProxy", some (.text i.kubeProxy)),
    ("multus", some (.text i.multus)),
    ("multusAdmissionController", some (.text i.multusAdmission)),
    ("networkNodeIdentity", some (.text i.nodeIdentity))] := rfl

theorem readsBack : ReadsBack toJson read := by
  refine readsBack_record toJson_eq (fun i => by simp) fun i entries w => ?_
  exact run_seq (run_seq (run_seq (run_seq (run_seq (run_map mk
    (defaulted_of_written readsBack_text w _ rfl))
    (defaulted_of_written readsBack_text w _ rfl))
    (defaulted_of_written readsBack_text w _ rfl))
    (defaulted_of_written readsBack_text w _ rfl))
    (defaulted_of_written readsBack_text w _ rfl))
    (defaulted_of_written readsBack_text w _ rfl)

theorem legible (n : Nat) (i : Images) : Legible (· ≠ ·) (n + 1) i.toJson := by
  rw [toJson_eq]
  refine legible_ofFields (by simp) ?_
  simp only [List.forall_mem_cons]
  exact ⟨.always (legible_text _), .always (legible_text _), .always (legible_text _),
    .always (legible_text _), .always (legible_text _), .always (legible_text _), nofun⟩

end Images

namespace Release

theorem toJson_eq (r : Release) : r.toJson = .ofFields [
    ("version", some (.text r.version)), ("images", some r.images.toJson)] := rfl

theorem readsBack : ReadsBack toJson read := by
  refine readsBack_record toJson_eq (fun r => by simp) fun r entries w => ?_
  exact run_seq (run_map mk
    (defaulted_of_written readsBack_text w _ rfl))
    (defaulted_of_written Images.readsBack w _ rfl)

theorem legible (n : Nat) (r : Release) : Legible (· ≠ ·) (n + 2) r.toJson := by
  rw [toJson_eq]
  refine legible_ofFields (by simp) ?_
  simp only [List.forall_mem_cons]
  exact ⟨.always (legible_text _), .always (Images.legible n _), nofun⟩

theorem roundTrips (r : Release) : RoundTrips r.toJson read r :=
  readsBack.roundTrips (legible 125 r)

end Release

namespace Status

theorem readsBack_phase : ReadsBack (fun phase => .text (Phase.name phase))
    (readChoice Phase.name Phase.all) :=
  readsBack_choice fun phase => by cases phase <;> rfl

theorem readsBack : ReadsBack toJson read := by
  refine readsBack_record (fun _ => rfl) (fun s => by simp) fun s entries w => ?_
  exact run_seq (run_seq (run_seq (run_seq (run_map mk
    (defaulted_of_written readsBack_phase w .pending rfl))
    (optional_of_written readsBack_text w rfl))
    (omitted_of_written readsBack_texts w List.isEmpty_iff.mp rfl))
    (omitted_of_written (readsBack_dict readsBack_text) w Dict.eq_empty_of_isEmpty rfl))
    (optional_of_written readsBack_text w rfl)

theorem legible (n : Nat) (s : Status) : Legible (· ≠ ·) (n + 2) s.toJson := by
  refine legible_ofFields (by simp) ?_
  simp only [List.forall_mem_cons]
  exact ⟨.always (legible_text _), .optional legible_text _, .omitted (legible_texts _) _,
    .omitted (legible_dict legible_text _) _, .optional legible_text _, nofun⟩

theorem roundTrips (s : Status) : RoundTrips s.toJson read s :=
  readsBack.roundTrips (legible 125 s)

end Status

end ClusterNet
