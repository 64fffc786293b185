import Mathlib.Data.List.Nodup
import ClusterNet.Manifest.Wire
import ClusterNet.Proofs.RoundTrip

/- An object is read back from what is written for it, if the reader can tell its parts apart: the
   free-form fields stand among those of the envelope, and content that is null is taken for content
   that is left out. Whatever was read is such an object. -/
namespace ClusterNet

open Wire Fields Json

namespace Metadata

theorem readsBack : ReadsBack toJson read := by
  refine readsBack_record (fun _ => rfl) (fun m => by simp) fun m entries w => ?_
  exact run_seq (run_seq (run_seq (run_map mk
    (required_of_written readsBack_text w rfl))
    (optional_of_written readsBack_text w rfl))
    (optional_of_written (readsBack_dict readsBack_text) w rfl))
    (optional_of_written (readsBack_dict readsBack_text) w rfl)

theorem legible (n : Nat) (m : Metadata) : Legible (· ≠ ·) (n + 2) m.toJson := by
  refine legible_ofFields (by simp) ?_
  simp only [List.forall_mem_cons]
  exact ⟨.always (legible_text _), .optional legible_text _,
    .optional (legible_dict legible_text) _, .optional (legible_dict legible_text) _, nofun⟩

end Metadata

namespace Manifest

/-- Content is not null, and no free-form field has the name of one of the envelope. -/
structure Readable (m : Manifest) : Prop where
  spec : m.spec ≠ some .null
  data : m.data ≠ some .null
  fields : ∀ key ∈ m.fields.keys, key ∉ envelopeKeys

def envelope (m : Manifest) (metadata : Json) : List (String × Option Json) := [
  ("apiVersion", some (.text m.apiVersion)),
  ("kind", some (.text m.kind)),
  ("metadata", some metadata),
  ("spec", m.spec),
  ("data", m.data)]

def entriesWith (m : Manifest) (metadata : Json) : List (String × Json) :=
  ((m.envelope metadata).filterMap fun field => field.2.map (field.1, ·)) ++ m.fields.entries

theorem toJson_eq (m : Manifest) : m.toJson = .object (m.entriesWith m.metadata.toJson) := rfl

theorem keys_envelope (m : Manifest) (metadata : Json) :
    (m.envelope metadata).map Prod.fst = envelopeKeys := rfl

theorem envelope_keys_sublist (m : Manifest) (metadata : Json) :
    (((m.envelope metadata).filterMap fun field => field.2.map (field.1, ·)).map Prod.fst).Sublist
      envelopeKeys := keys_ofFields (m.envelope metadata)

section

variable {m : Manifest} {metadata : Json}

theorem keys_entriesWith_nodup (readable : m.Readable) (metadata : Json) :
    ((m.entriesWith metadata).map Prod.fst).Nodup := by
  rw [entriesWith, List.map_append, List.nodup_append]
  have known := m.envelope_keys_sublist metadata
  refine ⟨List.Nodup.sublist known (by decide), m.fields.keys_nodup, ?_⟩
  rintro key first _ later rfl
  exact readable.fields key later (known.subset first)

theorem mem_entriesWith {field : String × Option Json} (listed : field ∈ m.envelope metadata)
    {json : Json} (present : field.2 = some json) : (field.1, json) ∈ m.entriesWith metadata :=
  List.mem_append_left _ (List.mem_filterMap.mpr ⟨field, listed, by rw [present]; rfl⟩)

theorem lookup_entriesWith (readable : m.Readable) {field : String × Option Json}
    (listed : field ∈ m.envelope metadata) :
    lookup field.1 (m.entriesWith metadata) = field.2 := by
  have once := keys_entriesWith_nodup readable metadata
  cases present : field.2 with
  | some json => exact (lookup_eq_some_iff once).mpr (mem_entriesWith listed present)
  | none =>
    refine lookup_eq_none_iff.mpr fun member => ?_
    obtain ⟨entry, found, same⟩ := List.mem_map.mp member
    have spoken : field.1 ∈ envelopeKeys := List.mem_map_of_mem listed
    rcases List.mem_append.mp found with known | free
    · obtain ⟨other, among, given⟩ := List.mem_filterMap.mp known
      obtain ⟨json, value, rfl⟩ := Option.map_eq_some_iff.mp given
      have distinct : ((m.envelope metadata).map Prod.fst).Nodup := by
        rw [keys_envelope]
        decide
      rw [List.inj_on_of_nodup_map distinct among listed same, present] at value
      cases value
    · exact readable.fields _ (List.mem_map_of_mem free) (same ▸ spoken)

theorem free_entriesWith (readable : m.Readable) :
    (m.entriesWith metadata).filter (·.1 ∉ envelopeKeys) = m.fields.entries := by
  have known : ((m.envelope metadata).filterMap fun field => field.2.map (field.1, ·)).filter
      (·.1 ∉ envelopeKeys) = [] := by
    refine List.filter_eq_nil_iff.mpr fun entry member => ?_
    have spoken := (m.envelope_keys_sublist metadata).subset (List.mem_map_of_mem member)
    simpa using spoken
  have free : m.fields.entries.filter (·.1 ∉ envelopeKeys) = m.fields.entries := by
    refine List.filter_eq_self.mpr fun entry member => ?_
    exact decide_eq_true (readable.fields entry.1 (List.mem_map_of_mem member))
  rw [entriesWith, List.filter_append, known, free, List.nil_append]

theorem read_of_perm (readable : m.Readable) (same : Rearranged m.metadata.toJson metadata)
    {entries : List (String × Json)} (moved : (m.entriesWith metadata).Perm entries) :
    read (.object entries) = .ok m := by
  have once := keys_entriesWith_nodup readable metadata
  have onceMoved := (moved.map Prod.fst).nodup_iff.mp once
  have found {key : String} {value : Option Json} (listed : (key, value) ∈ m.envelope metadata) :
      lookup key entries = value := by
    rw [← lookup_perm moved once]
    exact lookup_entriesWith readable listed
  have others : Dict.ofList (entries.filter (·.1 ∉ envelopeKeys)) = m.fields := by
    refine Dict.ofList_perm ?_
    rw [← free_entriesWith readable]
    exact moved.filter _
  have text (key s : String) (listed : (key, some (.text s)) ∈ m.envelope metadata)
      (position : Nat) : (required position key Format.text).run (.named entries) = .ok s :=
    required_of_lookup onceMoved (found listed) (readsBack_text.reads s _ (.text s)) position
  have content (key : String) (value : Option Json) (set : value ≠ some .null)
      (listed : (key, value) ∈ m.envelope metadata) (position : Nat) :
      (optional position key Except.ok).run (.named entries) = .ok value :=
    optional_of_lookup onceMoved (found listed) set position
  have inner : (required 2 "metadata" Metadata.read).run (.named entries) = .ok m.metadata :=
    required_of_lookup onceMoved (found (by simp [envelope])) (Metadata.readsBack.reads _ _ same) 2
  have run : (ofEntries entries).run (.named entries) = .ok m := by
    rw [ofEntries, others]
    exact run_seq (run_seq (run_seq (run_seq (run_map _
      (text "apiVersion" m.apiVersion (by simp [envelope]) 0))
      (text "kind" m.kind (by simp [envelope]) 1))
      inner)
      (content "spec" m.spec readable.spec (by simp [envelope]) 3))
      (content "data" m.data readable.data (by simp [envelope]) 4)
  rw [read, run]
  rfl

end

theorem readable_of_read {v : Json} {m : Manifest} (run : read v = .ok m) : m.Readable := by
  cases v with
  | object entries =>
    cases got : (ofEntries entries).run (.named entries) with
    | error misfit =>
      rw [read, got] at run
      cases run
    | ok found =>
      rw [read, got] at run
      cases run
      obtain ⟨_, data, upToSpec, last, rfl⟩ := run_seq_eq_ok got
      obtain ⟨_, spec, upToMetadata, content, rfl⟩ := run_seq_eq_ok upToSpec
      obtain ⟨_, metadata, upToKind, -, rfl⟩ := run_seq_eq_ok upToMetadata
      obtain ⟨_, kind, upToVersion, -, rfl⟩ := run_seq_eq_ok upToKind
      obtain ⟨apiVersion, -, rfl⟩ := run_map_eq_ok upToVersion
      refine ⟨ne_null_of_optional content, ne_null_of_optional last, fun key member => ?_⟩
      obtain ⟨entry, kept, rfl⟩ := List.mem_map.mp (Dict.mem_keys_ofList.mp member)
      exact of_decide_eq_true (List.mem_filter.mp kept).2
  | _ => cases run

theorem read_toJson {m : Manifest} (readable : m.Readable) : read m.toJson = .ok m := by
  rw [toJson_eq]
  exact read_of_perm readable (.refl (fun _ => rfl) _) (.refl _)

end Manifest
end ClusterNet
