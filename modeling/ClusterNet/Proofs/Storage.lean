import ClusterNet.Proofs.Contents

/- What is stored between passes and got back for the next one: specs, facts, releases, statuses and
   the objects that were applied. -/
namespace ClusterNet

open Wire Json

namespace Wire

/-- What was read from a document is got back from what is written for it. -/
def Stable {α : Type} (write : α → Json) (read : Json → Except Fault α) : Prop :=
  ∀ v a, read v = .ok a → read (write a) = .ok a

theorem stable_of_roundTrips {α : Type} {write : α → Json} {read : Json → Except Fault α}
    (all : ∀ a, RoundTrips (write a) read a) : Stable write read :=
  fun _ a _ => (all a).document

end Wire

namespace Pass

/-- A document in which a spec is stored: its fields in any order, or what is read from its text. -/
def Stores (v : Json) (s : Spec) : Prop :=
  Rearranged s.toJson v ∨ Json.read s.toJson.compact = .ok v

theorem read_of_stores {v : Json} {s : Spec} (stored : Stores v s) : Spec.read v = .ok s := by
  rcases stored with moved | text
  · exact Spec.readsBack.reads s v moved
  · obtain ⟨w, same, read⟩ := s.roundTrips.text
    rw [text] at same
    cases same
    exact read

/-- Nothing is lost on the way into a document and out of it. -/
theorem stored_is_got_back {r : Release} {s : Spec} {previous : Option Spec} {facts : Facts}
    {result : Outcome} (run : reconcile r s previous facts = .ok result) :
    (∀ s : Spec, RoundTrips s.toJson Spec.read s) ∧
    (∀ f : Facts, RoundTrips f.toJson Facts.read f) ∧
    (∀ r : Release, RoundTrips r.toJson Release.read r) ∧
    (∀ s : Status, RoundTrips s.toJson Status.read s) ∧
    (∀ m ∈ result.objects, RoundTrips m.toJson Manifest.read m) ∧
    (Stable Spec.toJson Spec.read ∧ Stable Facts.toJson Facts.read ∧
      Stable Release.toJson Release.read ∧ Stable Status.toJson Status.read ∧
      Stable Manifest.toJson Manifest.read) ∧
    ∀ v stored, Stores v stored → ∃ again, Spec.read v = .ok again ∧
      ∀ r s facts, reconcile r s (some again) facts = reconcile r s (some stored) facts := by
  refine ⟨Spec.roundTrips, Facts.roundTrips, Release.roundTrips, Status.roundTrips, ?objects,
    ⟨stable_of_roundTrips Spec.roundTrips, stable_of_roundTrips Facts.roundTrips,
      stable_of_roundTrips Release.roundTrips, stable_of_roundTrips Status.roundTrips, ?manifests⟩,
    ?previous⟩
  case objects => exact fun m applied => (settled_of_reconcile run m applied).roundTrips
  case manifests => exact fun v m read => Manifest.read_toJson (Manifest.readable_of_read read)
  case previous =>
    exact fun v stored stores => ⟨stored, read_of_stores stores, fun _ _ _ => rfl⟩

/-- A document with an unset field, a field that is left out and one beyond the envelope. -/
def secretDocument : Json :=
  .object [
    ("type", .text "Opaque"),
    ("kind", .text "Secret"),
    ("data", .null),
    ("apiVersion", .text "v1"),
    ("metadata", .object [("name", .text "credentials")])]

def secretRead : Manifest :=
  (Manifest.new "v1" "Secret" "credentials").withField "type" (.text "Opaque")

theorem secretDocument_read : Manifest.read secretDocument = .ok secretRead := by
  decide +kernel

theorem kuryrSample_is_got_back :
    Manifest.read secretDocument = .ok secretRead ∧
      Manifest.read secretRead.toJson = .ok secretRead ∧
      ∃ result, reconcile .builtIn kuryrSample none .none = .ok result ∧ result.objects ≠ [] ∧
        (∀ m ∈ result.objects, RoundTrips m.toJson Manifest.read m) ∧
        Stores kuryrSample.toJson.canonical kuryrSample ∧
        ∃ again, Spec.read kuryrSample.toJson.canonical = .ok again ∧
          reconcile .builtIn kuryrSample (some again) .none =
            reconcile .builtIn kuryrSample (some kuryrSample) .none := by
  obtain ⟨result, run, -⟩ := reconcile_of_check kuryrSample_accepted .none
  obtain ⟨-, -, -, -, objects, ⟨-, -, -, -, manifests⟩, previous⟩ := stored_is_got_back run
  have stores : Stores kuryrSample.toJson.canonical kuryrSample :=
    .inl (alike_canonical (fun _ => rfl) _ (distinct_of_legible _ _ (Spec.legible 0 kuryrSample)))
  obtain ⟨again, read, same⟩ := previous _ _ stores
  have rendered : (reconcile .builtIn kuryrSample none .none).toOption.any
      (·.objects.length ≠ 0) = true := by
    decide +kernel
  have some : result.objects ≠ [] := by
    rw [run] at rendered
    rintro nothing
    simp [Except.toOption, nothing] at rendered
  exact ⟨secretDocument_read, manifests _ _ secretDocument_read, result, run, some, objects, stores,
    again, read, same _ _ _⟩

end Pass
end ClusterNet
