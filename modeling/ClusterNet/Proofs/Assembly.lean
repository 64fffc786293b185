import ClusterNet.Proofs.Refilling
import ClusterNet.Proofs.Templates

/- How a pass assembles what its components rendered. Each workload gets the hash of its own
   component, on itself and on its pods; taking the hashes off again gives the rendered objects,
   with the namespaces moved to the front. -/
namespace ClusterNet

namespace Manifest

def otherAnnotations (d : Dict String) : Option (Dict String) :=
  let rest := d.erase configHashKey
  if rest.isEmpty then none else some rest

def TemplatePath.otherMetadata (p : TemplatePath) : List (String × Json) :=
  let rest := without configHashKey p.annotations
  if rest.isEmpty then without "annotations" p.metadata
  else put "annotations" (.object rest) p.metadata

def TemplatePath.withMetadata (p : TemplatePath) (metadata : List (String × Json)) : Json :=
  .object (put "template" (.object (put "metadata" (.object metadata) p.template)) p.spec)

/-- The object with the hash taken off it and off its pod template. A map of annotations that held
    nothing else goes with it. -/
def withoutHash (m : Manifest) : Manifest :=
  let bare := { m with metadata.annotations := m.metadata.annotations.bind otherAnnotations }
  match m.templatePath with
  | .ok path => bare.withSpec (path.withMetadata path.otherMetadata)
  | .error _ => bare

structure Unhashed (m : Manifest) : Prop where
  absent : m.annotation? configHashKey = none
  filled : ∀ d, m.metadata.annotations = some d → d.isEmpty = false

theorem annotation?_annotate_self (m : Manifest) (key value : String) :
    (m.annotate key value).annotation? key = some value := by
  simp only [annotation?, annotate, Option.bind_some, Dict.get?_insert_self]

theorem annotation?_annotate_of_ne (m : Manifest) {key other : String} (different : other ≠ key)
    (value : String) : (m.annotate key value).annotation? other = m.annotation? other := by
  simp only [annotation?, annotate, Option.bind_some, Dict.get?_insert_of_ne _ different]
  cases m.metadata.annotations <;> rfl

theorem unhashed_annotate {m : Manifest} (unhashed : m.Unhashed) {key : String}
    (other : key ≠ configHashKey) (value : String) : (m.annotate key value).Unhashed where
  absent := (annotation?_annotate_of_ne m (Ne.symm other) value).trans unhashed.absent
  filled := by
    rintro d ⟨⟩
    exact Dict.isEmpty_insert ..

theorem unhashed_of_fresh {m : Manifest} (fresh : m.Fresh) : m.Unhashed := by
  induction fresh with
  | other _ bare _ => exact ⟨by rw [annotation?, bare]; rfl, by rw [bare]; exact nofun⟩
  | daemonSet | deployment => exact ⟨rfl, nofun⟩
  | markCreateOnly _ ih | markCreateWait _ ih => exact unhashed_annotate ih (by decide) _

theorem TemplatePath.Bare.annotations_eq_nil {m : Manifest} {path : TemplatePath}
    (bare : path.Bare) (found : m.templatePath = .ok path) : path.annotations = [] := by
  obtain ⟨-, -, -, inner⟩ := templatePath_eq_ok.mp found
  rw [objectUnder_of_absent bare.annotations] at inner
  exact (Except.ok.inj inner).symm

theorem Unhashed.get?_eq_none {m : Manifest} (unhashed : m.Unhashed) {d : Dict String}
    (given : m.metadata.annotations = some d) : d.get? configHashKey = none := by
  simpa only [annotation?, given, Option.bind_some] using unhashed.absent

theorem otherAnnotations_of_unhashed {m : Manifest} (unhashed : m.Unhashed) :
    m.metadata.annotations.bind otherAnnotations = m.metadata.annotations := by
  cases given : m.metadata.annotations with
  | none => rfl
  | some d =>
    have absent := unhashed.get?_eq_none given
    simp only [Option.bind_some, otherAnnotations, Dict.erase_of_absent absent,
      unhashed.filled d given, Bool.false_eq_true, ↓reduceIte]

theorem otherAnnotations_annotate {m : Manifest} (unhashed : m.Unhashed) (hash : String) :
    (m.annotate configHashKey hash).metadata.annotations.bind otherAnnotations =
      m.metadata.annotations := by
  cases given : m.metadata.annotations with
  | none =>
    simp only [annotate, given, Option.getD_none, Option.bind_some, otherAnnotations,
      Dict.erase_insert (d := .empty) rfl]
    rfl
  | some d =>
    have absent := unhashed.get?_eq_none given
    simp only [annotate, given, Option.getD_some, Option.bind_some, otherAnnotations,
      Dict.erase_insert absent, unhashed.filled d given, Bool.false_eq_true, ↓reduceIte]

theorem withMetadata_of_replace {p : TemplatePath} (bare : p.Bare)
    (annotations : List (String × Json)) :
    (p.replace annotations).withMetadata p.metadata = .object p.spec := by
  simp only [TemplatePath.replace, TemplatePath.withMetadata, put_put_self, bare.metadata,
    bare.template]

theorem otherMetadata_of_replace {p : TemplatePath} (bare : p.Bare) (hash : Json) :
    (p.replace [(configHashKey, hash)]).otherMetadata = p.metadata := by
  have nothing : without configHashKey [(configHashKey, hash)] = [] :=
    without_put (rfl : lookup configHashKey [] = none) hash
  simp only [TemplatePath.replace, TemplatePath.otherMetadata, nothing, List.isEmpty_nil,
    ↓reduceIte, without_put bare.annotations]

end Manifest

namespace Pass

open Manifest

def stamped (hash : String) (m : Manifest) : Manifest := (stamp hash m).toOption.getD m

theorem stamped_of_ok {hash : String} {m out : Manifest} (run : stamp hash m = .ok out) :
    stamped hash m = out := by
  rw [stamped, run]
  rfl

theorem stamped_of_other {hash : String} {m : Manifest} (other : m.isWorkload = false) :
    stamped hash m = m := by
  simp only [stamped, stamp, other, Bool.false_eq_true, ↓reduceIte]
  rfl

theorem stamped_of_workload {hash : String} {m : Manifest} {path : TemplatePath}
    (workload : m.isWorkload = true) (found : m.templatePath = .ok path) (bare : path.Bare) :
    stamped hash m = (m.annotate configHashKey hash).withSpec
      (path.withAnnotations [(configHashKey, .text hash)]) := by
  refine stamped_of_ok ?_
  rw [stamp, if_pos workload]
  refine annotateTemplate_eq_ok.mpr ⟨path, found, ?_⟩
  rw [bare.annotations_eq_nil found]
  rfl

/-- All that the stamp can touch: the annotations and the spec. -/
theorem stamped_of_fresh {hash : String} {m : Manifest} (fresh : m.Fresh) :
    stamped hash m = m ∨
      ∃ spec, stamped hash m = (m.annotate configHashKey hash).withSpec spec := by
  cases workload : m.isWorkload with
  | false => exact .inl (stamped_of_other workload)
  | true =>
    obtain ⟨path, found, bare⟩ := bare_of_fresh fresh workload
    exact .inr ⟨_, stamped_of_workload workload found bare⟩

theorem isNamespace_stamped {hash : String} {m : Manifest} (fresh : m.Fresh) :
    (stamped hash m).isNamespace = m.isNamespace := by
  rcases stamped_of_fresh fresh with same | ⟨spec, same⟩
  · rw [same]
  · rw [same]
    rfl

theorem withoutHash_stamped {hash : String} {m : Manifest} (fresh : m.Fresh) :
    (stamped hash m).withoutHash = m := by
  have unhashed := unhashed_of_fresh fresh
  cases workload : m.isWorkload with
  | false =>
    rw [stamped_of_other workload]
    simp only [withoutHash, untemplated_of_fresh fresh workload,
      otherAnnotations_of_unhashed unhashed]
  | true =>
    obtain ⟨path, found, bare⟩ := bare_of_fresh fresh workload
    obtain ⟨given, -⟩ := templatePath_eq_ok.mp found
    rw [stamped_of_workload workload found bare]
    have annotations := otherAnnotations_annotate unhashed hash
    have spec := withMetadata_of_replace bare [(configHashKey, .text hash)]
    -- The spec is written twice, by the stamp and by taking it off; the second time it is as given.
    rw [withoutHash, templatePath_withAnnotations]
    simp only [otherMetadata_of_replace bare, spec]
    change { m with
      metadata.annotations := (m.annotate configHashKey hash).metadata.annotations.bind _,
      spec := some (.object path.spec) } = m
    rw [annotations, ← given]

/-- A workload with the hash of its component, and with every annotation that it was rendered with.
    -/
structure Carries (hash : String) (given out : Manifest) : Prop where
  onObject : out.annotation? configHashKey = some hash
  onPods : out.templateAnnotation? configHashKey = some hash
  keepsObject : ∀ key value, given.annotation? key = some value → out.annotation? key = some value
  keepsPods : ∀ key value, given.templateAnnotation? key = some value →
    out.templateAnnotation? key = some value

theorem carries_stamped {hash : String} {m : Manifest} (fresh : m.Fresh)
    (workload : m.isWorkload = true) : Carries hash m (stamped hash m) := by
  obtain ⟨path, found, bare⟩ := bare_of_fresh fresh workload
  rw [stamped_of_workload workload found bare]
  have pods := templateAnnotation?_of_templatePath
    (templatePath_withAnnotations (m.annotate configHashKey hash) path
      [(configHashKey, .text hash)])
  refine ⟨annotation?_annotate_self m .., ?_, ?_, ?_⟩
  · rw [pods, TemplatePath.replace, lookup, if_pos rfl]
    rfl
  · intro key value given
    have other : key ≠ configHashKey := by
      rintro rfl
      rw [(unhashed_of_fresh fresh).absent] at given
      cases given
    exact (annotation?_annotate_of_ne m other hash).trans given
  · intro key value given
    rw [templateAnnotation?_of_templatePath found, bare.annotations_eq_nil found] at given
    cases given

def Placed (hash : String) (given out : Manifest) : Prop :=
  if given.isWorkload then Carries hash given out else out = given

theorem placed_stamped {hash : String} {m : Manifest} (fresh : m.Fresh) :
    Placed hash m (stamped hash m) := by
  unfold Placed
  split
  · next workload => exact carries_stamped fresh workload
  · next other => exact stamped_of_other (Bool.eq_false_iff.mpr other)

/-- What the component renders, nothing if it fails. -/
def renderingOf (r : Release) (s : Spec) (facts : Facts) (p : Provider) : Rendering :=
  (p.render r s facts).toOption.getD ⟨[], .empty, []⟩

def partOf (p : Provider) (a : Rendering) : Part :=
  ⟨p, a.objects.map (stamped (hashOf (.ofDict a.data))), a.data, hashOf (.ofDict a.data),
    a.warnings⟩

theorem part_eq_ok {r : Release} {s : Spec} {facts : Facts} {p : Provider} {b : Part}
    (run : part r s facts p = .ok b) :
    p.render r s facts = .ok (renderingOf r s facts p) ∧
      partOf p (renderingOf r s facts p) = b := by
  obtain ⟨a, render, run⟩ := bind_eq_ok.mp run
  obtain ⟨objects, stamps, run⟩ := bind_eq_ok.mp run
  have same : renderingOf r s facts p = a := by
    rw [renderingOf, render]
    rfl
  obtain ⟨-, stamping⟩ := map_of_mapM (fun _ _ => stamped_of_ok) stamps
  rw [same]
  refine ⟨render, ?_⟩
  cases run
  rw [stamping]
  rfl

theorem outcome_of_reconcile {r : Release} {s : Spec} {previous : Option Spec} {facts : Facts}
    {result : Outcome} (run : reconcile r s previous facts = .ok result) :
    ∃ (type : NetworkType) (rendering : Provider → Rendering), result.spec.type? = some type ∧
      (∀ p ∈ active r (Provider.forType type) result.spec,
        p.render r result.spec facts = .ok (rendering p)) ∧
      result = outcome r result.spec
        ((active r (Provider.forType type) result.spec).map fun p => partOf p (rendering p)) := by
  obtain ⟨returned, output⟩ := parts_of_reconcile run
  obtain ⟨type, accepted⟩ := accepted_of_check returned
  simp only [rendered, Provider.forSpec, accepted.known, ok_bind] at output
  obtain ⟨parts, each, output⟩ := bind_eq_ok.mp output
  obtain ⟨succeed, parts⟩ := map_of_mapM (fun _ _ part => (part_eq_ok part).2) each
  refine ⟨type, renderingOf r result.spec facts, accepted.known, ?_, ?_⟩
  · exact fun p member => (part_eq_ok (succeed p member)).1
  · rw [← parts]
    exact (Except.ok.inj output).symm

theorem outcome_of_check {r : Release} {s d : Spec} {previous : Option Spec}
    (returned : check r s previous = .ok d) (facts : Facts) :
    ∃ (type : NetworkType) (rendering : Provider → Rendering), s.type? = some type ∧
      d = defaulted (Provider.forType type) s ∧ Accepted r type d ∧
      (∀ p ∈ active r (Provider.forType type) d, p.render r d facts = .ok (rendering p)) ∧
      reconcile r s previous facts = .ok (outcome r d
        ((active r (Provider.forType type) d).map fun p => partOf p (rendering p))) := by
  obtain ⟨type, known, filled, accepted, -⟩ := check_ok_iff.mp returned
  obtain ⟨result, run, same⟩ := reconcile_of_check returned facts
  obtain ⟨type', rendering, known', renders, output⟩ := outcome_of_reconcile run
  rw [same] at known' renders output
  cases known'.symm.trans accepted.known
  exact ⟨type, rendering, known, filled, accepted, renders, output ▸ run⟩

def sources (providers : List Provider) (rendering : Provider → Rendering) :
    List (Provider × Manifest) :=
  providers.flatMap fun p => (rendering p).objects.map (p, ·)

def orderedSources (providers : List Provider) (rendering : Provider → Rendering) :
    List (Provider × Manifest) :=
  (sources providers rendering).filter (·.2.isNamespace) ++
    (sources providers rendering).filter (!·.2.isNamespace)

structure Assembles (providers : List Provider) (rendering : Provider → Rendering) (o : Outcome) :
    Prop where
  dataKeys : ∀ key, key ∈ o.data.keys ↔ key ∈ providers.map Provider.name
  hashKeys : ∀ key, key ∈ o.hashes.keys ↔ key ∈ providers.map Provider.name
  records : ∀ p ∈ providers, o.data.get? p.name = some (rendering p).data ∧
    o.hashes.get? p.name = some (hashOf (.ofDict (rendering p).data))
  order : o.objects.map withoutHash =
    (providers.flatMap fun p => (rendering p).objects).filter isNamespace ++
      (providers.flatMap fun p => (rendering p).objects).filter (!·.isNamespace)
  placed : List.Forall₂
    (fun source out => Placed (hashOf (.ofDict (rendering source.1).data)) source.2 out)
    (orderedSources providers rendering) o.objects

theorem namespacesFirst_map {α : Type} {f g : α → Manifest} {items : List α}
    (same : ∀ a ∈ items, (f a).isNamespace = (g a).isNamespace) :
    namespacesFirst (items.map f) =
      (items.filter (fun a => (g a).isNamespace) ++
        items.filter (fun a => !(g a).isNamespace)).map f := by
  rw [namespacesFirst, List.filter_map, List.filter_map, List.map_append]
  congr 2
  · exact List.filter_congr same
  · exact List.filter_congr fun a member => congrArg (!·) (same a member)

section

variable {r : Release} {s : Spec} {providers : List Provider} {rendering : Provider → Rendering}

theorem keys_of_records {α : Type} (value : Provider → α) (key : String) :
    key ∈ (Dict.ofList (providers.map fun p => (p.name, value p))).keys ↔
      key ∈ providers.map Provider.name := by
  rw [Dict.mem_keys_ofList, List.map_map]
  rfl

theorem record_of_mem {α : Type} (distinct : (providers.map Provider.name).Nodup)
    (value : Provider → α) {p : Provider} (member : p ∈ providers) :
    (Dict.ofList (providers.map fun p => (p.name, value p))).get? p.name = some (value p) := by
  refine Dict.get?_ofList_of_mem ?_ (List.mem_map.mpr ⟨p, member, rfl⟩)
  rwa [List.map_map]

theorem sources_objects :
    (sources providers rendering).map Prod.snd =
      providers.flatMap fun p => (rendering p).objects := by
  simp only [sources, List.map_flatMap, List.map_map, Function.comp_def, List.map_id']

theorem parts_objects :
    (providers.map fun p => partOf p (rendering p)).flatMap Part.objects =
      (sources providers rendering).map fun source =>
        stamped (hashOf (.ofDict (rendering source.1).data)) source.2 := by
  simp only [sources, List.flatMap_map, List.map_flatMap, List.map_map, Function.comp_def, partOf]

theorem fresh_of_source (fresh : ∀ p ∈ providers, ∀ m ∈ (rendering p).objects, m.Fresh) :
    ∀ source ∈ sources providers rendering, source.2.Fresh := by
  simp only [sources, List.forall_mem_flatMap, List.forall_mem_map]
  exact fresh

theorem mem_orderedSources {source : Provider × Manifest} :
    source ∈ orderedSources providers rendering ↔ source ∈ sources providers rendering :=
  (List.filter_append_perm _ _).mem_iff

theorem fresh_of_orderedSource (fresh : ∀ p ∈ providers, ∀ m ∈ (rendering p).objects, m.Fresh) :
    ∀ source ∈ orderedSources providers rendering, source.2.Fresh :=
  fun source member => fresh_of_source fresh source (mem_orderedSources.mp member)

theorem outcome_objects (fresh : ∀ p ∈ providers, ∀ m ∈ (rendering p).objects, m.Fresh) :
    (outcome r s (providers.map fun p => partOf p (rendering p))).objects =
      (orderedSources providers rendering).map fun source =>
        stamped (hashOf (.ofDict (rendering source.1).data)) source.2 := by
  refine (congrArg namespacesFirst parts_objects).trans ?_
  exact namespacesFirst_map fun source member =>
    isNamespace_stamped (fresh_of_source fresh source member)

theorem applied_of_source (fresh : ∀ p ∈ providers, ∀ m ∈ (rendering p).objects, m.Fresh)
    {p : Provider} (taking : p ∈ providers) {m : Manifest} (member : m ∈ (rendering p).objects) :
    stamped (hashOf (.ofDict (rendering p).data)) m ∈
      (outcome r s (providers.map fun p => partOf p (rendering p))).objects := by
  rw [outcome_objects fresh]
  have source : (p, m) ∈ sources providers rendering :=
    List.mem_flatMap.mpr ⟨p, taking, List.mem_map.mpr ⟨m, member, rfl⟩⟩
  exact List.mem_map.mpr ⟨_, mem_orderedSources.mpr source, rfl⟩

theorem source_of_applied (fresh : ∀ p ∈ providers, ∀ m ∈ (rendering p).objects, m.Fresh)
    {m : Manifest}
    (applied : m ∈ (outcome r s (providers.map fun p => partOf p (rendering p))).objects) :
    ∃ p ∈ providers, ∃ given ∈ (rendering p).objects,
      m = stamped (hashOf (.ofDict (rendering p).data)) given := by
  rw [outcome_objects fresh] at applied
  obtain ⟨⟨p, given⟩, source, rfl⟩ := List.mem_map.mp applied
  obtain ⟨q, taking, listed⟩ := List.mem_flatMap.mp (mem_orderedSources.mp source)
  obtain ⟨_, member, same⟩ := List.mem_map.mp listed
  cases same
  exact ⟨p, taking, given, member, rfl⟩

/-- What is no workload is applied as it was rendered. -/
theorem mem_outcome_objects (fresh : ∀ p ∈ providers, ∀ m ∈ (rendering p).objects, m.Fresh)
    {p : Provider} (taking : p ∈ providers) {m : Manifest} (member : m ∈ (rendering p).objects)
    (other : m.isWorkload = false) :
    m ∈ (outcome r s (providers.map fun p => partOf p (rendering p))).objects := by
  have applied := applied_of_source (r := r) (s := s) fresh taking member
  rwa [stamped_of_other other] at applied

theorem outcome_data :
    (outcome r s (providers.map fun p => partOf p (rendering p))).data =
      .ofList (providers.map fun p => (p.name, (rendering p).data)) :=
  congrArg Dict.ofList List.map_map

theorem outcome_hashes :
    (outcome r s (providers.map fun p => partOf p (rendering p))).hashes =
      .ofList (providers.map fun p => (p.name, hashOf (.ofDict (rendering p).data))) :=
  congrArg Dict.ofList List.map_map

theorem assembles_outcome (distinct : (providers.map Provider.name).Nodup)
    (fresh : ∀ p ∈ providers, ∀ m ∈ (rendering p).objects, m.Fresh) :
    Assembles providers rendering
      (outcome r s (providers.map fun p => partOf p (rendering p))) := by
  have shape := fresh_of_orderedSource fresh
  refine ⟨?_, ?_, ?_, ?_, ?_⟩
  · rw [outcome_data]
    exact keys_of_records fun p => (rendering p).data
  · rw [outcome_hashes]
    exact keys_of_records fun p => hashOf (.ofDict (rendering p).data)
  · intro p member
    rw [outcome_data, outcome_hashes]
    exact ⟨record_of_mem distinct (fun p => (rendering p).data) member,
      record_of_mem distinct (fun p => hashOf (.ofDict (rendering p).data)) member⟩
  · -- Both sides are the ordered sources without their components.
    rw [outcome_objects fresh, List.map_map, ← sources_objects]
    refine .trans ?_ (namespacesFirst_map fun _ _ => rfl).symm
    exact List.map_congr_left fun source member => withoutHash_stamped (shape source member)
  · rw [outcome_objects fresh, List.forall₂_map_right_iff]
    exact List.forall₂_same.mpr fun source member => placed_stamped (shape source member)

end

theorem names_nodup (type : NetworkType) : ((Provider.forType type).map Provider.name).Nodup := by
  cases type <;> decide

theorem active_names_nodup (r : Release) (type : NetworkType) (s : Spec) :
    ((active r (Provider.forType type) s).map Provider.name).Nodup :=
  (names_nodup type).sublist (List.filter_sublist.map Provider.name)

/-- A pass loses, repeats and invents nothing: its records and its objects are those of the active
    components, each under its own name and with its own hash. -/
theorem reconcile_assembles_renderings {r : Release} {s : Spec} {previous : Option Spec}
    {facts : Facts} {result : Outcome} (run : reconcile r s previous facts = .ok result) :
    ∃ (type : NetworkType) (rendering : Provider → Rendering), result.spec.type? = some type ∧
      (∀ p ∈ active r (Provider.forType type) result.spec,
        p.render r result.spec facts = .ok (rendering p)) ∧
      Assembles (active r (Provider.forType type) result.spec) rendering result := by
  obtain ⟨type, rendering, known, renders, same⟩ := outcome_of_reconcile run
  refine ⟨type, rendering, known, renders, ?_⟩
  rw [same]
  refine assembles_outcome ?_ fun p member => Provider.fresh_of_render (renders p member)
  exact (names_nodup type).sublist (List.filter_sublist.map Provider.name)

theorem kuryrSample_is_assembled :
    ∃ result rendering, reconcile .builtIn kuryrSample none .none = .ok result ∧
      Assembles [.kuryr, .multus, .nodeIdentity] rendering result := by
  obtain ⟨result, run, same⟩ := reconcile_of_check kuryrSample_accepted .none
  obtain ⟨type, rendering, known, -, assembles⟩ := reconcile_assembles_renderings run
  rw [same] at known assembles
  rw [known_defaulted] at known
  cases known
  exact ⟨result, rendering, run, assembles⟩

end Pass
end ClusterNet
