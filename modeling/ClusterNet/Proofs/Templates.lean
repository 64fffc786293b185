import ClusterNet.Proofs.Entries
import ClusterNet.Proofs.Objects

/- The pod template of an object. The annotations of the pods are the end of a path of nested
   objects; replacing them leaves a path that ends in the new ones, so an annotation is read back
   where it was written. -/
namespace ClusterNet.Manifest

theorem objectUnder_of_lookup {fault : TemplateFault} {key : String}
    {entries inner : List (String × Json)} (found : lookup key entries = some (.object inner)) :
    objectUnder fault key entries = .ok inner := by
  rw [objectUnder, found]

theorem objectUnder_of_absent {fault : TemplateFault} {key : String}
    {entries : List (String × Json)} (absent : lookup key entries = none) :
    objectUnder fault key entries = .ok [] := by
  rw [objectUnder, absent]

theorem objectUnder_eq_ok {fault : TemplateFault} {key : String}
    {entries inner : List (String × Json)} (run : objectUnder fault key entries = .ok inner) :
    lookup key entries = some (.object inner) ∨ lookup key entries = none ∧ inner = [] := by
  unfold objectUnder at run
  split at run
  · next absent => exact .inr ⟨absent, (Except.ok.inj run).symm⟩
  · next found => exact .inl (Except.ok.inj run ▸ found)
  · cases run

theorem templatePath_eq_ok {m : Manifest} {path : TemplatePath} :
    m.templatePath = .ok path ↔
      m.spec = some (.object path.spec) ∧
      lookup "template" path.spec = some (.object path.template) ∧
      objectUnder .metadataNotObject "metadata" path.template = .ok path.metadata ∧
      objectUnder .annotationsNotObject "annotations" path.metadata = .ok path.annotations := by
  constructor
  · intro run
    unfold templatePath at run
    split at run
    · next spec given =>
      split at run
      · next template found =>
        obtain ⟨metadata, outer, run⟩ := bind_eq_ok.mp run
        obtain ⟨annotations, inner, run⟩ := bind_eq_ok.mp run
        cases run
        exact ⟨given, found, outer, inner⟩
      · cases run
    · cases run
  · rintro ⟨given, found, outer, inner⟩
    simp only [templatePath, given, found, outer, inner, ok_bind]
    rfl

def TemplatePath.replace (p : TemplatePath) (annotations : List (String × Json)) : TemplatePath :=
  let metadata := put "annotations" (.object annotations) p.metadata
  let template := put "metadata" (.object metadata) p.template
  ⟨put "template" (.object template) p.spec, template, metadata, annotations⟩

theorem templatePath_withAnnotations (m : Manifest) (p : TemplatePath)
    (annotations : List (String × Json)) :
    (m.withSpec (p.withAnnotations annotations)).templatePath = .ok (p.replace annotations) :=
  templatePath_eq_ok.mpr ⟨rfl, lookup_put_self .., objectUnder_of_lookup (lookup_put_self ..),
    objectUnder_of_lookup (lookup_put_self ..)⟩

theorem annotateTemplate_eq_ok {m out : Manifest} {key value : String} :
    m.annotateTemplate key value = .ok out ↔
      ∃ path, m.templatePath = .ok path ∧
        out = m.withSpec (path.withAnnotations (put key (.text value) path.annotations)) := by
  unfold annotateTemplate
  cases m.templatePath with
  | error fault => simp
  | ok path => simp [eq_comm]

theorem templateAnnotation?_of_templatePath {m : Manifest} {path : TemplatePath}
    (found : m.templatePath = .ok path) (key : String) :
    m.templateAnnotation? key = (lookup key path.annotations).bind Json.text? := by
  obtain ⟨given, template, outer, inner⟩ := templatePath_eq_ok.mp found
  simp only [templateAnnotation?, given, Option.bind_eq_bind, Option.bind_some, Json.at?, Json.get?,
    Json.entries?, template]
  rcases objectUnder_eq_ok outer with metadata | ⟨absent, same⟩
  · simp only [metadata, Option.bind_some]
    rcases objectUnder_eq_ok inner with annotations | ⟨absent, same⟩
    · simp [annotations]
    · simp [absent, same, lookup]
  · rw [same, objectUnder_of_absent rfl] at inner
    have none : path.annotations = [] := (Except.ok.inj inner).symm
    simp [absent, none, lookup]

end ClusterNet.Manifest
