import ClusterNet.Proofs.Templates

/- Annotating the pod template as a change in place: the way to the annotations is walked level by
   level, and what is missing on it is created before the next level is looked at. Whatever the
   free-form spec is, such a walk does not fail once it has created something, so an annotation that
   fails leaves no trace, and one that succeeds changes one entry. -/
namespace ClusterNet

namespace Json

def storeAt (value : Json) : List String → Json → Json
  | [], _ => value
  | key :: rest, .object entries =>
    .object (put key (storeAt value rest ((lookup key entries).getD .null)) entries)
  | _ :: _, other => other

theorem at?_last (key : String) (entries : List (String × Json)) :
    at? [key] (.object entries) = lookup key entries :=
  Option.bind_fun_some _

theorem at?_cons_eq_some {key : String} {rest : List String} {json value : Json}
    (found : json.at? (key :: rest) = some value) :
    ∃ entries child, json = .object entries ∧ lookup key entries = some child ∧
      child.at? rest = some value := by
  obtain ⟨child, inside, below⟩ := Option.bind_eq_some_iff.mp found
  obtain ⟨entries, object, stored⟩ := Option.bind_eq_some_iff.mp inside
  cases json with
  | object entries => exact ⟨entries, child, rfl, Option.some.inj object ▸ stored, below⟩
  | _ => cases object

theorem storeAt_append {path : List String} {json child : Json}
    (found : json.at? path = some child) (value : Json) (more : List String) :
    storeAt value (path ++ more) json = storeAt (storeAt value more child) path json := by
  induction path generalizing json with
  | nil => rw [List.nil_append, Option.some.inj found, storeAt]
  | cons key rest ih =>
    obtain ⟨entries, next, rfl, stored, below⟩ := at?_cons_eq_some found
    simp only [List.cons_append, storeAt, stored, Option.getD_some, ih below]

theorem at?_storeAt {path : List String} {json child : Json} (found : json.at? path = some child)
    (value : Json) : (storeAt value path json).at? path = some value := by
  induction path generalizing json with
  | nil => rfl
  | cons key rest ih =>
    obtain ⟨entries, next, rfl, stored, below⟩ := at?_cons_eq_some found
    rw [storeAt, stored, Option.getD_some, at?, get?, entries?, Option.bind_some, lookup_put_self,
      Option.bind_some, ih below]

theorem storeAt_storeAt (first second : Json) (path : List String) (json : Json) :
    storeAt second path (storeAt first path json) = storeAt second path json := by
  induction path generalizing json with
  | nil => rfl
  | cons key rest ih =>
    cases json with
    | object entries =>
      simp only [storeAt, lookup_put_self, Option.getD_some, put_put_self, ih]
    | _ => rfl

end Json

namespace Manifest

def at? (m : Manifest) (path : List String) : Option Json := m.spec.bind (Json.at? path)

def storeAt (m : Manifest) (path : List String) (value : Json) : Manifest :=
  { m with spec := m.spec.map (Json.storeAt value path) }

section

variable {m : Manifest} {path : List String} {child : Json}

theorem at?_append (path more : List String) (m : Manifest) :
    m.at? (path ++ more) = (m.at? path).bind (Json.at? more) := by
  rw [at?, at?, Option.bind_assoc]
  exact Option.bind_congr fun spec _ => Json.at?_append path more spec

theorem storeAt_append (found : m.at? path = some child) (value : Json) (more : List String) :
    m.storeAt (path ++ more) value = m.storeAt path (Json.storeAt value more child) := by
  obtain ⟨spec, given, below⟩ := Option.bind_eq_some_iff.mp found
  simp only [storeAt, given, Option.map_some, Json.storeAt_append below]

theorem at?_storeAt (found : m.at? path = some child) (value : Json) :
    (m.storeAt path value).at? path = some value := by
  obtain ⟨spec, given, below⟩ := Option.bind_eq_some_iff.mp found
  simp only [at?, storeAt, given, Option.map_some, Option.bind_some, Json.at?_storeAt below]

theorem storeAt_storeAt (m : Manifest) (path : List String) (first second : Json) :
    (m.storeAt path first).storeAt path second = m.storeAt path second := by
  simp only [storeAt, Option.map_map, Function.comp_def, Json.storeAt_storeAt]

end

/-- A change in place: its result, and the object that it leaves in either case. -/
abbrev Edit := Manifest → Except Problem Unit × Manifest

namespace Edit

def requireObject (fault : TemplateFault) (path : List String) : Edit := fun m =>
  match (m.at? path).bind Json.entries? with
  | some _ => (.ok (), m)
  | none => (.error (.renderContract m.key fault.message), m)

def createObject (path : List String) : Edit := fun m =>
  match m.at? path with
  | some _ => (.ok (), m)
  | none => (.ok (), m.storeAt path (.object []))

def store (path : List String) (value : Json) : Edit := fun m => (.ok (), m.storeAt path value)

def run : List Edit → Edit
  | [], m => (.ok (), m)
  | step :: rest, m =>
    match step m with
    | (.ok _, left) => run rest left
    | (.error problem, left) => (.error problem, left)

def annotateTemplate (key value : String) : List Edit :=
  [requireObject .noTemplate ["template"],
    createObject ["template", "metadata"],
    requireObject .metadataNotObject ["template", "metadata"],
    createObject ["template", "metadata", "annotations"],
    requireObject .annotationsNotObject ["template", "metadata", "annotations"],
    store ["template", "metadata", "annotations", key] (.text value)]

theorem objectUnder_eq_error {fault problem : TemplateFault} {key : String}
    {entries : List (String × Json)} :
    objectUnder fault key entries = .error problem ↔
      ∃ other, lookup key entries = some other ∧ other.entries? = none ∧ problem = fault := by
  unfold objectUnder
  split
  · next absent => simp [absent]
  · next inner stored => simp [stored, Json.entries?]
  · next other shape stored =>
    have none : other.entries? = none := by
      cases other with
      | object inner => exact absurd rfl (shape inner)
      | _ => rfl
    simp only [stored, Option.some.injEq, exists_eq_left', none, true_and, Except.error.injEq,
      eq_comm]

section

variable {m : Manifest} {path : List String} {rest : List Edit} {fault : TemplateFault}

theorem run_requireObject {entries : List (String × Json)}
    (found : m.at? path = some (.object entries)) :
    run (requireObject fault path :: rest) m = run rest m := by
  simp only [run, requireObject, found, Option.bind_some, Json.entries?]

theorem run_requireObject_of_other (missing : (m.at? path).bind Json.entries? = none) :
    run (requireObject fault path :: rest) m =
      (.error (.renderContract m.key fault.message), m) := by
  simp only [run, requireObject, missing]

theorem run_createObject_of_some {value : Json} (found : m.at? path = some value) :
    run (createObject path :: rest) m = run rest m := by
  simp only [run, createObject, found]

theorem run_createObject_of_none (absent : m.at? path = none) :
    run (createObject path :: rest) m = run rest (m.storeAt path (.object [])) := by
  simp only [run, createObject, absent]

variable {entries inner : List (String × Json)} {key : String}

theorem at?_child (found : m.at? path = some (.object entries)) (key : String) :
    m.at? (path ++ [key]) = lookup key entries := by
  rw [at?_append, found, Option.bind_some, Json.at?_last]

theorem run_enter_of_some (found : m.at? path = some (.object entries))
    (stored : lookup key entries = some (.object inner)) :
    run (createObject (path ++ [key]) :: requireObject fault (path ++ [key]) :: rest) m =
      run rest m := by
  have inside : m.at? (path ++ [key]) = some (.object inner) := (at?_child found key).trans stored
  rw [run_createObject_of_some inside, run_requireObject inside]

/-- Going down to an object, which is created if it is absent. What is stored below it afterwards
    is stored in it. -/
theorem run_enter (found : m.at? path = some (.object entries))
    (under : objectUnder fault key entries = .ok inner) (rest : List Edit) :
    ∃ left : Manifest, left.at? (path ++ [key]) = some (.object inner) ∧
      run (createObject (path ++ [key]) :: requireObject fault (path ++ [key]) :: rest) m =
        run rest left ∧
      ∀ more value, left.storeAt (path ++ [key] ++ more) value =
        m.storeAt (path ++ [key]) (Json.storeAt value more (.object inner)) := by
  rcases objectUnder_eq_ok under with stored | ⟨absent, rfl⟩
  · have inside : m.at? (path ++ [key]) = some (.object inner) := (at?_child found key).trans stored
    exact ⟨m, inside, run_enter_of_some found stored,
      fun more value => storeAt_append inside value more⟩
  · have outside : m.at? (path ++ [key]) = none := (at?_child found key).trans absent
    have inside : (m.storeAt (path ++ [key]) (.object [])).at? (path ++ [key]) =
        some (.object []) := by
      rw [storeAt_append found, at?_append, at?_storeAt found, Option.bind_some, Json.storeAt,
        Json.at?_last, lookup_put_self, Json.storeAt]
    refine ⟨m.storeAt (path ++ [key]) (.object []), inside, ?_, ?_⟩
    · rw [run_createObject_of_none outside, run_requireObject inside]
    · intro more value
      rw [storeAt_append inside, storeAt_storeAt]

theorem run_enter_of_error (found : m.at? path = some (.object entries))
    {problem : TemplateFault} (under : objectUnder fault key entries = .error problem) :
    run (createObject (path ++ [key]) :: requireObject fault (path ++ [key]) :: rest) m =
      (.error (.renderContract m.key problem.message), m) := by
  obtain ⟨other, stored, shape, rfl⟩ := objectUnder_eq_error.mp under
  have inside : m.at? (path ++ [key]) = some other := (at?_child found key).trans stored
  rw [run_createObject_of_some inside, run_requireObject_of_other]
  rw [inside, Option.bind_some, shape]

end

end Edit

open Edit

theorem objectUnder_ok_iff {fault : TemplateFault} {key : String} {entries : List (String × Json)} :
    (∃ inner, objectUnder fault key entries = .ok inner) ↔
      lookup key entries = none ∨ ∃ inner, lookup key entries = some (.object inner) := by
  constructor
  · rintro ⟨inner, under⟩
    exact (objectUnder_eq_ok under).symm.imp And.left fun stored => ⟨inner, stored⟩
  · rintro (absent | ⟨inner, stored⟩)
    · exact ⟨[], objectUnder_of_absent absent⟩
    · exact ⟨inner, objectUnder_of_lookup stored⟩

theorem templatePath_eq_error {m : Manifest} {fault : TemplateFault}
    (run : m.templatePath = .error fault) :
    ((m.at? ["template"]).bind Json.entries? = none ∧ fault = .noTemplate) ∨
      ∃ template, m.at? ["template"] = some (.object template) ∧
        (objectUnder .metadataNotObject "metadata" template = .error fault ∨
          ∃ metadata, lookup "metadata" template = some (.object metadata) ∧
            objectUnder .annotationsNotObject "annotations" metadata = .error fault) := by
  unfold templatePath at run
  split at run
  · next spec given =>
    have start : m.at? ["template"] = lookup "template" spec := by
      rw [at?, given, Option.bind_some, Json.at?_last]
    split at run
    · next template found =>
      refine .inr ⟨template, start.trans found, ?_⟩
      rcases bind_eq_error.mp run with outer | ⟨metadata, outer, run⟩
      · exact .inl outer
      · rcases bind_eq_error.mp run with inner | ⟨annotations, -, run⟩
        · rcases objectUnder_eq_ok outer with stored | ⟨-, rfl⟩
          · exact .inr ⟨metadata, stored, inner⟩
          · cases inner
        · cases run
    · next other =>
      refine .inl ⟨?_, (Except.error.inj run).symm⟩
      rw [start, Option.bind_eq_none_iff]
      intro child stored
      cases child with
      | object template => exact absurd stored (other template)
      | _ => rfl
  · next other =>
    refine .inl ⟨?_, (Except.error.inj run).symm⟩
    rw [at?, Option.bind_assoc, Option.bind_eq_none_iff]
    intro spec given
    cases spec with
    | object entries => exact absurd given (other entries)
    | _ => rfl

/-- Done in place, the annotation has the same result, and where it fails it leaves the object that
    it was given. -/
theorem run_annotateTemplate (m : Manifest) (key value : String) :
    run (Edit.annotateTemplate key value) m =
      match m.annotateTemplate key value with
      | .ok out => (.ok (), out)
      | .error problem => (.error problem, m) := by
  unfold Manifest.annotateTemplate
  cases walked : m.templatePath with
  | ok path =>
    obtain ⟨given, template, outer, inner⟩ := templatePath_eq_ok.mp walked
    have start : m.at? ["template"] = some (.object path.template) := by
      rw [at?, given, Option.bind_some, Json.at?_last, template]
    obtain ⟨first, atMetadata, entered, storing⟩ := run_enter start outer _
    obtain ⟨second, atAnnotations, reached, finish⟩ := run_enter atMetadata inner _
    have written : second.storeAt ["template", "metadata", "annotations", key] (.text value) =
        m.withSpec (path.withAnnotations (put key (.text value) path.annotations)) := by
      calc second.storeAt ["template", "metadata", "annotations", key] (.text value)
        _ = first.storeAt ["template", "metadata", "annotations"]
              (.object (put key (.text value) path.annotations)) := finish [key] (.text value)
        _ = m.storeAt ["template", "metadata"] (.object (put "annotations"
              (.object (put key (.text value) path.annotations)) path.metadata)) :=
          storing ["annotations"] _
        _ = m.withSpec (path.withAnnotations (put key (.text value) path.annotations)) := by
          rw [storeAt, given]
          simp only [Option.map_some, Json.storeAt, template, Option.getD_some]
          rfl
    rw [Edit.annotateTemplate, run_requireObject start]
    refine entered.trans (reached.trans ?_)
    exact Prod.ext rfl written
  | error fault =>
    rcases templatePath_eq_error walked with ⟨missing, rfl⟩ | ⟨template, start, fails⟩
    · exact run_requireObject_of_other missing
    · rw [Edit.annotateTemplate, run_requireObject start]
      rcases fails with outer | ⟨metadata, stored, inner⟩
      · exact run_enter_of_error start outer
      · -- Metadata that were created have no annotations that could be in the way.
        have inside : m.at? ["template", "metadata"] = some (.object metadata) :=
          (at?_child start "metadata").trans stored
        exact (run_enter_of_some start stored).trans (run_enter_of_error inside inner)

/-- The pod template is an object, and what is there of the metadata and of their annotations is
    too. -/
def Annotatable (m : Manifest) : Prop :=
  ∃ template, m.at? ["template"] = some (.object template) ∧
    (lookup "metadata" template = none ∨
      ∃ metadata, lookup "metadata" template = some (.object metadata) ∧
        (lookup "annotations" metadata = none ∨
          ∃ annotations, lookup "annotations" metadata = some (.object annotations)))

theorem templatePath_ok_iff {m : Manifest} :
    (∃ path, m.templatePath = .ok path) ↔ m.Annotatable := by
  constructor
  · rintro ⟨path, walked⟩
    obtain ⟨given, template, outer, inner⟩ := templatePath_eq_ok.mp walked
    refine ⟨path.template, ?_, ?_⟩
    · rw [at?, given, Option.bind_some, Json.at?_last, template]
    · refine (objectUnder_eq_ok outer).symm.imp And.left fun stored => ⟨_, stored, ?_⟩
      exact (objectUnder_eq_ok inner).symm.imp And.left fun found => ⟨_, found⟩
  · rintro ⟨template, start, shape⟩
    obtain ⟨spec, given, below⟩ := Option.bind_eq_some_iff.mp start
    obtain ⟨entries, child, rfl, found, same⟩ := Json.at?_cons_eq_some below
    rw [Option.some.inj same] at found
    rcases shape with absent | ⟨metadata, stored, shape⟩
    · exact ⟨⟨entries, template, [], []⟩, templatePath_eq_ok.mpr
        ⟨given, found, objectUnder_of_absent absent, objectUnder_of_absent rfl⟩⟩
    · obtain ⟨annotations, inner⟩ := objectUnder_ok_iff.mpr shape
      exact ⟨⟨entries, template, metadata, annotations⟩, templatePath_eq_ok.mpr
        ⟨given, found, objectUnder_of_lookup stored, inner⟩⟩

theorem annotateTemplate_of_templatePath {m : Manifest} {path : TemplatePath}
    (walked : m.templatePath = .ok path) (key value : String) :
    m.annotateTemplate key value =
      .ok (m.withSpec (path.withAnnotations (put key (.text value) path.annotations))) := by
  rw [Manifest.annotateTemplate, walked]

theorem withAnnotations_replace (path : TemplatePath) (first second : List (String × Json)) :
    (path.replace first).withAnnotations second = path.withAnnotations second := by
  simp only [TemplatePath.withAnnotations, TemplatePath.replace, put_put_self]

theorem annotateTemplate_bind (m : Manifest) (key value key' value' : String) :
    (m.annotateTemplate key value >>= (·.annotateTemplate key' value')) =
      match m.templatePath with
      | .ok path => .ok (m.withSpec (path.withAnnotations
          (put key' (.text value') (put key (.text value) path.annotations))))
      | .error fault => .error (.renderContract m.key fault.message) := by
  cases walked : m.templatePath with
  | error fault =>
    rw [Manifest.annotateTemplate, walked]
    rfl
  | ok path =>
    rw [annotateTemplate_of_templatePath walked, ok_bind,
      annotateTemplate_of_templatePath (templatePath_withAnnotations m path _),
      withAnnotations_replace]
    rfl

/-- Objects that differ at the end of a path only. What is missing on the way is created. -/
def ChangedAt : List String → Option Json → Option Json → Prop
  | [], _, _ => True
  | key :: rest, old, new =>
    ∃ xs ys, old.getD (.object []) = .object xs ∧ new = some (.object ys) ∧
      without key ys = without key xs ∧ ChangedAt rest (lookup key xs) (lookup key ys)

theorem changedAt_put {old : Option Json} {entries : List (String × Json)}
    (given : old.getD (.object []) = .object entries) {key : String} {value : Json}
    {rest : List String} (below : ChangedAt rest (lookup key entries) (some value)) :
    ChangedAt (key :: rest) old (some (.object (put key value entries))) := by
  refine ⟨entries, put key value entries, given, rfl, without_put_self .., ?_⟩
  rwa [lookup_put_self]

theorem getD_of_objectUnder {fault : TemplateFault} {key : String}
    {entries inner : List (String × Json)} (under : objectUnder fault key entries = .ok inner) :
    (lookup key entries).getD (.object []) = .object inner := by
  rcases objectUnder_eq_ok under with stored | ⟨absent, rfl⟩
  · rw [stored, Option.getD_some]
  · rw [absent, Option.getD_none]

structure TemplateAnnotated (key value : String) (m out : Manifest) : Prop where
  written : out.templateAnnotation? key = some value
  others : ∀ other, other ≠ key → out.templateAnnotation? other = m.templateAnnotation? other
  outside : { out with spec := m.spec } = m
  inside : ChangedAt ["template", "metadata", "annotations", key] m.spec out.spec

theorem templateAnnotated_of_templatePath {m : Manifest} {path : TemplatePath}
    (walked : m.templatePath = .ok path) (key value : String) :
    TemplateAnnotated key value m
      (m.withSpec (path.withAnnotations (put key (.text value) path.annotations))) := by
  have after := templatePath_withAnnotations m path (put key (.text value) path.annotations)
  obtain ⟨given, template, outer, inner⟩ := templatePath_eq_ok.mp walked
  refine ⟨?_, ?_, rfl, ?_⟩
  · rw [templateAnnotation?_of_templatePath after, TemplatePath.replace, lookup_put_self]
    rfl
  · intro other different
    rw [templateAnnotation?_of_templatePath after, templateAnnotation?_of_templatePath walked,
      TemplatePath.replace, lookup_put_of_ne different]
  · refine changedAt_put (given ▸ rfl) ?_
    refine changedAt_put (template ▸ rfl) ?_
    refine changedAt_put (getD_of_objectUnder outer) ?_
    exact changedAt_put (getD_of_objectUnder inner) trivial

/-- An annotation of the pod template is written if the way to it is clear, and then nothing else
    changes; otherwise the object is left as it was. The last one under a key counts, and different
    keys can be annotated in any order. -/
theorem annotateTemplate_changes_one_entry (m : Manifest) (key value : String) :
    ((∃ out, m.annotateTemplate key value = .ok out) ↔ m.Annotatable) ∧
    (∀ problem, m.annotateTemplate key value = .error problem →
      run (Edit.annotateTemplate key value) m = (.error problem, m)) ∧
    (∀ out, m.annotateTemplate key value = .ok out →
      run (Edit.annotateTemplate key value) m = (.ok (), out) ∧
        TemplateAnnotated key value m out) ∧
    (∀ last, (m.annotateTemplate key value >>= (·.annotateTemplate key last)) =
      m.annotateTemplate key last) ∧
    (∀ other last, other ≠ key →
      (m.annotateTemplate key value >>= (·.annotateTemplate other last)) =
        (m.annotateTemplate other last >>= (·.annotateTemplate key value))) := by
  refine ⟨?_, ?_, ?_, ?_, ?_⟩
  · rw [← templatePath_ok_iff]
    constructor
    · rintro ⟨out, done⟩
      obtain ⟨path, walked, -⟩ := annotateTemplate_eq_ok.mp done
      exact ⟨path, walked⟩
    · rintro ⟨path, walked⟩
      exact ⟨_, annotateTemplate_of_templatePath walked key value⟩
  · intro problem failed
    rw [run_annotateTemplate, failed]
  · intro out done
    obtain ⟨path, walked, rfl⟩ := annotateTemplate_eq_ok.mp done
    refine ⟨?_, templateAnnotated_of_templatePath walked key value⟩
    rw [run_annotateTemplate, done]
  · intro last
    rw [annotateTemplate_bind, Manifest.annotateTemplate]
    cases m.templatePath with
    | ok path => simp only [put_put_self]
    | error fault => rfl
  · intro other last different
    rw [annotateTemplate_bind, annotateTemplate_bind]
    simp only [put_comm different]

def ofTemplate (template : Json) : Manifest :=
  (new "apps/v1" "DaemonSet" "d").withSpec (.object [("template", template)])

/-- A template without metadata gets them; annotations that are a text stay one. -/
theorem ofTemplate_is_annotated :
    (∃ out, run (Edit.annotateTemplate "k" "v") (ofTemplate (.object [])) = (.ok (), out) ∧
      TemplateAnnotated "k" "v" (ofTemplate (.object [])) out) ∧
    (∃ problem, run (Edit.annotateTemplate "k" "v")
        (ofTemplate (.object [("metadata", .object [("annotations", .text "x")])])) =
      (.error problem, ofTemplate (.object [("metadata", .object [("annotations", .text "x")])]))) ∧
    ((ofTemplate (.object [])).annotateTemplate "k" "v" >>= (·.annotateTemplate "l" "w")) =
      ((ofTemplate (.object [])).annotateTemplate "l" "w" >>= (·.annotateTemplate "k" "v")) := by
  refine ⟨?_, ?_, ?_⟩
  · obtain ⟨clear, -, written, -⟩ :=
      annotateTemplate_changes_one_entry (ofTemplate (.object [])) "k" "v"
    obtain ⟨out, done⟩ := clear.mpr ⟨[], rfl, .inl rfl⟩
    exact ⟨out, written out done⟩
  · obtain ⟨-, kept, -⟩ := annotateTemplate_changes_one_entry
      (ofTemplate (.object [("metadata", .object [("annotations", .text "x")])])) "k" "v"
    exact ⟨_, kept _ rfl⟩
  · obtain ⟨-, -, -, -, commutes⟩ :=
      annotateTemplate_changes_one_entry (ofTemplate (.object [])) "k" "v"
    exact commutes "l" "w" (by decide)

end Manifest
end ClusterNet
