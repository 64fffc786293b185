import ClusterNet.Proofs.Frames
import ClusterNet.Proofs.Ownership

/- Components do not interfere. When two accepted specs differ only in the part of one component,
   every other one takes part in both passes or in neither, and contributes the same to both. -/
namespace ClusterNet.Pass

structure SameFor (r : Release) (q : Provider) (x y : Outcome) : Prop where
  active : q.isActive r x.spec = q.isActive r y.spec
  data : x.data.get? q.name = y.data.get? q.name
  hash : x.hashes.get? q.name = y.hashes.get? q.name
  warnings : x.warningsOf q = y.warningsOf q
  objects : x.objectsOf q = y.objectsOf q

/-- What a component contributes is determined by whether it takes part and by what it renders. -/
theorem sameFor_of_renderings {r : Release} {facts : Facts} {d e : Spec}
    {some others : List Provider} {first second : Provider → Rendering} {q : Provider}
    (distinct : (some.map Provider.name).Nodup) (distinct' : (others.map Provider.name).Nodup)
    (renders : ∀ p ∈ some, p.render r d facts = .ok (first p))
    (renders' : ∀ p ∈ others, p.render r e facts = .ok (second p))
    (active : q.isActive r d = q.isActive r e) (taking : q ∈ some ↔ q ∈ others)
    (same : q ∈ some → first q = second q) :
    SameFor r q (outcome r d (some.map fun p => partOf p (first p)))
      (outcome r e (others.map fun p => partOf p (second p))) := by
  have contribution {α : Type} (part : Rendering → α) (nothing : α) :
      (if q ∈ some then part (first q) else nothing) =
        if q ∈ others then part (second q) else nothing := by
    by_cases member : q ∈ some
    · rw [if_pos member, if_pos (taking.mp member), same member]
    · rw [if_neg member, if_neg (mt taking.mpr member)]
  have nodup := distinct.of_map
  have nodup' := distinct'.of_map
  refine ⟨active, ?_, ?_, ?_, ?_⟩
  · rw [outcome_data, outcome_data, record_of_provider distinct fun p => (first p).data,
      record_of_provider distinct' fun p => (second p).data]
    exact contribution (.some ·.data) none
  · rw [outcome_hashes, outcome_hashes,
      record_of_provider distinct fun p => hashOf (.ofDict (first p).data),
      record_of_provider distinct' fun p => hashOf (.ofDict (second p).data)]
    exact contribution (fun a => .some (hashOf (.ofDict a.data))) none
  · rw [warningsOf_outcome nodup renders, warningsOf_outcome nodup' renders']
    exact contribution Rendering.warnings []
  · rw [objectsOf_outcome nodup renders, objectsOf_outcome nodup' renders']
    exact contribution (fun a => namespacesFirst (partOf q a).objects) []

/-- Reconfiguring one component touches no other. The specs may be compared with different ones
    before them. -/
theorem components_do_not_interfere {r : Release} {p : Provider} {a b d e : Spec}
    {previous previous' : Option Spec} (same : a.outside p = b.outside p)
    (first : check r a previous = .ok d) (second : check r b previous' = .ok e) (facts : Facts) :
    ∃ x y, reconcile r a previous facts = .ok x ∧ reconcile r b previous' facts = .ok y ∧
      ∀ q, q ≠ p → SameFor r q x y := by
  obtain ⟨type, rendering, known, filled, -, renders, run⟩ := outcome_of_check first facts
  obtain ⟨type', rendering', known', filled', -, renders', run'⟩ := outcome_of_check second facts
  refine ⟨_, _, run, run', ?_⟩
  intro q other
  cases (known.symm.trans (Spec.known_of_agree same)).trans known'
  have agree : d.outside p = e.outside p := by
    rw [filled, filled', defaulted_agree _ same]
  have active := Provider.isActive_agree other agree r
  have render := Provider.render_agree other agree r facts
  have taking : q ∈ Pass.active r (Provider.forType type) d ↔
      q ∈ Pass.active r (Provider.forType type) e := by
    rw [Pass.active, Pass.active, List.mem_filter, List.mem_filter, active]
  refine sameFor_of_renderings (active_names_nodup ..) (active_names_nodup ..) renders renders'
    active taking ?_
  intro member
  rw [renders q member, renders' q (taking.mp member)] at render
  exact Except.ok.inj render

def kuryrSampleWithMtu : Spec :=
  { kuryrSample with defaultNetwork.kuryr := some { KuryrConfig.empty with mtu := some 1400 } }

theorem kuryrSample_mtu_touches_kuryr_only :
    ∃ x y, reconcile .builtIn kuryrSample (some kuryrSample) .none = .ok x ∧
      reconcile .builtIn kuryrSampleWithMtu none .none = .ok y ∧
      ∀ q, q ≠ .kuryr → SameFor .builtIn q x y := by
  have first : check .builtIn kuryrSample (some kuryrSample) =
      .ok (defaulted (Provider.forType .kuryr) kuryrSample) := by
    decide +kernel
  have second : check .builtIn kuryrSampleWithMtu none =
      .ok (defaulted (Provider.forType .kuryr) kuryrSampleWithMtu) := by
    decide +kernel
  have same : kuryrSample.outside .kuryr = kuryrSampleWithMtu.outside .kuryr := rfl
  exact components_do_not_interfere same first second .none

end ClusterNet.Pass
