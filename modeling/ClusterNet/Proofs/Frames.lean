import ClusterNet.Proofs.Defaults

/- What components see of a spec. A part of it belongs to each; the rest is shared. A component
   writes to its own part only and sees nothing of the parts of the others. -/
namespace ClusterNet

def Spec.outside (s : Spec) : Provider → Spec
  | .kuryr => { s with defaultNetwork.kuryr := none }
  | .kubeProxy => { s with proxy := none, deployProxy := none }
  | .multus => { s with disableMultiNetwork := none, attachments := [] }
  | .nodeIdentity => { s with nodeIdentity := none }

/-- What does not look at a part is the same for specs that agree outside of it. -/
theorem Spec.eq_of_frame {α : Type} {p : Provider} (f : Spec → α)
    (frame : ∀ s : Spec, f (s.outside p) = f s) {a b : Spec} (same : a.outside p = b.outside p) :
    f a = f b := by
  rw [← frame a, same, frame b]

theorem Kuryr.validate_congr {a b : Spec} (service : a.serviceNetwork = b.serviceNetwork)
    (cluster : a.clusterNetwork = b.clusterNetwork) (config : a.kuryr = b.kuryr) :
    validate a = validate b := by
  have host : serviceHostProblems a = serviceHostProblems b := by
    funext k
    unfold serviceHostProblems Spec.serviceNetworks Spec.clusterNetworks
    rw [service, cluster]
  unfold validate Spec.serviceProblems Spec.clusterProblems
  rw [service, cluster, config, host]

namespace Spec

section

variable {p : Provider} {a b : Spec} (same : a.outside p = b.outside p)

include same

theorem type_of_agree : a.defaultNetwork.type = b.defaultNetwork.type :=
  eq_of_frame (·.defaultNetwork.type) (by cases p <;> exact fun _ => rfl) same

theorem known_of_agree : a.type? = b.type? := by
  simp only [type?, type_of_agree same]

theorem serviceNetwork_of_agree : a.serviceNetwork = b.serviceNetwork :=
  eq_of_frame Spec.serviceNetwork (by cases p <;> exact fun _ => rfl) same

theorem kuryr_of_agree (other : p ≠ .kuryr) : a.kuryr = b.kuryr :=
  eq_of_frame Spec.kuryr (by cases p <;> first | contradiction | exact fun _ => rfl) same

theorem disableMultiNetwork_of_agree (other : p ≠ .multus) :
    a.disableMultiNetwork = b.disableMultiNetwork :=
  eq_of_frame Spec.disableMultiNetwork
    (by cases p <;> first | contradiction | exact fun _ => rfl) same

theorem attachments_of_agree (other : p ≠ .multus) : a.attachments = b.attachments :=
  eq_of_frame Spec.attachments (by cases p <;> first | contradiction | exact fun _ => rfl) same

end

end Spec

namespace Provider

section

variable {p q : Provider}

theorem isActive_outside (other : q ≠ p) (r : Release) (s : Spec) :
    isActive r (s.outside p) q = isActive r s q := by
  cases p <;> cases q <;> first | contradiction | rfl

theorem validate_outside (other : q ≠ p) (s : Spec) :
    validate (s.outside p) q = validate s q := by
  cases q with
  | kuryr => cases p <;> first | contradiction | exact Kuryr.validate_congr rfl rfl rfl
  | _ => cases p <;> first | contradiction | rfl

theorem render_outside (other : q ≠ p) (r : Release) (facts : Facts) (s : Spec) :
    render r (s.outside p) facts q = render r s facts q := by
  cases p <;> cases q <;> first | contradiction | rfl

section

variable {a b : Spec} (other : q ≠ p) (same : a.outside p = b.outside p)

include other same

theorem isActive_agree (r : Release) : isActive r a q = isActive r b q :=
  Spec.eq_of_frame (isActive r · q) (isActive_outside other r) same

theorem validate_agree : validate a q = validate b q :=
  Spec.eq_of_frame (validate · q) (validate_outside other) same

theorem render_agree (r : Release) (facts : Facts) : render r a facts q = render r b facts q :=
  Spec.eq_of_frame (render r · facts q) (render_outside other r facts) same

end

theorem outside_fillDefaults_self (p : Provider) (s : Spec) :
    (fillDefaults s p).outside p = s.outside p := by
  cases p with
  | kubeProxy =>
    simp only [fillDefaults, KubeProxy.fillDefaults]
    split <;> rfl
  | _ => rfl

theorem outside_fillDefaults (other : q ≠ p) (s : Spec) :
    (fillDefaults s q).outside p = fillDefaults (s.outside p) q := by
  by_cases proxy : q = .kubeProxy
  · -- The proxy alone fills by whether it is active, which the part of another does not decide.
    subst proxy
    have same := isActive_outside other .builtIn s
    simp only [isActive] at same
    simp only [fillDefaults, KubeProxy.fillDefaults, same]
    cases p <;> first | contradiction | (split <;> rfl)
  · cases p <;> cases q <;> first | contradiction | rfl

theorem fillDefaults_agree (q : Provider) {a b : Spec} (same : a.outside p = b.outside p) :
    (fillDefaults a q).outside p = (fillDefaults b q).outside p := by
  by_cases own : q = p
  · subst own
    rw [outside_fillDefaults_self, outside_fillDefaults_self, same]
  · rw [outside_fillDefaults own, outside_fillDefaults own, same]

end

theorem isActive_fillDefaults_self (p : Provider) (r : Release) (s : Spec) :
    isActive r (fillDefaults s p) p = isActive r s p := by
  cases p with
  | kubeProxy => exact KubeProxy.isActive_fillDefaults s
  | multus =>
    simp only [isActive, Multus.isActive, Multus.isDisabled, fillDefaults, Multus.fillDefaults,
      Option.getD_some, List.isEmpty_map]
  | nodeIdentity =>
    have enabled : NodeIdentity.isEnabled (NodeIdentity.fillDefaults s) =
        NodeIdentity.isEnabled s := by
      simp only [NodeIdentity.isEnabled, NodeIdentity.fillDefaults]
      cases s.nodeIdentity <;> rfl
    simp only [isActive, NodeIdentity.isActive, fillDefaults, enabled]
  | kuryr => rfl

theorem isActive_fillDefaults (p q : Provider) (r : Release) (s : Spec) :
    isActive r (fillDefaults s q) p = isActive r s p := by
  by_cases own : p = q
  · subst own
    exact isActive_fillDefaults_self p r s
  · exact isActive_agree own (outside_fillDefaults_self q s) r

end Provider

namespace Pass

theorem defaulted_agree (providers : List Provider) {p : Provider} {a b : Spec}
    (same : a.outside p = b.outside p) :
    (defaulted providers a).outside p = (defaulted providers b).outside p := by
  induction providers generalizing a b with
  | nil => exact same
  | cons q rest ih => exact ih (Provider.fillDefaults_agree q same)

theorem isActive_defaulted (providers : List Provider) (p : Provider) (r : Release) (s : Spec) :
    p.isActive r (defaulted providers s) = p.isActive r s := by
  induction providers generalizing s with
  | nil => rfl
  | cons q rest ih => exact (ih (q.fillDefaults s)).trans (p.isActive_fillDefaults q r s)

end Pass
end ClusterNet
