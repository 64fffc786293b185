import ClusterNet.Pass

/- Filling defaults. Components write to parts of the spec that do not meet, so the order in which
   they take their turns does not matter and one round settles all of them. What holds of a filled
   spec is read off from the fact that no component changes it any more. -/
namespace ClusterNet

namespace Kuryr

theorem fillConfig_idempotent (s : Spec) (k : KuryrConfig) :
    fillConfig s (fillConfig s k) = fillConfig s k := by
  simp only [fillConfig, Option.getD_some]
  cases k.serviceNetwork with
  | none => cases computedServiceNetwork s <;> rfl
  | some text => rfl

theorem fillDefaults_idempotent (s : Spec) : fillDefaults (fillDefaults s) = fillDefaults s := by
  have same : fillConfig (fillDefaults s) = fillConfig s := rfl
  simp only [fillDefaults, Spec.kuryr, Option.getD_some] at same ⊢
  rw [same, fillConfig_idempotent]

theorem config_of_filled {s : Spec} (filled : fillDefaults s = s) :
    ∃ k, s.kuryr = some k ∧ fillConfig s k = k := by
  have written : some (fillConfig s (s.kuryr.getD .empty)) = s.kuryr :=
    congrArg Spec.kuryr filled
  exact ⟨_, written.symm, fillConfig_idempotent s _⟩

end Kuryr

namespace KubeProxy

theorem isActive_fillDefaults (s : Spec) : isActive (fillDefaults s) = isActive s := by
  unfold fillDefaults
  split <;> rfl

theorem fillDefaults_of_active {s : Spec} (active : isActive s = true) :
    fillDefaults s =
      { s with deployProxy := some true, proxy := some (fillConfig s (s.proxy.getD .empty)) } := by
  simp only [fillDefaults, active, ↓reduceIte]

theorem fillDefaults_of_inactive {s : Spec} (inactive : isActive s = false) :
    fillDefaults s = { s with deployProxy := some false } := by
  simp only [fillDefaults, inactive, Bool.false_eq_true, ↓reduceIte]

theorem fillDefaults_idempotent (s : Spec) : fillDefaults (fillDefaults s) = fillDefaults s := by
  have same := isActive_fillDefaults s
  cases active : isActive s with
  | true =>
    rw [active] at same
    rw [fillDefaults_of_active same, fillDefaults_of_active active]
    rfl
  | false =>
    rw [active] at same
    rw [fillDefaults_of_inactive same, fillDefaults_of_inactive active]

theorem config_of_filled {s : Spec} (filled : fillDefaults s = s) (active : isActive s = true) :
    ∃ p, s.proxy = some p ∧ fillConfig s p = p := by
  rw [fillDefaults_of_active active] at filled
  have written : some (fillConfig s (s.proxy.getD .empty)) = s.proxy := congrArg Spec.proxy filled
  exact ⟨_, written.symm, rfl⟩

end KubeProxy

namespace Multus

theorem fillAttachment_idempotent (a : Attachment) :
    fillAttachment (fillAttachment a) = fillAttachment a := by
  obtain ⟨name, namespaceName, kind, rawConfig, macvlan⟩ := a
  cases kind <;> rfl

theorem fillDefaults_idempotent (s : Spec) : fillDefaults (fillDefaults s) = fillDefaults s := by
  have same : fillAttachment ∘ fillAttachment = fillAttachment := by
    funext a
    exact fillAttachment_idempotent a
  simp only [fillDefaults, isDisabled, Option.getD_some, List.map_map, same]

theorem flag_of_filled {s : Spec} (filled : fillDefaults s = s) :
    s.disableMultiNetwork = some (isDisabled s) :=
  (congrArg Spec.disableMultiNetwork filled).symm

theorem attachment_of_filled {s : Spec} (filled : fillDefaults s = s) {a : Attachment}
    (member : a ∈ s.attachments) : fillAttachment a = a := by
  have written : s.attachments.map fillAttachment = s.attachments :=
    congrArg Spec.attachments filled
  rw [← written] at member
  obtain ⟨given, -, rfl⟩ := List.mem_map.mp member
  exact fillAttachment_idempotent given

theorem namespace_of_filled {a : Attachment} (filled : fillAttachment a = a) :
    a.namespaceName = some (identity a).1 :=
  (congrArg Attachment.namespaceName filled).symm

theorem macvlan_of_filled {a : Attachment} (filled : fillAttachment a = a)
    (structured : a.kind = .simpleMacvlan) : ∃ m, a.macvlan = some m ∧ fillMacvlan m = m := by
  have written : (fillAttachment a).macvlan = a.macvlan := congrArg Attachment.macvlan filled
  simp only [fillAttachment, structured] at written
  exact ⟨_, written.symm, rfl⟩

end Multus

namespace NodeIdentity

theorem config_of_filled {s : Spec} (filled : fillDefaults s = s) :
    ∃ n, s.nodeIdentity = some n ∧ fillConfig n = n := by
  have written : some (fillConfig (s.nodeIdentity.getD .empty)) = s.nodeIdentity :=
    congrArg Spec.nodeIdentity filled
  exact ⟨_, written.symm, rfl⟩

end NodeIdentity

namespace Provider

theorem fillDefaults_idempotent (p : Provider) (s : Spec) :
    fillDefaults (fillDefaults s p) p = fillDefaults s p := by
  cases p with
  | kuryr => exact Kuryr.fillDefaults_idempotent s
  | kubeProxy => exact KubeProxy.fillDefaults_idempotent s
  | multus => exact Multus.fillDefaults_idempotent s
  | nodeIdentity => rfl

/-- Whether the proxy is deployed depends on nothing that another component fills in. -/
theorem proxy_active_fillDefaults {p : Provider} (other : p ≠ .kubeProxy) (s : Spec) :
    KubeProxy.isActive (fillDefaults s p) = KubeProxy.isActive s := by
  cases p with
  | kubeProxy => contradiction
  | _ => rfl

theorem proxy_commute (p : Provider) (s : Spec) :
    fillDefaults (KubeProxy.fillDefaults s) p = KubeProxy.fillDefaults (fillDefaults s p) := by
  by_cases own : p = .kubeProxy
  · subst own
    rfl
  · have same := proxy_active_fillDefaults own s
    cases active : KubeProxy.isActive s with
    | true =>
      rw [active] at same
      rw [KubeProxy.fillDefaults_of_active same, KubeProxy.fillDefaults_of_active active]
      cases p <;> first | rfl | contradiction
    | false =>
      rw [active] at same
      rw [KubeProxy.fillDefaults_of_inactive same, KubeProxy.fillDefaults_of_inactive active]
      cases p <;> first | rfl | contradiction

theorem fillDefaults_commute (p q : Provider) (s : Spec) :
    fillDefaults (fillDefaults s p) q = fillDefaults (fillDefaults s q) p := by
  by_cases first : p = .kubeProxy
  · subst first
    exact proxy_commute q s
  · by_cases second : q = .kubeProxy
    · subst second
      exact (proxy_commute p s).symm
    · -- the three others write to different fields of the record
      cases p <;> cases q <;> first | rfl | contradiction

theorem type_fillDefaults (p : Provider) (s : Spec) :
    (fillDefaults s p).defaultNetwork.type = s.defaultNetwork.type := by
  cases p with
  | kubeProxy => simp only [fillDefaults, KubeProxy.fillDefaults]; split <;> rfl
  | _ => rfl

end Provider

namespace Pass

theorem defaulted_fillDefaults (providers : List Provider) (p : Provider) (s : Spec) :
    defaulted providers (p.fillDefaults s) = p.fillDefaults (defaulted providers s) := by
  induction providers generalizing s with
  | nil => rfl
  | cons q rest ih =>
    change defaulted rest (q.fillDefaults (p.fillDefaults s)) =
      p.fillDefaults (defaulted rest (q.fillDefaults s))
    rw [Provider.fillDefaults_commute, ih]

theorem defaulted_perm {turns providers : List Provider} (permuted : turns.Perm providers)
    (s : Spec) : defaulted turns s = defaulted providers s :=
  permuted.foldl_eq' (fun p _ q _ s => Provider.fillDefaults_commute p q s) s

theorem filled_of_defaulted {providers : List Provider} {p : Provider} (member : p ∈ providers)
    (s : Spec) : p.fillDefaults (defaulted providers s) = defaulted providers s := by
  induction providers generalizing s with
  | nil => simp at member
  | cons q rest ih =>
    rcases List.mem_cons.mp member with same | later
    · subst same
      change p.fillDefaults (defaulted rest (p.fillDefaults s)) =
        defaulted rest (p.fillDefaults s)
      rw [← defaulted_fillDefaults, Provider.fillDefaults_idempotent]
    · exact ih later (q.fillDefaults s)

theorem defaulted_of_filled {providers : List Provider} {s : Spec}
    (filled : ∀ p ∈ providers, p.fillDefaults s = s) : defaulted providers s = s := by
  induction providers with
  | nil => rfl
  | cons p rest ih =>
    change defaulted rest (p.fillDefaults s) = s
    rw [filled p List.mem_cons_self]
    exact ih fun q member => filled q (List.mem_cons_of_mem p member)

theorem defaulted_idempotent (providers : List Provider) (s : Spec) :
    defaulted providers (defaulted providers s) = defaulted providers s :=
  defaulted_of_filled fun _ member => filled_of_defaulted member s

theorem type_defaulted (providers : List Provider) (s : Spec) :
    (defaulted providers s).defaultNetwork.type = s.defaultNetwork.type := by
  induction providers generalizing s with
  | nil => rfl
  | cons p rest ih => exact (ih (p.fillDefaults s)).trans (Provider.type_fillDefaults p s)

theorem known_defaulted (providers : List Provider) (s : Spec) :
    (defaulted providers s).type? = s.type? := by
  simp only [Spec.type?, type_defaulted]

theorem fillDefaults_of_known {s : Spec} {type : NetworkType} (known : s.type? = some type) :
    fillDefaults s = .ok (defaulted (Provider.forType type) s) := by
  simp only [fillDefaults, Provider.forSpec, known]
  rfl

theorem asApplied_of_known {s : Spec} {type : NetworkType} (known : s.type? = some type) :
    asApplied s = defaulted (Provider.forType type) s := by
  simp only [asApplied, fillDefaults_of_known known]

theorem asApplied_of_unknown {s : Spec} (unknown : s.type? = none) : asApplied s = s := by
  simp only [asApplied, fillDefaults, Provider.forSpec, unknown]
  rfl

end Pass
end ClusterNet
