import ClusterNet.Proofs.Acceptance
import ClusterNet.Proofs.Objects

/- Rendering an accepted spec. Each component finds the fields that it reads, because defaults fill
   them or validation insists on them, and its workloads have a pod template for the hash. Hence a
   pass fails only where its check fails. -/
namespace ClusterNet

theorem mapM_succeeds {ε α β : Type} {f : α → Except ε β} {items : List α}
    (each : ∀ a ∈ items, ∃ b, f a = .ok b) : ∃ results, items.mapM f = .ok results := by
  simp only [mapM_eq_ok]
  induction items with
  | nil => exact ⟨[], .nil⟩
  | cons a rest ih =>
    obtain ⟨b, head⟩ := each a List.mem_cons_self
    obtain ⟨bs, tail⟩ := ih fun c member => each c (List.mem_cons_of_mem a member)
    exact ⟨b :: bs, .cons head tail⟩

theorem filled_some {α : Type} (provider field : String) (a : α) :
    filled provider field (some a) = .ok a := rfl

namespace Manifest

def Stampable (m : Manifest) : Prop := m.isWorkload = false ∨ ∃ path, m.templatePath = .ok path

theorem annotate_stampable {m : Manifest} (stampable : m.Stampable) (key value : String) :
    (m.annotate key value).Stampable := stampable

theorem stampable_of_fresh {m : Manifest} (fresh : m.Fresh) : m.Stampable := by
  cases workload : m.isWorkload with
  | false => exact .inl workload
  | true =>
    obtain ⟨path, found, -⟩ := bare_of_fresh fresh workload
    exact .inr ⟨path, found⟩

end Manifest

/-- The render succeeds, and the pass can put its hash on every workload. -/
def Renders (result : Except Problem Rendering) : Prop :=
  ∃ rendering, result = .ok rendering ∧ ∀ m ∈ rendering.objects, m.Stampable

open Manifest

theorem Provider.renders_of_ok {r : Release} {s : Spec} {facts : Facts} {p : Provider}
    {rendering : Rendering} (run : p.render r s facts = .ok rendering) :
    Renders (p.render r s facts) :=
  ⟨rendering, run, fun m member => stampable_of_fresh (fresh_of_render run m member)⟩

namespace Kuryr

theorem fields_of_filled {s : Spec} {k : KuryrConfig} (filled : fillConfig s k = k) :
    ∃ least most batch prepopulation daemonPort controllerPort,
      k.poolMin = some least ∧ k.poolMax = some most ∧ k.poolBatch = some batch ∧
        k.prepopulation = some prepopulation ∧ k.daemonProbesPort = some daemonPort ∧
          k.controllerProbesPort = some controllerPort :=
  ⟨_, _, _, _, _, _, (congrArg KuryrConfig.poolMin filled).symm,
    (congrArg KuryrConfig.poolMax filled).symm, (congrArg KuryrConfig.poolBatch filled).symm,
    (congrArg KuryrConfig.prepopulation filled).symm,
    (congrArg KuryrConfig.daemonProbesPort filled).symm,
    (congrArg KuryrConfig.controllerProbesPort filled).symm⟩

theorem settings_of_accepted {s : Spec} (filled : fillDefaults s = s) (valid : validate s = []) :
    ∃ settings, Settings.ofSpec s = .ok settings := by
  obtain ⟨k, configured, complete⟩ := config_of_filled filled
  obtain ⟨text, network, given, read⟩ := serviceHost_of_valid valid configured
  obtain ⟨least, most, batch, prepopulation, daemonPort, controllerPort, hLeast, hMost, hBatch,
    hPrepopulation, hDaemon, hController⟩ := fields_of_filled complete
  simp only [Settings.ofSpec, configured, given, filled_some, ok_bind, read, hLeast, hMost, hBatch,
    hPrepopulation, hDaemon, hController]
  exact ⟨_, rfl⟩

theorem render_of_accepted {s : Spec} (filled : fillDefaults s = s) (valid : validate s = [])
    (r : Release) (facts : Facts) : ∃ rendering, render r s facts = .ok rendering := by
  obtain ⟨settings, complete⟩ := settings_of_accepted filled valid
  unfold render
  rw [complete]
  cases facts.openStack with
  | none => exact ⟨_, rfl⟩
  | some f => cases facts.apiServer <;> exact ⟨_, rfl⟩

end Kuryr

namespace KubeProxy

theorem render_of_accepted {s : Spec} (filled : fillDefaults s = s) (active : isActive s = true)
    (valid : validate s = []) (r : Release) : ∃ rendering, render r s = .ok rendering := by
  obtain ⟨p, configured, complete⟩ := config_of_filled filled active
  obtain ⟨text, bind⟩ : ∃ text, p.bindAddress = some text :=
    ⟨_, (congrArg ProxyConfig.bindAddress complete).symm⟩
  obtain ⟨duration, period⟩ : ∃ duration, p.syncPeriod = some duration :=
    ⟨_, (congrArg ProxyConfig.syncPeriod complete).symm⟩
  obtain ⟨address, read⟩ := address_of_valid valid configured bind
  have networks := clusterNetwork_of_valid valid
  simp only [render, configured, bind, period, filled_some, ok_bind, read, networks,
    Bool.false_eq_true, ↓reduceIte]
  exact ⟨_, rfl⟩

end KubeProxy

namespace Multus

theorem configText_of_sound {a : Attachment} (filled : fillAttachment a = a) (sound : a.Sound) :
    ∃ text, configText a = .ok text := by
  have configured := sound.configured
  unfold Attachment.Configured at configured
  cases kind : a.kind with
  | raw =>
    rw [kind] at configured
    obtain ⟨-, text, given, -⟩ := configured
    exact ⟨text, by simp only [configText, kind, given, filled_some]⟩
  | simpleMacvlan =>
    obtain ⟨m, configured, complete⟩ := macvlan_of_filled filled kind
    obtain ⟨mode, given⟩ : ∃ mode, m.mode = some mode :=
      ⟨_, (congrArg Macvlan.mode complete).symm⟩
    obtain ⟨ipam, managed⟩ : ∃ ipam, m.ipam = some ipam :=
      ⟨_, (congrArg Macvlan.ipam complete).symm⟩
    simp only [configText, kind, configured, given, managed, filled_some, ok_bind]
    exact ⟨_, rfl⟩

theorem render_of_accepted {s : Spec} (filled : fillDefaults s = s) (active : isActive s = true)
    (valid : validate s = []) (r : Release) : ∃ rendering, render r s = .ok rendering := by
  have enabled := enabled_of_valid valid active
  obtain ⟨-, -, sound⟩ := validate_eq_nil.mp valid
  have each : ∀ a ∈ s.attachments, ∃ config, (configText a).map (a, ·) = .ok config := by
    intro a member
    obtain ⟨text, run⟩ := configText_of_sound (attachment_of_filled filled member) (sound a member)
    exact ⟨(a, text), by rw [run]; rfl⟩
  obtain ⟨configs, run⟩ := mapM_succeeds each
  simp only [render, enabled, run, ok_bind, Bool.false_eq_true, ↓reduceIte]
  exact ⟨_, rfl⟩

end Multus

namespace NodeIdentity

theorem render_of_filled {s : Spec} (filled : fillDefaults s = s) (r : Release) (facts : Facts) :
    ∃ rendering, render r s facts = .ok rendering := by
  obtain ⟨n, configured, complete⟩ := config_of_filled filled
  obtain ⟨port, given⟩ : ∃ port, n.webhookPort = some port :=
    ⟨_, (congrArg NodeIdentityConfig.webhookPort complete).symm⟩
  simp only [render, configured, Option.bind_some, given, filled_some, ok_bind]
  exact ⟨_, rfl⟩

end NodeIdentity

namespace Pass

theorem stamp_succeeds {m : Manifest} (stampable : m.Stampable) (hash : String) :
    ∃ stamped, stamp hash m = .ok stamped := by
  unfold stamp
  cases workload : m.isWorkload with
  | false => exact ⟨m, rfl⟩
  | true =>
    have annotated := annotate_stampable stampable configHashKey hash
    obtain other | ⟨path, found⟩ := annotated
    · exact absurd workload (by rw [show m.isWorkload = false from other]; exact Bool.false_ne_true)
    · simp only [↓reduceIte, annotateTemplate, found]
      exact ⟨_, rfl⟩

theorem part_succeeds {r : Release} {s : Spec} {facts : Facts} {p : Provider}
    (renders : Renders (p.render r s facts)) : ∃ result, part r s facts p = .ok result := by
  obtain ⟨rendering, run, stampable⟩ := renders
  obtain ⟨objects, stamped⟩ := mapM_succeeds fun m member =>
    stamp_succeeds (stampable m member) (hashOf (.ofDict rendering.data))
  simp only [part, run, ok_bind, stamped]
  exact ⟨_, rfl⟩

theorem renders_of_accepted {r : Release} {type : NetworkType} {s : Spec} {p : Provider}
    (accepted : Accepted r type s) (member : p ∈ Provider.forType type)
    (active : p.isActive r s = true) (facts : Facts) : Renders (p.render r s facts) := by
  have filled := accepted.filled p member
  have valid := accepted.valid p member active
  have succeeds : ∃ rendering, p.render r s facts = .ok rendering := by
    cases p with
    | kuryr => exact Kuryr.render_of_accepted filled valid r facts
    | kubeProxy => exact KubeProxy.render_of_accepted filled active valid r
    | multus => exact Multus.render_of_accepted filled active valid r
    | nodeIdentity => exact NodeIdentity.render_of_filled filled r facts
  obtain ⟨rendering, run⟩ := succeeds
  exact Provider.renders_of_ok run

/-- What a pass makes of a spec once the check has returned it. -/
def rendered (r : Release) (facts : Facts) (s : Spec) : Except Problem Outcome := do
  let providers ← Provider.forSpec s
  let parts ← (active r providers s).mapM (part r s facts)
  return outcome r s parts

theorem reconcile_eq_check (r : Release) (s : Spec) (previous : Option Spec) (facts : Facts) :
    reconcile r s previous facts = check r s previous >>= rendered r facts := by
  cases known : s.type? with
  | none =>
    simp only [reconcile, check, Provider.forSpec, known]
    rfl
  | some type =>
    have same := (known_defaulted (Provider.forType type) s).trans known
    simp only [reconcile, check, Provider.forSpec, known, ok_bind]
    cases validated r (Provider.forType type) (defaulted (Provider.forType type) s)
      (previous.map asApplied) with
    | error problem => rfl
    | ok _ => simp only [ok_bind, pure_bind, rendered, Provider.forSpec, same]

theorem reconcile_of_failure {r : Release} {s : Spec} {previous : Option Spec} {problem : Problem}
    (failed : check r s previous = .error problem) (facts : Facts) :
    reconcile r s previous facts = .error problem := by
  rw [reconcile_eq_check, failed]
  rfl

theorem rendered_of_accepted {r : Release} {type : NetworkType} {s : Spec}
    (accepted : Accepted r type s) (facts : Facts) :
    ∃ result, rendered r facts s = .ok result ∧ result.spec = s := by
  have each : ∀ p ∈ active r (Provider.forType type) s, ∃ b, part r s facts p = .ok b := by
    intro p member
    obtain ⟨taking, active⟩ := List.mem_filter.mp member
    exact part_succeeds (renders_of_accepted accepted taking active facts)
  obtain ⟨parts, run⟩ := mapM_succeeds each
  simp only [rendered, Provider.forSpec, accepted.known, ok_bind, run]
  exact ⟨_, rfl, rfl⟩

theorem reconcile_of_check {r : Release} {s d : Spec} {previous : Option Spec}
    (returned : check r s previous = .ok d) (facts : Facts) :
    ∃ result, reconcile r s previous facts = .ok result ∧ result.spec = d := by
  obtain ⟨type, accepted⟩ := accepted_of_check returned
  rw [reconcile_eq_check, returned, ok_bind]
  exact rendered_of_accepted accepted facts

theorem parts_of_reconcile {r : Release} {s : Spec} {previous : Option Spec} {facts : Facts}
    {result : Outcome} (run : reconcile r s previous facts = .ok result) :
    check r s previous = .ok result.spec ∧ rendered r facts result.spec = .ok result := by
  cases returned : check r s previous with
  | error problem =>
    rw [reconcile_eq_check, returned] at run
    cases run
  | ok d =>
    obtain ⟨other, again, same⟩ := reconcile_of_check returned facts
    rw [run] at again
    cases again
    rw [reconcile_eq_check, returned, ok_bind, ← same] at run
    exact ⟨by rw [same], run⟩

/-- Rendering adds no failure of its own, whatever was discovered about the cluster: a pass ends as
    its check does, and a pass that fails tells the author of the spec why. -/
theorem reconcile_decided_by_check (r : Release) (s : Spec) (previous : Option Spec)
    (facts : Facts) :
    (∀ d, check r s previous = .ok d ↔
      ∃ result, reconcile r s previous facts = .ok result ∧ result.spec = d) ∧
    (∀ problem, check r s previous = .error problem ↔
      reconcile r s previous facts = .error problem) ∧
    ∀ problem, reconcile r s previous facts = .error problem →
      IsRejection problem ∧ ∀ release, (Status.ofFailure problem release).phase = .rejected ∧
        (Status.ofFailure problem release).errors ≠ [] := by
  cases returned : check r s previous with
  | error found =>
    have failed : reconcile r s previous facts = .error found := by
      rw [reconcile_eq_check, returned]
      rfl
    rw [failed]
    refine ⟨?_, ?_, ?_⟩
    · intro d
      constructor
      · exact nofun
      · rintro ⟨result, run, -⟩
        cases run
    · intro problem
      constructor <;> (intro given; cases given; rfl)
    · intro problem given
      cases given
      exact ⟨rejection_of_check returned, status_of_rejection (rejection_of_check returned)⟩
  | ok accepted =>
    obtain ⟨result, run, same⟩ := reconcile_of_check returned facts
    rw [run]
    refine ⟨?_, ?_, nofun⟩
    · intro d
      constructor
      · intro given
        cases given
        exact ⟨result, rfl, same⟩
      · rintro ⟨other, given, rfl⟩
        cases given
        rw [same]
    · intro problem
      constructor <;> exact nofun

theorem kuryr_without_networks_is_rejected :
    ∃ problem, reconcile .builtIn { Spec.empty with defaultNetwork.type := "Kuryr" } none .none =
        .error problem ∧ IsRejection problem ∧
      (Status.ofFailure problem "4.14.0").phase = .rejected := by
  obtain ⟨-, agrees, blame⟩ := reconcile_decided_by_check .builtIn
    { Spec.empty with defaultNetwork.type := "Kuryr" } none .none
  have failed := (agrees _).mp rfl
  exact ⟨_, failed, (blame _ failed).1, ((blame _ failed).2 _).1⟩

end Pass
end ClusterNet
