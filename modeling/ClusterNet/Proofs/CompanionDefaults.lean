import ClusterNet.Proofs.Frames

/- What the companions fill in. A default passes the check of the field it fills, and a check that a
   default passes does not tell it from nothing. So filling neither adds a problem nor hides one:
   the problems of a filled spec are those of the spec as it was given, each at its own place. -/
namespace ClusterNet

theorem check_getD {α β : Type} (check : Option α → β) {default : α}
    (passes : check (some default) = check none) (given : Option α) :
    check (some (given.getD default)) = check given := by
  cases given with
  | none => exact passes
  | some a => rfl

namespace KubeProxy

theorem addressProblems_default (s : Spec) :
    addressProblems (some (if startsWithIpv6 s then "::" else "0.0.0.0")) = [] := by
  split <;> decide +kernel

theorem periodProblems_default : periodProblems (some "30s") = [] := by
  decide +kernel

theorem configProblems_fillConfig (s : Spec) (p : ProxyConfig) :
    configProblems (fillConfig s p) = configProblems p := by
  have bind := check_getD addressProblems (addressProblems_default s) p.bindAddress
  have period := check_getD periodProblems periodProblems_default p.syncPeriod
  simp only [configProblems, fillConfig, bind, period]

theorem validate_fillDefaults (s : Spec) : validate (fillDefaults s) = validate s := by
  cases active : isActive s with
  | false =>
    rw [fillDefaults_of_inactive active]
    rfl
  | true =>
    have filled := configProblems_fillConfig s
    rw [fillDefaults_of_active active]
    unfold validate
    congr 1
    cases s.proxy with
    | none => exact filled .empty
    | some p => exact filled p

end KubeProxy

namespace Multus

theorem identity_fillAttachment (a : Attachment) : identity (fillAttachment a) = identity a := rfl

theorem labelProblems_default (place : String) :
    labelProblems place "namespace" defaultNamespace = [] := by
  have valid : Label.complaint? defaultNamespace "namespace" = none := by decide +kernel
  rw [labelProblems, valid]
  rfl

theorem macvlanProblems_fillMacvlan (place : String) (m : Macvlan) :
    macvlanProblems place (fillMacvlan m) = macvlanProblems place m := by
  obtain ⟨master, mode, mtu, ipam⟩ := m
  cases ipam <;> rfl

theorem contentProblems_fillAttachment (place : String) (a : Attachment) :
    contentProblems place (fillAttachment a) = contentProblems place a := by
  obtain ⟨name, namespaceName, kind, rawConfig, macvlan⟩ := a
  cases kind with
  | raw => rfl
  | simpleMacvlan =>
    have filled := macvlanProblems_fillMacvlan s!"{place}.simpleMacvlanConfig"
    cases macvlan with
    | none => exact congrArg (List.append _) (filled .empty)
    | some m => exact congrArg (List.append _) (filled m)

theorem attachmentProblems_fillAttachment (place : String) (a : Attachment) :
    attachmentProblems place (fillAttachment a) = attachmentProblems place a := by
  have space := check_getD (fun space => (space.map (labelProblems place "namespace")).getD [])
    (labelProblems_default place) a.namespaceName
  simp only [attachmentProblems, contentProblems_fillAttachment]
  exact congrArg (labelProblems place "name" a.name ++ · ++ contentProblems place a) space

theorem networkProblems_fillAttachment (i : Nat) (seen : List (String × String))
    (attachments : List Attachment) :
    networkProblems i seen (attachments.map fillAttachment) =
      networkProblems i seen attachments := by
  induction attachments generalizing i seen with
  | nil => rfl
  | cons a rest ih =>
    simp only [List.map_cons, networkProblems, attachmentProblems_fillAttachment,
      identity_fillAttachment, ih]
    rfl

theorem isDisabled_fillDefaults (s : Spec) : isDisabled (fillDefaults s) = isDisabled s := rfl

theorem validate_fillDefaults (s : Spec) : validate (fillDefaults s) = validate s := by
  have networks := networkProblems_fillAttachment 0 [] s.attachments
  simp only [validate, isDisabled_fillDefaults]
  simp only [fillDefaults, List.isEmpty_map, networks]

end Multus

namespace NodeIdentity

theorem validate_fillDefaults (s : Spec) : validate (fillDefaults s) = validate s := by
  unfold validate fillDefaults
  cases s.nodeIdentity with
  | none => rfl
  | some n =>
    obtain ⟨enabled, port⟩ := n
    cases port <;> rfl

end NodeIdentity

namespace Provider

/-- A companion finds the same in a spec whoever filled it, the companion itself included. -/
theorem validate_fillDefaults {p : Provider} (companion : p ∈ companions) (q : Provider)
    (s : Spec) : validate (fillDefaults s q) p = validate s p := by
  by_cases own : p = q
  · subst own
    cases p with
    | kuryr => simp [companions] at companion
    | kubeProxy => exact KubeProxy.validate_fillDefaults s
    | multus => exact Multus.validate_fillDefaults s
    | nodeIdentity => exact NodeIdentity.validate_fillDefaults s
  · exact validate_agree own (outside_fillDefaults_self q s)

end Provider

namespace Pass

theorem validate_defaulted {p : Provider} (companion : p ∈ Provider.companions)
    (providers : List Provider) (s : Spec) :
    p.validate (defaulted providers s) = p.validate s := by
  induction providers generalizing s with
  | nil => rfl
  | cons q rest ih => exact (ih (q.fillDefaults s)).trans (p.validate_fillDefaults companion q s)

/-- What the companions fill in is always valid, hides nothing that is wrong with the spec and
    switches none of them on or off; nor does it when all components of a pass have filled. -/
theorem companion_defaults_are_neutral {p : Provider} (companion : p ∈ Provider.companions)
    (r : Release) (s : Spec) :
    (p.validate (p.fillDefaults s) = p.validate s ∧
      p.isActive r (p.fillDefaults s) = p.isActive r s) ∧
    ∀ providers, p.validate (defaulted providers s) = p.validate s ∧
      p.isActive r (defaulted providers s) = p.isActive r s :=
  ⟨⟨p.validate_fillDefaults companion p s, p.isActive_fillDefaults_self r s⟩,
    fun providers => ⟨validate_defaulted companion providers s, isActive_defaulted providers p r s⟩⟩

/-- Three networks, of which one is not named by a label and one is there twice, once in the default
    namespace and once without any. -/
def faultyNetworks : Spec :=
  { Spec.empty with
    attachments := [
      ⟨"Storage", none, .simpleMacvlan, none, none⟩,
      ⟨"backup", none, .simpleMacvlan, none, none⟩,
      ⟨"backup", some "default", .simpleMacvlan, none, none⟩] }

theorem faultyNetworks_keep_their_problems :
    Multus.validate (Multus.fillDefaults faultyNetworks) = [
      .semantic "spec.additionalNetworks[0].name"
        "name must start with a lowercase letter or digit: Storage",
      .semantic "spec.additionalNetworks[2].name" "duplicate network default/backup"] := by
  have companion : Provider.multus ∈ Provider.companions := by decide
  have given : Multus.validate faultyNetworks = [
      .semantic "spec.additionalNetworks[0].name"
        "name must start with a lowercase letter or digit: Storage",
      .semantic "spec.additionalNetworks[2].name" "duplicate network default/backup"] := by
    decide +kernel
  exact (companion_defaults_are_neutral companion .builtIn faultyNetworks).1.1.trans given

end Pass
end ClusterNet
