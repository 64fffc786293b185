import ClusterNet.Proofs.Records
import ClusterNet.Proofs.Separators

/- The command line of the proxy, read the way the proxy reads it: an argument is a flag and its
   value, parted at the first `=`. Validation looks at the names of arguments as a whole, so a name
   that holds a `=` is read as another flag than the one that was checked. -/
namespace ClusterNet

namespace KubeProxy

def partAtEquals (text : List Char) : String × String :=
  (String.ofList (text.takeWhile (· ≠ '=')), String.ofList ((text.dropWhile (· ≠ '=')).drop 1))

def readFlag? (argument : String) : Option (String × String) :=
  match argument.toList with
  | '-' :: '-' :: text => some (partAtEquals text)
  | _ => none

def reservedFlags : List String :=
  ["config", "hostname-override", "metrics-bind-address", "healthz-bind-address"]

/-- The flags that are settled, those with one allowed value included. -/
def settledFlags : List String := reservedFlags ++ ["metrics-port", "healthz-port"]

/-- The argument is a flag, and it does not change what is settled. -/
def KeepsFixed (argument : String) : Prop :=
  ∃ flag value, readFlag? argument = some (flag, value) ∧ flag ∉ reservedFlags ∧
    (flag = "metrics-port" → value = "9102") ∧ (flag = "healthz-port" → value = "10256")

/-- An argument name that begins with a settled flag and a `=`. -/
def Smuggles (name : String) : Prop := ∃ flag ∈ settledFlags, ∃ rest, name = flag ++ "=" ++ rest

theorem partAtEquals_of_plain {name : List Char} (plain : '=' ∉ name) (rest : List Char) :
    partAtEquals (name ++ '=' :: rest) = (String.ofList name, String.ofList rest) := by
  rw [partAtEquals, takeWhile_before plain, dropWhile_before plain]
  rfl

theorem toList_argument (name value : String) :
    s!"--{name}={value}".toList = '-' :: '-' :: (name.toList ++ '=' :: value.toList) := by
  simp [toString]

theorem readFlag?_argument (name value : String) :
    readFlag? s!"--{name}={value}" = some (partAtEquals (name.toList ++ '=' :: value.toList)) := by
  simp only [readFlag?, toList_argument]

theorem readFlag?_of_plain {name : String} (plain : '=' ∉ name.toList) (value : String) :
    readFlag? s!"--{name}={value}" = some (name, value) := by
  rw [readFlag?_argument, partAtEquals_of_plain plain, String.ofList_toList, String.ofList_toList]

/-- The first `=` of a name takes the rest of it into the value. -/
theorem readFlag?_of_parted {name flag rest : String} (parted : name = flag ++ "=" ++ rest)
    (plain : '=' ∉ flag.toList) (value : String) :
    readFlag? s!"--{name}={value}" = some (flag, rest ++ "=" ++ value) := by
  have text : name.toList ++ '=' :: value.toList =
      flag.toList ++ '=' :: (rest ++ "=" ++ value).toList := by
    simp [parted]
  rw [readFlag?_argument, text, partAtEquals_of_plain plain, String.ofList_toList,
    String.ofList_toList]

theorem parted_of_mem {name : String} (parted : '=' ∈ name.toList) :
    ∃ flag rest, '=' ∉ flag.toList ∧ name = flag ++ "=" ++ rest := by
  obtain ⟨before, after, split, plain⟩ := List.eq_append_cons_of_mem parted
  refine ⟨String.ofList before, String.ofList after, by simpa using plain, ?_⟩
  rw [← String.toList_inj, split]
  simp

theorem settledFlags_plain : ∀ flag ∈ settledFlags, '=' ∉ flag.toList := by
  decide

theorem not_smuggles_of_plain {name : String} (plain : '=' ∉ name.toList) : ¬Smuggles name := by
  rintro ⟨flag, -, rest, rfl⟩
  exact plain (by simp)

theorem not_reserved_of_clean {name : String} {values : List String}
    (clean : valueProblems name values = []) : name ∉ reservedFlags := by
  intro reserved
  have unfixed : fixedValue? name = none := by
    simp only [reservedFlags, List.mem_cons, List.not_mem_nil, or_false] at reserved
    rcases reserved with rfl | rfl | rfl | rfl <;> rfl
  have refused : isReserved name = true := decide_eq_true reserved
  simp only [valueProblems, unfixed, refused, ↓reduceIte] at clean
  split at clean <;> cases clean

theorem fixedValue_of_clean {name : String} {values : List String} {port : Nat}
    (clean : valueProblems name values = []) (fixed : fixedValue? name = some port) :
    ∀ value ∈ values, value = toString port := by
  simp only [valueProblems, fixed] at clean
  split at clean
  · cases clean
  · split at clean
    · next all => simpa using all
    · cases clean

theorem keepsFixed_of_plain {name : String} {values : List String}
    (clean : argumentProblems name values = []) (plain : '=' ∉ name.toList) {value : String}
    (member : value ∈ values) : KeepsFixed s!"--{name}={value}" := by
  have checked : valueProblems name values = [] := (List.append_eq_nil_iff.mp clean).2
  refine ⟨name, value, readFlag?_of_plain plain value, not_reserved_of_clean checked, ?_, ?_⟩
  · rintro rfl
    exact fixedValue_of_clean checked (rfl : fixedValue? _ = some metricsPort) value member
  · rintro rfl
    exact fixedValue_of_clean checked (rfl : fixedValue? _ = some healthPort) value member

theorem not_keepsFixed_of_smuggles {name : String} (smuggles : Smuggles name) (value : String) :
    ¬KeepsFixed s!"--{name}={value}" := by
  obtain ⟨flag, settled, rest, parted⟩ := smuggles
  rintro ⟨_, _, read, free, metrics, health⟩
  rw [readFlag?_of_parted parted (settledFlags_plain flag settled)] at read
  obtain ⟨rfl, rfl⟩ := Prod.mk.inj (Option.some.inj read)
  -- The value holds a `=` still, and neither of the fixed ports does.
  have parted : '=' ∈ (rest ++ "=" ++ value).toList := by simp
  have fixed : flag = "metrics-port" ∨ flag = "healthz-port" := by
    simpa using (List.mem_append.mp settled).resolve_left free
  rcases fixed with same | same
  · rw [metrics same] at parted
    exact absurd parted (by decide)
  · rw [health same] at parted
    exact absurd parted (by decide)

theorem keepsFixed_iff {name : String} {values : List String}
    (clean : argumentProblems name values = []) {value : String} (member : value ∈ values) :
    KeepsFixed s!"--{name}={value}" ↔ ¬Smuggles name := by
  constructor
  · exact fun keeps smuggles => not_keepsFixed_of_smuggles smuggles value keeps
  · intro honest
    by_cases parted : '=' ∈ name.toList
    · -- Another flag than the one that validation saw, but not one that matters.
      obtain ⟨flag, rest, plain, split⟩ := parted_of_mem parted
      have free : flag ∉ settledFlags := fun settled => honest ⟨flag, settled, rest, split⟩
      refine ⟨flag, _, readFlag?_of_parted split plain value, ?_, ?_, ?_⟩
      · exact fun reserved => free (List.mem_append_left _ reserved)
      · rintro rfl
        exact absurd free (by decide)
      · rintro rfl
        exact absurd free (by decide)
    · exact keepsFixed_of_plain clean parted member

theorem argumentProblems_of_valid {s : Spec} {p : ProxyConfig} (valid : validate s = [])
    (configured : s.proxy = some p) :
    ∀ entry ∈ p.arguments.entries, argumentProblems entry.1 entry.2 = [] := by
  simp only [validate, configured, configProblems, List.append_eq_nil_iff,
    List.flatMap_eq_nil_iff] at valid
  exact valid.2.2

theorem values_of_clean {name : String} {values : List String}
    (clean : argumentProblems name values = []) : values ≠ [] := by
  rintro rfl
  exact absurd (List.append_eq_nil_iff.mp clean).2 (List.cons_ne_nil _ _)

theorem overrides_keepFixed_iff {p : ProxyConfig}
    (clean : ∀ entry ∈ p.arguments.entries, argumentProblems entry.1 entry.2 = []) :
    (∀ argument ∈ overrides p, KeepsFixed argument) ↔
      ∀ name ∈ p.arguments.keys, ¬Smuggles name := by
  constructor
  · intro keeps name given
    obtain ⟨entry, member, rfl⟩ := List.mem_map.mp given
    have present := values_of_clean (clean entry member)
    obtain ⟨value, rest, values⟩ := List.exists_cons_of_ne_nil present
    have first : value ∈ entry.2 := values ▸ List.mem_cons_self
    refine (keepsFixed_iff (clean entry member) first).mp (keeps _ ?_)
    exact List.mem_flatMap.mpr ⟨entry, member, List.mem_map.mpr ⟨value, first, rfl⟩⟩
  · intro honest argument written
    obtain ⟨entry, member, written⟩ := List.mem_flatMap.mp written
    obtain ⟨value, given, rfl⟩ := List.mem_map.mp written
    exact (keepsFixed_iff (clean entry member) given).mpr
      (honest entry.1 (List.mem_map_of_mem member))

theorem workload_of_render {r : Release} {s : Spec} {a : Rendering} (run : render r s = .ok a) :
    ∃ p workload, s.proxy = some p ∧ a.workloads = [workload] ∧
      workload.arguments.take 2 =
        ["--config=/config/kube-proxy-config.yaml", "--hostname-override=$(NODE_NAME)"] ∧
      workload.arguments.drop 2 = overrides p := by
  obtain ⟨p, _, configured, workloads, -⟩ := workloads_of_render run
  have args := Manifest.arguments_of_containers (Manifest.containers_daemonSet "kube-proxy"
    namespaceName provider (pod r (arguments p)))
  refine ⟨p, _, configured, workloads, ?_, ?_⟩
  · rw [args]
    rfl
  · rw [args]
    rfl

end KubeProxy

namespace Pass

theorem proxy_of_reconcile {r : Release} {s : Spec} {previous : Option Spec} {facts : Facts}
    {result : Outcome} (run : reconcile r s previous facts = .ok result)
    (active : KubeProxy.isActive result.spec = true) :
    KubeProxy.validate result.spec = [] ∧
      ∃ rendering, KubeProxy.render r result.spec = .ok rendering := by
  obtain ⟨type, accepted⟩ := accepted_of_check (parts_of_reconcile run).1
  have taking : Provider.kubeProxy ∈ Provider.forType type := by cases type <;> decide
  have valid := accepted.valid .kubeProxy taking active
  exact ⟨valid, KubeProxy.render_of_accepted (accepted.filled .kubeProxy taking) active valid r⟩

/-- The command line of the proxy changes nothing that is settled, unless the name of an argument
    begins with a settled flag and a `=`. -/
theorem proxy_flags_kept_iff {r : Release} {s : Spec} {previous : Option Spec} {facts : Facts}
    {result : Outcome} (run : reconcile r s previous facts = .ok result)
    (active : KubeProxy.isActive result.spec = true) :
    ∃ p rendering workload, result.spec.proxy = some p ∧
      KubeProxy.render r result.spec = .ok rendering ∧ rendering.workloads = [workload] ∧
      workload.arguments.take 2 =
        ["--config=/config/kube-proxy-config.yaml", "--hostname-override=$(NODE_NAME)"] ∧
      ((∀ argument ∈ workload.arguments.drop 2, KubeProxy.KeepsFixed argument) ↔
        ∀ name ∈ p.arguments.keys, ¬KubeProxy.Smuggles name) := by
  obtain ⟨valid, rendering, render⟩ := proxy_of_reconcile run active
  obtain ⟨p, workload, configured, workloads, fixed, others⟩ := KubeProxy.workload_of_render render
  refine ⟨p, rendering, workload, configured, render, workloads, fixed, ?_⟩
  rw [others]
  exact KubeProxy.overrides_keepFixed_iff (KubeProxy.argumentProblems_of_valid valid configured)

def proxySample (name value : String) : Spec :=
  { Spec.empty with
    clusterNetwork := [⟨"10.128.0.0/14", some 23⟩]
    defaultNetwork := ⟨"ThirdParty", none⟩
    proxy := some ⟨none, none, .ofList [(name, [value])]⟩ }

theorem proxySample_accepted :
    check .builtIn (proxySample "v" "4") none =
        .ok (defaulted (Provider.forType .thirdParty) (proxySample "v" "4")) ∧
      check .builtIn (proxySample "config=/etc/proxy.yaml" "") none =
        .ok (defaulted (Provider.forType .thirdParty)
          (proxySample "config=/etc/proxy.yaml" "")) := by
  decide +kernel

theorem proxySample_flags_kept :
    ∃ result rendering workload, reconcile .builtIn (proxySample "v" "4") none .none = .ok result ∧
      KubeProxy.render .builtIn result.spec = .ok rendering ∧ rendering.workloads = [workload] ∧
      ∀ argument ∈ workload.arguments.drop 2, KubeProxy.KeepsFixed argument := by
  obtain ⟨result, run, same⟩ := reconcile_of_check proxySample_accepted.1 .none
  have active : KubeProxy.isActive result.spec = true := by
    rw [same]
    rfl
  obtain ⟨p, rendering, workload, configured, render, only, -, kept⟩ :=
    proxy_flags_kept_iff run active
  refine ⟨result, rendering, workload, run, render, only, kept.mpr ?_⟩
  rw [same] at configured
  cases configured
  intro name given
  have plain : '=' ∉ name.toList := by
    rw [List.mem_singleton.mp given]
    decide
  exact KubeProxy.not_smuggles_of_plain plain

/-- Another configuration file than the fixed one, given under the name of another argument. -/
theorem config_flag_overridden :
    ∃ result rendering workload,
      reconcile .builtIn (proxySample "config=/etc/proxy.yaml" "") none .none = .ok result ∧
      KubeProxy.isActive result.spec = true ∧
      KubeProxy.render .builtIn result.spec = .ok rendering ∧ rendering.workloads = [workload] ∧
      workload.arguments.drop 2 = ["--config=/etc/proxy.yaml="] ∧
      KubeProxy.readFlag? "--config=/etc/proxy.yaml=" = some ("config", "/etc/proxy.yaml=") ∧
      ¬KubeProxy.KeepsFixed "--config=/etc/proxy.yaml=" := by
  obtain ⟨result, run, same⟩ := reconcile_of_check proxySample_accepted.2 .none
  have active : KubeProxy.isActive result.spec = true := by
    rw [same]
    rfl
  obtain ⟨-, rendering, render⟩ := proxy_of_reconcile run active
  obtain ⟨p, workload, configured, only, -, others⟩ := KubeProxy.workload_of_render render
  have smuggles : KubeProxy.Smuggles "config=/etc/proxy.yaml" :=
    ⟨"config", by decide, "/etc/proxy.yaml", rfl⟩
  refine ⟨result, rendering, workload, run, active, render, only, ?_, by decide +kernel,
    KubeProxy.not_keepsFixed_of_smuggles smuggles ""⟩
  rw [same] at configured
  cases configured
  exact others

end Pass
end ClusterNet
