import ClusterNet.Provider
import ClusterNet.Manifest.Wire
import ClusterNet.Json.Canonical
import ClusterNet.Status
import ClusterNet.Digest

/- A pass: fill defaults, reject the spec with everything that is wrong with it, or render the
   objects to apply. A rejected pass has no effects. -/
namespace ClusterNet

namespace Pass

inductive Stage where
  | unset
  | defaulted
  | validated
  | rendered
  | rejected
  deriving DecidableEq, Repr

def Stage.name : Stage → String
  | .unset => "Unset"
  | .defaulted => "Defaulted"
  | .validated => "Validated"
  | .rendered => "Rendered"
  | .rejected => "Rejected"

def Stage.all : List Stage := [.unset, .defaulted, .validated, .rendered, .rejected]

def defaulted (providers : List Provider) (s : Spec) : Spec :=
  providers.foldl Provider.fillDefaults s

def fillDefaults (s : Spec) : Except Problem Spec :=
  (Provider.forSpec s).map (defaulted · s)

/-- The previous spec with the defaults of its own type; one of unknown type is compared as it is.
    -/
def asApplied (previous : Spec) : Spec :=
  match fillDefaults previous with
  | .ok s => s
  | .error _ => previous

def active (r : Release) (providers : List Provider) (s : Spec) : List Provider :=
  providers.filter (Provider.isActive r s)

def validation (r : Release) (providers : List Provider) (s : Spec) : List Problem :=
  distinct ((active r providers s).flatMap (Provider.validate s))

def typeChanges (previous next : Spec) : List Problem :=
  let before := previous.defaultNetwork.type
  let after := next.defaultNetwork.type
  if before = after then []
  else
    [.unsafeChange "spec.defaultNetwork.type"
      (s!"{Text.quoted before} -> {Text.quoted after}; "
        ++ "migrating the default network is not supported")]

def serviceChanges (previous next : Spec) : List Problem :=
  let before := previous.serviceNetwork
  let after := next.serviceNetwork
  if before = after then []
  else
    [.unsafeChange "spec.serviceNetwork"
      (s!"{Text.quotedList before} -> {Text.quotedList after}; "
        ++ "service networks are immutable")]

def changes (providers : List Provider) (previous next : Spec) : List Problem :=
  if previous = next then []
  else
    distinct (typeChanges previous next ++ serviceChanges previous next
      ++ providers.flatMap (Provider.unsafeChanges previous next))

/-- Changes are looked at only when the spec itself is in order. -/
def validated (r : Release) (providers : List Provider) (s : Spec) (previous : Option Spec) :
    Except Problem Unit :=
  match validation r providers s with
  | [] =>
    match previous.elim [] (changes providers · s) with
    | [] => .ok ()
    | problems => .error (.rejected "change safety" problems)
  | problems => .error (.rejected "validation" problems)

def check (r : Release) (s : Spec) (previous : Option Spec) : Except Problem Spec := do
  let providers ← Provider.forSpec s
  let s := defaulted providers s
  validated r providers s (previous.map asApplied)
  return s

def hashOf (json : Json) : String := Digest.sha256 json.canonical.compact

/-- Workloads carry the hash on the object and on their pods. -/
def stamp (hash : String) (m : Manifest) : Except Problem Manifest :=
  if m.isWorkload then
    (m.annotate Manifest.configHashKey hash).annotateTemplate Manifest.configHashKey hash
  else .ok m

structure Part where
  provider : Provider
  objects : List Manifest
  data : Dict Json
  hash : String
  warnings : List Problem

def part (r : Release) (s : Spec) (facts : Facts) (provider : Provider) : Except Problem Part := do
  let rendering ← provider.render r s facts
  let hash := hashOf (.ofDict rendering.data)
  let objects ← rendering.objects.mapM (stamp hash)
  return ⟨provider, objects, rendering.data, hash, rendering.warnings⟩

structure Outcome where
  spec : Spec
  objects : List Manifest
  data : Dict (Dict Json)
  hashes : Dict String
  warnings : List Problem
  release : String
  deriving DecidableEq, Repr

/-- Namespaces first, else in the order of the providers. -/
def namespacesFirst (objects : List Manifest) : List Manifest :=
  objects.filter Manifest.isNamespace ++ objects.filter (!·.isNamespace)

def outcome (r : Release) (s : Spec) (parts : List Part) : Outcome where
  spec := s
  objects := namespacesFirst (parts.flatMap Part.objects)
  data := .ofList (parts.map fun p => (p.provider.name, p.data))
  hashes := .ofList (parts.map fun p => (p.provider.name, p.hash))
  warnings := parts.flatMap Part.warnings
  release := r.version

def reconcile (r : Release) (s : Spec) (previous : Option Spec) (facts : Facts) :
    Except Problem Outcome := do
  let providers ← Provider.forSpec s
  let s := defaulted providers s
  validated r providers s (previous.map asApplied)
  let parts ← (active r providers s).mapM (part r s facts)
  return outcome r s parts

def Outcome.message (o : Outcome) : String :=
  let base := s!"rendered {o.objects.length} objects"
  if o.warnings.isEmpty then base
  else
    let warnings := "; ".intercalate (o.warnings.map Problem.message)
    s!"{base} with {o.warnings.length} warning(s): {warnings}"

def Outcome.status (o : Outcome) : Status where
  phase := .rendered
  message := some o.message
  errors := []
  configHashes := o.hashes
  observedRelease := some o.release

def Outcome.yaml (o : Outcome) : String :=
  String.join (o.objects.map fun m => "---\n" ++ Yaml.text m.toJson)

/-- How many objects carry the name label with that value, an absent one counting as empty. -/
def Outcome.count (o : Outcome) (component : String) : Nat :=
  o.objects.countP fun m =>
    ((m.metadata.labels.bind (·.get? Manifest.nameLabel)).getD "") = component

def Outcome.summary (o : Outcome) : List (List String) :=
  o.hashes.entries.map fun (provider, hash) => [provider, toString (o.count provider), hash]

end Pass
end ClusterNet
