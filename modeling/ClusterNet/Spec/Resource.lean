import ClusterNet.Spec.Wire
import ClusterNet.Status
import ClusterNet.Timestamp
import ClusterNet.Yaml.Value

/- A spec by itself, or inside the resource that holds it with its metadata and status. What has a
   kind is a resource. The metadata has to be well formed, but nothing is taken from it. -/
namespace ClusterNet.Resource

open Wire Wire.Fields Yaml

abbrev Reader (α : Type) := Value → Except Fault α

def integer : Reader Int := fun value =>
  match value.untagged with
  | .integer n => if -(Nat.pow 2 63 : Int) ≤ n ∧ n < Nat.pow 2 63 then .ok n else .error .unreadable
  | _ => .error .unreadable

def time : Reader Timestamp.Moment := fun value => do
  match Timestamp.read (← Format.text value) with
  | some moment => return moment
  | none => .error .unreadable

def isText (value : Value) : Bool :=
  match value.untagged with
  | .text _ => true
  | _ => false

mutual

def isFreeForm : Value → Bool
  | .tagged .. => false
  | .list items => areFreeForm items
  | .mapping entries => haveTextKeys entries
  | _ => true

def areFreeForm : List Value → Bool
  | [] => true
  | item :: rest => isFreeForm item && areFreeForm rest

def haveTextKeys : List (Value × Value) → Bool
  | [] => true
  | (key, value) :: rest =>
    isText key && isFreeForm value && haveTextKeys rest

end

def freeForm : Reader Unit := fun value =>
  if isFreeForm value then .ok () else .error .unreadable

def fits (name : String) (read : Reader α) : Fields Value Unit :=
  (fun _ => ()) <$> optional 0 name read

def record (fields : List (Fields Value Unit)) : Reader Unit :=
  readRecord "" fields.length <|
    fields.foldr (fun field rest => (fun _ _ => ()) <$> field <*> rest) (pure ())

def texts (names : List String) : List (Fields Value Unit) :=
  names.map fun name => fits name (Format.text (ν := Value))

def manager : Reader Unit :=
  record (fits "fieldsV1" freeForm :: fits "time" time
    :: texts ["apiVersion", "fieldsType", "manager", "operation", "subresource"])

def owner : Reader Unit :=
  record (fits "blockOwnerDeletion" (Format.boolean (ν := Value))
    :: fits "controller" (Format.boolean (ν := Value))
    :: texts ["apiVersion", "kind", "name", "uid"])

def metadata : Reader Unit :=
  record ([
    fits "annotations" (readDict (Format.text (ν := Value))),
    fits "creationTimestamp" time,
    fits "deletionGracePeriodSeconds" integer,
    fits "deletionTimestamp" time,
    fits "finalizers" readTexts,
    fits "generation" integer,
    fits "labels" (readDict (Format.text (ν := Value))),
    fits "managedFields" (readList manager),
    fits "ownerReferences" (readList owner)]
    ++ texts ["generateName", "name", "namespace", "resourceVersion", "selfLink", "uid"])

def read : Reader Spec :=
  readRecord "LatticeNetwork" 3 <|
    (fun _ spec _ => spec) <$> required 0 "metadata" metadata
      <*> required 1 "spec" Spec.read
      <*> optional 2 "status" Status.read

def hasKind (value : Value) : Bool :=
  match value.untagged with
  | .mapping entries => entries.any fun (key, _) => match key with
    | .text name => name = "kind"
    | _ => false
  | _ => false

/-- The spec in a document, with or without a resource around it. -/
def specOf : Reader Spec := fun value => if hasKind value then read value else Spec.read value

end ClusterNet.Resource
