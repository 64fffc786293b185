import ClusterNet.Text.Quoted
import ClusterNet.Decimal.Shortest

/- Why a document does not fit a type. -/
namespace ClusterNet.Wire

inductive Found where
  | unit
  | boolean (value : Bool)
  | integer (value : Int)
  | real (value : Decimal.Binary64)
  | text (value : String)
  | sequence
  | map
  deriving DecidableEq, Repr

def Found.describe : Found → String
  | .unit => "null"
  | .boolean value => s!"boolean `{value}`"
  | .integer value => s!"integer `{value}`"
  | .real value => s!"floating point `{Decimal.plainLayout.write value}`"
  | .text value => "string " ++ Text.quoted value
  | .sequence => "sequence"
  | .map => "map"

inductive Fault where
  | invalidType (found : Found) (expected : String)
  | invalidValue (found : Found) (expected : String)
  | invalidLength (length : Nat) (expected : String)
  | missingField (name : String)
  | duplicateField (name : String)
  | unknownVariant (name : String) (known : List String)
  | unreadable
  deriving DecidableEq, Repr

def backquoted (name : String) : String := "`" ++ name ++ "`"

def listed : List String → String
  | [] => "there are no variants"
  | [one] => "expected " ++ backquoted one
  | [one, two] => s!"expected {backquoted one} or {backquoted two}"
  | names => "expected one of " ++ ", ".intercalate (names.map backquoted)

def Fault.message : Fault → String
  | .invalidType found expected => s!"invalid type: {found.describe}, expected {expected}"
  | .invalidValue found expected => s!"invalid value: {found.describe}, expected {expected}"
  | .invalidLength length expected => s!"invalid length {length}, expected {expected}"
  | .missingField name => "missing field " ++ backquoted name
  | .duplicateField name => "duplicate field " ++ backquoted name
  | .unknownVariant name known => s!"unknown variant {backquoted name}, {listed known}"
  | .unreadable => "unreadable document"

end ClusterNet.Wire
