import ClusterNet.Wire.Format

/- JSON values as documents: null is unset, a record may be an object or a list of its fields, and
   an alternative may be an object with its name as the only key. -/
namespace ClusterNet.Wire

def found : Json → Found
  | .null => .unit
  | .boolean b => .boolean b
  | .number (.integer n) => .integer n
  | .number (.real x) => .real x
  | .text s => .text s
  | .list _ => .sequence
  | .object _ => .map

def mismatch (json : Json) (expected : String) : Except Fault α :=
  .error (.invalidType (found json) expected)

def jsonText : Json → Except Fault String
  | .text s => .ok s
  | json => mismatch json "a string"

def jsonBoolean : Json → Except Fault Bool
  | .boolean b => .ok b
  | json => mismatch json "a boolean"

def jsonNatural (bound : Nat) (name : String) : Json → Except Fault Nat
  | .number (.integer n) =>
    if 0 ≤ n ∧ n < bound then .ok n.toNat else .error (.invalidValue (.integer n) name)
  | json => mismatch json name

def jsonItems : Json → Except Fault (List Json)
  | .list items => .ok items
  | json => mismatch json "a sequence"

def jsonEntries : Json → Except Fault (List (String × Json))
  | .object entries => .ok entries
  | json => mismatch json "a map"

def jsonRecord (type : String) : Json → Except Fault (Record Json)
  | .object entries => .ok (.named entries)
  | .list items => .ok (.positional items)
  | json => mismatch json s!"struct {type}"

def jsonVariant (names : List String) (name : String) (content : Json) : Except Fault String :=
  if name ∉ names then .error (.unknownVariant name names)
  else if content = .null then .ok name
  else mismatch content "unit"

def jsonChoice (names : List String) : Json → Except Fault String
  | .text name => jsonVariant names name .null
  | .object [(name, content)] => jsonVariant names name content
  | .object _ => .error (.invalidValue .map "map with a single key")
  | json => mismatch json "string or map"

instance : Format Json where
  text := jsonText
  boolean := jsonBoolean
  natural := jsonNatural
  isUnset json := .ok (json = .null)
  items := jsonItems
  entries := jsonEntries
  record := jsonRecord
  choice := jsonChoice

end ClusterNet.Wire
