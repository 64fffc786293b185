import ClusterNet.Yaml.Document
import ClusterNet.Wire.Format

/- Values of YAML documents whose plain scalars are resolved: what is not quoted may be null, a
   boolean or a number. As documents, unset is null, null is also an empty list or record, and an
   alternative is a text or a tag. -/
namespace ClusterNet.Yaml

inductive Value where
  | null
  | boolean (value : Bool)
  | integer (value : Int)
  | real (value : Decimal.Binary64)
  | infinite (negative : Bool)
  | notNumber
  | text (value : String)
  | list (items : List Value)
  | mapping (entries : List (Value × Value))
  | tagged (tag : String) (content : Value)
  deriving Repr

namespace Value

mutual

def same : Value → Value → Bool
  | .null, .null => true
  | .boolean a, .boolean b => a = b
  | .integer a, .integer b => a = b
  | .real a, .real b => a = b || (a.magnitude = 0 && b.magnitude = 0)
  | .infinite a, .infinite b => a = b
  | .notNumber, .notNumber => true
  | .text a, .text b => a = b
  | .list a, .list b => sameItems a b
  | .mapping a, .mapping b => sameEntries a b
  | .tagged t a, .tagged u b => t = u && same a b
  | _, _ => false

def sameItems : List Value → List Value → Bool
  | [], [] => true
  | a :: as, b :: bs => same a b && sameItems as bs
  | _, _ => false

def sameEntries : List (Value × Value) → List (Value × Value) → Bool
  | [], [] => true
  | (k, a) :: as, (l, b) :: bs => same k l && same a b && sameEntries as bs
  | _, _ => false

end

/-- The value of a plain scalar; integers have at most 64 bits. -/
def ofPlain (s : String) : Option Value :=
  match Plain.resolve s with
  | .null => some .null
  | .boolean b => some (.boolean b)
  | .integer n => some (.integer n)
  | .hugeInteger _ => none
  | .real x => some (.real x)
  | .infinite negative => some (.infinite negative)
  | .notNumber => some .notNumber
  | .text => some (.text s)

def ownTag? (tag : Option String) : Option String :=
  match tag.map String.toList with
  | some ('!' :: name) => some (String.ofList name)
  | _ => none

/-- A scalar of a standard type has to be written as one of that type; other tags make a text. -/
def ofStandard (tag s : String) : Option Value :=
  if tag = "tag:yaml.org,2002:bool" then
    match Plain.resolve s with
    | .boolean b => some (.boolean b)
    | _ => none
  else if tag = "tag:yaml.org,2002:int" then
    match Plain.integer? s.toList with
    | some (.integer n) => some (.integer n)
    | _ => none
  else if tag = "tag:yaml.org,2002:float" then
    match Plain.real? s.toList with
    | some (.real x) => some (.real x)
    | some (.infinite negative) => some (.infinite negative)
    | some .notNumber => some .notNumber
    | _ => none
  else if tag = "tag:yaml.org,2002:null" then
    if Plain.resolve s = .null ∧ s ≠ "" then some .null else none
  else some (.text s)

def underTag (tag : Option String) (value : Value) : Option Value :=
  match ownTag? tag with
  | some name => if name.isEmpty then none else some (.tagged name value)
  | none => some value

def ofScalar (tag : Option String) (s : String) (style : ScalarStyle) : Option Value :=
  match tag, ownTag? tag with
  | some tag, none => ofStandard tag s
  | tag, _ => do underTag tag (← if style = .plain then ofPlain s else some (.text s))

/-- Reading counts how many aliases may still be followed. -/
abbrev Expanding := StateT Nat Option

def follow (anchors : List (Nat × Node)) : Node → Expanding Node
  | .alias n => do
    match ← get with
    | 0 => failure
    | left + 1 =>
      set left
      match anchors.lookup n with
      | some node => return node
      | none => failure
  | node => return node

mutual

/-- The value of a node, in which collections are nested at most so deep. -/
def ofNode (anchors : List (Nat × Node)) (depth : Nat) (node : Node) : Expanding Value := do
  match ← follow anchors node with
  | .alias _ => failure
  | .scalar marks s style => StateT.lift (ofScalar marks.tag s style)
  | .sequence marks items =>
    match depth with
    | 0 => failure
    | depth + 1 => StateT.lift (underTag marks.tag (.list (← ofItems anchors depth items)))
  | .mapping marks entries =>
    match depth with
    | 0 => failure
    | depth + 1 =>
      StateT.lift (underTag marks.tag (.mapping (← ofEntries anchors depth [] entries)))
termination_by (depth, 0)

def ofItems (anchors : List (Nat × Node)) (depth : Nat) : List Node → Expanding (List Value)
  | [] => return []
  | item :: rest => do
    let value ← ofNode anchors depth item
    return value :: (← ofItems anchors depth rest)
termination_by items => (depth, items.length + 1)

/-- No key may be the same as one before it. -/
def ofEntries (anchors : List (Nat × Node)) (depth : Nat) (seen : List Value) :
    List (Node × Node) → Expanding (List (Value × Value))
  | [] => return []
  | (key, value) :: rest => do
    let key ← ofNode anchors depth key
    if seen.any (same key) then failure
    let value ← ofNode anchors depth value
    return (key, value) :: (← ofEntries anchors depth (key :: seen) rest)
termination_by entries => (depth, entries.length + 1)

end

/-- An alias may be followed a hundred times for each part of the document. -/
def ofDocument (d : Document) : Option Value :=
  match d.root with
  | none => some .null
  | some root => ((ofNode d.anchors 128 root).run (100 * root.weight)).map Prod.fst

def read (text : String) : Option Value := do ofDocument (← Document.read text)

def untagged : Value → Value
  | .tagged _ content => untagged content
  | value => value

def refused : Except Wire.Fault α := .error .unreadable

def readText (value : Value) : Except Wire.Fault String :=
  match value.untagged with
  | .text s => .ok s
  | _ => refused

def readBoolean (value : Value) : Except Wire.Fault Bool :=
  match value.untagged with
  | .boolean b => .ok b
  | _ => refused

def readNatural (bound : Nat) (_ : String) (value : Value) : Except Wire.Fault Nat :=
  match value.untagged with
  | .integer n => if 0 ≤ n ∧ n < bound then .ok n.toNat else refused
  | _ => refused

def readItems (value : Value) : Except Wire.Fault (List Value) :=
  match value.untagged with
  | .list items => .ok items
  | .null => .ok []
  | _ => refused

def readEntries (value : Value) : Except Wire.Fault (List (String × Value)) :=
  match value.untagged with
  | .mapping entries => entries.mapM fun (key, value) => do return (← readText key, value)
  | .null => .ok []
  | _ => refused

def readChoice (_ : List String) : Value → Except Wire.Fault String
  | .text name => .ok name
  | .tagged name .null => .ok name
  | _ => refused

instance : Wire.Format Value where
  text := readText
  boolean := readBoolean
  natural := readNatural
  isUnset
    | .null => .ok true
    | _ => .ok false
  items := readItems
  entries := readEntries
  record _ value := (readEntries value).map .named
  choice := readChoice

end Value
end ClusterNet.Yaml
