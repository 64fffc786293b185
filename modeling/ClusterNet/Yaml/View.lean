import ClusterNet.Yaml.Value

/- Nodes seen as the parts of typed records. A text is taken from any scalar as it is written; only
   what may be unset looks for null, and what is left empty is an empty list or record. -/
namespace ClusterNet.Yaml

/-- A node with the nodes its aliases stand for; a document may hold none. -/
structure View where
  anchors : List (Nat × Node)
  node : Option Node
  deriving Repr

namespace View

def ofDocument (d : Document) : View := ⟨d.anchors, d.root⟩

def read (text : String) : Option View := do return ofDocument (← Document.read text)

def target (v : View) : Option Node :=
  match v.node with
  | some (.alias n) => v.anchors.lookup n
  | node => node

def refused : Except Wire.Fault α := .error .unreadable

/-- Whether a scalar can be of a standard type: it is plain, or a literal block with that tag. -/
def mayBe (type : String) (marks : Marks) (style : ScalarStyle) : Bool :=
  style = .plain || (style = .literal && marks.tag = some ("tag:yaml.org,2002:" ++ type))

def isNull (s : String) : Bool := Plain.resolve s = .null && s ≠ ""

def readText (v : View) : Except Wire.Fault String :=
  match v.target with
  | some (.scalar _ s _) => .ok s
  | _ => refused

def readBoolean (v : View) : Except Wire.Fault Bool :=
  match v.target with
  | some (.scalar marks s style) =>
    match Plain.resolve s with
    | .boolean b => if mayBe "bool" marks style then .ok b else refused
    | _ => refused
  | _ => refused

def readNatural (bound : Nat) (_ : String) (v : View) : Except Wire.Fault Nat :=
  match v.target with
  | some (.scalar marks s style) =>
    match Plain.unsigned? s.toList with
    | some n => if mayBe "int" marks style && n < bound then .ok n else refused
    | none => refused
  | _ => refused

def isUnset (v : View) : Except Wire.Fault Bool :=
  match v.target with
  | none => .ok true
  | some (.scalar marks s .plain) =>
    match marks.tag with
    | none => .ok (Plain.resolve s = .null)
    | some tag =>
      if tag ≠ "tag:yaml.org,2002:null" then .ok false
      else if isNull s then .ok true
      else refused
  | some _ => .ok false

def isBlank (v : View) : Bool :=
  match v.target with
  | none => true
  | some (.scalar _ s style) => s = "" && style = .plain
  | some _ => false

def readItems (v : View) : Except Wire.Fault (List View) :=
  match v.target with
  | some (.sequence _ items) => .ok (items.map fun node => ⟨v.anchors, some node⟩)
  | _ => if v.isBlank then .ok [] else refused

def readEntry (anchors : List (Nat × Node)) (entry : Node × Node) :
    Except Wire.Fault (String × View) := do
  return (← readText ⟨anchors, some entry.1⟩, ⟨anchors, some entry.2⟩)

def readEntries (v : View) : Except Wire.Fault (List (String × View)) :=
  match v.target with
  | some (.mapping _ entries) => entries.mapM (readEntry v.anchors)
  | _ => if v.isBlank then .ok [] else refused

/-- A tag with nothing behind it names an alternative, and so does a scalar without a tag. -/
def readChoice (_ : List String) (v : View) : Except Wire.Fault String :=
  match v.target with
  | some (.scalar marks s style) =>
    match Value.ownTag? marks.tag with
    | some name => if style = .plain && Plain.resolve s = .null then .ok name else refused
    | none => .ok s
  | _ => refused

instance : Wire.Format View where
  text := readText
  boolean := readBoolean
  natural := readNatural
  isUnset := isUnset
  items := readItems
  entries := readEntries
  record _ v := (readEntries v).map .named
  choice := readChoice

end View
end ClusterNet.Yaml
