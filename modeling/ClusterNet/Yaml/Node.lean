import ClusterNet.Yaml.Token.Scan

/- The nodes of a YAML document, from its tokens. Anchors are numbered by how many names have been
   seen before; a number that is used again stands for the later node. -/
namespace ClusterNet.Yaml

structure Marks where
  anchor : Option Nat
  tag : Option String
  deriving DecidableEq, Repr

inductive Node where
  | alias (anchor : Nat)
  | scalar (marks : Marks) (text : String) (style : ScalarStyle)
  | sequence (marks : Marks) (items : List Node)
  | mapping (marks : Marks) (entries : List (Node × Node))
  deriving Repr

namespace Node

def unmarked : Marks := ⟨none, none⟩

def empty (marks : Marks) : Node := .scalar marks "" .plain

/-- The tag that leaves open what a scalar is does not count. -/
def ofScalar (marks : Marks) (text : String) (style : ScalarStyle) : Node :=
  .scalar (if marks.tag = some "!" then { marks with tag := none } else marks) text style

/-- The tokens ahead, the numbers of the anchors by name, and what the handles of tags stand for. -/
structure Source where
  tokens : List Token
  anchors : List (String × Nat)
  handles : List (String × String)
  deriving DecidableEq, Repr

abbrev Reading := StateT Source Option

def defaultHandles : List (String × String) := [("!", "!"), ("!!", "tag:yaml.org,2002:")]

def peek : Reading (Option Token) := return (← get).tokens.head?

def skip : Reading Unit := modify fun s => { s with tokens := s.tokens.tail }

def anchor? : Reading (Option String) := do
  match ← peek with
  | some (.anchor name) => skip; return some name
  | _ => return none

def tag? : Reading (Option String) := do
  match ← peek with
  | some (.tag "" suffix) => skip; return some suffix
  | some (.tag handle suffix) =>
    match (← get).handles.lookup handle with
    | some replacement => skip; return some (replacement ++ suffix)
    | none => failure
  | _ => return none

def number (name : String) : Reading Nat := do
  let s ← get
  let n := ((s.anchors.map Prod.fst).eraseDups).length
  set { s with anchors := (name, n) :: s.anchors }
  return n

def marks : Reading Marks := do
  let first ← anchor?
  let tag ← tag?
  let name ← if first.isSome then pure first else anchor?
  match name with
  | some name => return ⟨some (← number name), tag⟩
  | none => return ⟨none, tag⟩

/-- Annotations without a node annotate an empty scalar. -/
def bare (marks : Marks) : Reading Node :=
  if marks.anchor.isSome || marks.tag.isSome then return empty marks else failure

mutual

/-- A node. Inside brackets it is no block collection; as a key or value in a block mapping it may
    be a list that is not indented. -/
def read : Nat → (isBlock isValue : Bool) → Reading Node
  | 0, _, _ => failure
  | fuel + 1, isBlock, isValue => do
    match ← peek with
    | some (.alias name) =>
      match (← get).anchors.lookup name with
      | some n => skip; return .alias n
      | none => failure
    | _ =>
      let marks ← marks
      match ← peek with
      | some .dash => if isValue then return .sequence marks (← readDashes fuel) else bare marks
      | some (.scalar text style) => skip; return ofScalar marks text style
      | some .flowSequence => skip; return .sequence marks (← readFlowItems fuel true)
      | some .flowMapping => skip; return .mapping marks (← readFlowEntries fuel true)
      | some .blockSequence =>
        if isBlock then skip; return .sequence marks (← readItems fuel) else bare marks
      | some .blockMapping =>
        if isBlock then skip; return .mapping marks (← readEntries fuel) else bare marks
      | _ => bare marks

def readOptional : Nat → (ends : List Token) → (isBlock isValue : Bool) → Reading Node
  | 0, _, _, _ => failure
  | fuel + 1, ends, isBlock, isValue => do
    match ← peek with
    | some token => if token ∈ ends then return empty unmarked else read fuel isBlock isValue
    | none => read fuel isBlock isValue

def readItems : Nat → Reading (List Node)
  | 0 => failure
  | fuel + 1 => do
    match ← peek with
    | some .dash =>
      skip
      let item ← readOptional fuel [.dash, .blockEnd] true false
      return item :: (← readItems fuel)
    | some .blockEnd => skip; return []
    | _ => failure

def readDashes : Nat → Reading (List Node)
  | 0 => failure
  | fuel + 1 => do
    match ← peek with
    | some .dash =>
      skip
      let item ← readOptional fuel [.dash, .key, .value, .blockEnd] true false
      return item :: (← readDashes fuel)
    | _ => return []

def readEntries : Nat → Reading (List (Node × Node))
  | 0 => failure
  | fuel + 1 => do
    match ← peek with
    | some .key =>
      skip
      let key ← readOptional fuel [.key, .value, .blockEnd] true true
      let value ← readValue fuel [.key, .value, .blockEnd] true
      return (key, value) :: (← readEntries fuel)
    | some .blockEnd => skip; return []
    | _ => failure

def readValue : Nat → (ends : List Token) → (isBlock : Bool) → Reading Node
  | 0, _, _ => failure
  | fuel + 1, ends, isBlock => do
    match ← peek with
    | some .value => skip; readOptional fuel ends isBlock isBlock
    | _ => return empty unmarked

def readFlowItems : Nat → (isFirst : Bool) → Reading (List Node)
  | 0, _ => failure
  | fuel + 1, isFirst => do
    if (← peek) = some .flowSequenceEnd then skip; return []
    if !isFirst then
      if (← peek) = some .comma then skip else failure
    match ← peek with
    | some .flowSequenceEnd => skip; return []
    | some .key =>
      skip
      let item ← readPair fuel
      return item :: (← readFlowItems fuel false)
    | _ =>
      let item ← read fuel false false
      return item :: (← readFlowItems fuel false)

/-- A mapping of one entry inside a list in brackets. Where its key is missing, what follows the
    mark is dropped. -/
def readPair : Nat → Reading Node
  | 0 => failure
  | fuel + 1 => do
    match ← peek with
    | some .value | some .comma | some .flowSequenceEnd =>
      skip
      let value ← readValue fuel [.comma, .flowSequenceEnd] false
      return .mapping unmarked [(empty unmarked, value)]
    | _ =>
      let key ← read fuel false false
      let value ← readValue fuel [.comma, .flowSequenceEnd] false
      return .mapping unmarked [(key, value)]

def readFlowEntries : Nat → (isFirst : Bool) → Reading (List (Node × Node))
  | 0, _ => failure
  | fuel + 1, isFirst => do
    if (← peek) = some .flowMappingEnd then skip; return []
    if !isFirst then
      if (← peek) = some .comma then skip else failure
    match ← peek with
    | some .flowMappingEnd => skip; return []
    | some .key =>
      skip
      let key ← readOptional fuel [.value, .comma, .flowMappingEnd] false false
      let value ← readValue fuel [.comma, .flowMappingEnd] false
      return (key, value) :: (← readFlowEntries fuel false)
    | _ =>
      let key ← read fuel false false
      return (key, empty unmarked) :: (← readFlowEntries fuel false)

end

end Node
end ClusterNet.Yaml
