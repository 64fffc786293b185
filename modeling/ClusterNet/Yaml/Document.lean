import ClusterNet.Yaml.Node

/- A text holds one document: a node, or nothing at all. -/
namespace ClusterNet.Yaml

open Node in
/-- The directives in front of a document: a known version at most once, and each handle at most
    once. -/
def readDirectives : Nat → (hasVersion : Bool) → (handles : List (String × String)) →
    Reading (List (String × String))
  | 0, _, _ => failure
  | fuel + 1, hasVersion, handles => do
    match ← peek with
    | some (.version major minor) =>
      if hasVersion || major ≠ 1 || (minor ≠ 1 && minor ≠ 2) then failure
      else skip; readDirectives fuel true handles
    | some (.tagHandle handle replacement) =>
      if (handles.lookup handle).isSome then failure
      else skip; readDirectives fuel hasVersion ((handle, replacement) :: handles)
    | _ => return handles

namespace Token

def isDirective : Token → Bool
  | .version .. | .tagHandle .. => true
  | _ => false

def isDocumentMark (token : Token) : Bool := token = .documentStart || token = .documentEnd

end Token

def fuelFor (tokens : List Token) : Nat := 4 * tokens.length + 8

open Node in
def readContent (fuel : Nat) : Reading Node := do
  match ← peek with
  | some token =>
    if token.isDirective || token.isDocumentMark then return empty unmarked
    else Node.read fuel true false
  | none => return empty unmarked

open Node in
def readRoot (fuel : Nat) : Reading Node := do
  if (← peek).any fun token => token.isDirective || token = .documentStart then
    let handles ← readDirectives fuel false []
    modify fun s => { s with handles := handles ++ defaultHandles }
    if (← peek) ≠ some .documentStart then failure
    skip
    readContent fuel
  else Node.read fuel true false

structure Document where
  root : Option Node
  anchors : List (Nat × Node)
  deriving Repr

namespace Node

mutual

def anchored : Node → List (Nat × Node)
  | .alias _ => []
  | .scalar marks text style => own marks (.scalar marks text style)
  | .sequence marks items => own marks (.sequence marks items) ++ anchoredItems items
  | .mapping marks entries => own marks (.mapping marks entries) ++ anchoredEntries entries
where
  own (marks : Marks) (node : Node) : List (Nat × Node) :=
    (marks.anchor.map fun n => (n, node)).toList

def anchoredItems : List Node → List (Nat × Node)
  | [] => []
  | item :: rest => anchored item ++ anchoredItems rest

def anchoredEntries : List (Node × Node) → List (Nat × Node)
  | [] => []
  | (key, value) :: rest => anchored key ++ anchored value ++ anchoredEntries rest

end

mutual

/-- How long a node is: each scalar and alias counts once, each collection twice. -/
def weight : Node → Nat
  | .alias _ => 1
  | .scalar .. => 1
  | .sequence _ items => 2 + weightItems items
  | .mapping _ entries => 2 + weightEntries entries

def weightItems : List Node → Nat
  | [] => 0
  | item :: rest => weight item + weightItems rest

def weightEntries : List (Node × Node) → Nat
  | [] => 0
  | (key, value) :: rest => weight key + weight value + weightEntries rest

end

end Node

namespace Document

def ofTokens (tokens : List Token) : Option Document := do
  if tokens.isEmpty then return ⟨none, []⟩
  let (root, rest) ← (readRoot (fuelFor tokens)).run ⟨tokens, [], Node.defaultHandles⟩
  if rest.tokens.all (· = .documentEnd) then return ⟨some root, root.anchored.reverse⟩ else none

def read (text : String) : Option Document := do ofTokens (← Token.scan text)

end Document
end ClusterNet.Yaml
