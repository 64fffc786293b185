/- The tokens of a YAML text. -/
namespace ClusterNet.Yaml

inductive ScalarStyle where
  | plain
  | quoted
  | literal
  | folded
  deriving DecidableEq, Repr

inductive Token where
  | version (major minor : Nat)
  | tagHandle (handle replacement : String)
  | documentStart
  | documentEnd
  | blockSequence
  | blockMapping
  | blockEnd
  | flowSequence
  | flowSequenceEnd
  | flowMapping
  | flowMappingEnd
  | dash
  | comma
  | key
  | value
  | alias (name : String)
  | anchor (name : String)
  | tag (handle suffix : String)
  | scalar (text : String) (style : ScalarStyle)
  deriving DecidableEq, Repr

/-- A mapping key that shows only at the colon behind it: the number of its first token, and whether
    a block mapping starts there. -/
structure LateKey where
  token : Nat
  startsMapping : Bool
  deriving DecidableEq, Repr

def LateKey.tokens (k : LateKey) : List Token :=
  if k.startsMapping then [.blockMapping, .key] else [.key]

/-- Tokens from a number on, with late keys, in the order of the text, in front of their first
    tokens. -/
def Token.withKeys : List LateKey → Nat → List Token → List Token
  | _, _, [] => []
  | [], _, tokens => tokens
  | k :: keys, number, token :: rest =>
    if k.token = number then k.tokens ++ token :: withKeys keys (number + 1) rest
    else token :: withKeys (k :: keys) (number + 1) rest

end ClusterNet.Yaml
