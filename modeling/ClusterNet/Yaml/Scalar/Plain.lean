import ClusterNet.Yaml.Scalar.Gap

/- Scalars without quotes. They end at a colon or comment sign that stands by itself, inside
   brackets also at a comma or bracket, and before a line that is indented less than they have to
   be. -/
namespace ClusterNet.Yaml.Scalar

def isFlowMark (c : Char) : Bool := c ∈ [',', '[', ']', '\x7b', '\x7d']

/-- A colon inside brackets that neither ends the scalar nor may be part of it. -/
def isStrayColon (isFlow : Bool) : List Char → Bool
  | ':' :: c :: _ => isFlow && (isFlowMark c || c = '?')
  | _ => false

def endsPlainWord (isFlow : Bool) : List Char → Bool
  | [] => true
  | c :: rest =>
    isBlank c || isBreak c || (c = ':' && endsWord rest) || (isFlow && isFlowMark c)

def plainWord (isFlow : Bool) : List Char → Option (List Char)
  | [] => some []
  | c :: rest =>
    if endsPlainWord isFlow (c :: rest) then some []
    else if isStrayColon isFlow (c :: rest) then none
    else (plainWord isFlow rest).map (c :: ·)

/-- The rest of a scalar behind a gap: its text, whether a gap with a break came after it, and the
    place behind. -/
def plainRest (isFlow : Bool) (column : Nat) :
    Nat → Gap → Cursor → Option (List Char × Bool × Cursor)
  | 0, _, _ => none
  | fuel + 1, gap, c => do
    if c.atDocumentMark || c.rest.head? = some '#' then return ([], gap.isBroken, c)
    let word ← plainWord isFlow c.rest
    if word.isEmpty then return ([], gap.isBroken, c)
    let behind := c.advance word.length
    if !endsWord behind.rest || behind.rest.isEmpty then return (gap.text ++ word, false, behind)
    let (next, start) ← Gap.read column behind.fuel (.blanks []) behind
    if !isFlow && start.column < column then return (gap.text ++ word, next.isBroken, start)
    let (more, isBroken, stop) ← plainRest isFlow column fuel next start
    return (gap.text ++ word ++ more, isBroken, stop)

def readPlain (isFlow : Bool) (column : Nat) (c : Cursor) : Option (List Char × Bool × Cursor) :=
  plainRest isFlow column c.fuel (.blanks []) c

end ClusterNet.Yaml.Scalar
