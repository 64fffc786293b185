import ClusterNet.Yaml.Cursor
import ClusterNet.Yaml.Plain
import ClusterNet.Yaml.Token

/- Reading what annotates nodes and documents: anchors, tags and directives. -/
namespace ClusterNet.Yaml.Token

/-- The characters of tags; in angle brackets and in directives also those that end items. -/
def isTagChar (isVerbatim : Bool) (c : Char) : Bool :=
  isNameChar c
    || c ∈ [';', '/', '?', ':', '@', '&', '=', '+', '$', '.', '%', '!', '~', '*', '\'', '(', ')']
    || (isVerbatim && c ∈ [',', '[', ']'])

def percentDecoded : List Char → Option (List UInt8)
  | '%' :: a :: b :: rest => do
    let byte ← Plain.digits? 16 [a, b]
    return UInt8.ofNat byte :: (← percentDecoded rest)
  | '%' :: _ => none
  | c :: rest => (percentDecoded rest).map ((String.singleton c).toUTF8.toList ++ ·)
  | [] => some []

def decoded (cs : List Char) : Option String := do
  String.fromUTF8? ⟨(← percentDecoded cs).toArray⟩

def readName (c : Cursor) : String × Cursor :=
  let (name, c) := c.span isNameChar
  (String.ofList name, c)

def mayFollowAnchor (cs : List Char) : Bool :=
  endsWord cs || cs.head?.any (· ∈ ['?', ':', ',', ']', '\x7d', '%', '@', '`'])

def readAnchor (c : Cursor) : Option (String × Cursor) :=
  let (name, next) := readName (c.advance 1)
  if name.isEmpty || !mayFollowAnchor next.rest then none else some (name, next)

def readHandle (c : Cursor) : Option (List Char × Cursor) :=
  if c.rest.head? ≠ some '!' then none
  else
    let (name, next) := (c.advance 1).span isNameChar
    if next.rest.head? = some '!' then some ('!' :: name ++ ['!'], next.advance 1)
    else some ('!' :: name, next)

def readVerbatim (c : Cursor) : Option (Token × Cursor) := do
  let (uri, next) := (c.advance 2).span (isTagChar true)
  if uri.isEmpty || next.rest.head? ≠ some '>' then none
  else return (.tag "" (← decoded uri), next.advance 1)

/-- A tag behind a handle, or behind the mark alone; without either it is the mark itself. -/
def readShorthand (c : Cursor) : Option (Token × Cursor) := do
  let (handle, next) ← readHandle c
  let (suffix, stop) := next.span (isTagChar false)
  if 1 < handle.length && handle.getLast? = some '!' then
    if suffix.isEmpty then none else return (.tag (String.ofList handle) (← decoded suffix), stop)
  else
    let suffix := handle.drop 1 ++ suffix
    if suffix.isEmpty then return (.tag "" "!", stop)
    else return (.tag "!" (← decoded suffix), stop)

def readTag (isFlow : Bool) (c : Cursor) : Option (Token × Cursor) := do
  let (token, next) ← if (c.rest.drop 1).head? = some '<' then readVerbatim c else readShorthand c
  if endsWord next.rest || (isFlow && next.rest.head? = some ',') then return (token, next)
  else none

def readVersionNumber (c : Cursor) : Option (Nat × Cursor) := do
  let (digits, next) := c.span Char.isDigit
  if 9 < digits.length then none else return (← Plain.digits? 10 digits, next)

def readVersion (c : Cursor) : Option (Token × Cursor) := do
  let (major, next) ← readVersionNumber (c.skip isBlank)
  if next.rest.head? ≠ some '.' then none
  else
    let (minor, next) ← readVersionNumber (next.advance 1)
    return (.version major minor, next)

def readTagHandle (c : Cursor) : Option (Token × Cursor) := do
  let (handle, next) ← readHandle (c.skip isBlank)
  if handle.getLast? ≠ some '!' then none
  else if !next.rest.head?.any isBlank then none
  else
    let (replacement, stop) := (next.skip isBlank).span (isTagChar true)
    if replacement.isEmpty || !endsWord stop.rest then none
    else return (.tagHandle (String.ofList handle) (← decoded replacement), stop)

def readDirective (c : Cursor) : Option (Token × Cursor) := do
  let (name, next) := readName (c.advance 1)
  if !endsWord next.rest then none
  else
    let (token, next) ← match name with
      | "YAML" => readVersion next
      | "TAG" => readTagHandle next
      | _ => none
    return (token, ← next.finishLine)

end ClusterNet.Yaml.Token
