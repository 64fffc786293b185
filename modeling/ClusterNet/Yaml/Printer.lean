import ClusterNet.Yaml.Character
import ClusterNet.Yaml.Plain
import ClusterNet.Json.Basic

/- YAML text of a value in block style: two spaces a level, lists under a key not indented, no
   folding. A scalar is plain where that is read back as the same text, else single quoted; line
   feeds make a literal block and what does not show makes double quotes. -/
namespace ClusterNet.Yaml

def hasLeadingIndicator : List Char → Bool
  | [] => false
  | c :: rest =>
    isIndicator c || ((c = '?' || c = ':' || c = '-') && endsWord rest)

def hasInnerIndicator : List Char → Bool
  | [] => false
  | [_] => false
  | a :: b :: rest =>
    (b = ':' && endsWord rest) || (b = '#' && endsWord [a]) || hasInnerIndicator (b :: rest)

/-- Two neighbouring characters of which the first and the second satisfy given tests. -/
def hasPair (first second : Char → Bool) : List Char → Bool
  | a :: b :: rest => (first a && second b) || hasPair first second (b :: rest)
  | _ => false

inductive Style where
  | plain
  | single
  | double
  | literal
  deriving DecidableEq, Repr

def hasSpecial (cs : List Char) : Bool := hasPair isSpace isBreak cs || !cs.all isPrintable

def plainAllowed (cs : List Char) : Bool :=
  !(cs.head?.any fun c => isSpace c || isBreak c)
    && !(cs.getLast?.any fun c => isSpace c || isBreak c)
    && !hasPair isBreak isSpace cs && !hasSpecial cs && !cs.any isBreak
    && !hasDocumentMark cs && !hasLeadingIndicator cs && !hasInnerIndicator cs

def singleAllowed (cs : List Char) : Bool := !hasPair isBreak isSpace cs && !hasSpecial cs

def literalAllowed (cs : List Char) : Bool := !(cs.getLast?.any isSpace) && !hasSpecial cs

def style (s : String) : Style :=
  let cs := s.toList
  if '\n' ∈ cs then if literalAllowed cs then .literal else .double
  else if !Plain.isAmbiguous s && plainAllowed cs then .plain
  else if singleAllowed cs then .single
  else .double

def upperHex (width n : Nat) : List Char :=
  let digits := (Nat.toDigits 16 n).map Char.toUpper
  List.replicate (width - digits.length) '0' ++ digits

def doubleChar (c : Char) : List Char :=
  if isPrintable c && !isBreak c && c ≠ '"' && c ≠ '\\' then [c]
  else match escapes.find? (·.1 = c) with
    | some (_, letter) => ['\\', letter]
    | none =>
      let n := c.toNat
      if n ≤ 0xFF then '\\' :: 'x' :: upperHex 2 n
      else if n ≤ 0xFFFF then '\\' :: 'u' :: upperHex 4 n
      else '\\' :: 'U' :: upperHex 8 n

def indentation (n : Nat) : List Char := List.replicate n ' '

/-- Single quotes are written twice; after a break the next line is indented. -/
def singleChars (indent : Nat) : Bool → List Char → List Char
  | broken, [] => if broken then indentation indent else []
  | broken, c :: cs =>
    if isBreak c then c :: singleChars indent true cs
    else
      (if broken then indentation indent else [])
        ++ (if c = '\'' then ['\'', '\''] else [c]) ++ singleChars indent false cs

/-- The lines of a literal block; empty lines are not indented. -/
def literalChars (indent : Nat) : Bool → List Char → List Char
  | _, [] => []
  | broken, c :: cs =>
    if isBreak c then c :: literalChars indent true cs
    else (if broken then indentation indent else []) ++ c :: literalChars indent false cs

/-- How many breaks end the text matters: none is marked, more than one is, and so is a text that is
    a single break. -/
def chomping (cs : List Char) : List Char :=
  match cs.reverse with
  | [] => ['-']
  | [c] => if isBreak c then ['+'] else ['-']
  | c :: d :: _ => if !isBreak c then ['-'] else if isBreak d then ['+'] else []

def literalHeader (cs : List Char) : List Char :=
  '|' :: (if cs.head?.any (fun c => isSpace c || isBreak c) then ['2'] else []) ++ chomping cs

def endLine (cs : List Char) : List Char := if cs.getLast?.any isBreak then [] else ['\n']

def writeScalar (indent : Nat) (s : String) : List Char :=
  let cs := s.toList
  match style s with
  | .plain => ' ' :: cs ++ ['\n']
  | .single => [' ', '\''] ++ singleChars indent false cs ++ ['\'', '\n']
  | .double => [' ', '"'] ++ cs.flatMap doubleChar ++ ['"', '\n']
  | .literal => ' ' :: literalHeader cs ++ '\n' :: literalChars indent true cs ++ endLine cs

/-- Keys that fit into one line of at most 128 bytes are followed by their value on that line. -/
def isSimpleKey (s : String) : Bool := !s.toList.any isBreak && s.utf8ByteSize ≤ 128

def writeSimpleKey (s : String) : List Char :=
  let cs := s.toList
  match style s with
  | .plain => cs
  | .single => '\'' :: singleChars 0 false cs ++ ['\'']
  | .double | .literal => '"' :: cs.flatMap doubleChar ++ ['"']

def numberText : Number → String
  | .integer n => toString n
  | .real x => Decimal.yamlLayout.write x

/-- Where a value stands: under a simple key, or behind the dash of an item or the colon of a long
    key, where a nested list or object starts on the same line. -/
inductive Place where
  | underKey
  | afterMark
  deriving DecidableEq, Repr

def keyPlace (key : String) : Place := if isSimpleKey key then .underKey else .afterMark

def writeKey (indent : Nat) (key : String) : List Char :=
  if isSimpleKey key then writeSimpleKey key ++ [':']
  else '?' :: writeScalar (indent + 2) key ++ indentation indent ++ [':']

def listIndent : Place → Nat → Nat
  | .underKey, indent => indent
  | .afterMark, indent => indent + 2

def lead : Place → Nat → List Char
  | .underKey, indent => '\n' :: indentation indent
  | .afterMark, _ => [' ']

mutual

def writeNode (place : Place) (indent : Nat) : Json → List Char
  | .list [] => [' ', '[', ']', '\n']
  | .list (item :: rest) =>
    lead place (listIndent place indent)
      ++ '-' :: writeNode .afterMark (listIndent place indent) item
      ++ writeItems (listIndent place indent) rest
  | .object [] => [' ', '\x7b', '\x7d', '\n']
  | .object ((key, value) :: rest) =>
    lead place (indent + 2) ++ writeKey (indent + 2) key
      ++ writeNode (keyPlace key) (indent + 2) value ++ writeEntries (indent + 2) rest
  | .null => ' ' :: "null".toList ++ ['\n']
  | .boolean b => ' ' :: (toString b).toList ++ ['\n']
  | .number n => ' ' :: (numberText n).toList ++ ['\n']
  | .text s => writeScalar (indent + 2) s

def writeItems (indent : Nat) : List Json → List Char
  | [] => []
  | item :: rest =>
    indentation indent ++ '-' :: writeNode .afterMark indent item ++ writeItems indent rest

def writeEntries (indent : Nat) : List (String × Json) → List Char
  | [] => []
  | (key, value) :: rest =>
    indentation indent ++ writeKey indent key ++ writeNode (keyPlace key) indent value
      ++ writeEntries indent rest

end

def write : Json → List Char
  | .list (item :: rest) => writeItems 0 (item :: rest)
  | .object (entry :: rest) => writeEntries 0 (entry :: rest)
  | scalar => (writeNode .afterMark 0 scalar).drop 1

def text (json : Json) : String := String.ofList (write json)

end ClusterNet.Yaml
