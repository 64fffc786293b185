import ClusterNet.Json.Basic
import ClusterNet.Decimal.Shortest

/- JSON text: compact, without any space, and indented, two spaces a level. -/
namespace ClusterNet.Json

/-- Quotes, backslashes and control characters below U+0020 are escaped, nothing else. -/
def escapedChar (c : Char) : List Char :=
  if c = '"' then ['\\', '"']
  else if c = '\\' then ['\\', '\\']
  else if c = '\x08' then ['\\', 'b']
  else if c = '\t' then ['\\', 't']
  else if c = '\n' then ['\\', 'n']
  else if c = '\x0c' then ['\\', 'f']
  else if c = '\r' then ['\\', 'r']
  else if c.toNat < 0x20 then
    ['\\', 'u', '0', '0', Nat.digitChar (c.toNat / 16), Nat.digitChar (c.toNat % 16)]
  else [c]

def writeText (s : String) : List Char := '"' :: s.toList.flatMap escapedChar ++ ['"']

def writeNumber : Number → List Char
  | .integer (.ofNat n) => Nat.toDigits 10 n
  | .integer (.negSucc n) => '-' :: Nat.toDigits 10 (n + 1)
  | .real x => (Decimal.jsonLayout.write x).toList

mutual

def write : Json → List Char
  | .null => ['n', 'u', 'l', 'l']
  | .boolean true => ['t', 'r', 'u', 'e']
  | .boolean false => ['f', 'a', 'l', 's', 'e']
  | .number n => writeNumber n
  | .text s => writeText s
  | .list [] => ['[', ']']
  | .list (item :: rest) => '[' :: write item ++ writeItems rest
  | .object [] => ['\x7b', '\x7d']
  | .object ((key, value) :: rest) =>
    '\x7b' :: writeText key ++ ':' :: write value ++ writeEntries rest

def writeItems : List Json → List Char
  | [] => [']']
  | item :: rest => ',' :: write item ++ writeItems rest

def writeEntries : List (String × Json) → List Char
  | [] => ['\x7d']
  | (key, value) :: rest => ',' :: writeText key ++ ':' :: write value ++ writeEntries rest

end

def compact (json : Json) : String := String.ofList json.write

def newLine (level : Nat) : List Char := '\n' :: List.replicate (2 * level) ' '

mutual

def writeIndented (level : Nat) : Json → List Char
  | .null => ['n', 'u', 'l', 'l']
  | .boolean true => ['t', 'r', 'u', 'e']
  | .boolean false => ['f', 'a', 'l', 's', 'e']
  | .number n => writeNumber n
  | .text s => writeText s
  | .list [] => ['[', ']']
  | .list (item :: rest) =>
    '[' :: newLine (level + 1) ++ writeIndented (level + 1) item ++ writeIndentedItems level rest
  | .object [] => ['\x7b', '\x7d']
  | .object ((key, value) :: rest) =>
    '\x7b' :: newLine (level + 1) ++ writeText key ++ ':' :: ' ' :: writeIndented (level + 1) value
      ++ writeIndentedEntries level rest

def writeIndentedItems (level : Nat) : List Json → List Char
  | [] => newLine level ++ [']']
  | item :: rest =>
    ',' :: newLine (level + 1) ++ writeIndented (level + 1) item ++ writeIndentedItems level rest

def writeIndentedEntries (level : Nat) : List (String × Json) → List Char
  | [] => newLine level ++ ['\x7d']
  | (key, value) :: rest =>
    ',' :: newLine (level + 1) ++ writeText key ++ ':' :: ' ' :: writeIndented (level + 1) value
      ++ writeIndentedEntries level rest

end

def indented (json : Json) : String := String.ofList (json.writeIndented 0)

end ClusterNet.Json
