import ClusterNet.Json.Basic

/- Reading JSON text. A failure remembers the text that was left and how many bytes past it had been
   looked at; line and column are worked out from that. Of repeated keys the last one counts. -/
namespace ClusterNet.Json

inductive Cause where
  | endInList | endInObject | endInText | endInValue
  | expectedColon | expectedListEnd | expectedObjectEnd | expectedWord | expectedValue
  | invalidEscape | invalidNumber | numberOutOfRange | controlCharacter | keyNotText
  | loneSurrogate | trailingComma | trailingCharacters | endOfEscape | tooDeep
  deriving DecidableEq, Repr

def Cause.message : Cause → String
  | .endInList => "EOF while parsing a list"
  | .endInObject => "EOF while parsing an object"
  | .endInText => "EOF while parsing a string"
  | .endInValue => "EOF while parsing a value"
  | .expectedColon => "expected `:`"
  | .expectedListEnd => "expected `,` or `]`"
  | .expectedObjectEnd => "expected `,` or `\x7d`"
  | .expectedWord => "expected ident"
  | .expectedValue => "expected value"
  | .invalidEscape => "invalid escape"
  | .invalidNumber => "invalid number"
  | .numberOutOfRange => "number out of range"
  | .controlCharacter => "control character (\\u0000-\\u001F) found while parsing a string"
  | .keyNotText => "key must be a string"
  | .loneSurrogate => "lone leading surrogate in hex escape"
  | .trailingComma => "trailing comma"
  | .trailingCharacters => "trailing characters"
  | .endOfEscape => "unexpected end of hex escape"
  | .tooDeep => "recursion limit exceeded"

structure Failure where
  cause : Cause
  rest : List Char
  ahead : Nat
  deriving DecidableEq, Repr

def fail (cause : Cause) (rest : List Char) (ahead : Nat) : Except Failure α :=
  .error ⟨cause, rest, ahead⟩

def byteLength (cs : List Char) : Nat := cs.foldl (fun n c => n + c.utf8Size) 0

def isSpace (c : Char) : Bool := c = ' ' || c = '\n' || c = '\t' || c = '\r'

def skipSpace (cs : List Char) : List Char := cs.dropWhile isSpace

def readWord : List Char → List Char → Except Failure (List Char)
  | [], cs => .ok cs
  | _ :: _, [] => fail .endInValue [] 0
  | w :: word, c :: cs => if w = c then readWord word cs else fail .expectedWord (c :: cs) 1

def hexDigit? (c : Char) : Option Nat :=
  if '0' ≤ c ∧ c ≤ '9' then some (c.toNat - '0'.toNat)
  else if 'a' ≤ c ∧ c ≤ 'f' then some (c.toNat - 'a'.toNat + 10)
  else if 'A' ≤ c ∧ c ≤ 'F' then some (c.toNat - 'A'.toNat + 10)
  else none

def hexValue? (digits : List Char) : Option Nat :=
  digits.foldl (fun acc c => do return 16 * (← acc) + (← hexDigit? c)) (some 0)

def readCode (cs : List Char) : Except Failure (Nat × List Char) :=
  if byteLength cs < 4 then fail .endInText [] 0
  else match hexValue? (cs.take 4) with
    | some code => .ok (code, cs.drop 4)
    | none => fail .invalidEscape cs 4

def expectInEscape (expected : Char) : List Char → Except Failure (List Char)
  | [] => fail .endInText [] 0
  | c :: cs => if c = expected then .ok cs else fail .endOfEscape (c :: cs) 1

/-- A code, or a pair of codes for a character beyond U+FFFF. -/
def readUnicode (cs : List Char) : Except Failure (Char × List Char) := do
  let (code, cs) ← readCode cs
  if 0xDC00 ≤ code ∧ code ≤ 0xDFFF then fail .loneSurrogate cs 0
  else if 0xD800 ≤ code ∧ code ≤ 0xDBFF then
    let cs ← expectInEscape '\\' cs
    let cs ← expectInEscape 'u' cs
    let (low, cs) ← readCode cs
    if 0xDC00 ≤ low ∧ low ≤ 0xDFFF then
      return (Char.ofNat (0x10000 + (code - 0xD800) * 0x400 + (low - 0xDC00)), cs)
    else fail .loneSurrogate cs 0
  else return (Char.ofNat code, cs)

def readEscape : List Char → Except Failure (Char × List Char)
  | [] => fail .endInText [] 0
  | c :: cs =>
    if c = '"' ∨ c = '\\' ∨ c = '/' then .ok (c, cs)
    else if c = 'b' then .ok ('\x08', cs)
    else if c = 'f' then .ok ('\x0c', cs)
    else if c = 'n' then .ok ('\n', cs)
    else if c = 'r' then .ok ('\r', cs)
    else if c = 't' then .ok ('\t', cs)
    else if c = 'u' then readUnicode cs
    else fail .invalidEscape (c :: cs) 1

def readCharacters : Nat → List Char → Except Failure (List Char × List Char)
  | 0, _ => fail .endInText [] 0
  | _, [] => fail .endInText [] 0
  | fuel + 1, c :: cs =>
    if c = '"' then .ok ([], cs)
    else if c = '\\' then do
      let (read, cs) ← readEscape cs
      let (more, cs) ← readCharacters fuel cs
      return (read :: more, cs)
    else if c.toNat < 0x20 then fail .controlCharacter (c :: cs) 1
    else do
      let (more, cs) ← readCharacters fuel cs
      return (c :: more, cs)

def readText (cs : List Char) : Except Failure (String × List Char) := do
  let (characters, cs) ← readCharacters (cs.length + 1) cs
  return (String.ofList characters, cs)

def digitValue (c : Char) : Nat := c.toNat - '0'.toNat

def maxWord : Nat := Nat.pow 2 64 - 1

def takeDigits (significand : Nat) : List Char → Nat × Nat
  | [] => (significand, 0)
  | c :: cs =>
    let next := 10 * significand + digitValue c
    if next ≤ maxWord then
      let (result, taken) := takeDigits next cs
      (result, taken + 1)
    else (significand, 0)

def maxExponent : Nat := Nat.pow 2 31 - 1

def readExponent (value : Nat) : List Char → Except (List Char) Nat
  | [] => .ok value
  | c :: cs =>
    let next := 10 * value + digitValue c
    if next ≤ maxExponent then readExponent next cs else .error cs

def realOf (negative : Bool) (digits : Nat) (exponent : Int) (rest : List Char) :
    Except Failure (Number × List Char) :=
  match Decimal.Binary64.ofScaled digits exponent with
  | some magnitude => .ok (.real ⟨negative, magnitude⟩, rest)
  | none => fail .numberOutOfRange rest 0

def readScaled (negative : Bool) (significand : Nat) (scale : Int) (cs : List Char) :
    Except Failure (Number × List Char) :=
  let (down, cs) : Bool × List Char := match cs with
    | '+' :: rest => (false, rest)
    | '-' :: rest => (true, rest)
    | rest => (false, rest)
  match cs with
  | [] => fail .endInValue [] 0
  | c :: _ =>
    if !c.isDigit then fail .invalidNumber cs 1
    else
      let digits := cs.takeWhile Char.isDigit
      let rest := cs.dropWhile Char.isDigit
      match readExponent 0 digits with
      | .ok exponent =>
        realOf negative significand (if down then scale - exponent else scale + exponent) rest
      | .error left =>
        if significand ≠ 0 ∧ !down then fail .numberOutOfRange (left ++ rest) 0
        else .ok (.real ⟨negative, 0⟩, rest)

def startsExponent : List Char → Bool
  | c :: _ => c = 'e' || c = 'E'
  | [] => false

/-- A number behind its sign. It is an integer when it has neither fraction nor exponent and fits
    into 64 bits; a negative zero does not. -/
def readNumber (negative : Bool) (cs : List Char) : Except Failure (Number × List Char) :=
  match cs with
  | [] => fail .endInValue [] 0
  | c :: tail =>
    if !c.isDigit then fail .invalidNumber cs 1
    else if c = '0' ∧ tail.head?.any Char.isDigit then fail .invalidNumber tail 1
    else
      let whole := cs.takeWhile Char.isDigit
      let rest := cs.dropWhile Char.isDigit
      let (significand, taken) := takeDigits 0 whole
      let dropped := whole.length - taken
      match rest with
      | '.' :: more =>
        let digits := more.takeWhile Char.isDigit
        let rest := more.dropWhile Char.isDigit
        if digits.isEmpty then
          fail (if rest.isEmpty then .endInValue else .invalidNumber) rest 1
        else
          let (significand, taken) := takeDigits significand digits
          let scale : Int := (dropped : Int) - taken
          if startsExponent rest then readScaled negative significand scale (rest.drop 1)
          else realOf negative significand scale rest
      | rest =>
        if startsExponent rest then readScaled negative significand dropped (rest.drop 1)
        else if dropped ≠ 0 then realOf negative significand dropped rest
        else if !negative then .ok (.integer significand, rest)
        else if significand = 0 ∨ Nat.pow 2 63 < significand then realOf true significand 0 rest
        else .ok (.integer (-(significand : Int)), rest)

mutual

/-- One value; `depth` more lists or objects may be opened. -/
def readValue : Nat → Nat → List Char → Except Failure (Json × List Char)
  | 0, _, _ => fail .endInValue [] 0
  | fuel + 1, depth, cs =>
    match skipSpace cs with
    | [] => fail .endInValue [] 0
    | c :: cs =>
      if c = 'n' then do return (.null, ← readWord ['u', 'l', 'l'] cs)
      else if c = 't' then do return (.boolean true, ← readWord ['r', 'u', 'e'] cs)
      else if c = 'f' then do return (.boolean false, ← readWord ['a', 'l', 's', 'e'] cs)
      else if c = '-' then do
        let (n, cs) ← readNumber true cs
        return (.number n, cs)
      else if c.isDigit then do
        let (n, cs) ← readNumber false (c :: cs)
        return (.number n, cs)
      else if c = '"' then do
        let (s, cs) ← readText cs
        return (.text s, cs)
      else if c = '[' then
        match depth with
        | 0 => fail .tooDeep (c :: cs) 1
        | depth + 1 =>
          match skipSpace cs with
          | [] => fail .endInList [] 0
          | ']' :: cs => .ok (.list [], cs)
          | cs => do
            let (items, cs) ← readItems fuel depth cs
            return (.list items, cs)
      else if c = '\x7b' then
        match depth with
        | 0 => fail .tooDeep (c :: cs) 1
        | depth + 1 =>
          match skipSpace cs with
          | [] => fail .endInObject [] 0
          | '\x7d' :: cs => .ok (.object [], cs)
          | '"' :: cs => do
            let (entries, cs) ← readEntries fuel depth [] cs
            return (.object entries, cs)
          | cs => fail .keyNotText cs 1
      else fail .expectedValue (c :: cs) 1

def readItems : Nat → Nat → List Char → Except Failure (List Json × List Char)
  | 0, _, _ => fail .endInValue [] 0
  | fuel + 1, depth, cs => do
    let (item, cs) ← readValue fuel depth cs
    match skipSpace cs with
    | [] => fail .endInList [] 0
    | ']' :: cs => return ([item], cs)
    | ',' :: cs =>
      match skipSpace cs with
      | [] => fail .endInValue [] 0
      | ']' :: cs => fail .trailingComma (']' :: cs) 1
      | cs => do
        let (items, cs) ← readItems fuel depth cs
        return (item :: items, cs)
    | cs => fail .expectedListEnd cs 1

def readEntries : Nat → Nat → List (String × Json) → List Char →
    Except Failure (List (String × Json) × List Char)
  | 0, _, _, _ => fail .endInValue [] 0
  | fuel + 1, depth, before, cs => do
    let (key, cs) ← readText cs
    match skipSpace cs with
    | [] => fail .endInObject [] 0
    | ':' :: cs => do
      let (value, cs) ← readValue fuel depth cs
      let entries := put key value before
      match skipSpace cs with
      | [] => fail .endInObject [] 0
      | '\x7d' :: cs => return (entries, cs)
      | ',' :: cs =>
        match skipSpace cs with
        | [] => fail .endInValue [] 0
        | '"' :: cs => readEntries fuel depth entries cs
        | '\x7d' :: cs => fail .trailingComma ('\x7d' :: cs) 1
        | cs => fail .keyNotText cs 1
      | cs => fail .expectedObjectEnd cs 1
    | cs => fail .expectedColon cs 1

end

def maxDepth : Nat := 127

def readAll (cs : List Char) : Except Failure Json := do
  let (value, rest) ← readValue (cs.length + 1) maxDepth cs
  match skipSpace rest with
  | [] => return value
  | rest => fail .trailingCharacters rest 1

/-- Line and column of a failure, both counted in bytes of the text that was looked at. -/
def Failure.position (failure : Failure) (cs : List Char) : Nat × Nat :=
  let total := byteLength cs
  let offset := min total (total - byteLength failure.rest + failure.ahead)
  let seen := (String.ofList cs).toUTF8.toList.take offset
  let column := (seen.reverse.takeWhile (· != 10)).length
  (1 + seen.count 10, column)

structure ReadError where
  cause : Cause
  line : Nat
  column : Nat
  deriving DecidableEq, Repr

def ReadError.message (e : ReadError) : String :=
  s!"{e.cause.message} at line {e.line} column {e.column}"

def read (s : String) : Except ReadError Json :=
  match readAll s.toList with
  | .ok value => .ok value
  | .error failure =>
    let (line, column) := failure.position s.toList
    .error ⟨failure.cause, line, column⟩

end ClusterNet.Json
