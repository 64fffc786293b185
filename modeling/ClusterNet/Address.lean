/- Internet addresses of both families and their text. The readers consume characters from the front
   and return the rest; a dialect says how strict they are. -/
namespace ClusterNet

inductive Family where
  | v4
  | v6
  deriving DecidableEq, Repr

def Family.width : Family → Nat
  | .v4 => 32
  | .v6 => 128

structure Address where
  family : Family
  value : Nat
  value_lt : value < Nat.pow 2 family.width
  deriving DecidableEq, Repr

namespace Address

/-- The number's `count` digits in base `2 ^ bits`, the most significant first. -/
def groups (bits : Nat) : Nat → Nat → List Nat
  | 0, _ => []
  | count + 1, value => groups bits count (value / Nat.pow 2 bits) ++ [value % Nat.pow 2 bits]

def ofGroups (bits : Nat) (gs : List Nat) : Nat :=
  gs.foldl (fun acc g => acc * Nat.pow 2 bits + g) 0

def writeQuad (value : Nat) : List Char :=
  ['.'].intercalate ((groups 8 4 value).map (Nat.toDigits 10))

structure Gap where
  start : Nat
  length : Nat
  deriving DecidableEq, Repr

/-- The first of the longest runs of zeros, given the run that ends here and the best one before. -/
def longestGap : Nat → Gap → Gap → List Nat → Gap
  | _, _, best, [] => best
  | i, current, best, g :: gs =>
    if g = 0 then
      let current : Gap :=
        if current.length = 0 then ⟨i, 1⟩ else ⟨current.start, current.length + 1⟩
      longestGap (i + 1) current (if best.length < current.length then current else best) gs
    else longestGap (i + 1) ⟨0, 0⟩ best gs

def writeGroups (gs : List Nat) : List Char :=
  [':'].intercalate (gs.map (Nat.toDigits 16))

/-- The longest run of at least two zero groups is left out; a mapped IPv4 address ends in its
    dotted form. -/
def writeHextets (value : Nat) : List Char :=
  if value / Nat.pow 2 32 = 0xFFFF then
    [':', ':', 'f', 'f', 'f', 'f', ':'] ++ writeQuad (value % Nat.pow 2 32)
  else
    let gs := groups 16 8 value
    let gap := longestGap 0 ⟨0, 0⟩ ⟨0, 0⟩ gs
    if 1 < gap.length then
      writeGroups (gs.take gap.start) ++ [':', ':']
        ++ writeGroups (gs.drop (gap.start + gap.length))
    else writeGroups gs

def write (a : Address) : List Char :=
  match a.family with
  | .v4 => writeQuad a.value
  | .v6 => writeHextets a.value

def text (a : Address) : String := String.ofList a.write

/-- `leadingZeros`: an octet may start with a zero. `gapLeast`: how many groups `::` stands for at
    least. -/
structure Dialect where
  leadingZeros : Bool
  gapLeast : Nat

/-- How an address that stands alone is read. -/
def strict : Dialect := ⟨false, 1⟩

/-- How the address of a network is read. -/
def tolerant : Dialect := ⟨true, 0⟩

def digitOf? (base : Nat) (c : Char) : Option Nat :=
  let d :=
    if '0' ≤ c ∧ c ≤ '9' then c.toNat - '0'.toNat
    else if 'a' ≤ c ∧ c ≤ 'z' then c.toNat - 'a'.toNat + 10
    else if 'A' ≤ c ∧ c ≤ 'Z' then c.toNat - 'A'.toNat + 10
    else base
  if d < base then some d else none

def readNumber (base most : Nat) (cs : List Char) : Option (Nat × List Char) :=
  let digits := cs.takeWhile fun c => (digitOf? base c).isSome
  if digits.isEmpty ∨ most < digits.length then none
  else
    some (digits.foldl (fun acc c => acc * base + (digitOf? base c).getD 0) 0,
      cs.dropWhile fun c => (digitOf? base c).isSome)

def readOctet (dialect : Dialect) (cs : List Char) : Option (Nat × List Char) := do
  let (octet, rest) ← readNumber 10 3 cs
  let padded := cs.head? = some '0' ∧ cs.length - rest.length ≠ 1
  if octet < 256 ∧ (dialect.leadingZeros ∨ ¬padded) then some (octet, rest) else none

def readChar (expected : Char) : List Char → Option (List Char)
  | [] => none
  | c :: cs => if c = expected then some cs else none

def readQuad (dialect : Dialect) (cs : List Char) : Option (Nat × List Char) := do
  let (a, cs) ← readOctet dialect cs
  let (b, cs) ← readOctet dialect (← readChar '.' cs)
  let (c, cs) ← readOctet dialect (← readChar '.' cs)
  let (d, cs) ← readOctet dialect (← readChar '.' cs)
  return (ofGroups 8 [a, b, c, d], cs)

structure GroupRun where
  groups : List Nat
  endsInQuad : Bool
  rest : List Char

/-- Up to `most` groups between colons; where two more fit, a dotted quad may end the run. -/
def readGroups (dialect : Dialect) : Nat → Bool → List Char → GroupRun
  | 0, _, cs => ⟨[], false, cs⟩
  | most + 1, first, cs =>
    match if first then some cs else readChar ':' cs with
    | none => ⟨[], false, cs⟩
    | some body =>
      match if most = 0 then none else readQuad dialect body with
      | some (quad, rest) => ⟨[quad / Nat.pow 2 16, quad % Nat.pow 2 16], true, rest⟩
      | none =>
        match readNumber 16 4 body with
        | none => ⟨[], false, cs⟩
        | some (group, rest) =>
          let more := readGroups dialect most false rest
          ⟨group :: more.groups, more.endsInQuad, more.rest⟩

def readHextets (dialect : Dialect) (cs : List Char) : Option (Nat × List Char) := do
  let head := readGroups dialect 8 true cs
  if head.groups.length = 8 then some (ofGroups 16 head.groups, head.rest)
  else if head.endsInQuad then none
  else
    let cs ← readChar ':' (← readChar ':' head.rest)
    let tail := readGroups dialect (8 - head.groups.length - dialect.gapLeast) true cs
    let gap := List.replicate (8 - head.groups.length - tail.groups.length) 0
    some (ofGroups 16 (head.groups ++ gap ++ tail.groups), tail.rest)

def ofNat? (family : Family) (value : Nat) : Option Address :=
  if h : value < Nat.pow 2 family.width then some ⟨family, value, h⟩ else none

def readFamily (dialect : Dialect) (family : Family) (cs : List Char) :
    Option (Address × List Char) := do
  let (value, rest) ← match family with
    | .v4 => readQuad dialect cs
    | .v6 => readHextets dialect cs
  return (← ofNat? family value, rest)

def readWhole (family : Family) (cs : List Char) : Option Address := do
  let (address, rest) ← readFamily strict family cs
  if rest.isEmpty then some address else none

def read (s : String) : Option Address :=
  (readWhole .v4 s.toList).orElse fun _ => readWhole .v6 s.toList

def withPort (a : Address) (port : Nat) : String :=
  match a.family with
  | .v4 => s!"{a.text}:{port}"
  | .v6 => s!"[{a.text}]:{port}"

end Address
end ClusterNet
