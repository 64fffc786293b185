import ClusterNet.Text.Blank
import ClusterNet.Text.Quoted

/- Release versions: semantic versions read tolerantly, and their precedence. A leading `v` is
   ignored, `major.minor` stands for `major.minor.0`, a pre-release that breaks the rules is
   repaired, and build metadata is dropped. -/
namespace ClusterNet

structure Version where
  major : Nat
  minor : Nat
  patch : Nat
  preRelease : String
  deriving DecidableEq, Repr

namespace Version

inductive Fault where
  | notNumber (part : String)
  | wrongParts
  deriving DecidableEq, Repr

def Fault.reason : Fault → String
  | .notNumber part => s!"{Text.quoted part} is not a number"
  | .wrongParts => "expected major.minor or major.minor.patch"

structure ReadError where
  input : String
  fault : Fault
  deriving DecidableEq, Repr

def ReadError.message (e : ReadError) : String :=
  s!"invalid version {Text.quoted e.input}: {e.fault.reason}"

def numberBound : Nat := Nat.pow 2 64

def number? (digits : List Char) : Option Nat :=
  if digits.isEmpty ∨ !digits.all Char.isDigit then none
  else
    let value := Nat.ofDigitChars 10 digits 0
    if value < numberBound then some value else none

def isIdentifierChar (c : Char) : Bool := c.isAlphanum || c = '-'

def isNumeric (identifier : List Char) : Bool := identifier.all Char.isDigit

/-- An identifier of a pre-release: not empty, and without a leading zero when it is a number. -/
def isIdentifier (cs : List Char) : Bool :=
  !cs.isEmpty && cs.all isIdentifierChar && !(isNumeric cs && cs.head? = some '0' && cs.length ≠ 1)

def isPreRelease (cs : List Char) : Bool := cs.isEmpty || (cs.splitOn '.').all isIdentifier

def isBuild (cs : List Char) : Bool :=
  (cs.splitOn '.').all fun part => !part.isEmpty && part.all isIdentifierChar

def repairIdentifier (cs : List Char) : List Char :=
  let cleaned := cs.map fun c => if isIdentifierChar c then c else '-'
  if cleaned.isEmpty then ['0']
  else if 1 < cleaned.length ∧ cleaned.head? = some '0' ∧ isNumeric cleaned then 'n' :: cleaned
  else cleaned

def repair (cs : List Char) : List Char := ['.'].intercalate ((cs.splitOn '.').map repairIdentifier)

def cut (c : Char) (cs : List Char) : List Char × Option (List Char) :=
  match cs.dropWhile (· ≠ c) with
  | [] => (cs, none)
  | _ :: rest => (cs.takeWhile (· ≠ c), some rest)

def strictNumber? (digits : List Char) : Option Nat :=
  if digits.head? = some '0' ∧ digits.length ≠ 1 then none else number? digits

/-- A semantic version as the standard has it, less its build metadata. -/
def strict? (cs : List Char) : Option Version := do
  let (front, build) := cut '+' cs
  let (core, suffix) := cut '-' front
  match core.splitOn '.' with
  | [major, minor, patch] =>
    let version : Version :=
      ⟨← strictNumber? major, ← strictNumber? minor, ← strictNumber? patch,
        String.ofList (suffix.getD [])⟩
    if suffix.all (fun s => !s.isEmpty && isPreRelease s) && build.all isBuild then some version
    else none
  | _ => none

def numbers : List (List Char) → Except Fault (List Nat)
  | [] => .ok []
  | part :: rest =>
    match number? part with
    | none => .error (.notNumber (String.ofList part))
    | some n => (numbers rest).map (n :: ·)

def tolerant (cs : List Char) : Except Fault Version := do
  let (front, _) := cut '+' cs
  let (core, suffix) := cut '-' front
  let suffix := suffix.getD []
  let preRelease := String.ofList (if isPreRelease suffix then suffix else repair suffix)
  match ← numbers (core.splitOn '.') with
  | [major, minor] => return ⟨major, minor, 0, preRelease⟩
  | [major, minor, patch] => return ⟨major, minor, patch, preRelease⟩
  | _ => .error .wrongParts

def dropMark : List Char → List Char
  | 'v' :: rest => rest
  | cs => cs

def read (s : String) : Except ReadError Version :=
  let cs := dropMark (Text.trim s).toList
  match strict? cs with
  | some version => .ok version
  | none => (tolerant cs).mapError fun fault => ⟨s, fault⟩

def text (v : Version) : String :=
  let core := s!"{v.major}.{v.minor}.{v.patch}"
  if v.preRelease.isEmpty then core else core ++ "-" ++ v.preRelease

/-- Numbers stand below other identifiers and go by length first, which their values follow. -/
def identifierKey (cs : List Char) : List Nat :=
  if isNumeric cs then 0 :: cs.length :: cs.map Char.toNat else 1 :: cs.map Char.toNat

/-- Precedence is the lexicographic order of the keys: a release stands above its pre-releases, and
    more identifiers above fewer. -/
def key (v : Version) : List (List Nat) :=
  let cs := v.preRelease.toList
  [[v.major], [v.minor], [v.patch]]
    ++ if cs.isEmpty then [[1]] else [0] :: (cs.splitOn '.').map identifierKey

def precedence (a b : Version) : Ordering := compare a.key b.key

inductive Change where
  | same
  | upgrade
  | downgrade
  | unknown
  deriving DecidableEq, Repr

def Change.inverse : Change → Change
  | .upgrade => .downgrade
  | .downgrade => .upgrade
  | .same => .same
  | .unknown => .unknown

def Change.name : Change → String
  | .same => "Same"
  | .upgrade => "Upgrade"
  | .downgrade => "Downgrade"
  | .unknown => "Unknown"

/-- Equal texts are the same version even if they cannot be read. -/
def change (start target : String) : Change :=
  if start = target then .same
  else
    match read start, read target with
    | .ok a, .ok b =>
      match precedence a b with
      | .lt => .upgrade
      | .gt => .downgrade
      | .eq => .same
    | _, _ => .unknown

def atLeast (v : Version) (major minor : Nat) : Bool :=
  major < v.major || (major = v.major && minor ≤ v.minor)

def atMost (v : Version) (major minor : Nat) : Bool :=
  v.major < major || (v.major = major && v.minor ≤ minor)

def checkAtLeast (s : String) (major minor : Nat) : Except ReadError Bool :=
  (read s).map (atLeast · major minor)

def checkAtMost (s : String) (major minor : Nat) : Except ReadError Bool :=
  (read s).map (atMost · major minor)

/-- A version that cannot be read is not at least anything. -/
def isAtLeast (s : String) (major minor : Nat) : Bool :=
  match checkAtLeast s major minor with
  | .ok answer => answer
  | .error _ => false

def isAtMost (s : String) (major minor : Nat) : Bool :=
  match checkAtMost s major minor with
  | .ok answer => answer
  | .error _ => false

end Version
end ClusterNet
