import ClusterNet.Address
import ClusterNet.Text.Blank
import ClusterNet.Text.Quoted

/- Networks: an address and the length of its leading part. Containment and overlap go by the first
   and last address, and never hold across families. -/
namespace ClusterNet

structure Network where
  address : Address
  length : Nat
  length_le : length ≤ address.family.width
  deriving DecidableEq, Repr

namespace Network

def family (n : Network) : Family := n.address.family

def longest (n : Network) : Nat := n.family.width

def size (n : Network) : Nat := Nat.pow 2 (n.longest - n.length)

def first (n : Network) : Nat := n.address.value / n.size * n.size

def last (n : Network) : Nat := n.first + (n.size - 1)

theorem first_lt (n : Network) : n.first < Nat.pow 2 n.address.family.width :=
  Nat.lt_of_le_of_lt (Nat.div_mul_le_self ..) n.address.value_lt

def masked (n : Network) : Network :=
  ⟨⟨n.address.family, n.first, n.first_lt⟩, n.length, n.length_le⟩

def containsAddress (n : Network) (a : Address) : Bool :=
  n.family = a.family && n.first ≤ a.value && a.value ≤ n.last

def includes (outer inner : Network) : Bool :=
  outer.family = inner.family && outer.first ≤ inner.first && inner.last ≤ outer.last

/-- Blocks are aligned, so two of them meet iff one holds the other's first address. -/
def overlaps (a b : Network) : Bool :=
  a.containsAddress b.masked.address || b.containsAddress a.masked.address

/-- The network of twice the size around this one; a network of length zero has none. -/
def expand (n : Network) : Option Network :=
  if n.length = 0 then none
  else
    some (masked ⟨n.masked.address, n.length - 1,
      Nat.le_trans (Nat.sub_le ..) n.length_le⟩)

def expansions : Nat → Network → List Network × Option Network
  | 0, _ => ([], none)
  | times + 1, n =>
    match n.expand with
    | none => ([], some n)
    | some next =>
      let (steps, stuck) := expansions times next
      (next :: steps, stuck)

def text (n : Network) : String := s!"{n.address.text}/{n.length}"

def cannotExpandMessage (n : Network) : String :=
  s!"cannot expand {n.text}: prefix length is already 0"

def readFamily (family : Family) (lengthDigits : Nat) (cs : List Char) : Option Network := do
  let (address, rest) ← Address.readFamily Address.tolerant family cs
  let rest ← Address.readChar '/' rest
  let (length, rest) ← Address.readNumber 10 lengthDigits rest
  if h : length ≤ address.family.width then
    if rest.isEmpty then some ⟨address, length, h⟩ else none
  else none

/-- Reads `address/length` as written, with host bits. -/
def readExact (s : String) : Option Network :=
  (readFamily .v4 2 s.toList).orElse fun _ => readFamily .v6 3 s.toList

structure ReadError where
  input : String
  deriving DecidableEq, Repr

def ReadError.message (e : ReadError) : String :=
  s!"invalid CIDR {Text.quoted e.input}: invalid IP address syntax"

/-- Reads `address/length` between blanks and clears the host bits. -/
def read (s : String) : Except ReadError Network :=
  match readExact (Text.trim s) with
  | some n => .ok n.masked
  | none => .error ⟨s⟩

end Network
end ClusterNet
