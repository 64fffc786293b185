import Mathlib.Algebra.Group.Nat.Defs
import Mathlib.Data.Set.Basic
import Mathlib.Order.Defs.Unbundled
import ClusterNet.Network

/- Networks as sets of addresses. A network has the addresses that begin with its leading bits, and
   they fill an interval between its first and its last one. So comparing end addresses decides
   inclusion of the sets, and as two networks with a common address begin alike, the longer one is
   inside the other: one that meets another is included in it or includes it. -/
namespace ClusterNet

def Address.bit (a : Address) (i : Nat) : Bool := a.value.testBit (a.family.width - 1 - i)

namespace Network

/-- The addresses of the network's family that begin as its own address does. -/
def addresses (n : Network) : Set Address :=
  {a | a.family = n.family ∧ ∀ i < n.length, a.bit i = n.address.bit i}

/-- No bit is set behind the leading ones. -/
def Masked (n : Network) : Prop := ∀ i, n.length ≤ i → i < n.longest → n.address.bit i = false

theorem eq_of_parts {a b : Network} (family : a.family = b.family)
    (value : a.address.value = b.address.value) (length : a.length = b.length) : a = b := by
  obtain ⟨⟨f, v, _⟩, l, _⟩ := a
  obtain ⟨⟨g, w, _⟩, m, _⟩ := b
  have family : f = g := family
  have value : v = w := value
  have length : l = m := length
  subst family value length
  rfl

theorem size_pos (n : Network) : 0 < n.size := Nat.two_pow_pos _

theorem quotient_eq_iff {width length x y : Nat} (short : length ≤ width) (hx : x < 2 ^ width)
    (hy : y < 2 ^ width) :
    x / 2 ^ (width - length) = y / 2 ^ (width - length) ↔
      ∀ i < length, x.testBit (width - 1 - i) = y.testBit (width - 1 - i) := by
  constructor
  · intro same i inside
    have bits := congrArg (Nat.testBit · (length - 1 - i)) same
    simp only [Nat.testBit_div_two_pow] at bits
    have place : length - 1 - i + (width - length) = width - 1 - i := by omega
    rwa [place] at bits
  · intro same
    apply Nat.eq_of_testBit_eq
    intro j
    simp only [Nat.testBit_div_two_pow]
    by_cases inside : j < length
    · have bits := same (length - 1 - j) (by omega)
      have place : width - 1 - (length - 1 - j) = j + (width - length) := by omega
      rwa [place] at bits
    · -- Neither address has a bit there.
      have above : 2 ^ width ≤ 2 ^ (j + (width - length)) :=
        Nat.pow_le_pow_right (by omega) (by omega)
      rw [Nat.testBit_lt_two_pow (by omega), Nat.testBit_lt_two_pow (by omega)]

theorem quotient_eq_iff_between {size x y : Nat} (pos : 0 < size) :
    x / size = y / size ↔ y / size * size ≤ x ∧ x ≤ y / size * size + (size - 1) := by
  rw [Nat.div_eq_iff pos, Nat.add_sub_assoc pos]

theorem mem_addresses_iff {n : Network} {a : Address} :
    a ∈ n.addresses ↔ a.family = n.family ∧ n.first ≤ a.value ∧ a.value ≤ n.last := by
  refine and_congr_right ?_
  intro family
  have bound : a.value < 2 ^ n.address.family.width := by
    have := a.value_lt
    rwa [family] at this
  have leading := quotient_eq_iff n.length_le bound n.address.value_lt
  simp only [Address.bit, family]
  exact leading.symm.trans (quotient_eq_iff_between n.size_pos)

theorem containsAddress_iff {n : Network} {a : Address} :
    n.containsAddress a = true ↔ a ∈ n.addresses := by
  simp only [containsAddress, Bool.and_eq_true, decide_eq_true_eq, mem_addresses_iff, and_assoc]
  exact and_congr_left' eq_comm

theorem last_lt (n : Network) : n.last < Nat.pow 2 n.address.family.width := by
  have whole : 2 ^ n.address.family.width = 2 ^ n.length * n.size := by
    rw [size, Nat.pow_eq, ← Nat.pow_add]
    congr 1
    have := n.length_le
    simp only [longest, family]
    omega
  have quotient : n.address.value / n.size < 2 ^ n.length := by
    rw [Nat.div_lt_iff_lt_mul n.size_pos, ← whole]
    exact n.address.value_lt
  have room : (n.address.value / n.size + 1) * n.size ≤ 2 ^ n.length * n.size :=
    Nat.mul_le_mul_right _ quotient
  have pos := n.size_pos
  simp only [last, first, Nat.pow_eq, whole]
  rw [Nat.add_mul] at room
  omega

def firstAddress (n : Network) : Address := n.masked.address

def lastAddress (n : Network) : Address := ⟨n.address.family, n.last, n.last_lt⟩

theorem firstAddress_mem (n : Network) : n.firstAddress ∈ n.addresses :=
  mem_addresses_iff.mpr ⟨rfl, Nat.le_refl _, Nat.le_add_right _ _⟩

theorem lastAddress_mem (n : Network) : n.lastAddress ∈ n.addresses :=
  mem_addresses_iff.mpr ⟨rfl, Nat.le_add_right _ _, Nat.le_refl _⟩

section

variable {a b c : Network}

/-- Comparing the end addresses decides inclusion of all. -/
theorem includes_iff_subset : a.includes b = true ↔ b.addresses ⊆ a.addresses := by
  simp only [includes, Bool.and_eq_true, decide_eq_true_eq]
  constructor
  · rintro ⟨⟨family, low⟩, high⟩ x member
    obtain ⟨own, above, below⟩ := mem_addresses_iff.mp member
    exact mem_addresses_iff.mpr ⟨own.trans family.symm, by omega, by omega⟩
  · intro inside
    obtain ⟨family, low, -⟩ := mem_addresses_iff.mp (inside b.firstAddress_mem)
    obtain ⟨-, -, high⟩ := mem_addresses_iff.mp (inside b.lastAddress_mem)
    exact ⟨⟨family.symm, low⟩, high⟩

theorem subset_of_common {x : Address} (inA : x ∈ a.addresses) (inB : x ∈ b.addresses)
    (shorter : a.length ≤ b.length) : b.addresses ⊆ a.addresses := by
  rintro y ⟨family, bits⟩
  refine ⟨family.trans (inB.1.symm.trans inA.1), ?_⟩
  intro i inside
  calc y.bit i
    _ = b.address.bit i := bits i (by omega)
    _ = x.bit i := (inB.2 i (by omega)).symm
    _ = a.address.bit i := inA.2 i inside

theorem overlaps_iff_common :
    a.overlaps b = true ↔ (a.addresses ∩ b.addresses).Nonempty := by
  simp only [overlaps, Bool.or_eq_true, containsAddress_iff]
  constructor
  · rintro (inA | inB)
    · exact ⟨_, inA, b.firstAddress_mem⟩
    · exact ⟨_, a.firstAddress_mem, inB⟩
  · rintro ⟨x, inA, inB⟩
    rcases Nat.le_total a.length b.length with shorter | longer
    · exact .inl (subset_of_common inA inB shorter b.firstAddress_mem)
    · exact .inr (subset_of_common inB inA longer a.firstAddress_mem)

theorem overlaps_symm : a.overlaps b = b.overlaps a := Bool.or_comm ..

theorem overlaps_eq_includes : a.overlaps b = (a.includes b || b.includes a) := by
  rw [Bool.eq_iff_iff, Bool.or_eq_true, overlaps_iff_common, includes_iff_subset,
    includes_iff_subset]
  constructor
  · rintro ⟨x, inA, inB⟩
    rcases Nat.le_total a.length b.length with shorter | longer
    · exact .inl (subset_of_common inA inB shorter)
    · exact .inr (subset_of_common inB inA longer)
  · rintro (inside | inside)
    · exact ⟨_, inside b.firstAddress_mem, b.firstAddress_mem⟩
    · exact ⟨_, a.firstAddress_mem, inside a.firstAddress_mem⟩

theorem includes_refl (a : Network) : a.includes a = true :=
  includes_iff_subset.mpr (Set.Subset.refl _)

theorem includes_trans (outer : a.includes b = true) (inner : b.includes c = true) :
    a.includes c = true := by
  rw [includes_iff_subset] at outer inner ⊢
  exact inner.trans outer

theorem length_le_of_includes (inside : a.includes b = true) : a.length ≤ b.length := by
  simp only [includes, Bool.and_eq_true, decide_eq_true_eq] at inside
  obtain ⟨⟨family, low⟩, high⟩ := inside
  have widths : a.longest = b.longest := congrArg Family.width family
  have smaller : b.size ≤ a.size := by
    have := a.size_pos
    have := b.size_pos
    unfold last at high
    omega
  have exponents := (Nat.pow_le_pow_iff_right (by decide)).mp smaller
  have fits : b.length ≤ b.longest := b.length_le
  have fits' : a.length ≤ a.longest := a.length_le
  omega

/-- No network meets one of the other family, however short their leading parts are. -/
theorem apart_of_families (different : a.family ≠ b.family) :
    a.includes b = false ∧ a.overlaps b = false := by
  have apart : a.includes b = false := by simp [includes, different]
  have apart' : b.includes a = false := by simp [includes, different.symm]
  exact ⟨apart, by rw [overlaps_eq_includes, apart, apart', Bool.or_false]⟩

end

theorem bit_masked (n : Network) {i : Nat} (inside : i < n.longest) :
    n.masked.address.bit i = (decide (i < n.length) && n.address.bit i) := by
  have fits : n.length ≤ n.longest := n.length_le
  have value : n.masked.address.value =
      n.address.value / 2 ^ (n.longest - n.length) * 2 ^ (n.longest - n.length) := rfl
  have place : (n.longest - n.length ≤ n.longest - 1 - i) ↔ i < n.length := by omega
  change n.masked.address.value.testBit (n.longest - 1 - i) = (_ && _)
  rw [value, Nat.testBit_mul_two_pow, Nat.testBit_div_two_pow, decide_eq_decide.mpr place]
  by_cases leading : i < n.length
  · have same : n.longest - 1 - i - (n.longest - n.length) + (n.longest - n.length) =
        n.longest - 1 - i := by omega
    rw [same]
    rfl
  · simp [leading]

theorem masked_of_masked (n : Network) : n.masked.Masked := by
  intro i behind inside
  have behind : ¬i < n.length := Nat.not_lt.mpr behind
  exact (bit_masked n inside).trans (by rw [decide_eq_false behind, Bool.false_and])

theorem value_eq_of_bits {a b : Address} (family : a.family = b.family)
    (bits : ∀ i < a.family.width, a.bit i = b.bit i) : a.value = b.value := by
  have bound := b.value_lt
  rw [← family] at bound
  have leading := (quotient_eq_iff (Nat.le_refl _) a.value_lt bound).mpr
  simp only [Nat.sub_self, Nat.pow_zero, Nat.div_one] at leading
  apply leading
  intro i inside
  have := bits i inside
  simpa only [Address.bit, family] using this

theorem masked_eq_self {n : Network} (masked : n.Masked) : n.masked = n := by
  refine eq_of_parts rfl (value_eq_of_bits rfl ?_) rfl
  intro i inside
  refine (bit_masked n inside).trans ?_
  by_cases leading : i < n.length
  · simp [leading]
  · rw [masked i (Nat.not_lt.mp leading) inside, Bool.and_false]

theorem addresses_masked (n : Network) : n.masked.addresses = n.addresses := by
  have same : n.masked.first = n.first :=
    congrArg (· * n.size) (Nat.mul_div_cancel _ n.size_pos)
  ext x
  rw [mem_addresses_iff, mem_addresses_iff, last, last, same]
  rfl

theorem eq_of_includes {a b : Network} (masked : a.Masked) (masked' : b.Masked)
    (inside : a.includes b = true) (inside' : b.includes a = true) : a = b := by
  have ends {x y : Network} (inside : x.includes y = true) :
      x.family = y.family ∧ x.first ≤ y.first := by
    simp only [includes, Bool.and_eq_true, decide_eq_true_eq] at inside
    exact inside.1
  obtain ⟨family, low⟩ := ends inside
  obtain ⟨-, high⟩ := ends inside'
  have length := Nat.le_antisymm (length_le_of_includes inside) (length_le_of_includes inside')
  rw [← masked_eq_self masked, ← masked_eq_self masked']
  exact eq_of_parts family (Nat.le_antisymm low high) length

/-- The comparisons of networks are those of their sets of addresses, for all networks of both
    families, with and without bits behind the leading ones. -/
theorem includes_overlaps_as_sets :
    (∀ a b : Network, a.includes b = true ↔ b.addresses ⊆ a.addresses) ∧
    (∀ a b : Network, a.overlaps b = true ↔ (a.addresses ∩ b.addresses).Nonempty) ∧
    (∀ a b : Network, a.overlaps b = b.overlaps a ∧
      a.overlaps b = (a.includes b || b.includes a)) ∧
    IsPartialOrder {n : Network // n.Masked} (fun a b => a.val.includes b.val = true) ∧
    ∀ a b : Network, a.family ≠ b.family → a.includes b = false ∧ a.overlaps b = false := by
  refine ⟨fun a b => includes_iff_subset, fun a b => overlaps_iff_common,
    fun a b => ⟨overlaps_symm, overlaps_eq_includes⟩, ?_, fun a b => apart_of_families⟩
  exact
    { refl := fun a => includes_refl a.val
      trans := fun a b c => includes_trans
      antisymm := fun a b inside inside' =>
        Subtype.ext (eq_of_includes a.property b.property inside inside') }

/-- 10.0.0.0/8 -/
def privateBlock : Network := ⟨⟨.v4, 0x0A000000, by decide⟩, 8, by decide⟩

/-- 10.129.5.9/14, an address of the network rather than its first one -/
def clusterBlock : Network := ⟨⟨.v4, 0x0A810509, by decide⟩, 14, by decide⟩

/-- ::/0 -/
def wholeV6 : Network := ⟨⟨.v6, 0, by decide⟩, 0, by decide⟩

theorem privateBlock_against_others :
    clusterBlock.addresses ⊆ privateBlock.addresses ∧
      (clusterBlock.addresses ∩ privateBlock.addresses).Nonempty ∧
      ¬privateBlock.addresses ⊆ clusterBlock.addresses ∧
      privateBlock.family ≠ wholeV6.family ∧ wholeV6.includes privateBlock = false ∧
      wholeV6.overlaps privateBlock = false := by
  obtain ⟨subset, common, -, -, apart⟩ := includes_overlaps_as_sets
  have other : wholeV6.family ≠ privateBlock.family := by decide
  refine ⟨(subset _ _).mp (by decide), (common _ _).mp (by decide), ?_, other.symm,
    apart _ _ other⟩
  intro inside
  have wrong := (subset _ _).mpr inside
  exact absurd wrong (by decide)

end Network
end ClusterNet
