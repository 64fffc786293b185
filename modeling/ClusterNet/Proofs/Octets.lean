import Mathlib.Algebra.Group.Nat.Defs
import ClusterNet.Address

/- Reading numbers and dotted quads back. A number is read back from its digits in front of whatever
   cannot continue them, and an IPv4 address from its four octets. -/
namespace ClusterNet.Address

def NoDigit (base : Nat) (cs : List Char) : Prop := ∀ c ∈ cs.head?, digitOf? base c = none

section

variable {base : Nat}

theorem digitOf?_digitChar (known : base = 10 ∨ base = 16) {d : Nat} (fits : d < base) :
    digitOf? base d.digitChar = some d := by
  have decimal : ∀ d < 10, digitOf? 10 d.digitChar = some d := by decide
  have hexadecimal : ∀ d < 16, digitOf? 16 d.digitChar = some d := by decide
  rcases known with rfl | rfl
  · exact decimal d fits
  · exact hexadecimal d fits

def readDigits (base start : Nat) (cs : List Char) : Nat :=
  cs.foldl (fun acc c => acc * base + (digitOf? base c).getD 0) start

theorem forall_mem_toDigits (proper : 1 < base) {p : Char → Prop}
    (each : ∀ d < base, p d.digitChar) (n : Nat) : ∀ c ∈ Nat.toDigits base n, p c := by
  induction n using Nat.strongRecOn with
  | ind n ih =>
    intro c member
    by_cases small : n < base
    · rw [Nat.toDigits_of_lt_base small, List.mem_singleton] at member
      exact member ▸ each n small
    · have smaller : n / base < n := Nat.div_lt_self (by omega) proper
      rw [Nat.toDigits_of_base_le proper (by omega), List.mem_append, List.mem_singleton] at member
      rcases member with early | rfl
      · exact ih _ smaller c early
      · exact each _ (Nat.mod_lt _ (by omega))

theorem readDigits_toDigits (known : base = 10 ∨ base = 16) (n : Nat) :
    readDigits base 0 (Nat.toDigits base n) = n := by
  have proper : 1 < base := by omega
  induction n using Nat.strongRecOn with
  | ind n ih =>
    by_cases small : n < base
    · rw [Nat.toDigits_of_lt_base small, readDigits, List.foldl_cons, List.foldl_nil,
        digitOf?_digitChar known small]
      simp
    · have smaller : n / base < n := Nat.div_lt_self (by omega) proper
      have last := digitOf?_digitChar known (Nat.mod_lt n (by omega))
      have leading := ih _ smaller
      rw [readDigits] at leading ⊢
      rw [Nat.toDigits_of_base_le proper (by omega), List.foldl_append, leading, List.foldl_cons,
        List.foldl_nil, last, Option.getD_some]
      exact Nat.div_add_mod' n base

theorem readNumber_toDigits (known : base = 10 ∨ base = 16) {most n : Nat} (short : 0 < most)
    (fits : n < base ^ most) {rest : List Char} (ended : NoDigit base rest) :
    readNumber base most (Nat.toDigits base n ++ rest) = some (n, rest) := by
  have proper : 1 < base := by omega
  have digits := forall_mem_toDigits proper (p := fun c => (digitOf? base c).isSome = true)
    (fun d fits => by rw [digitOf?_digitChar known fits]; rfl) n
  have whole : (Nat.toDigits base n ++ rest).takeWhile (fun c => (digitOf? base c).isSome) =
      Nat.toDigits base n := by
    rw [List.takeWhile_append_of_pos digits]
    cases rest with
    | nil => simp
    | cons c cs => simp [ended c rfl]
  have behind : (Nat.toDigits base n ++ rest).dropWhile (fun c => (digitOf? base c).isSome) =
      rest := by
    rw [List.dropWhile_append_of_pos digits]
    cases rest with
    | nil => rfl
    | cons c cs => simp [ended c rfl]
  have some : (Nat.toDigits base n).isEmpty = false :=
    List.isEmpty_eq_false_iff.mpr Nat.toDigits_ne_nil
  have length : (Nat.toDigits base n).length ≤ most :=
    (Nat.length_toDigits_le_iff proper short).mpr fits
  have value := readDigits_toDigits known n
  rw [readDigits] at value
  rw [readNumber]
  simp only [whole, behind, value, some]
  exact if_neg (by simpa using length)

theorem readNumber_eq_none {most : Nat} {cs : List Char} (ended : NoDigit base cs) :
    readNumber base most cs = none := by
  have none : cs.takeWhile (fun c => (digitOf? base c).isSome) = [] := by
    cases cs with
    | nil => rfl
    | cons c cs => simp [ended c rfl]
  rw [readNumber]
  simp [none]

end

/-- Splitting a number into groups of bits loses nothing, as far as the groups go. -/
theorem ofGroups_groups (bits count value : Nat) :
    ofGroups bits (groups bits count value) = value % 2 ^ (bits * count) := by
  induction count generalizing value with
  | zero => simp [groups, ofGroups, Nat.mod_one]
  | succ count ih =>
    have leading := ih (value / 2 ^ bits)
    simp only [ofGroups, groups, Nat.pow_eq] at leading ⊢
    rw [List.foldl_append, leading, List.foldl_cons, List.foldl_nil, Nat.mul_succ,
      Nat.add_comm (bits * count), Nat.pow_add, Nat.mod_mul, Nat.mul_comm, Nat.add_comm]

theorem ofGroups_groups_of_lt (bits count : Nat) {value : Nat} (fits : value < 2 ^ (bits * count)) :
    ofGroups bits (groups bits count value) = value := by
  rw [ofGroups_groups, Nat.mod_eq_of_lt fits]

theorem groups_lt (bits count value : Nat) : ∀ g ∈ groups bits count value, g < 2 ^ bits := by
  induction count generalizing value with
  | zero => simp [groups]
  | succ count ih =>
    intro g member
    rw [groups, List.mem_append, List.mem_singleton] at member
    rcases member with leading | rfl
    · exact ih _ g leading
    · exact Nat.mod_lt _ (Nat.two_pow_pos _)

theorem length_groups (bits count value : Nat) : (groups bits count value).length = count := by
  induction count generalizing value with
  | zero => rfl
  | succ count ih => rw [groups, List.length_append, ih]; rfl

section

variable {rest : List Char}

theorem readOctet_toDigits {n : Nat} (small : n < 256) (ended : NoDigit 10 rest) :
    readOctet tolerant (Nat.toDigits 10 n ++ rest) = some (n, rest) := by
  have fits : n < 10 ^ 3 := Nat.lt_trans small (by decide)
  have read := readNumber_toDigits (.inl rfl) (by decide) fits ended
  rw [readOctet, read]
  simp [small, tolerant]

theorem noDigit_dot (cs : List Char) : NoDigit 10 ('.' :: cs) := by
  rintro c ⟨⟩
  rfl

theorem readQuad_writeQuad {value : Nat} (fits : value < 2 ^ 32) (ended : NoDigit 10 rest) :
    readQuad tolerant (writeQuad value ++ rest) = some (value, rest) := by
  have octets := groups_lt 8 4 value
  have whole := ofGroups_groups_of_lt 8 4 fits
  rw [writeQuad]
  obtain ⟨a, b, c, d, four⟩ : ∃ a b c d, groups 8 4 value = [a, b, c, d] := ⟨_, _, _, _, rfl⟩
  rw [four] at octets whole ⊢
  simp only [List.forall_mem_cons] at octets
  obtain ⟨ha, hb, hc, hd, -⟩ := octets
  have written : ['.'].intercalate ([a, b, c, d].map (Nat.toDigits 10)) ++ rest =
      Nat.toDigits 10 a ++ '.' :: (Nat.toDigits 10 b ++ '.' :: (Nat.toDigits 10 c ++
        '.' :: (Nat.toDigits 10 d ++ rest))) := by simp
  rw [written, readQuad, readOctet_toDigits ha (noDigit_dot _)]
  simp only [Option.bind_eq_bind, Option.bind_some, readChar, ↓reduceIte,
    readOctet_toDigits hb (noDigit_dot _), readOctet_toDigits hc (noDigit_dot _),
    readOctet_toDigits hd ended, whole]
  rfl

theorem readQuad_eq_none {dialect : Dialect} {cs : List Char}
    (undotted : (cs.dropWhile fun c => (digitOf? 10 c).isSome).head? ≠ some '.') :
    readQuad dialect cs = none := by
  have behind {n : Nat} {left : List Char} (read : readOctet dialect cs = some (n, left)) :
      readChar '.' left = none := by
    rw [readOctet, readNumber] at read
    simp only [Option.bind_eq_bind] at read
    split at read
    · cases read
    · simp only [Option.bind_some] at read
      split at read
      · cases read
        revert undotted
        cases cs.dropWhile fun c => (digitOf? 10 c).isSome with
        | nil => intro _; rfl
        | cons c cs =>
          intro undotted
          exact if_neg fun dot => undotted (by rw [dot]; rfl)
      · cases read
  rw [readQuad]
  cases read : readOctet dialect cs with
  | none => rfl
  | some octet =>
    simp only [Option.bind_eq_bind, Option.bind_some, behind read, Option.bind_none]

end

end ClusterNet.Address
