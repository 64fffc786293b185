import ClusterNet.Proofs.Spellings

/- Pre-releases that are told apart by a serial number or a date. Serials without leading zeros go
   by their values. One with leading zeros is no number to the standard and is repaired to a word,
   which stands above every number; two such words go by their characters. -/
namespace ClusterNet.Version

structure Serial (cs : List Char) : Prop where
  nonempty : cs ≠ []
  digits : ∀ c ∈ cs, c.isDigit = true

def value (cs : List Char) : Nat := Nat.ofDigitChars 10 cs 0

def stamped (numbers : List Char) (identifiers : List (List Char)) : String :=
  String.ofList (spelled numbers (some (['.'].intercalate identifiers)))

section

variable {xs ys : List Char}

theorem digit_bounds {c : Char} (digit : c.isDigit = true) : 48 ≤ c.toNat ∧ c.toNat ≤ 57 := by
  simpa [Char.isDigit, UInt32.le_iff_toNat_le] using digit

theorem value_cons (c : Char) (cs : List Char) :
    value (c :: cs) = 10 ^ cs.length * (c.toNat - 48) + value cs := by
  rw [value, Nat.ofDigitChars_cons, Nat.ofDigitChars_eq_ofDigitChars_zero, Nat.mul_zero,
    Nat.zero_add]
  rfl

theorem value_lt_pow (digits : ∀ c ∈ xs, c.isDigit = true) : value xs < 10 ^ xs.length := by
  induction xs with
  | nil => decide
  | cons c cs ih =>
    obtain ⟨own, others⟩ := List.forall_mem_cons.mp digits
    have tail := ih others
    have digit := digit_bounds own
    have bound : 10 ^ cs.length * (c.toNat - 48) ≤ 10 ^ cs.length * 9 :=
      Nat.mul_le_mul_left _ (by omega)
    rw [value_cons, List.length_cons, Nat.pow_succ]
    omega

theorem pow_le_value {c : Char} (digit : c.isDigit = true) (leading : c ≠ '0') (cs : List Char) :
    10 ^ cs.length ≤ value (c :: cs) := by
  have bounds := digit_bounds digit
  have positive : c.toNat ≠ 48 := fun zero => leading (Char.toNat_inj.mp zero)
  have bound : 10 ^ cs.length * 1 ≤ 10 ^ cs.length * (c.toNat - 48) :=
    Nat.mul_le_mul_left _ (by omega)
  rw [value_cons]
  omega

/-- A longer number without leading zeros is a greater one. -/
theorem value_lt_of_shorter (serial : Serial xs) (digits : ∀ c ∈ ys, c.isDigit = true)
    (unpadded : ¬Padded ys) (shorter : xs.length < ys.length) : value xs < value ys := by
  cases ys with
  | nil => cases shorter
  | cons c cs =>
    have leading : c ≠ '0' := by
      rintro rfl
      refine unpadded ⟨digits, rfl, ?_⟩
      rintro same
      cases same
      exact serial.nonempty (List.length_eq_zero_iff.mp (by simpa using shorter))
    have fits : xs.length ≤ cs.length := Nat.le_of_lt_succ shorter
    calc value xs
      _ < 10 ^ xs.length := value_lt_pow serial.digits
      _ ≤ 10 ^ cs.length := Nat.pow_le_pow_right (by decide) fits
      _ ≤ value (c :: cs) := pow_le_value (digits c List.mem_cons_self) leading cs

theorem compare_places {low low' unit : Nat} (fits : low < unit) (fits' : low' < unit)
    (high high' : Nat) :
    compare (unit * high + low) (unit * high' + low') =
      (compare high high').then (compare low low') := by
  rcases Nat.lt_trichotomy high high' with below | rfl | above
  · have step : unit * (high + 1) ≤ unit * high' := Nat.mul_le_mul_left _ below
    rw [Nat.mul_succ] at step
    have less : unit * high + low < unit * high' + low' := by omega
    rw [Nat.compare_eq_lt.mpr below, Nat.compare_eq_lt.mpr less]
    rfl
  · rw [Std.compare_self, Ordering.eq_then]
    rcases Nat.lt_trichotomy low low' with below | rfl | above
    · rw [Nat.compare_eq_lt.mpr below, Nat.compare_eq_lt.mpr (by omega)]
    · rw [Std.compare_self, Std.compare_self]
    · rw [Nat.compare_eq_gt.mpr above, Nat.compare_eq_gt.mpr (by omega)]
  · have step : unit * (high' + 1) ≤ unit * high := Nat.mul_le_mul_left _ above
    rw [Nat.mul_succ] at step
    have more : unit * high' + low' < unit * high + low := by omega
    rw [Nat.compare_eq_gt.mpr above, Nat.compare_eq_gt.mpr more]
    rfl

theorem compare_digit {c d : Char} (digit : c.isDigit = true) (digit' : d.isDigit = true) :
    compare (c.toNat - 48) (d.toNat - 48) = compare c.toNat d.toNat := by
  have bounds := digit_bounds digit
  have bounds' := digit_bounds digit'
  rcases Nat.lt_trichotomy c.toNat d.toNat with below | same | above
  · rw [Nat.compare_eq_lt.mpr below, Nat.compare_eq_lt.mpr (by omega)]
  · rw [same, Std.compare_self, Std.compare_self]
  · rw [Nat.compare_eq_gt.mpr above, Nat.compare_eq_gt.mpr (by omega)]

/-- Digits of one length go by their characters as by their values. -/
theorem compare_digits (digits : ∀ c ∈ xs, c.isDigit = true)
    (digits' : ∀ c ∈ ys, c.isDigit = true) (even : xs.length = ys.length) :
    compare (xs.map Char.toNat) (ys.map Char.toNat) = compare (value xs) (value ys) := by
  induction xs generalizing ys with
  | nil =>
    cases ys with
    | nil => rfl
    | cons => cases even
  | cons c cs ih =>
    cases ys with
    | nil => cases even
    | cons d ds =>
      obtain ⟨own, others⟩ := List.forall_mem_cons.mp digits
      obtain ⟨own', others'⟩ := List.forall_mem_cons.mp digits'
      have even : cs.length = ds.length := Nat.succ.inj even
      have fits := value_lt_pow others
      rw [even] at fits
      rw [List.map_cons, List.map_cons, List.compare_cons_cons, ih others others' even, value_cons,
        value_cons, even, compare_places fits (value_lt_pow others'), compare_digit own own']

theorem compare_chars : compare (xs.map Char.toNat) (ys.map Char.toNat) = .lt ↔ xs < ys := by
  induction xs generalizing ys with
  | nil => cases ys <;> simp [List.compare_nil_cons]
  | cons c cs ih =>
    cases ys with
    | nil => simp
    | cons d ds =>
      rw [List.map_cons, List.map_cons, List.compare_cons_cons, List.cons_lt_cons_iff, ← ih,
        Ordering.then_eq_lt, Nat.compare_eq_lt, Nat.compare_eq_eq, Char.toNat_inj]
      rfl

end

section

variable {x y : List Char}

theorem Serial.word (serial : Serial x) : Word x where
  nonempty := serial.nonempty
  chars c member := .inl (by simp [Char.isAlphanum, serial.digits c member])

theorem identifierKey_repaired (serial : Serial x) :
    identifierKey (repairIdentifier x) =
      if Padded x then 1 :: 'n'.toNat :: x.map Char.toNat
      else 0 :: x.length :: x.map Char.toNat := by
  have numeric : isNumeric x = true := List.all_eq_true.mpr serial.digits
  have word : isNumeric ('n' :: x) = false := rfl
  rw [repairIdentifier_of_word serial.word]
  split
  · rw [identifierKey, word]
    rfl
  · rw [identifierKey, numeric]
    rfl

def serialOrder (x y : List Char) : Ordering :=
  compare (identifierKey (repairIdentifier x)) (identifierKey (repairIdentifier y))

theorem serialOrder_of_unpadded (serial : Serial x) (serial' : Serial y) (plain : ¬Padded x)
    (less : value x < value y) : serialOrder x y = .lt := by
  rw [serialOrder, identifierKey_repaired serial, identifierKey_repaired serial', if_neg plain]
  by_cases padded : Padded y
  · rw [if_pos padded]
    rfl
  · rw [if_neg padded, List.compare_cons_cons, Std.compare_self, Ordering.eq_then,
      List.compare_cons_cons]
    rcases Nat.lt_trichotomy x.length y.length with shorter | even | longer
    · rw [Nat.compare_eq_lt.mpr shorter]
      rfl
    · rw [even, Std.compare_self, Ordering.eq_then,
        compare_digits serial.digits serial'.digits even, Nat.compare_eq_lt.mpr less]
    · have more := value_lt_of_shorter serial' serial.digits plain longer
      omega

/-- A repaired serial is a word, and words stand above numbers. -/
theorem serialOrder_of_padded (serial : Serial x) (serial' : Serial y) (padded : Padded x) :
    serialOrder x y =
      if Padded y then compare (x.map Char.toNat) (y.map Char.toNat) else .gt := by
  rw [serialOrder, identifierKey_repaired serial, identifierKey_repaired serial', if_pos padded]
  split
  · rw [List.compare_cons_cons, Std.compare_self, Ordering.eq_then, List.compare_cons_cons,
      Std.compare_self, Ordering.eq_then]
  · rfl

theorem serialOrder_eq_lt_iff (serial : Serial x) (serial' : Serial y)
    (less : value x < value y) :
    serialOrder x y = .lt ↔ ¬Padded x ∨ (Padded y ∧ x < y) := by
  by_cases padded : Padded x
  · rw [serialOrder_of_padded serial serial' padded]
    by_cases other : Padded y
    · rw [if_pos other, compare_chars]
      simp [padded, other]
    · simp [padded, other]
  · simp [serialOrder_of_unpadded serial serial' padded less, padded]

theorem serialOrder_ne_eq (serial : Serial x) (serial' : Serial y) (less : value x < value y) :
    serialOrder x y ≠ .eq := by
  intro same
  have chars : Function.Injective (List.map Char.toNat) :=
    List.map_injective_iff.mpr fun _ _ same => Char.toNat_inj.mp same
  by_cases padded : Padded x
  · rw [serialOrder_of_padded serial serial' padded] at same
    split at same
    · have equal := chars (Std.LawfulEqOrd.eq_of_compare same)
      rw [equal] at less
      exact Nat.lt_irrefl _ less
    · cases same
  · rw [serialOrder_of_unpadded serial serial' padded less] at same
    cases same

end

section

variable {numbers : List Char} {major minor patch : Nat} {identifiers : List (List Char)}

theorem joined_ne_nil (words : ∀ part ∈ identifiers, Word part) (nonempty : identifiers ≠ []) :
    ['.'].intercalate identifiers ≠ [] := by
  intro empty
  have split := splitOn_joined words nonempty
  rw [empty, List.splitOn_nil] at split
  exact (words [] (by simp [← split])).nonempty rfl

theorem read_stamped (numbered : Numbered (numbers.splitOn '.') major minor patch)
    (words : ∀ part ∈ identifiers, Word part) (nonempty : identifiers ≠ []) :
    read (stamped numbers identifiers) = .ok ⟨major, minor, patch,
      String.ofList (['.'].intercalate (identifiers.map repairIdentifier))⟩ := by
  have plain : ∀ text ∈ some (['.'].intercalate identifiers),
      ∀ c ∈ text, isPlainChar c = true := by
    rintro text ⟨⟩
    exact plain_joined words
  rw [stamped, read_spelled numbered plain, preReleaseOf_eq_repair (joined_ne_nil words nonempty),
    repair, splitOn_joined words nonempty]

theorem key_of_repaired (major minor patch : Nat) (nonempty : identifiers ≠ []) :
    key ⟨major, minor, patch,
        String.ofList (['.'].intercalate (identifiers.map repairIdentifier))⟩ =
      [[major], [minor], [patch], [0]] ++
        identifiers.map fun part => identifierKey (repairIdentifier part) := by
  have words : ∀ part ∈ identifiers.map repairIdentifier, Word part := by
    intro part member
    obtain ⟨given, -, rfl⟩ := List.mem_map.mp member
    exact (identifier_repairIdentifier given).toWord
  have repaired : identifiers.map repairIdentifier ≠ [] := by simpa using nonempty
  have filled := List.isEmpty_eq_false_iff.mpr (joined_ne_nil words repaired)
  rw [key, String.toList_ofList, filled, splitOn_joined words repaired, List.map_map]
  rfl

theorem compare_append_left (common xs ys : List (List Nat)) :
    compare (common ++ xs) (common ++ ys) = compare xs ys := by
  induction common with
  | nil => rfl
  | cons k rest ih =>
    rw [List.cons_append, List.cons_append, List.compare_cons_cons, Std.compare_self,
      Ordering.eq_then, ih]

end

section

variable {numbers : List Char} {major minor patch : Nat} {before after : List (List Char)}
  {x y : List Char}

/-- The change of a release when one identifier of its pre-release is replaced by another one. -/
def changeAt (numbers : List Char) (before after : List (List Char)) (x y : List Char) : Change :=
  change (stamped numbers (before ++ x :: after)) (stamped numbers (before ++ y :: after))

theorem changeAt_eq (numbered : Numbered (numbers.splitOn '.') major minor patch)
    (words : ∀ part ∈ before ++ after, Word part) (serial : Serial x) (serial' : Serial y) :
    changeAt numbers before after x y = Change.ofOrdering (serialOrder x y) := by
  have each {z : List Char} (serial : Serial z) : ∀ part ∈ before ++ z :: after, Word part := by
    intro part member
    rcases List.mem_append.mp member with first | later
    · exact words part (List.mem_append_left _ first)
    · rcases List.mem_cons.mp later with rfl | last
      · exact serial.word
      · exact words part (List.mem_append_right _ last)
  have nonempty (z : List Char) : before ++ z :: after ≠ [] := by simp
  rw [changeAt, change_of_read (read_stamped numbered (each serial) (nonempty x))
    (read_stamped numbered (each serial') (nonempty y)), precedence,
    key_of_repaired major minor patch (nonempty x), key_of_repaired major minor patch (nonempty y),
    compare_append_left, List.map_append, List.map_append, compare_append_left, List.map_cons,
    List.map_cons, List.compare_cons_cons, Std.compare_self, Ordering.then_eq, serialOrder]

/-- A greater serial makes a higher release, unless the smaller one has leading zeros. That one
    stands above every number, and goes by its characters among serials with leading zeros; these
    agree with the values where both are of one length. -/
theorem greater_serial_is_upgrade_iff
    (numbered : Numbered (numbers.splitOn '.') major minor patch)
    (words : ∀ part ∈ before ++ after, Word part) (serial : Serial x) (serial' : Serial y)
    (less : value x < value y) :
    (changeAt numbers before after x y = .upgrade ↔ ¬Padded x ∨ (Padded y ∧ x < y)) ∧
      (changeAt numbers before after x y = .downgrade ↔ Padded x ∧ ¬(Padded y ∧ x < y)) ∧
      (Padded x → Padded y → x.length = y.length →
        changeAt numbers before after x y = .upgrade) := by
  have upward := serialOrder_eq_lt_iff serial serial' less
  have different := serialOrder_ne_eq serial serial' less
  have downward : Change.ofOrdering (serialOrder x y) = .downgrade ↔ serialOrder x y ≠ .lt := by
    cases order : serialOrder x y with
    | lt | gt => decide
    | eq => exact absurd order different
  rw [changeAt_eq numbered words serial serial', Change.ofOrdering_eq_upgrade]
  refine ⟨upward, ?_, ?_⟩
  · rw [downward, ne_eq, upward, not_or, not_not]
  · intro padded padded' even
    refine upward.mpr (.inr ⟨padded', compare_chars.mp ?_⟩)
    rw [compare_digits serial.digits serial'.digits even, Nat.compare_eq_lt]
    exact less

end

instance (cs : List Char) : Decidable (Word cs) :=
  decidable_of_iff (cs ≠ [] ∧ cs.all isIdentifierChar = true) <| by
    simp only [List.all_eq_true, isIdentifierChar_iff]
    exact ⟨fun ⟨nonempty, chars⟩ => ⟨nonempty, chars⟩, fun word => ⟨word.nonempty, word.chars⟩⟩

instance (cs : List Char) : Decidable (Serial cs) :=
  decidable_of_iff (cs ≠ [] ∧ cs.all Char.isDigit = true) <| by
    rw [List.all_eq_true]
    exact ⟨fun ⟨nonempty, digits⟩ => ⟨nonempty, digits⟩,
      fun serial => ⟨serial.nonempty, serial.digits⟩⟩

theorem numbered_release : Numbered ("4.14.0".toList.splitOn '.') 4 14 0 :=
  .three (a := "4".toList) (b := "14".toList) (c := "0".toList) (number?_eq_some_iff.mp rfl)
    (number?_eq_some_iff.mp rfl) (number?_eq_some_iff.mp rfl)

def nightly : List (List Char) := ["0", "nightly", "2023"].map String.toList

/-- From June to July the release goes up, as both months have a leading zero. -/
theorem june_to_july_is_upgrade :
    value "06".toList < value "07".toList ∧ Padded "06".toList ∧ Padded "07".toList ∧
      changeAt "4.14.0".toList nightly ["01".toList] "06".toList "07".toList = .upgrade := by
  have less : value "06".toList < value "07".toList := by decide
  have padded : Padded "06".toList := by decide
  have padded' : Padded "07".toList := by decide
  have words : ∀ part ∈ nightly ++ ["01".toList], Word part := by decide
  obtain ⟨-, -, upgrade⟩ :=
    greater_serial_is_upgrade_iff numbered_release words (by decide) (by decide) less
  exact ⟨less, padded, padded', upgrade padded padded' rfl⟩

theorem september_to_october_is_downgrade :
    (∀ part ∈ nightly ++ ["01".toList], Word part) ∧ Serial "09".toList ∧ Serial "10".toList ∧
      value "09".toList < value "10".toList ∧
      stamped "4.14.0".toList (nightly ++ "09".toList :: ["01".toList]) =
        "4.14.0-0.nightly.2023.09.01" ∧
      stamped "4.14.0".toList (nightly ++ "10".toList :: ["01".toList]) =
        "4.14.0-0.nightly.2023.10.01" ∧
      change "4.14.0-0.nightly.2023.09.01" "4.14.0-0.nightly.2023.10.01" = .downgrade := by
  decide +kernel

end ClusterNet.Version
