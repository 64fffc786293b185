import Mathlib.Data.List.TakeWhile
import ClusterNet.Proofs.Blanks
import ClusterNet.Proofs.Legibility
import ClusterNet.Proofs.Precedence
import ClusterNet.Proofs.Separators

/- Which texts are versions, and which version each of them is. The numbers decide whether a text is
   read; a suffix is kept where it is a pre-release and repaired where it is none. Reading by the
   standard first makes no difference, and the text of a version is read as that version. -/
namespace ClusterNet.Version

def bare (s : String) : List Char := dropMark (Text.trim s).toList

def core (cs : List Char) : List Char := (cs.takeWhile (· ≠ '+')).takeWhile (· ≠ '-')

def suffix? (cs : List Char) : Option (List Char) :=
  ((cs.takeWhile (· ≠ '+')).dropWhile (· ≠ '-')).tail?

/-- Digits, leading zeros allowed, and the number below 2^64 that they stand for. -/
structure Numeral (text : List Char) (n : Nat) : Prop where
  nonempty : text ≠ []
  digits : ∀ c ∈ text, c.isDigit = true
  value : Nat.ofDigitChars 10 text 0 = n
  bounded : n < 2 ^ 64

/-- Two or three numerals; the third number is zero where it is left out. -/
inductive Numbered : List (List Char) → Nat → Nat → Nat → Prop where
  | two {a b : List Char} {major minor : Nat} (first : Numeral a major) (second : Numeral b minor) :
      Numbered [a, b] major minor 0
  | three {a b c : List Char} {major minor patch : Nat} (first : Numeral a major)
      (second : Numeral b minor) (third : Numeral c patch) :
      Numbered [a, b, c] major minor patch

def Padded (cs : List Char) : Prop :=
  (∀ c ∈ cs, c.isDigit = true) ∧ cs.head? = some '0' ∧ cs ≠ ['0']

-- The digits are tested one by one; there are too many characters to go through all of them.
instance (cs : List Char) : Decidable (Padded cs) :=
  decidable_of_iff (cs.all Char.isDigit = true ∧ cs.head? = some '0' ∧ cs ≠ ['0'])
    (and_congr_left' List.all_eq_true)

structure Word (cs : List Char) : Prop where
  nonempty : cs ≠ []
  chars : ∀ c ∈ cs, c.isAlphanum = true ∨ c = '-'

/-- An identifier by the grammar of semantic versions. -/
structure Identifier (cs : List Char) : Prop extends Word cs where
  unpadded : ¬Padded cs

def PreRelease (cs : List Char) : Prop := ∀ part ∈ cs.splitOn '.', Identifier part

theorem length_of_zero {cs : List Char} (zero : cs.head? = some '0') :
    cs.length = 1 ↔ cs = ['0'] := by
  cases cs with
  | nil => cases zero
  | cons c rest =>
    cases zero
    simp

theorem isIdentifier_iff {cs : List Char} : isIdentifier cs = true ↔ Identifier cs := by
  have unpadded : (isNumeric cs && cs.head? = some '0' && cs.length ≠ 1) = false ↔ ¬Padded cs := by
    by_cases zero : cs.head? = some '0'
    · simp [isNumeric, Padded, zero, length_of_zero zero]
    · simp [Padded, zero]
  simp only [isIdentifier, Bool.and_eq_true, Bool.not_eq_true', unpadded]
  constructor
  · rintro ⟨⟨nonempty, chars⟩, plain⟩
    exact ⟨⟨by simpa using nonempty, by simpa [isIdentifierChar] using chars⟩, plain⟩
  · intro identifier
    refine ⟨⟨?_, ?_⟩, identifier.unpadded⟩
    · simpa using identifier.nonempty
    · simpa [isIdentifierChar] using identifier.chars

instance (cs : List Char) : Decidable (Identifier cs) :=
  decidable_of_iff (isIdentifier cs = true) isIdentifier_iff

instance (cs : List Char) : Decidable (PreRelease cs) :=
  inferInstanceAs (Decidable (∀ part ∈ cs.splitOn '.', Identifier part))

theorem isPreRelease_iff {cs : List Char} : isPreRelease cs = true ↔ cs = [] ∨ PreRelease cs := by
  simp [isPreRelease, PreRelease, isIdentifier_iff]

def preReleaseOf : Option (List Char) → List Char
  | none => []
  | some suffix => if suffix = [] ∨ PreRelease suffix then suffix else repair suffix

section

variable {cs : List Char}

theorem cut_fst (c : Char) (cs : List Char) : (cut c cs).1 = cs.takeWhile (· ≠ c) := by
  have parts := List.takeWhile_append_dropWhile (p := (· ≠ c)) (l := cs)
  unfold cut
  split
  · next nothing =>
    rw [nothing, List.append_nil] at parts
    exact parts.symm
  · rfl

theorem cut_snd (c : Char) (cs : List Char) : (cut c cs).2 = (cs.dropWhile (· ≠ c)).tail? := by
  unfold cut
  cases cs.dropWhile (· ≠ c) <;> rfl

theorem number?_eq_some_iff {n : Nat} : number? cs = some n ↔ Numeral cs n := by
  have bound : (2 ^ 64 : Nat) = numberBound := rfl
  constructor
  · intro read
    unfold number? at read
    split at read
    · cases read
    · next digits =>
      simp only [Bool.not_eq_true', not_or, Bool.not_eq_true, Bool.not_eq_false,
        List.isEmpty_eq_false_iff, List.all_eq_true] at digits
      dsimp only at read
      split at read
      · next bounded =>
        cases read
        exact ⟨digits.1, digits.2, rfl, bounded⟩
      · cases read
  · rintro ⟨nonempty, digits, rfl, bounded⟩
    rw [bound] at bounded
    have accepted : ¬(cs.isEmpty = true ∨ (!cs.all Char.isDigit) = true) := by
      simpa [nonempty] using digits
    simp only [number?, accepted, bounded, ↓reduceIte]

theorem numbers_eq_ok_iff {parts : List (List Char)} {ns : List Nat} :
    numbers parts = .ok ns ↔ List.Forall₂ Numeral parts ns := by
  induction parts generalizing ns with
  | nil => simp [numbers, eq_comm]
  | cons part rest ih =>
    rw [List.forall₂_cons_left_iff, numbers]
    simp only [← number?_eq_some_iff, ← ih]
    cases number? part with
    | none => simp
    | some n => cases numbers rest <;> simp [Except.map, eq_comm]

def ofNumbers (preRelease : List Char) : List Nat → Except Fault Version
  | [major, minor] => .ok ⟨major, minor, 0, String.ofList preRelease⟩
  | [major, minor, patch] => .ok ⟨major, minor, patch, String.ofList preRelease⟩
  | _ => .error .wrongParts

theorem ofNumbers_eq_ok_iff {parts : List (List Char)} {pre : List Char} {v : Version} :
    (∃ ns, List.Forall₂ Numeral parts ns ∧ ofNumbers pre ns = .ok v) ↔
      Numbered parts v.major v.minor v.patch ∧ v.preRelease.toList = pre := by
  constructor
  · rintro ⟨ns, numerals, made⟩
    unfold ofNumbers at made
    split at made
    · cases made
      obtain ⟨_, _, first, later, rfl⟩ := List.forall₂_cons_right_iff.mp numerals
      obtain ⟨_, _, second, none, rfl⟩ := List.forall₂_cons_right_iff.mp later
      cases none
      exact ⟨.two first second, String.toList_ofList⟩
    · cases made
      obtain ⟨_, _, first, later, rfl⟩ := List.forall₂_cons_right_iff.mp numerals
      obtain ⟨_, _, second, last, rfl⟩ := List.forall₂_cons_right_iff.mp later
      obtain ⟨_, _, third, none, rfl⟩ := List.forall₂_cons_right_iff.mp last
      cases none
      exact ⟨.three first second third, String.toList_ofList⟩
    · cases made
  · obtain ⟨major, minor, patch, preRelease⟩ := v
    rintro ⟨numbered, rfl⟩
    cases numbered with
    | two first second =>
      refine ⟨[major, minor], .cons first (.cons second .nil), ?_⟩
      rw [ofNumbers, String.ofList_toList]
    | three first second third =>
      refine ⟨[major, minor, patch], .cons first (.cons second (.cons third .nil)), ?_⟩
      rw [ofNumbers, String.ofList_toList]

theorem tolerant_eq (cs : List Char) :
    tolerant cs = numbers ((core cs).splitOn '.') >>= ofNumbers (preReleaseOf (suffix? cs)) := by
  have pre : (if isPreRelease ((suffix? cs).getD []) = true then (suffix? cs).getD []
      else repair ((suffix? cs).getD [])) = preReleaseOf (suffix? cs) := by
    cases suffix? cs with
    | none => rfl
    | some suffix => simp only [Option.getD_some, isPreRelease_iff, preReleaseOf]
  rw [← pre, core, suffix?, ← cut_fst, ← cut_fst, ← cut_snd]
  unfold tolerant ofNumbers
  rfl

theorem tolerant_eq_ok_iff {v : Version} :
    tolerant cs = .ok v ↔
      Numbered ((core cs).splitOn '.') v.major v.minor v.patch ∧
        v.preRelease.toList = preReleaseOf (suffix? cs) := by
  rw [tolerant_eq, bind_eq_ok, ← ofNumbers_eq_ok_iff]
  simp only [numbers_eq_ok_iff]

theorem number?_of_strict {n : Nat} (read : strictNumber? cs = some n) : Numeral cs n := by
  unfold strictNumber? at read
  split at read
  · cases read
  · exact number?_eq_some_iff.mp read

theorem preReleaseOf_of_strict
    (valid : (suffix? cs).all (fun suffix => !suffix.isEmpty && isPreRelease suffix) = true) :
    preReleaseOf (suffix? cs) = (suffix? cs).getD [] := by
  cases present : suffix? cs with
  | none => rfl
  | some suffix =>
    simp only [present, Option.all_some, Bool.and_eq_true, isPreRelease_iff] at valid
    simp only [preReleaseOf, valid.2, ↓reduceIte, Option.getD_some]

theorem tolerant_of_strict {v : Version} (read : strict? cs = some v) : tolerant cs = .ok v := by
  unfold strict? at read
  simp only [cut_fst, cut_snd] at read
  split at read
  · next parts =>
    obtain ⟨major, first, read⟩ := Option.bind_eq_some_iff.mp read
    obtain ⟨minor, second, read⟩ := Option.bind_eq_some_iff.mp read
    obtain ⟨patch, third, read⟩ := Option.bind_eq_some_iff.mp read
    split at read
    · next valid =>
      cases read
      have suffix := preReleaseOf_of_strict ((Bool.and_eq_true ..).mp valid).1
      refine tolerant_eq_ok_iff.mpr ⟨?_, ?_⟩
      · rw [core, parts]
        exact .three (number?_of_strict first) (number?_of_strict second)
          (number?_of_strict third)
      · rw [suffix, String.toList_ofList, suffix?]
    · cases read
  · cases read

/-- Whether the standard is asked first is not seen from outside. -/
theorem read_eq_ok_iff {s : String} {v : Version} :
    read s = .ok v ↔
      Numbered ((core (bare s)).splitOn '.') v.major v.minor v.patch ∧
        v.preRelease.toList = preReleaseOf (suffix? (bare s)) := by
  rw [← tolerant_eq_ok_iff, read, bare]
  cases strict : strict? (dropMark (Text.trim s).toList) with
  | some w => simp only [tolerant_of_strict strict, Except.ok.injEq]
  | none => cases tolerant (dropMark (Text.trim s).toList) <;> simp [Except.mapError]

theorem readable_iff {s : String} :
    Readable s ↔ ∃ major minor patch, Numbered ((core (bare s)).splitOn '.') major minor patch := by
  constructor
  · rintro ⟨v, own⟩
    exact ⟨v.major, v.minor, v.patch, (read_eq_ok_iff.mp own).1⟩
  · rintro ⟨major, minor, patch, numbered⟩
    refine ⟨⟨major, minor, patch, String.ofList (preReleaseOf (suffix? (bare s)))⟩, ?_⟩
    exact read_eq_ok_iff.mpr ⟨numbered, String.toList_ofList⟩

end

section

variable {cs : List Char}

theorem isIdentifierChar_iff {c : Char} :
    isIdentifierChar c = true ↔ c.isAlphanum = true ∨ c = '-' := by
  simp [isIdentifierChar]

/-- What cannot stand in an identifier is made a hyphen. -/
def cleaned (cs : List Char) : List Char := cs.map fun c => if isIdentifierChar c then c else '-'

theorem cleaned_chars (cs : List Char) : ∀ c ∈ cleaned cs, c.isAlphanum = true ∨ c = '-' := by
  intro c member
  obtain ⟨given, -, rfl⟩ := List.mem_map.mp member
  split
  · next valid => exact isIdentifierChar_iff.mp valid
  · exact .inr rfl

theorem cleaned_of_chars (chars : ∀ c ∈ cs, c.isAlphanum = true ∨ c = '-') : cleaned cs = cs := by
  have same : ∀ c ∈ cs, (if isIdentifierChar c then c else '-') = c := fun c member =>
    if_pos (isIdentifierChar_iff.mpr (chars c member))
  rw [cleaned, List.map_congr_left same, List.map_id']

theorem repairIdentifier_eq (cs : List Char) :
    repairIdentifier cs =
      if cleaned cs = [] then ['0']
      else if Padded (cleaned cs) then 'n' :: cleaned cs
      else cleaned cs := by
  have padded : (1 < (cleaned cs).length ∧ (cleaned cs).head? = some '0' ∧
      isNumeric (cleaned cs) = true) ↔ Padded (cleaned cs) := by
    by_cases zero : (cleaned cs).head? = some '0'
    · have single := length_of_zero zero
      have filled : (cleaned cs).length ≠ 0 := by
        intro empty
        rw [List.length_eq_zero_iff.mp empty] at zero
        cases zero
      have longer : 1 < (cleaned cs).length ↔ cleaned cs ≠ ['0'] := by
        rw [ne_eq, ← single]
        omega
      simp only [longer, zero, isNumeric, List.all_eq_true, Padded]
      tauto
    · simp [Padded, zero]
  simp only [repairIdentifier, ← padded, ← List.isEmpty_iff]
  rfl

theorem repairIdentifier_of_word (word : Word cs) :
    repairIdentifier cs = if Padded cs then 'n' :: cs else cs := by
  rw [repairIdentifier_eq, cleaned_of_chars word.chars, if_neg word.nonempty]

theorem identifier_repairIdentifier (cs : List Char) : Identifier (repairIdentifier cs) := by
  have chars := cleaned_chars cs
  rw [repairIdentifier_eq]
  split
  · decide
  · next nonempty =>
    split
    · refine ⟨⟨List.cons_ne_nil _ _, List.forall_mem_cons.mpr ⟨.inl rfl, chars⟩⟩, ?_⟩
      rintro ⟨-, zero, -⟩
      cases zero
    · next unpadded => exact ⟨⟨nonempty, chars⟩, unpadded⟩

theorem repairIdentifier_of_identifier (identifier : Identifier cs) :
    repairIdentifier cs = cs := by
  rw [repairIdentifier_of_word identifier.toWord, if_neg identifier.unpadded]

theorem Word.no_dot (word : Word cs) : '.' ∉ cs := by
  intro member
  rcases word.chars '.' member with letter | hyphen
  · cases letter
  · cases hyphen

theorem splitOn_joined {parts : List (List Char)} (words : ∀ part ∈ parts, Word part)
    (nonempty : parts ≠ []) : (['.'].intercalate parts).splitOn '.' = parts :=
  List.splitOn_intercalate '.' (fun part member => (words part member).no_dot) nonempty

theorem splitOn_repair (cs : List Char) :
    (repair cs).splitOn '.' = (cs.splitOn '.').map repairIdentifier := by
  apply splitOn_joined
  · intro part member
    obtain ⟨given, -, rfl⟩ := List.mem_map.mp member
    exact (identifier_repairIdentifier given).toWord
  · intro nothing
    exact List.splitOn_ne_nil '.' cs (List.map_eq_nil_iff.mp nothing)

theorem preRelease_repair (cs : List Char) : PreRelease (repair cs) := by
  intro part member
  rw [splitOn_repair] at member
  obtain ⟨given, -, rfl⟩ := List.mem_map.mp member
  exact identifier_repairIdentifier given

theorem repair_of_preRelease (valid : PreRelease cs) : repair cs = cs := by
  have same : (cs.splitOn '.').map repairIdentifier = (cs.splitOn '.').map fun part => part :=
    List.map_congr_left fun part member => repairIdentifier_of_identifier (valid part member)
  rw [repair, same, List.map_id', List.intercalate_splitOn]

theorem preReleaseOf_eq_repair (nonempty : cs ≠ []) : preReleaseOf (some cs) = repair cs := by
  rw [preReleaseOf]
  split
  · next kept => exact (repair_of_preRelease (kept.resolve_left nonempty)).symm
  · rfl

theorem preReleaseOf_valid (suffix : Option (List Char)) :
    preReleaseOf suffix = [] ∨ PreRelease (preReleaseOf suffix) := by
  unfold preReleaseOf
  split
  · exact .inl rfl
  · split
    · next valid => exact valid
    · exact .inr (preRelease_repair _)

def isPlainChar (c : Char) : Bool := isIdentifierChar c || c = '.'

theorem plain_joined {parts : List (List Char)} (words : ∀ part ∈ parts, Word part) :
    ∀ c ∈ ['.'].intercalate parts, isPlainChar c = true := by
  intro c member
  rcases mem_joined member with rfl | ⟨part, listed, inside⟩
  · rfl
  · have valid := isIdentifierChar_iff.mpr ((words part listed).chars c inside)
    rw [isPlainChar, valid, Bool.true_or]

theorem PreRelease.plain (valid : PreRelease cs) : ∀ c ∈ cs, isPlainChar c = true := by
  have joined := plain_joined fun part listed => (valid part listed).toWord
  rwa [List.intercalate_splitOn] at joined

theorem not_isBlank_of_plain {c : Char} (plain : isPlainChar c = true) :
    Text.isBlank c = false := by
  have classes : c.isAlphanum = (c.isUpper || c.isLower || c.isDigit) := rfl
  have upper : c.isUpper = decide (65 ≤ c.val ∧ c.val ≤ 90) := rfl
  have lower : c.isLower = (decide (97 ≤ c.val) && decide (c.val ≤ 122)) := rfl
  simp only [isPlainChar, isIdentifierChar, classes, upper, lower, Char.isDigit_iff_toNat,
    Bool.or_eq_true, Bool.and_eq_true, decide_eq_true_eq, UInt32.le_iff_toNat_le] at plain
  rcases plain with (((letter | letter) | digit) | rfl) | rfl
  · simp [Text.isBlank] at letter ⊢
    omega
  · simp [Text.isBlank] at letter ⊢
    omega
  · simp [Text.isBlank] at digit ⊢
    omega
  · decide
  · decide

theorem trim_of_plain {s : String} (plain : ∀ c ∈ s.toList, isPlainChar c = true) :
    Text.trim s = s :=
  Text.trim_of_unblank fun c member => not_isBlank_of_plain (plain c member)

theorem numeral_toDigits {n : Nat} (bounded : n < 2 ^ 64) : Numeral (Nat.toDigits 10 n) n where
  nonempty := Nat.toDigits_ne_nil
  digits _ member := Nat.isDigit_of_mem_toDigits (by decide) (by decide) member
  value := Nat.ofDigitChars_toDigits (by decide) (by decide)
  bounded := bounded

end

section

variable {cs : List Char} {parts : List (List Char)} {major minor patch : Nat}

theorem Numbered.bounded (numbered : Numbered parts major minor patch) :
    major < 2 ^ 64 ∧ minor < 2 ^ 64 ∧ patch < 2 ^ 64 := by
  cases numbered with
  | two first second => exact ⟨first.bounded, second.bounded, by decide⟩
  | three first second third => exact ⟨first.bounded, second.bounded, third.bounded⟩

theorem Numbered.digits (numbered : Numbered parts major minor patch) :
    ∀ part ∈ parts, ∀ c ∈ part, c.isDigit = true := by
  cases numbered with
  | two first second => simpa using ⟨first.digits, second.digits⟩
  | three first second third => simpa using ⟨first.digits, second.digits, third.digits⟩

theorem Numbered.chars (numbered : Numbered (cs.splitOn '.') major minor patch) :
    ∀ c ∈ cs, c.isDigit = true ∨ c = '.' := by
  intro c member
  have joined : ['.'].intercalate (cs.splitOn '.') = cs := List.intercalate_splitOn '.'
  rw [← joined] at member
  rcases mem_joined member with dot | ⟨part, listed, inside⟩
  · exact .inr dot
  · exact .inl (numbered.digits part listed c inside)

theorem Numbered.leading (numbered : Numbered (cs.splitOn '.') major minor patch) :
    ∃ c rest, cs = c :: rest ∧ c.isDigit = true := by
  obtain ⟨first, others, listed, nonempty⟩ :
      ∃ first others, cs.splitOn '.' = first :: others ∧ first ≠ [] := by
    generalize cs.splitOn '.' = parts at numbered ⊢
    cases numbered with
    | two first _ => exact ⟨_, _, rfl, first.nonempty⟩
    | three first _ _ => exact ⟨_, _, rfl, first.nonempty⟩
  obtain ⟨c, rest, rfl⟩ := List.exists_cons_of_ne_nil nonempty
  have digit := numbered.digits (c :: rest) (by simp [listed]) c List.mem_cons_self
  have joined : ['.'].intercalate (cs.splitOn '.') = cs := List.intercalate_splitOn '.'
  rw [listed] at joined
  cases others with
  | nil => exact ⟨c, _, joined.symm, digit⟩
  | cons second more => exact ⟨c, _, joined.symm, digit⟩

end

def spelled (numbers : List Char) (suffix : Option (List Char)) : List Char :=
  numbers ++ suffix.elim [] ('-' :: ·)

section

variable {numbers : List Char} {suffix : Option (List Char)} {major minor patch : Nat}

theorem plain_spelled (numbered : Numbered (numbers.splitOn '.') major minor patch)
    (plain : ∀ text ∈ suffix, ∀ c ∈ text, isPlainChar c = true) :
    ∀ c ∈ spelled numbers suffix, isPlainChar c = true := by
  intro c member
  rcases List.mem_append.mp member with number | behind
  · rcases numbered.chars c number with digit | rfl
    · simp [isPlainChar, isIdentifierChar, Char.isAlphanum, digit]
    · rfl
  · cases suffix with
    | none => cases behind
    | some text =>
      rcases List.mem_cons.mp behind with rfl | inside
      · rfl
      · exact plain text rfl c inside

theorem no_plus_of_plain {cs : List Char} (plain : ∀ c ∈ cs, isPlainChar c = true) :
    '+' ∉ cs := by
  intro member
  have accepted := plain '+' member
  revert accepted
  decide

theorem dropMark_of_digit {c : Char} (digit : c.isDigit = true) (rest : List Char) :
    dropMark (c :: rest) = c :: rest := by
  unfold dropMark
  split
  · next same =>
    cases same
    cases digit
  · rfl

theorem bare_spelled (numbered : Numbered (numbers.splitOn '.') major minor patch)
    (plain : ∀ text ∈ suffix, ∀ c ∈ text, isPlainChar c = true) :
    bare (String.ofList (spelled numbers suffix)) = spelled numbers suffix := by
  obtain ⟨c, rest, leading, digit⟩ := numbered.leading
  have trimmed := trim_of_plain (s := String.ofList (spelled numbers suffix)) <| by
    simpa only [String.toList_ofList] using plain_spelled numbered plain
  rw [bare, trimmed, String.toList_ofList, spelled, leading, List.cons_append]
  exact dropMark_of_digit digit _

theorem hyphen_not_mem (numbered : Numbered (numbers.splitOn '.') major minor patch) :
    '-' ∉ numbers := by
  intro member
  rcases numbered.chars '-' member with digit | dot
  · cases digit
  · cases dot

theorem front_of_plain {cs : List Char} (plain : ∀ c ∈ cs, isPlainChar c = true) :
    cs.takeWhile (· ≠ '+') = cs :=
  List.takeWhile_eq_self_iff.mpr (ne_of_plain (no_plus_of_plain plain))

theorem core_spelled (numbered : Numbered (numbers.splitOn '.') major minor patch)
    (plain : ∀ text ∈ suffix, ∀ c ∈ text, isPlainChar c = true) :
    core (spelled numbers suffix) = numbers := by
  have whole := hyphen_not_mem numbered
  rw [core, front_of_plain (plain_spelled numbered plain), spelled]
  cases suffix with
  | none =>
    rw [Option.elim_none, List.append_nil]
    exact List.takeWhile_eq_self_iff.mpr (ne_of_plain whole)
  | some text => exact takeWhile_before whole text

theorem suffix_spelled (numbered : Numbered (numbers.splitOn '.') major minor patch)
    (plain : ∀ text ∈ suffix, ∀ c ∈ text, isPlainChar c = true) :
    suffix? (spelled numbers suffix) = suffix := by
  have whole := hyphen_not_mem numbered
  rw [suffix?, front_of_plain (plain_spelled numbered plain), spelled]
  cases suffix with
  | none =>
    rw [Option.elim_none, List.append_nil, List.dropWhile_eq_nil_iff.mpr (ne_of_plain whole)]
    rfl
  | some text =>
    rw [Option.elim_some, dropWhile_before whole]
    rfl

theorem read_spelled (numbered : Numbered (numbers.splitOn '.') major minor patch)
    (plain : ∀ text ∈ suffix, ∀ c ∈ text, isPlainChar c = true) :
    read (String.ofList (spelled numbers suffix)) =
      .ok ⟨major, minor, patch, String.ofList (preReleaseOf suffix)⟩ := by
  rw [read_eq_ok_iff, bare_spelled numbered plain, core_spelled numbered plain,
    suffix_spelled numbered plain]
  exact ⟨numbered, String.toList_ofList⟩

end

section

variable {s : String} {v : Version}

def shownSuffix (v : Version) : Option (List Char) :=
  if v.preRelease.toList = [] then none else some v.preRelease.toList

def shownNumbers (v : Version) : List Char :=
  ['.'].intercalate ([v.major, v.minor, v.patch].map (Nat.toDigits 10))

theorem text_eq_spelled (v : Version) :
    v.text = String.ofList (spelled v.shownNumbers v.shownSuffix) := by
  have numbers : (s!"{v.major}.{v.minor}.{v.patch}").toList = v.shownNumbers := by
    simp [shownNumbers, toString, Nat.toList_repr]
  apply String.toList_inj.mp
  rw [String.toList_ofList, text, spelled, ← numbers, shownSuffix]
  by_cases none : v.preRelease = ""
  · simp [none]
  · simp [none]

theorem numbered_shown (own : read s = .ok v) :
    Numbered (v.shownNumbers.splitOn '.') v.major v.minor v.patch := by
  obtain ⟨major, minor, patch⟩ := (read_eq_ok_iff.mp own).1.bounded
  have three := Numbered.three (numeral_toDigits major) (numeral_toDigits minor)
    (numeral_toDigits patch)
  have dots : ∀ part ∈ [v.major, v.minor, v.patch].map (Nat.toDigits 10), '.' ∉ part := by
    intro part listed inside
    cases three.digits part listed '.' inside
  rw [shownNumbers, List.splitOn_intercalate '.' dots (by simp)]
  exact three

theorem preRelease_of_read (own : read s = .ok v) :
    v.preRelease.toList = [] ∨ PreRelease v.preRelease.toList := by
  rw [(read_eq_ok_iff.mp own).2]
  exact preReleaseOf_valid _

theorem plain_shownSuffix (own : read s = .ok v) :
    ∀ text ∈ v.shownSuffix, ∀ c ∈ text, isPlainChar c = true := by
  intro text given
  unfold shownSuffix at given
  split at given
  · cases given
  · next nonempty =>
    cases given
    exact ((preRelease_of_read own).resolve_left nonempty).plain

theorem preReleaseOf_shownSuffix (own : read s = .ok v) :
    preReleaseOf v.shownSuffix = v.preRelease.toList := by
  unfold shownSuffix
  split
  · next empty => exact empty.symm
  · exact if_pos (preRelease_of_read own)

theorem read_text (own : read s = .ok v) : read v.text = .ok v := by
  rw [text_eq_spelled, read_spelled (numbered_shown own) (plain_shownSuffix own),
    preReleaseOf_shownSuffix own, String.ofList_toList]

theorem no_plus_of_read (own : read s = .ok v) : '+' ∉ v.text.toList := by
  rw [text_eq_spelled, String.toList_ofList]
  exact no_plus_of_plain (plain_spelled (numbered_shown own) (plain_shownSuffix own))

end

/-- A text is a version if what stands in front of the first hyphen and of the first plus is two or
    three numerals, whatever stands behind. A suffix that is a pre-release is kept, and any other
    one is repaired to a pre-release. The standard, which is asked first, never disagrees; no build
    metadata is kept; and the text of a version is read as that version. -/
theorem read_is_tolerant :
    (∀ s v, read s = .ok v ↔
      Numbered ((core (bare s)).splitOn '.') v.major v.minor v.patch ∧
        v.preRelease.toList = preReleaseOf (suffix? (bare s))) ∧
    (∀ s, Readable s ↔
      ∃ major minor patch, Numbered ((core (bare s)).splitOn '.') major minor patch) ∧
    (∀ cs, PreRelease (repair cs)) ∧
    (∀ cs v, strict? cs = some v → tolerant cs = .ok v) ∧
    ∀ s v, read s = .ok v → '+' ∉ v.text.toList ∧ read v.text = .ok v := by
  refine ⟨fun s v => read_eq_ok_iff, fun s => readable_iff, preRelease_repair,
    fun cs v => tolerant_of_strict, ?_⟩
  intro s v own
  exact ⟨no_plus_of_read own, read_text own⟩

/-- A release candidate whose suffix is in order, and a nightly build whose suffix is not. -/
theorem candidates_are_read :
    strict? "4.14.0-rc.1+a.b".toList = some ⟨4, 14, 0, "rc.1"⟩ ∧
      tolerant "4.14.0-rc.1+a.b".toList = .ok ⟨4, 14, 0, "rc.1"⟩ ∧
      read " v4.014-0..01+a b" = .ok ⟨4, 14, 0, "0.0.n01"⟩ ∧
      read (text ⟨4, 14, 0, "0.0.n01"⟩) = .ok ⟨4, 14, 0, "0.0.n01"⟩ := by
  obtain ⟨-, -, -, agrees, shown⟩ := read_is_tolerant
  have strict : strict? "4.14.0-rc.1+a.b".toList = some ⟨4, 14, 0, "rc.1"⟩ := by rfl
  have nightly : read " v4.014-0..01+a b" = .ok ⟨4, 14, 0, "0.0.n01"⟩ := by rfl
  exact ⟨strict, agrees _ _ strict, nightly, (shown _ _ nightly).2⟩

end ClusterNet.Version
