import ClusterNet.Proofs.Extents
import ClusterNet.Proofs.Objects
import ClusterNet.Proofs.Rearrangement

/- Reading the compact text of a value. What is read is the value in canonical form, as objects are
   put in order while they are read. The values are those without fractions whose integers fit into
   64 bits, whose objects repeat no key and which are not nested too deep for a reader. -/
namespace ClusterNet.Json

theorem ended_cases {rest : List Char} (ended : Ended rest) :
    rest = [] ∨ ∃ c cs, rest = c :: cs ∧ (c = ',' ∨ c = ']' ∨ c = '\x7d') := by
  cases rest with
  | nil => exact .inl rfl
  | cons c cs => exact .inr ⟨c, cs, rfl, by simpa using ended c rfl⟩

theorem toDigits_leading (n : Nat) : ∃ c cs, Nat.toDigits 10 n = c :: cs ∧ c.isDigit = true ∧
    (c = '0' → cs = []) := by
  induction n using Nat.strongRecOn with
  | ind n ih =>
    by_cases small : n < 10
    · rw [Nat.toDigits_of_lt_base small]
      have digit : n.digitChar.isDigit = true := by
        refine Nat.isDigit_of_mem_toDigits (b := 10) (n := n) (by decide) (by decide) ?_
        rw [Nat.toDigits_of_lt_base small]
        exact List.mem_singleton_self _
      exact ⟨_, _, rfl, digit, fun _ => rfl⟩
    · obtain ⟨c, cs, digits, digit, zero⟩ := ih (n / 10) (by omega)
      rw [Nat.toDigits_of_base_le (by decide) (by omega), digits]
      refine ⟨c, _, rfl, digit, fun leading => ?_⟩
      have value := Nat.ofDigitChars_toDigits (b := 10) (n := n / 10) (by decide) (by decide)
      rw [digits, leading, zero leading] at value
      have : n / 10 = 0 := value.symm
      omega

theorem le_ofDigitChars (digits : List Char) (start : Nat) :
    start ≤ Nat.ofDigitChars 10 digits start := by
  induction digits generalizing start with
  | nil => exact Nat.le_refl start
  | cons c cs ih =>
    rw [Nat.ofDigitChars_cons]
    have := ih (10 * start + (c.toNat - '0'.toNat))
    omega

theorem takeDigits_of_fits {digits : List Char} {start : Nat}
    (fits : Nat.ofDigitChars 10 digits start ≤ maxWord) :
    takeDigits start digits = (Nat.ofDigitChars 10 digits start, digits.length) := by
  induction digits generalizing start with
  | nil => rfl
  | cons c cs ih =>
    rw [Nat.ofDigitChars_cons] at fits ⊢
    have next : 10 * start + digitValue c ≤ maxWord :=
      Nat.le_trans (le_ofDigitChars cs _) fits
    simp only [takeDigits, next, ↓reduceIte]
    rw [digitValue, ih fits]
    rfl

theorem takeDigits_toDigits {n : Nat} (small : n ≤ maxWord) :
    takeDigits 0 (Nat.toDigits 10 n) = (n, (Nat.toDigits 10 n).length) := by
  have value := Nat.ofDigitChars_toDigits (b := 10) (n := n) (by decide) (by decide)
  have fits : Nat.ofDigitChars 10 (Nat.toDigits 10 n) 0 ≤ maxWord := by rwa [value]
  rw [takeDigits_of_fits fits, value]

theorem span_toDigits (n : Nat) {rest : List Char} (ended : Ended rest) :
    (Nat.toDigits 10 n ++ rest).takeWhile Char.isDigit = Nat.toDigits 10 n ∧
      (Nat.toDigits 10 n ++ rest).dropWhile Char.isDigit = rest := by
  have digits : ∀ c ∈ Nat.toDigits 10 n, c.isDigit = true :=
    fun c member => Nat.isDigit_of_mem_toDigits (by decide) (by decide) member
  rw [List.takeWhile_append_of_pos digits, List.dropWhile_append_of_pos digits]
  rcases ended_cases ended with rfl | ⟨c, cs, rfl, rfl | rfl | rfl⟩ <;>
    exact ⟨List.append_nil _, rfl⟩

theorem readNumber_toDigits {n : Nat} (small : n ≤ maxWord) (negative : Bool) {rest : List Char}
    (ended : Ended rest) :
    readNumber negative (Nat.toDigits 10 n ++ rest) =
      if !negative then .ok (.integer n, rest)
      else if n = 0 ∨ Nat.pow 2 63 < n then realOf true n 0 rest
      else .ok (.integer (-(n : Int)), rest) := by
  obtain ⟨c, cs, digits, digit, zero⟩ := toDigits_leading n
  obtain ⟨whole, behind⟩ := span_toDigits n ended
  have taken := takeDigits_toDigits small
  rw [digits] at whole behind taken ⊢
  have led : ¬(c = '0' ∧ (cs ++ rest).head?.any Char.isDigit = true) := by
    rintro ⟨leading, digit⟩
    rw [zero leading, List.nil_append] at digit
    rcases ended_cases ended with rfl | ⟨d, ds, rfl, rfl | rfl | rfl⟩ <;> cases digit
  rw [List.cons_append] at whole behind ⊢
  simp only [readNumber, digit, Bool.not_true, Bool.false_eq_true, ↓reduceIte, led, whole, behind,
    taken, Nat.sub_self]
  rcases ended_cases ended with rfl | ⟨d, ds, rfl, rfl | rfl | rfl⟩ <;> rfl

section

variable (apart : String → String → Prop)

mutual

/-- A value that is read back from its text, in a place where so many more lists or objects may be
    opened. How the keys of an object are told apart is given. -/
def Legible : Nat → Json → Prop
  | _, .null | _, .boolean _ | _, .text _ => True
  | _, .number (.integer n) => -(Nat.pow 2 63 : Int) ≤ n ∧ n < Nat.pow 2 64
  | _, .number (.real _) => False
  | depth + 1, .list items => LegibleItems depth items
  | depth + 1, .object entries =>
    (entries.map Prod.fst).Pairwise apart ∧ LegibleEntries depth entries
  | 0, .list _ | 0, .object _ => False

def LegibleItems : Nat → List Json → Prop
  | _, [] => True
  | depth, item :: rest => Legible depth item ∧ LegibleItems depth rest

def LegibleEntries : Nat → List (String × Json) → Prop
  | _, [] => True
  | depth, (_, value) :: rest => Legible depth value ∧ LegibleEntries depth rest

end

end

section

variable {apart : String → String → Prop} {depth : Nat}

theorem legibleItems_iff {items : List Json} :
    LegibleItems apart depth items ↔ ∀ item ∈ items, Legible apart depth item := by
  induction items with
  | nil => simp [LegibleItems]
  | cons item rest ih => simp [LegibleItems, ih]

theorem legibleEntries_iff {entries : List (String × Json)} :
    LegibleEntries apart depth entries ↔ ∀ entry ∈ entries, Legible apart depth entry.2 := by
  induction entries with
  | nil => simp [LegibleEntries]
  | cons entry rest ih => simp [LegibleEntries, ih]

mutual

theorem Legible.imp {other : String → String → Prop} (weaker : ∀ {a b}, apart a b → other a b) :
    (depth : Nat) → (json : Json) → Legible apart depth json → Legible other depth json
  | _, .null, _ | _, .boolean _, _ | _, .text _, _ => trivial
  | _, .number (.integer _), fits => fits
  | depth + 1, .list items, legible => LegibleItems.imp weaker depth items legible
  | depth + 1, .object entries, ⟨keys, legible⟩ =>
    ⟨keys.imp weaker, LegibleEntries.imp weaker depth entries legible⟩

theorem LegibleItems.imp {other : String → String → Prop}
    (weaker : ∀ {a b}, apart a b → other a b) :
    (depth : Nat) → (items : List Json) → LegibleItems apart depth items →
      LegibleItems other depth items
  | _, [], _ => trivial
  | depth, item :: rest, ⟨first, later⟩ =>
    ⟨Legible.imp weaker depth item first, LegibleItems.imp weaker depth rest later⟩

theorem LegibleEntries.imp {other : String → String → Prop}
    (weaker : ∀ {a b}, apart a b → other a b) :
    (depth : Nat) → (entries : List (String × Json)) → LegibleEntries apart depth entries →
      LegibleEntries other depth entries
  | _, [], _ => trivial
  | depth, (_, value) :: rest, ⟨first, later⟩ =>
    ⟨Legible.imp weaker depth value first, LegibleEntries.imp weaker depth rest later⟩

end

mutual

theorem distinct_of_legible : (depth : Nat) → (json : Json) → Legible (· ≠ ·) depth json →
    json.Distinct
  | _, .null, _ | _, .boolean _, _ | _, .text _, _ | _, .number _, _ => trivial
  | depth + 1, .list items, legible => distinctItems_of_legible depth items legible
  | depth + 1, .object entries, ⟨keys, legible⟩ =>
    ⟨keys, distinctEntries_of_legible depth entries legible⟩

theorem distinctItems_of_legible : (depth : Nat) → (items : List Json) →
    LegibleItems (· ≠ ·) depth items → DistinctItems items
  | _, [], _ => trivial
  | depth, item :: rest, ⟨first, later⟩ =>
    ⟨distinct_of_legible depth item first, distinctItems_of_legible depth rest later⟩

theorem distinctEntries_of_legible : (depth : Nat) → (entries : List (String × Json)) →
    LegibleEntries (· ≠ ·) depth entries → DistinctEntries entries
  | _, [], _ => trivial
  | depth, (_, value) :: rest, ⟨first, later⟩ =>
    ⟨distinct_of_legible depth value first, distinctEntries_of_legible depth rest later⟩

end

mutual

theorem canonical_of_ascending : (depth : Nat) → (json : Json) → Legible (· < ·) depth json →
    json.canonical = json
  | _, .null, _ | _, .boolean _, _ | _, .text _, _ | _, .number _, _ => rfl
  | depth + 1, .list items, legible =>
    congrArg Json.list (canonicalItems_of_ascending depth items legible)
  | depth + 1, .object entries, ⟨keys, legible⟩ =>
    congrArg Json.object (canonicalEntries_of_sorted (List.pairwise_map.mp keys)
      (canonicalValues_of_ascending depth entries legible))

theorem canonicalItems_of_ascending : (depth : Nat) → (items : List Json) →
    LegibleItems (· < ·) depth items → canonicalItems items = items
  | _, [], _ => rfl
  | depth, item :: rest, ⟨first, later⟩ => by
    rw [canonicalItems, canonical_of_ascending depth item first,
      canonicalItems_of_ascending depth rest later]

theorem canonicalValues_of_ascending : (depth : Nat) → (entries : List (String × Json)) →
    LegibleEntries (· < ·) depth entries → ∀ entry ∈ entries, entry.2.canonical = entry.2
  | _, [], _ => nofun
  | depth, (_, value) :: rest, ⟨first, later⟩ =>
    List.forall_mem_cons.mpr ⟨canonical_of_ascending depth value first,
      canonicalValues_of_ascending depth rest later⟩

end

theorem legible_text (s : String) : Legible apart depth (.text s) := trivial

theorem legible_boolean (b : Bool) : Legible apart depth (.boolean b) := trivial

theorem legible_natural {n : Nat} (small : n < Nat.pow 2 64) :
    Legible apart depth (.natural n) := by
  refine ⟨Int.le_trans (Int.neg_nonpos_of_nonneg (Int.natCast_nonneg _)) (Int.natCast_nonneg n), ?_⟩
  exact Int.ofNat_lt.mpr small

theorem legible_mapped {α : Type} {write : α → Json} {items : List α}
    (each : ∀ a ∈ items, Legible apart depth (write a)) :
    Legible apart (depth + 1) (.list (items.map write)) :=
  legibleItems_iff.mpr (List.forall_mem_map.mpr each)

theorem legible_list {α : Type} {write : α → Json} (each : ∀ a, Legible apart depth (write a))
    (items : List α) : Legible apart (depth + 1) (.list (items.map write)) :=
  legible_mapped fun a _ => each a

theorem legible_texts (items : List String) : Legible apart (depth + 1) (.texts items) :=
  legible_mapped fun s _ => legible_text s

theorem legible_object {entries : List (String × Json)}
    (keys : (entries.map Prod.fst).Pairwise apart)
    (each : ∀ entry ∈ entries, Legible apart depth entry.2) :
    Legible apart (depth + 1) (.object entries) := ⟨keys, legibleEntries_iff.mpr each⟩

theorem legible_single {value : Json} (legible : Legible apart depth value) (key : String) :
    Legible apart (depth + 1) (.object [(key, value)]) :=
  legible_object (List.pairwise_singleton _ key) (List.forall_mem_singleton.mpr legible)

def LegibleField (apart : String → String → Prop) (depth : Nat) (value : Option Json) : Prop :=
  ∀ json ∈ value, Legible apart depth json

theorem LegibleField.always {json : Json} (legible : Legible apart depth json) :
    LegibleField apart depth (some json) := by
  rintro _ ⟨⟩
  exact legible

theorem LegibleField.mapped {α : Type} {write : α → Json} {value : Option α}
    (each : ∀ a ∈ value, Legible apart depth (write a)) :
    LegibleField apart depth (value.map write) := by
  intro json present
  obtain ⟨a, given, rfl⟩ := Option.map_eq_some_iff.mp present
  exact each a given

theorem LegibleField.optional {α : Type} {write : α → Json}
    (each : ∀ a, Legible apart depth (write a)) (value : Option α) :
    LegibleField apart depth (value.map write) := .mapped fun a _ => each a

theorem LegibleField.omitted {json : Json} (legible : Legible apart depth json) (omitted : Bool) :
    LegibleField apart depth (if omitted then none else some json) := by
  cases omitted with
  | true => exact nofun
  | false => exact .always legible

theorem legible_ofFields {fields : List (String × Option Json)}
    (keys : (fields.map Prod.fst).Pairwise apart)
    (each : ∀ field ∈ fields, LegibleField apart depth field.2) :
    Legible apart (depth + 1) (.ofFields fields) := by
  refine legible_object (keys.sublist (keys_ofFields fields)) fun entry member => ?_
  obtain ⟨⟨key, value⟩, listed, present⟩ := List.mem_filterMap.mp member
  obtain ⟨json, given, rfl⟩ := Option.map_eq_some_iff.mp present
  exact each _ listed json given

end

theorem readValue_digit {c : Char} (digit : c.isDigit = true) (fuel depth : Nat) (cs : List Char) :
    readValue (fuel + 1) depth (c :: cs) =
      (readNumber false (c :: cs)).bind fun (n, rest) => .ok (.number n, rest) := by
  have other {d : Char} (noDigit : d.isDigit = false) : c ≠ d := by
    rintro rfl
    rw [digit] at noDigit
    cases noDigit
  have solid : isSpace c = false := by
    simp only [isSpace, other (d := ' ') rfl, other (d := '\n') rfl, other (d := '\t') rfl,
      other (d := '\r') rfl, decide_false, Bool.or_false]
  have seen : skipSpace (c :: cs) = c :: cs := List.dropWhile_cons_of_neg (by rw [solid]; decide)
  rw [readValue, seen]
  simp only [other (d := 'n') rfl, other (d := 't') rfl, other (d := 'f') rfl,
    other (d := '-') rfl, digit, ↓reduceIte]
  rfl

theorem readValue_integer {n : Int} (least : -(Nat.pow 2 63 : Int) ≤ n) (most : n < Nat.pow 2 64)
    (fuel depth : Nat) {rest : List Char} (ended : Ended rest) :
    readValue (fuel + 1) depth (writeNumber (.integer n) ++ rest) =
      .ok (.number (.integer n), rest) := by
  cases n with
  | ofNat n =>
    have small : n ≤ maxWord := Nat.le_sub_one_of_lt (Int.ofNat_lt.mp most)
    have read := readNumber_toDigits small false ended
    obtain ⟨c, cs, digits, digit, -⟩ := toDigits_leading n
    rw [writeNumber]
    rw [digits, List.cons_append] at read ⊢
    rw [readValue_digit digit, read]
    rfl
  | negSucc n =>
    have small : n + 1 ≤ Nat.pow 2 63 := by
      generalize Nat.pow 2 63 = bound at least ⊢
      omega
    have read := readNumber_toDigits (Nat.le_trans small (by decide)) true ended
    have kept : ¬(n + 1 = 0 ∨ Nat.pow 2 63 < n + 1) := by
      generalize Nat.pow 2 63 = bound at small ⊢
      omega
    rw [if_neg (by decide), if_neg kept] at read
    change (readNumber true (Nat.toDigits 10 (n + 1) ++ rest)).bind _ = _
    rw [read]
    rfl

theorem write_starts (json : Json) :
    ∃ c cs, write json = c :: cs ∧ isSpace c = false ∧ c ≠ ']' := by
  match json with
  | .null | .boolean true | .boolean false | .text _ | .list [] | .list (_ :: _) | .object []
  | .object (_ :: _) => exact ⟨_, _, rfl, by decide, by decide⟩
  | .number n =>
    have text := numberText_write n
    rw [write]
    cases digits : writeNumber n with
    | nil => exact absurd digits text.some
    | cons c cs =>
      rw [digits] at text
      have first := (numeric_cons.mp text.numeric).1
      refine ⟨c, cs, rfl, ?_, by rintro rfl; cases first⟩
      refine Bool.eq_false_iff.mpr fun space => ?_
      simp only [isSpace, Bool.or_eq_true, decide_eq_true_eq, or_assoc] at space
      rcases space with rfl | rfl | rfl | rfl <;> cases first

theorem skipSpace_write (json : Json) (rest : List Char) :
    skipSpace (write json ++ rest) = write json ++ rest := by
  obtain ⟨c, cs, text, solid, -⟩ := write_starts json
  rw [text]
  exact List.dropWhile_cons_of_neg (by rw [solid]; decide)

def putAll (before entries : List (String × Json)) : List (String × Json) :=
  entries.foldl (fun read entry => put entry.1 entry.2.canonical read) before

theorem putAll_perm {before entries : List (String × Json)}
    (once : ((before ++ entries).map Prod.fst).Nodup) :
    (putAll before entries).Perm (before ++ entries.map canonicalEntry) := by
  induction entries generalizing before with
  | nil => rw [List.map_nil, List.append_nil]; exact .refl _
  | cons entry rest ih =>
    rw [List.map_append, List.map_cons] at once
    have absent : lookup entry.1 before = none :=
      lookup_eq_none_iff.mpr fun member =>
        (List.nodup_append.mp once).2.2 _ member _ List.mem_cons_self rfl
    have added := put_perm absent entry.2.canonical
    have keys : ((put entry.1 entry.2.canonical before ++ rest).map Prod.fst).Nodup := by
      rw [List.map_append]
      refine ((added.map Prod.fst).append_right _).nodup_iff.mpr ?_
      exact List.perm_middle.nodup_iff.mp once
    refine (ih keys).trans ((added.append_right _).trans ?_)
    exact List.perm_middle.symm

theorem sorted_putAll {before : List (String × Json)} (sorted : Sorted before)
    (entries : List (String × Json)) : Sorted (putAll before entries) := by
  induction entries generalizing before with
  | nil => exact sorted
  | cons entry rest ih => exact ih (sorted_put entry.1 _ sorted)

/-- Reading the entries of an object puts them in canonical order. -/
theorem putAll_nil {entries : List (String × Json)} (once : (entries.map Prod.fst).Nodup) :
    putAll [] entries = canonicalEntries entries :=
  eq_of_perm_of_sorted
    ((putAll_perm (by rwa [List.nil_append])).trans (canonicalEntries_perm once).symm)
    (sorted_putAll .nil entries) (sorted_canonicalEntries entries)

/-- The value is read from the front of a text, and what cannot continue it is left. -/
def ReadAt (depth : Nat) (json : Json) : Prop :=
  ∀ fuel rest, (write json).length < fuel → Ended rest →
    readValue fuel depth (write json ++ rest) = .ok (json.canonical, rest)

theorem readAt_of_step {depth : Nat} {json : Json}
    (step : ∀ fuel rest, (write json).length ≤ fuel → Ended rest →
      readValue (fuel + 1) depth (write json ++ rest) = .ok (json.canonical, rest)) :
    ReadAt depth json := by
  rintro (_ | fuel) rest enough ended
  · cases enough
  · exact step fuel rest (Nat.le_of_lt_succ enough) ended

theorem readItems_last {fuel depth : Nat} {cs rest : List Char} {item : Json}
    (read : readValue fuel depth cs = .ok (item, ']' :: rest)) :
    readItems (fuel + 1) depth cs = .ok ([item], rest) := by
  rw [readItems, read]
  rfl

theorem readItems_next {fuel depth : Nat} {cs rest : List Char} {item next : Json}
    (read : readValue fuel depth cs = .ok (item, ',' :: (write next ++ rest))) :
    readItems (fuel + 1) depth cs =
      (readItems fuel depth (write next ++ rest)).bind
        fun (items, cs) => .ok (item :: items, cs) := by
  obtain ⟨c, tail, text, solid, notEnd⟩ := write_starts next
  have ahead := skipSpace_write next rest
  rw [text, List.cons_append] at read ahead ⊢
  have comma (cs : List Char) : skipSpace (',' :: cs) = ',' :: cs := rfl
  simp only [readItems, read, ok_bind, comma, ahead]
  split
  · next same => cases same
  · next same => exact absurd (List.cons.inj same).1 notEnd
  · rfl

theorem readValue_items {fuel depth : Nat} {rest : List Char} {item : Json} :
    readValue (fuel + 1) (depth + 1) ('[' :: (write item ++ rest)) =
      (readItems fuel depth (write item ++ rest)).bind
        fun (items, cs) => .ok (.list items, cs) := by
  obtain ⟨c, tail, text, solid, notEnd⟩ := write_starts item
  have ahead := skipSpace_write item rest
  rw [text, List.cons_append] at ahead ⊢
  have bracket (cs : List Char) : skipSpace ('[' :: cs) = '[' :: cs := rfl
  simp only [readValue, bracket, ahead, Char.reduceEq, Char.reduceIsDigit, Bool.false_eq_true,
    ↓reduceIte]
  split
  · next same => cases same
  · next same => exact absurd (List.cons.inj same).1 notEnd
  · rfl

def keyed (key : String) (cs : List Char) : List Char :=
  key.toList.flatMap escapedChar ++ '"' :: ':' :: cs

theorem writeText_keyed (key : String) (cs : List Char) :
    writeText key ++ ':' :: cs = '"' :: keyed key cs := by
  simp [writeText, keyed]

theorem readEntries_last {fuel depth : Nat} {cs rest : List Char} {value : Json}
    (read : readValue fuel depth cs = .ok (value, '\x7d' :: rest)) (key : String)
    (before : List (String × Json)) :
    readEntries (fuel + 1) depth before (keyed key cs) = .ok (put key value before, rest) := by
  rw [readEntries, keyed, readText_escaped, ok_bind]
  change readValue fuel depth cs >>= _ = _
  rw [read]
  rfl

theorem readEntries_next {fuel depth : Nat} {cs rest : List Char} {value : Json}
    (read : readValue fuel depth cs = .ok (value, ',' :: '"' :: rest)) (key : String)
    (before : List (String × Json)) :
    readEntries (fuel + 1) depth before (keyed key cs) =
      readEntries fuel depth (put key value before) rest := by
  rw [readEntries, keyed, readText_escaped, ok_bind]
  change readValue fuel depth cs >>= _ = _
  rw [read]
  rfl

mutual

/-- By recursion on the value. Each step of the reader consumes a character at least, so the length
    of the text is fuel enough. -/
theorem readValue_write : (json : Json) → (depth : Nat) → Legible (· ≠ ·) depth json →
    ReadAt depth json
  | .null, _, _ => readAt_of_step fun _ _ _ _ => rfl
  | .boolean true, _, _ => readAt_of_step fun _ _ _ _ => rfl
  | .boolean false, _, _ => readAt_of_step fun _ _ _ _ => rfl
  | .number (.integer n), depth, ⟨least, most⟩ =>
    readAt_of_step fun fuel _ _ ended => readValue_integer least most fuel depth ended
  | .text s, _, _ => by
    refine readAt_of_step fun fuel rest _ _ => ?_
    have text : write (.text s) ++ rest = '"' :: (s.toList.flatMap escapedChar ++ '"' :: rest) := by
      simp [write, writeText]
    rw [text]
    change readText (s.toList.flatMap escapedChar ++ '"' :: rest) >>= _ = _
    rw [readText_escaped]
    rfl
  | .list [], _ + 1, _ => readAt_of_step fun _ _ _ _ => rfl
  | .list (item :: items), depth + 1, ⟨first, later⟩ => by
    refine readAt_of_step fun fuel rest enough _ => ?_
    have read := readItems_write items depth later item (readValue_write item depth first) fuel
      rest (by simp [write] at enough; omega)
    have text : write (.list (item :: items)) ++ rest =
        '[' :: (write item ++ (writeItems items ++ rest)) := by
      simp [write]
    rw [text, readValue_items, read]
    rfl
  | .object [], _ + 1, _ => readAt_of_step fun _ _ _ _ => rfl
  | .object ((key, value) :: entries), depth + 1, ⟨once, first, later⟩ => by
    refine readAt_of_step fun fuel rest enough _ => ?_
    have read := readEntries_write entries depth later key value
      (readValue_write value depth first) [] fuel rest (by simp [write] at enough; omega)
    have text : write (.object ((key, value) :: entries)) ++ rest =
        '\x7b' :: '"' :: keyed key (write value ++ (writeEntries entries ++ rest)) := by
      rw [← writeText_keyed]
      simp [write]
    rw [text]
    change readEntries fuel depth [] (keyed key (write value ++ (writeEntries entries ++ rest)))
      >>= _ = _
    rw [read, putAll_nil once]
    rfl

theorem readItems_write : (items : List Json) → (depth : Nat) →
    LegibleItems (· ≠ ·) depth items → (item : Json) → ReadAt depth item → (fuel : Nat) →
    (rest : List Char) → (write item).length + (writeItems items).length < fuel →
    readItems fuel depth (write item ++ (writeItems items ++ rest)) =
      .ok (canonicalItems (item :: items), rest)
  | [], depth, _, item, readAt, fuel + 1, rest, enough => by
    have read := readAt fuel (']' :: rest) (by simp [writeItems] at enough; omega)
      (ended_cons (by decide) _)
    exact readItems_last read
  | next :: items, depth, ⟨first, later⟩, item, readAt, fuel + 1, rest, enough => by
    simp only [writeItems, List.length_cons, List.length_append] at enough
    have read := readAt fuel (',' :: (write next ++ (writeItems items ++ rest))) (by omega)
      (ended_cons (by decide) _)
    have more := readItems_write items depth later next (readValue_write next depth first) fuel rest
      (by omega)
    have text : writeItems (next :: items) ++ rest =
        ',' :: (write next ++ (writeItems items ++ rest)) := by
      simp [writeItems]
    rw [text, readItems_next read, more]
    rfl

theorem readEntries_write : (entries : List (String × Json)) → (depth : Nat) →
    LegibleEntries (· ≠ ·) depth entries → (key : String) → (value : Json) →
    ReadAt depth value → (before : List (String × Json)) → (fuel : Nat) → (rest : List Char) →
    (write value).length + (writeEntries entries).length < fuel →
    readEntries fuel depth before (keyed key (write value ++ (writeEntries entries ++ rest))) =
      .ok (putAll before ((key, value) :: entries), rest)
  | [], depth, _, key, value, readAt, before, fuel + 1, rest, enough => by
    have read := readAt fuel ('\x7d' :: rest) (by simp [writeEntries] at enough; omega)
      (ended_cons (by decide) _)
    exact readEntries_last read key before
  | (key', value') :: entries, depth, ⟨first, later⟩, key, value, readAt, before, fuel + 1, rest,
      enough => by
    simp only [writeEntries, List.length_cons, List.length_append] at enough
    have read := readAt fuel
      (',' :: '"' :: keyed key' (write value' ++ (writeEntries entries ++ rest))) (by omega)
      (ended_cons (by decide) _)
    have more := readEntries_write entries depth later key' value'
      (readValue_write value' depth first) (put key value.canonical before) fuel rest (by omega)
    have text : writeEntries ((key', value') :: entries) ++ rest =
        ',' :: '"' :: keyed key' (write value' ++ (writeEntries entries ++ rest)) := by
      rw [← writeText_keyed]
      simp [writeEntries]
    rw [text, readEntries_next read, more]
    rfl

end

theorem read_compact {json : Json} (legible : Legible (· ≠ ·) maxDepth json) :
    read json.compact = .ok json.canonical := by
  have value := readValue_write json maxDepth legible ((write json).length + 1) []
    (Nat.lt_succ_self _) nofun
  rw [List.append_nil] at value
  have all : readAll (write json) = .ok json.canonical := by
    rw [readAll, value]
    rfl
  rw [read, compact, String.toList_ofList, all]

end ClusterNet.Json
