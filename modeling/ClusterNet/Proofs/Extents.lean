import Mathlib.Data.List.Forall2
import ClusterNet.Proofs.Quotation

/- Where a value ends in a compact text: at the first comma or closing bracket outside of the
   quotes, lists and objects opened since its start. So no two values have texts of which one goes
   on where the other ends, and equal texts of lists and objects are made up of equal texts. -/
namespace ClusterNet.Json

def isNumberChar (c : Char) : Bool := c.isDigit || c ∈ ['-', '+', '.', 'e']

def Numeric (cs : List Char) : Prop := ∀ c ∈ cs, isNumberChar c = true

instance (cs : List Char) : Decidable (Numeric cs) := List.decidableBAll _ cs

theorem numeric_nil : Numeric [] := fun _ member => absurd member List.not_mem_nil

theorem numeric_cons {c : Char} {cs : List Char} :
    Numeric (c :: cs) ↔ isNumberChar c = true ∧ Numeric cs := List.forall_mem_cons

theorem numeric_append {xs ys : List Char} : Numeric (xs ++ ys) ↔ Numeric xs ∧ Numeric ys :=
  List.forall_mem_append

theorem numeric_toDigits (n : Nat) : Numeric (Nat.toDigits 10 n) := by
  intro c member
  rw [isNumberChar, Nat.isDigit_of_mem_toDigits (by decide) (by decide) member, Bool.true_or]

theorem numeric_zeros (n : Nat) : Numeric (List.replicate n '0') := by
  intro c member
  rw [List.eq_of_mem_replicate member]
  rfl

/-- What is written for a number: some of those characters, and at least one. -/
structure NumberText (cs : List Char) : Prop where
  numeric : Numeric cs
  some : cs ≠ []

theorem numberText_signed {negative : Bool} {body : List Char} (unsigned : NumberText body) :
    NumberText (if negative then '-' :: body else body) := by
  split
  · exact ⟨numeric_cons.mpr ⟨rfl, unsigned.numeric⟩, List.cons_ne_nil _ _⟩
  · exact unsigned

theorem numberText_layout (layout : Decimal.Layout) (x : Decimal.Binary64) :
    NumberText (layout.write x).toList := by
  have digits := numeric_toDigits (Decimal.shortest x.magnitude).digits
  have taken (n : Nat) : Numeric ((Nat.toDigits 10 (Decimal.shortest x.magnitude).digits).take n) :=
    fun c member => digits c (List.mem_of_mem_take member)
  have dropped (n : Nat) :
      Numeric ((Nat.toDigits 10 (Decimal.shortest x.magnitude).digits).drop n) :=
    fun c member => digits c (List.mem_of_mem_drop member)
  have point : isNumberChar '.' = true := rfl
  have mark : isNumberChar 'e' = true := rfl
  unfold Decimal.Layout.write
  rw [String.toList_ofList]
  refine numberText_signed ?_
  split
  · refine ⟨?_, by simp⟩
    exact numeric_append.mpr ⟨numeric_append.mpr ⟨digits, numeric_zeros _⟩, by decide⟩
  split
  · refine ⟨?_, by simp⟩
    exact numeric_append.mpr ⟨taken _, numeric_cons.mpr ⟨point, dropped _⟩⟩
  split
  · refine ⟨?_, by simp⟩
    exact numeric_append.mpr ⟨numeric_append.mpr ⟨by decide, numeric_zeros _⟩, digits⟩
  · refine ⟨?_, by simp⟩
    have fraction : Numeric (if (Nat.toDigits 10 (Decimal.shortest x.magnitude).digits).length ≤ 1
        then [] else '.' :: (Nat.toDigits 10 (Decimal.shortest x.magnitude).digits).drop 1) := by
      split
      · exact numeric_nil
      · exact numeric_cons.mpr ⟨point, dropped _⟩
    have power (n : Nat) {sign : List Char} (signed : Numeric sign) :
        Numeric ('e' :: sign ++ Nat.toDigits 10 n) :=
      numeric_cons.mpr ⟨mark, numeric_append.mpr ⟨signed, numeric_toDigits n⟩⟩
    rw [List.append_assoc]
    refine numeric_append.mpr ⟨numeric_append.mpr ⟨taken _, fraction⟩, power _ ?_⟩
    split
    · decide
    · split <;> decide

theorem numberText_write (n : Number) : NumberText (writeNumber n) := by
  cases n with
  | integer value =>
    cases value with
    | ofNat n => exact ⟨numeric_toDigits n, Nat.toDigits_ne_nil⟩
    | negSucc n =>
      exact ⟨numeric_cons.mpr ⟨rfl, numeric_toDigits (n + 1)⟩, List.cons_ne_nil _ _⟩
  | real x => exact numberText_layout Decimal.jsonLayout x

/-- Where a reader is: outside of quotes, in a quoted text, or behind a backslash in one. -/
inductive Place where
  | outside
  | quoted
  | escaped
  deriving DecidableEq, Repr

def opens (c : Char) : Bool := c ∈ ['[', '\x7b']

def closes (c : Char) : Bool := c ∈ [']', '\x7d']

/-- What is left of a text behind the value at its start, given the place that is reached and how
    many brackets are open there. -/
def afterValue : Place → Nat → List Char → List Char
  | _, _, [] => []
  | .escaped, depth, _ :: cs => afterValue .quoted depth cs
  | .quoted, depth, c :: cs =>
    afterValue (if c = '"' then .outside else if c = '\\' then .escaped else .quoted) depth cs
  | .outside, depth, c :: cs =>
    if c = '"' then afterValue .quoted depth cs
    else if opens c then afterValue .outside (depth + 1) cs
    else if depth = 0 ∧ (c = ',' ∨ closes c) then c :: cs
    else afterValue .outside (if closes c then depth - 1 else depth) cs

/-- A text that cannot continue a value. -/
def Ended (cs : List Char) : Prop := ∀ c ∈ cs.head?, c ∈ [',', ']', '\x7d']

theorem ended_cons {c : Char} (mark : c ∈ [',', ']', '\x7d']) (cs : List Char) :
    Ended (c :: cs) := by
  rintro d ⟨⟩
  exact mark

theorem afterValue_of_ended {cs : List Char} (ended : Ended cs) :
    afterValue .outside 0 cs = cs := by
  cases cs with
  | nil => rfl
  | cons c cs =>
    have mark := ended c rfl
    simp only [List.mem_cons, List.not_mem_nil, or_false] at mark
    rcases mark with rfl | rfl | rfl <;> rfl

def isPlain (c : Char) : Bool := c ∉ ['"', ',', '[', '\x7b', ']', '\x7d']

theorem afterValue_plain {cs : List Char} (plain : ∀ c ∈ cs, isPlain c = true) (depth : Nat)
    (rest : List Char) :
    afterValue .outside depth (cs ++ rest) = afterValue .outside depth rest := by
  induction cs with
  | nil => rfl
  | cons c cs ih =>
    obtain ⟨first, later⟩ := List.forall_mem_cons.mp plain
    simp only [isPlain, List.mem_cons, List.not_mem_nil, or_false, decide_eq_true_eq,
      not_or] at first
    obtain ⟨quote, comma, bracket, brace, bracket', brace'⟩ := first
    rw [List.cons_append, afterValue, if_neg quote]
    simp [opens, closes, comma, bracket, brace, bracket', brace', ih later]

theorem isPlain_of_isNumberChar {c : Char} (numeric : isNumberChar c = true) :
    isPlain c = true := by
  refine decide_eq_true ?_
  intro mark
  simp only [List.mem_cons, List.not_mem_nil, or_false] at mark
  rcases mark with rfl | rfl | rfl | rfl | rfl | rfl <;> cases numeric

theorem afterValue_unescaped {c : Char} (quote : c ≠ '"') (backslash : c ≠ '\\') (depth : Nat)
    (rest : List Char) : afterValue .quoted depth (c :: rest) = afterValue .quoted depth rest := by
  rw [afterValue, if_neg quote, if_neg backslash]

theorem afterValue_escapedChar (c : Char) (depth : Nat) (rest : List Char) :
    afterValue .quoted depth (escapedChar c ++ rest) = afterValue .quoted depth rest := by
  rcases escapedChar_cases c with ⟨quote, backslash, -, own⟩ | ⟨mark, tail, own, plain, -⟩
  · rw [own]
    exact afterValue_unescaped quote backslash depth rest
  · rw [own]
    change afterValue .quoted depth (tail ++ rest) = _
    clear own
    induction tail with
    | nil => rfl
    | cons d tail ih =>
      obtain ⟨⟨quote, backslash⟩, later⟩ := List.forall_mem_cons.mp plain
      rw [List.cons_append, afterValue_unescaped quote backslash, ih later]

theorem afterValue_writeText (s : String) (depth : Nat) (rest : List Char) :
    afterValue .outside depth (writeText s ++ rest) = afterValue .outside depth rest := by
  have inside (cs : List Char) : afterValue .quoted depth (cs.flatMap escapedChar ++ '"' :: rest) =
      afterValue .outside depth rest := by
    induction cs with
    | nil => rfl
    | cons c cs ih => rw [List.flatMap_cons, List.append_assoc, afterValue_escapedChar, ih]
  rw [← inside s.toList, writeText]
  simp [afterValue]

theorem afterValue_writeNumber (n : Number) (depth : Nat) (rest : List Char) :
    afterValue .outside depth (writeNumber n ++ rest) = afterValue .outside depth rest :=
  afterValue_plain
    (fun c member => isPlain_of_isNumberChar ((numberText_write n).numeric c member)) depth rest

mutual

/-- Behind a value a reader is where it was in front of it. -/
theorem afterValue_write (depth : Nat) (rest : List Char) : (json : Json) →
    afterValue .outside depth (write json ++ rest) = afterValue .outside depth rest
  | .null | .boolean true | .boolean false =>
    afterValue_plain (List.all_eq_true.mp rfl) depth rest
  | .number n => afterValue_writeNumber n depth rest
  | .text s => afterValue_writeText s depth rest
  | .list [] => rfl
  | .list (item :: items) => by
    rw [write, List.append_assoc]
    change afterValue .outside (depth + 1) (write item ++ (writeItems items ++ rest)) = _
    rw [afterValue_write, afterValue_writeItems]
  | .object [] => rfl
  | .object ((key, value) :: entries) => by
    rw [write]
    simp only [List.cons_append, List.append_assoc]
    change afterValue .outside (depth + 1)
      (writeText key ++ ':' :: (write value ++ (writeEntries entries ++ rest))) = _
    rw [afterValue_writeText]
    change afterValue .outside (depth + 1) (write value ++ (writeEntries entries ++ rest)) = _
    rw [afterValue_write, afterValue_writeEntries]

theorem afterValue_writeItems (depth : Nat) (rest : List Char) : (items : List Json) →
    afterValue .outside (depth + 1) (writeItems items ++ rest) = afterValue .outside depth rest
  | [] => rfl
  | item :: items => by
    rw [writeItems, List.append_assoc]
    change afterValue .outside (depth + 1) (write item ++ (writeItems items ++ rest)) = _
    rw [afterValue_write, afterValue_writeItems]

theorem afterValue_writeEntries (depth : Nat) (rest : List Char) :
    (entries : List (String × Json)) →
      afterValue .outside (depth + 1) (writeEntries entries ++ rest) =
        afterValue .outside depth rest
  | [] => rfl
  | (key, value) :: entries => by
    rw [writeEntries]
    simp only [List.cons_append, List.append_assoc]
    change afterValue .outside (depth + 1)
      (writeText key ++ ':' :: (write value ++ (writeEntries entries ++ rest))) = _
    rw [afterValue_writeText]
    change afterValue .outside (depth + 1) (write value ++ (writeEntries entries ++ rest)) = _
    rw [afterValue_write, afterValue_writeEntries]

end

theorem write_ne_nil : (json : Json) → write json ≠ []
  | .null | .boolean true | .boolean false | .text _ | .list [] | .list (_ :: _)
  | .object [] | .object (_ :: _) => List.cons_ne_nil _ _
  | .number n => (numberText_write n).some

theorem ended_writeItems (items : List Json) : Ended (writeItems items) := by
  cases items <;> exact ended_cons (by decide) _

theorem ended_writeEntries (entries : List (String × Json)) : Ended (writeEntries entries) := by
  cases entries <;> exact ended_cons (by decide) _

/-- Of two values in front of texts that cannot continue them, each is as long as the other. -/
theorem write_append_cancel {a b : Json} {left right : List Char} (leftEnded : Ended left)
    (rightEnded : Ended right) (same : write a ++ left = write b ++ right) :
    write a = write b ∧ left = right := by
  have behind := congrArg (afterValue .outside 0) same
  rw [afterValue_write, afterValue_write, afterValue_of_ended leftEnded,
    afterValue_of_ended rightEnded] at behind
  subst behind
  exact ⟨List.append_cancel_right same, rfl⟩

theorem write_append_ne {a : Json} {left right : List Char} (leftEnded : Ended left)
    (rightEnded : Ended right) : write a ++ left ≠ right := by
  intro same
  have behind := congrArg (afterValue .outside 0) same
  rw [afterValue_write, afterValue_of_ended leftEnded, afterValue_of_ended rightEnded] at behind
  subst behind
  exact write_ne_nil a (List.append_left_eq_self.mp same)

def SameText (a b : Json) : Prop := write a = write b

def SameEntryText (x y : String × Json) : Prop := x.1 = y.1 ∧ SameText x.2 y.2

theorem writeItems_eq_iff {xs ys : List Json} :
    writeItems xs = writeItems ys ↔ List.Forall₂ SameText xs ys := by
  constructor
  · intro same
    induction xs generalizing ys with
    | nil =>
      cases ys with
      | nil => exact .nil
      | cons y ys => exact absurd (List.cons.inj same).1 (by decide)
    | cons x xs ih =>
      cases ys with
      | nil => exact absurd (List.cons.inj same).1 (by decide)
      | cons y ys =>
        obtain ⟨first, later⟩ := write_append_cancel (ended_writeItems xs) (ended_writeItems ys)
          (List.cons.inj same).2
        exact .cons first (ih later)
  · intro items
    induction items with
    | nil => rfl
    | cons item _ ih =>
      rw [SameText] at item
      rw [writeItems, writeItems, item, ih]

theorem write_list_eq_iff {xs ys : List Json} :
    write (.list xs) = write (.list ys) ↔ List.Forall₂ SameText xs ys := by
  have closed : Ended [']'] := ended_cons (by decide) []
  rw [← writeItems_eq_iff]
  match xs, ys with
  | [], [] => exact iff_of_true rfl rfl
  | [], y :: ys =>
    refine iff_of_false ?_ fun same => absurd (List.cons.inj same).1 (by decide)
    exact fun same => write_append_ne (ended_writeItems ys) closed (List.cons.inj same).2.symm
  | x :: xs, [] =>
    refine iff_of_false ?_ fun same => absurd (List.cons.inj same).1 (by decide)
    exact fun same => write_append_ne (ended_writeItems xs) closed (List.cons.inj same).2
  | x :: xs, y :: ys =>
    rw [write, write, writeItems, writeItems]
    simp only [List.cons_append, List.cons_inj_right]

theorem entry_append_cancel {x y : String × Json} {left right : List Char} (leftEnded : Ended left)
    (rightEnded : Ended right)
    (same : writeText x.1 ++ ':' :: write x.2 ++ left =
      writeText y.1 ++ ':' :: write y.2 ++ right) :
    SameEntryText x y ∧ left = right := by
  rw [List.append_assoc, List.append_assoc] at same
  obtain ⟨keys, values⟩ := writeText_append_inj same
  obtain ⟨texts, behind⟩ :=
    write_append_cancel leftEnded rightEnded (List.cons.inj values).2
  exact ⟨⟨keys, texts⟩, behind⟩

theorem writeEntries_eq_iff {xs ys : List (String × Json)} :
    writeEntries xs = writeEntries ys ↔ List.Forall₂ SameEntryText xs ys := by
  constructor
  · intro same
    induction xs generalizing ys with
    | nil =>
      cases ys with
      | nil => exact .nil
      | cons y ys => exact absurd (List.cons.inj same).1 (by decide)
    | cons x xs ih =>
      cases ys with
      | nil => exact absurd (List.cons.inj same).1 (by decide)
      | cons y ys =>
        obtain ⟨first, later⟩ := entry_append_cancel (ended_writeEntries xs)
          (ended_writeEntries ys) (List.cons.inj same).2
        exact .cons first (ih later)
  · intro entries
    induction entries with
    | nil => rfl
    | @cons x y _ _ entry _ ih =>
      obtain ⟨key, value⟩ := x
      obtain ⟨rfl, texts⟩ := entry
      rw [SameText] at texts
      rw [writeEntries, writeEntries, texts, ih]

theorem write_object_eq_iff {xs ys : List (String × Json)} :
    write (.object xs) = write (.object ys) ↔ List.Forall₂ SameEntryText xs ys := by
  rw [← writeEntries_eq_iff]
  match xs, ys with
  | [], [] => exact iff_of_true rfl rfl
  | [], (key, value) :: ys => exact iff_of_false nofun nofun
  | (key, value) :: xs, [] => exact iff_of_false nofun nofun
  | (key, value) :: xs, (key', value') :: ys =>
    rw [write, write, writeEntries, writeEntries]
    simp only [List.cons_append, List.cons_inj_right]

inductive Shape where
  | null
  | boolean
  | number
  | text
  | list
  | object
  deriving DecidableEq, Repr

def shape : Json → Shape
  | .null => .null
  | .boolean _ => .boolean
  | .number _ => .number
  | .text _ => .text
  | .list _ => .list
  | .object _ => .object

def shapeOf : List Char → Shape
  | 'n' :: _ => .null
  | 't' :: _ => .boolean
  | 'f' :: _ => .boolean
  | '"' :: _ => .text
  | '[' :: _ => .list
  | '\x7b' :: _ => .object
  | _ => .number

theorem shapeOf_numeric {cs : List Char} (numeric : Numeric cs) : shapeOf cs = .number := by
  cases cs with
  | nil => rfl
  | cons c cs =>
    have first := (numeric_cons.mp numeric).1
    unfold shapeOf
    split <;> first | rfl | (next same => cases (List.cons.inj same).1; cases first)

theorem shapeOf_write : (json : Json) → shapeOf (write json) = json.shape
  | .null | .boolean true | .boolean false | .text _ | .list [] | .list (_ :: _)
  | .object [] | .object (_ :: _) => rfl
  | .number n => shapeOf_numeric (numberText_write n).numeric

theorem shape_of_sameText {a b : Json} (same : SameText a b) : a.shape = b.shape := by
  rw [← shapeOf_write, ← shapeOf_write, same]

end ClusterNet.Json
