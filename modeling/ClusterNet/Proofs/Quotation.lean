import ClusterNet.Json.Printer
import ClusterNet.Json.Reader

/- Text in quotes. Every character is read back from its escaped form, so a quoted text is read back
   up to its closing quote, whatever follows. -/
namespace ClusterNet.Json

theorem hexDigit?_digitChar {n : Nat} (small : n < 16) : hexDigit? (Nat.digitChar n) = some n := by
  have table : ∀ n : Fin 16, hexDigit? (Nat.digitChar n) = some n.val := by decide
  exact table ⟨n, small⟩

theorem byteLength_cons (c : Char) (cs : List Char) :
    byteLength (c :: cs) = c.utf8Size + byteLength cs := by
  have shift (n : Nat) : cs.foldl (fun n c => n + c.utf8Size) n =
      n + cs.foldl (fun n c => n + c.utf8Size) 0 := by
    induction cs generalizing n with
    | nil => rfl
    | cons d ds ih =>
      rw [List.foldl_cons, List.foldl_cons, ih (n + d.utf8Size), ih (0 + d.utf8Size)]
      omega
  rw [byteLength, byteLength, List.foldl_cons, shift]
  omega

theorem readUnicode_code {c : Char} (control : c.toNat < 0x20) (rest : List Char) :
    readUnicode ('0' :: '0' :: Nat.digitChar (c.toNat / 16) :: Nat.digitChar (c.toNat % 16) :: rest)
      = .ok (c, rest) := by
  have high := hexDigit?_digitChar (show c.toNat / 16 < 16 by omega)
  have low := hexDigit?_digitChar (show c.toNat % 16 < 16 by omega)
  have zero : hexDigit? '0' = some 0 := by decide
  have value : hexValue?
      ['0', '0', Nat.digitChar (c.toNat / 16), Nat.digitChar (c.toNat % 16)] = some c.toNat := by
    simp [hexValue?, zero, high, low]
    omega
  have long : ¬byteLength ('0' :: '0' :: Nat.digitChar (c.toNat / 16) ::
      Nat.digitChar (c.toNat % 16) :: rest) < 4 := by
    have size := Char.utf8Size_pos
    simp only [byteLength_cons]
    have := size '0'
    have := size (Nat.digitChar (c.toNat / 16))
    have := size (Nat.digitChar (c.toNat % 16))
    omega
  have code : readCode ('0' :: '0' :: Nat.digitChar (c.toNat / 16) ::
      Nat.digitChar (c.toNat % 16) :: rest) = .ok (c.toNat, rest) := by
    rw [readCode, if_neg long]
    simp only [List.take_succ_cons, List.take_zero, value, List.drop_succ_cons, List.drop_zero]
  have lone : ¬(0xDC00 ≤ c.toNat ∧ c.toNat ≤ 0xDFFF) := by omega
  have lead : ¬(0xD800 ≤ c.toNat ∧ c.toNat ≤ 0xDBFF) := by omega
  rw [readUnicode, code]
  simp only [bind, Except.bind, lone, lead, ↓reduceIte, Char.ofNat_toNat]
  rfl

theorem digitChar_plain {n : Nat} (small : n < 16) :
    Nat.digitChar n ≠ '"' ∧ Nat.digitChar n ≠ '\\' := by
  have table : ∀ n : Fin 16, Nat.digitChar n ≠ '"' ∧ Nat.digitChar n ≠ '\\' := by decide
  exact table ⟨n, small⟩

/-- How a character is written: as it is, or behind a backslash as what is read for it. -/
theorem escapedChar_cases (c : Char) :
    (c ≠ '"' ∧ c ≠ '\\' ∧ 0x20 ≤ c.toNat ∧ escapedChar c = [c]) ∨
    ∃ mark tail, escapedChar c = '\\' :: mark :: tail ∧ (∀ d ∈ tail, d ≠ '"' ∧ d ≠ '\\') ∧
      ∀ rest, readEscape (mark :: tail ++ rest) = .ok (c, rest) := by
  unfold escapedChar
  split
  · next quote => exact .inr ⟨'"', [], rfl, by simp, fun _ => by rw [quote]; rfl⟩
  split
  · next backslash => exact .inr ⟨'\\', [], rfl, by simp, fun _ => by rw [backslash]; rfl⟩
  split
  · next backspace => exact .inr ⟨'b', [], rfl, by simp, fun _ => by rw [backspace]; rfl⟩
  split
  · next tab => exact .inr ⟨'t', [], rfl, by simp, fun _ => by rw [tab]; rfl⟩
  split
  · next newLine => exact .inr ⟨'n', [], rfl, by simp, fun _ => by rw [newLine]; rfl⟩
  split
  · next formFeed => exact .inr ⟨'f', [], rfl, by simp, fun _ => by rw [formFeed]; rfl⟩
  split
  · next carriageReturn => exact .inr ⟨'r', [], rfl, by simp, fun _ => by rw [carriageReturn]; rfl⟩
  split
  · next control =>
    refine .inr ⟨'u', _, rfl, ?_, readUnicode_code control⟩
    have high := digitChar_plain (show c.toNat / 16 < 16 by omega)
    have low := digitChar_plain (show c.toNat % 16 < 16 by omega)
    simp [high, low]
  · next quote backslash _ _ _ _ _ control =>
    exact .inl ⟨quote, backslash, by omega, rfl⟩

theorem readCharacters_escaped {fuel : Nat} (cs rest : List Char) (enough : cs.length < fuel) :
    readCharacters fuel (cs.flatMap escapedChar ++ '"' :: rest) = .ok (cs, rest) := by
  induction cs generalizing fuel with
  | nil =>
    cases fuel with
    | zero => simp at enough
    | succ fuel => rfl
  | cons c cs ih =>
    cases fuel with
    | zero => simp at enough
    | succ fuel =>
      have later := ih (Nat.lt_of_succ_lt_succ enough)
      rw [List.flatMap_cons, List.append_assoc]
      rcases escapedChar_cases c with ⟨quote, backslash, printed, own⟩ | ⟨mark, tail, own, -, read⟩
      · have notControl : ¬c.toNat < 0x20 := by omega
        rw [own, List.singleton_append]
        simp only [readCharacters, quote, backslash, notControl, ↓reduceIte, later, bind,
          Except.bind]
        rfl
      · rw [own, List.cons_append]
        simp only [readCharacters, ↓reduceIte, read, later, bind, Except.bind]
        rfl

theorem length_le_flatMap_escapedChar (cs : List Char) :
    cs.length ≤ (cs.flatMap escapedChar).length := by
  induction cs with
  | nil => exact Nat.le_refl 0
  | cons c cs ih =>
    have one : 1 ≤ (escapedChar c).length := by
      rcases escapedChar_cases c with ⟨-, -, -, own⟩ | ⟨mark, tail, own, -⟩ <;> simp [own]
    rw [List.flatMap_cons, List.length_append, List.length_cons]
    omega

theorem readText_escaped (s : String) (rest : List Char) :
    readText (s.toList.flatMap escapedChar ++ '"' :: rest) = .ok (s, rest) := by
  have enough : s.toList.length <
      (s.toList.flatMap escapedChar ++ '"' :: rest).length + 1 := by
    have := length_le_flatMap_escapedChar s.toList
    rw [List.length_append]
    omega
  simp only [readText, readCharacters_escaped _ _ enough, bind, Except.bind]
  exact congrArg (fun s => Except.ok (s, rest)) String.ofList_toList

theorem writeText_append_inj {s t : String} {left right : List Char}
    (same : writeText s ++ left = writeText t ++ right) : s = t ∧ left = right := by
  have texts : s.toList.flatMap escapedChar ++ '"' :: left =
      t.toList.flatMap escapedChar ++ '"' :: right := by
    simpa [writeText] using same
  have read := readText_escaped s left
  rw [texts, readText_escaped] at read
  cases read
  exact ⟨rfl, rfl⟩

end ClusterNet.Json
