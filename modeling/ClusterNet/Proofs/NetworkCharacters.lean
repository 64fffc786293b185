import Mathlib.Data.List.TakeWhile
import ClusterNet.Proofs.NetworkTexts

/- The characters of a network's text. The readers take digits, dots and colons and one slash off
   the front of a text and nothing else. So what is read to its end has no white space and no comma
   in it. -/
namespace ClusterNet

namespace Address

inductive Textual (c : Char) : Prop
  | digit {base : Nat} (small : base ≤ 16) (digit : (digitOf? base c).isSome)
  | mark (mark : c ∈ ['.', ':', '/'])

theorem range_of_digit {base : Nat} (small : base ≤ 16) {c : Char}
    (digit : (digitOf? base c).isSome) :
    (48 ≤ c.toNat ∧ c.toNat ≤ 57) ∨ (65 ≤ c.toNat ∧ c.toNat ≤ 70) ∨
      (97 ≤ c.toNat ∧ c.toNat ≤ 102) := by
  simp only [digitOf?, Option.isSome_ite, Char.le_def, UInt32.le_iff_toNat_le] at digit
  change (if 48 ≤ c.toNat ∧ c.toNat ≤ 57 then c.toNat - 48
    else if 97 ≤ c.toNat ∧ c.toNat ≤ 122 then c.toNat - 97 + 10
    else if 65 ≤ c.toNat ∧ c.toNat ≤ 90 then c.toNat - 65 + 10 else base) < base at digit
  repeat' split at digit
  all_goals omega

theorem Textual.range {c : Char} (textual : Textual c) :
    (46 ≤ c.toNat ∧ c.toNat ≤ 58) ∨ (65 ≤ c.toNat ∧ c.toNat ≤ 70) ∨
      (97 ≤ c.toNat ∧ c.toNat ≤ 102) := by
  cases textual with
  | digit small digit =>
    have := range_of_digit small digit
    omega
  | mark mark =>
    simp only [List.mem_cons, List.not_mem_nil, or_false] at mark
    rcases mark with rfl | rfl | rfl <;> decide

theorem Textual.unblank {c : Char} (textual : Textual c) : Text.isBlank c = false := by
  have range := textual.range
  simp only [Text.isBlank, Bool.or_eq_false_iff, Bool.and_eq_false_iff,
    decide_eq_false_iff_not, beq_eq_false_iff_ne]
  omega

theorem Textual.ne_comma {c : Char} (textual : Textual c) : c ≠ ',' := by
  rintro rfl
  have range := textual.range
  revert range
  decide

def Took (cs rest : List Char) : Prop := ∃ taken, cs = taken ++ rest ∧ ∀ c ∈ taken, Textual c

section

variable {cs rest : List Char}

theorem Took.refl (cs : List Char) : Took cs cs := ⟨[], rfl, nofun⟩

theorem Took.trans {more : List Char} (first : Took cs rest) (second : Took rest more) :
    Took cs more := by
  obtain ⟨taken, rfl, textual⟩ := first
  obtain ⟨later, rfl, textual'⟩ := second
  exact ⟨taken ++ later, (List.append_assoc ..).symm,
    List.forall_mem_append.mpr ⟨textual, textual'⟩⟩

theorem Took.all (took : Took cs []) : ∀ c ∈ cs, Textual c := by
  obtain ⟨taken, rfl, textual⟩ := took
  rwa [List.append_nil]

theorem readNumber_took {base most n : Nat} (small : base ≤ 16)
    (run : readNumber base most cs = some (n, rest)) : Took cs rest := by
  simp only [readNumber] at run
  split at run
  · cases run
  · cases run
    refine ⟨_, List.takeWhile_append_dropWhile.symm, fun c taken => ?_⟩
    exact .digit small (List.mem_takeWhile_imp (p := fun c => (digitOf? base c).isSome) taken)

theorem readChar_took {expected : Char} (textual : Textual expected)
    (run : readChar expected cs = some rest) : Took cs rest := by
  cases cs with
  | nil => cases run
  | cons c cs =>
    simp only [readChar] at run
    split at run
    · next same =>
      cases run
      exact ⟨[c], rfl, List.forall_mem_singleton.mpr (same ▸ textual)⟩
    · cases run

section

variable {dialect : Dialect}

theorem readOctet_took {octet : Nat} (run : readOctet dialect cs = some (octet, rest)) :
    Took cs rest := by
  simp only [readOctet, Option.bind_eq_bind, Option.bind_eq_some_iff] at run
  obtain ⟨⟨n, left⟩, number, run⟩ := run
  split at run
  · cases run
    exact readNumber_took (by decide) number
  · cases run

theorem readQuad_took {quad : Nat} (run : readQuad dialect cs = some (quad, rest)) :
    Took cs rest := by
  simp only [readQuad, Option.bind_eq_bind, Option.bind_eq_some_iff] at run
  obtain ⟨⟨a, behindA⟩, readA, dotA, foundA, ⟨b, behindB⟩, readB, dotB, foundB, ⟨c, behindC⟩, readC,
    dotC, foundC, ⟨d, behindD⟩, readD, run⟩ := run
  cases run
  have dot : Textual '.' := .mark (by decide)
  exact (readOctet_took readA).trans <| (readChar_took dot foundA).trans <|
    (readOctet_took readB).trans <| (readChar_took dot foundB).trans <|
    (readOctet_took readC).trans <| (readChar_took dot foundC).trans (readOctet_took readD)

/-- A run of groups takes the colon in front of a group only with the group. -/
theorem readGroups_took (most : Nat) (first : Bool) (cs : List Char) :
    Took cs (readGroups dialect most first cs).rest := by
  induction most generalizing first cs with
  | zero => exact .refl cs
  | succ most ih =>
    have colon : Textual ':' := .mark (by decide)
    rw [readGroups]
    split
    · exact .refl cs
    · next body opened =>
      have led : Took cs body := by
        split at opened
        · cases opened
          exact .refl cs
        · exact readChar_took colon opened
      split
      · next quad rest read =>
        split at read
        · cases read
        · exact led.trans (readQuad_took read)
      · split
        · exact .refl cs
        · next group rest read =>
          exact led.trans ((readNumber_took (by decide) read).trans (ih false rest))

theorem readHextets_took {value : Nat} (run : readHextets dialect cs = some (value, rest)) :
    Took cs rest := by
  have colon : Textual ':' := .mark (by decide)
  have head : Took cs (readGroups dialect 8 true cs).rest := readGroups_took 8 true cs
  simp only [readHextets] at run
  split at run
  · cases run
    exact head
  · split at run
    · cases run
    · simp only [Option.bind_eq_bind, Option.bind_eq_some_iff] at run
      obtain ⟨second, foundFirst, behind, foundSecond, run⟩ := run
      cases run
      exact head.trans <| (readChar_took colon foundFirst).trans <|
        (readChar_took colon foundSecond).trans (readGroups_took _ true behind)

theorem readFamily_took {family : Family} {a : Address}
    (run : readFamily dialect family cs = some (a, rest)) : Took cs rest := by
  cases family with
  | v4 =>
    simp only [readFamily, Option.bind_eq_bind, Option.bind_eq_some_iff] at run
    obtain ⟨⟨value, left⟩, read, found, -, run⟩ := run
    cases run
    exact readQuad_took read
  | v6 =>
    simp only [readFamily, Option.bind_eq_bind, Option.bind_eq_some_iff] at run
    obtain ⟨⟨value, left⟩, read, found, -, run⟩ := run
    cases run
    exact readHextets_took read

end

end

end Address

namespace Network

theorem textual_of_readFamily {family : Family} {most : Nat} {cs : List Char} {n : Network}
    (run : readFamily family most cs = some n) : ∀ c ∈ cs, Address.Textual c := by
  simp only [readFamily, Option.bind_eq_bind, Option.bind_eq_some_iff] at run
  obtain ⟨⟨address, behind⟩, first, digits, slash, ⟨length, rest⟩, second, run⟩ := run
  split at run
  · split at run
    · next done =>
      have took : Address.Took cs rest := (Address.readFamily_took first).trans <|
        (Address.readChar_took (.mark (by decide)) slash).trans
          (Address.readNumber_took (by decide) second)
      have ended : rest = [] := List.isEmpty_iff.mp done
      exact (ended ▸ took).all
    · cases run
  · cases run

theorem textual_of_readExact {s : String} {n : Network} (run : readExact s = some n) :
    ∀ c ∈ s.toList, Address.Textual c := by
  rw [readExact] at run
  cases four : readFamily .v4 2 s.toList with
  | some m => exact textual_of_readFamily four
  | none =>
    rw [four] at run
    exact textual_of_readFamily (run : readFamily .v6 3 s.toList = some n)

theorem trim_of_readExact {s : String} {n : Network} (run : readExact s = some n) :
    Text.trim s = s :=
  Text.trim_of_unblank fun c member => (textual_of_readExact run c member).unblank

/-- The text as it stands, with nothing removed, is that of an address in the network and of the
    network's length. -/
def Denotes (s : String) (n : Network) : Prop := ∃ m, readExact s = some m ∧ m.masked = n

theorem denotes_trim_of_read {s : String} {n : Network} (found : read s = .ok n) :
    Denotes (Text.trim s) n := read_eq_ok_iff.mp found

/-- Reading tolerates white space, and nothing else that is not in the text of a network. -/
theorem denotes_iff_of_read {s : String} {n : Network} (found : read s = .ok n) :
    Denotes s n ↔ Text.trim s = s := by
  constructor
  · rintro ⟨m, exact, -⟩
    exact trim_of_readExact exact
  · intro same
    exact same ▸ denotes_trim_of_read found

theorem comma_not_mem_of_read {s : String} {n : Network} (found : read s = .ok n) :
    ',' ∉ s.toList := by
  -- Trimming takes white space only, so the comma would be in what was read exactly.
  intro member
  obtain ⟨m, exact, -⟩ := denotes_trim_of_read found
  rcases Text.mem_trim_or member with kept | blank
  · exact (textual_of_readExact exact _ kept).ne_comma rfl
  · revert blank
    decide

end Network
end ClusterNet
