import ClusterNet.Proofs.Blanks
import ClusterNet.Proofs.Hextets
import ClusterNet.Proofs.Separators
import ClusterNet.Proofs.Supernets
import ClusterNet.Provider.Kuryr

/- Reading networks back. The text of a network is read as that network, whichever of the two
   families it is of, and what is read has no bits behind its leading ones. So the text of what was
   read is stable, and white space around a text is lost. -/
namespace ClusterNet

namespace Address

theorem readFamily_write (a : Address) {rest : List Char} (ended : ∃ cs, rest = '/' :: cs) :
    readFamily tolerant a.family (a.write ++ rest) = some (a, rest) := by
  obtain ⟨cs, rfl⟩ := ended
  obtain ⟨family, value, fits⟩ := a
  have found : ofNat? family value = some ⟨family, value, fits⟩ := dif_pos fits
  have ended : GroupsEnd ('/' :: cs) := .length cs
  cases family with
  | v4 =>
    have read := readQuad_writeQuad fits (ended.undotted.noDigit (.inl rfl))
    simp [readFamily, write, read, found]
  | v6 =>
    have read := readHextets_writeHextets fits ended
    simp [readFamily, write, read, found]

section

variable {p : Char → Prop} (digit : ∀ d < 16, p d.digitChar)

include digit

theorem forall_mem_digits {base : Nat} (known : base = 10 ∨ base = 16) (n : Nat) :
    ∀ c ∈ Nat.toDigits base n, p c := by
  have small {d : Nat} (fits : d < base) : d < 16 := by omega
  exact forall_mem_toDigits (by omega) (fun d fits => digit d (small fits)) n

theorem forall_mem_joined {separator : Char} (own : p separator) {base : Nat}
    (known : base = 10 ∨ base = 16) (ns : List Nat) :
    ∀ c ∈ [separator].intercalate (ns.map (Nat.toDigits base)), p c := by
  intro c member
  rcases mem_joined member with rfl | ⟨part, listed, inside⟩
  · exact own
  · obtain ⟨n, -, rfl⟩ := List.mem_map.mp listed
    exact forall_mem_digits digit known n c inside

theorem forall_mem_write (dot : p '.') (colon : p ':') (a : Address) : ∀ c ∈ a.write, p c := by
  have quad (value : Nat) : ∀ c ∈ writeQuad value, p c :=
    forall_mem_joined digit dot (.inl rfl) _
  have run (gs : List Nat) : ∀ c ∈ writeGroups gs, p c :=
    forall_mem_joined digit colon (.inr rfl) gs
  unfold write
  split
  · exact quad a.value
  · rw [writeHextets]
    split
    · have f : p 'f' := digit 15 (by decide)
      have mark : ∀ c ∈ [':', ':', 'f', 'f', 'f', 'f', ':'], p c := by simp [colon, f]
      exact List.forall_mem_append.mpr ⟨mark, quad _⟩
    · have gap : ∀ c ∈ [':', ':'], p c := by simp [colon]
      dsimp only
      split
      · exact List.forall_mem_append.mpr ⟨List.forall_mem_append.mpr ⟨run _, gap⟩, run _⟩
      · exact run _

end

end Address

namespace Network

theorem text_toList (n : Network) :
    n.text.toList = n.address.write ++ '/' :: Nat.toDigits 10 n.length := by
  simp [text, Address.text, toString, Nat.repr]

theorem forall_mem_text {p : Char → Prop} (digit : ∀ d < 16, p d.digitChar) (dot : p '.')
    (colon : p ':') (slash : p '/') (n : Network) : ∀ c ∈ n.text.toList, p c := by
  rw [text_toList]
  refine List.forall_mem_append.mpr ⟨Address.forall_mem_write digit dot colon _, ?_⟩
  exact List.forall_mem_cons.mpr ⟨slash, Address.forall_mem_digits digit (.inl rfl) _⟩

theorem trim_text (n : Network) : Text.trim n.text = n.text := by
  apply Text.trim_of_unblank
  exact n.forall_mem_text (p := fun c => Text.isBlank c = false) (by decide) rfl rfl rfl

theorem readFamily_text (n : Network) {most : Nat} (short : 0 < most)
    (fits : n.length < 10 ^ most) : readFamily n.family most n.text.toList = some n := by
  have address := n.address.readFamily_write ⟨Nat.toDigits 10 n.length, rfl⟩
  have ended : Address.NoDigit 10 [] := nofun
  have length := Address.readNumber_toDigits (.inl rfl) short fits ended
  rw [List.append_nil] at length
  rw [text_toList, readFamily, family, address]
  simp [Address.readChar, length, n.length_le]

theorem readExact_text (n : Network) : readExact n.text = some n := by
  have fits : n.length ≤ n.family.width := n.length_le
  rw [readExact]
  cases family : n.family with
  | v4 =>
    have two : n.length < 10 ^ 2 := by
      rw [family, Family.width] at fits
      omega
    have read := n.readFamily_text (by decide) two
    rw [family] at read
    rw [read]
    rfl
  | v6 =>
    have three : n.length < 10 ^ 3 := by
      rw [family, Family.width] at fits
      omega
    have read := n.readFamily_text (by decide) three
    rw [family] at read
    have hextets : n.address.write = Address.writeHextets n.address.value := by
      rw [Address.write]
      split
      · next other => cases other.symm.trans family
      · rfl
    have other : readFamily .v4 2 n.text.toList = none := by
      have none := Address.readQuad_writeHextets n.address.value
        (.length (Nat.toDigits 10 n.length))
      rw [text_toList, hextets]
      simp [readFamily, Address.readFamily, none]
    rw [other, read]
    rfl

theorem read_eq_ok_iff {s : String} {n : Network} :
    read s = .ok n ↔ ∃ m, readExact (Text.trim s) = some m ∧ m.masked = n := by
  unfold read
  cases readExact (Text.trim s) <;> simp

theorem read_text {n : Network} (masked : n.Masked) : read n.text = .ok n := by
  rw [read_eq_ok_iff, trim_text]
  exact ⟨n, readExact_text n, masked_eq_self masked⟩

theorem masked_of_read {s : String} {n : Network} (found : read s = .ok n) : n.Masked := by
  obtain ⟨m, -, rfl⟩ := read_eq_ok_iff.mp found
  exact masked_of_masked m

theorem read_surrounded {s left right : String} {n : Network} (found : read s = .ok n)
    (before : ∀ c ∈ left.toList, Text.isBlank c = true)
    (behind : ∀ c ∈ right.toList, Text.isBlank c = true) :
    read (left ++ s ++ right) = .ok n := by
  rw [read_eq_ok_iff] at found ⊢
  rwa [Text.trim_surrounded before s behind]

end Network

theorem Kuryr.read_computedServiceNetwork {s : Spec} {text : String}
    (computed : computedServiceNetwork s = some text) :
    ∃ cidr service host, s.serviceNetwork.head? = some cidr ∧ Network.read cidr = .ok service ∧
      service.expand = some host ∧ Network.read text = .ok host := by
  simp only [computedServiceNetwork, Option.bind_eq_bind, Option.bind_eq_some_iff] at computed
  obtain ⟨cidr, first, service, found, host, expanded, shown⟩ := computed
  cases shown
  have read : Network.read cidr = .ok service := by
    cases given : Network.read cidr with
    | error e =>
      rw [given] at found
      cases found
    | ok network =>
      rw [given] at found
      cases found
      rfl
  have proper : 0 < service.length := by
    apply Nat.pos_of_ne_zero
    intro whole
    rw [Network.expand_eq_none whole] at expanded
    cases expanded
  have masked : host.Masked := by
    rw [Network.expand_eq_some proper] at expanded
    cases expanded
    exact Network.supernet_masked service 1
  exact ⟨cidr, service, host, first, read, expanded, Network.read_text masked⟩

namespace Network

/-- Networks are read back from their texts, and reading any text leads to one that is, whatever
    white space stands around it. So the network that is computed for services and kept as a text is
    the one that is read from there. -/
theorem text_is_read_back :
    (∀ n : Network, n.Masked → read n.text = .ok n) ∧
    (∀ s n, read s = .ok n → n.Masked ∧ read n.text = .ok n ∧ ∀ left right : String,
      (∀ c ∈ left.toList, Text.isBlank c = true) → (∀ c ∈ right.toList, Text.isBlank c = true) →
        read (left ++ s ++ right) = .ok n) ∧
    ∀ s text, Kuryr.computedServiceNetwork s = some text → ∃ cidr service host,
      s.serviceNetwork.head? = some cidr ∧ read cidr = .ok service ∧
      service.expand = some host ∧ read text = .ok host := by
  refine ⟨fun n => read_text, ?_, fun s text => Kuryr.read_computedServiceNetwork⟩
  intro s n found
  have masked := masked_of_read found
  exact ⟨masked, read_text masked, fun left right => read_surrounded found⟩

/-- 2001:0:0:1:0:0:2:0/112, with two runs of zeros of one length -/
def tieBlock : Network :=
  masked ⟨⟨.v6, 0x20010000000000010000000000020007, by decide⟩, 112, by decide⟩

/-- The first run is left out, and found again. The block of hosts that is computed for services of
    172.31.0.0/16 is read from its text. -/
theorem tieBlock_is_read_back :
    tieBlock.text = "2001::1:0:0:2:0/112" ∧ read "2001::1:0:0:2:0/112" = .ok tieBlock ∧
      read "\t2001::1:0:0:2:0/112\n" = .ok tieBlock ∧
      ∃ service host, read "172.31.0.0/16" = .ok service ∧ service.expand = some host ∧
        read "172.30.0.0/15" = .ok host := by
  obtain ⟨back, around, computed⟩ := text_is_read_back
  have shown : tieBlock.text = "2001::1:0:0:2:0/112" := by decide +kernel
  have found := back tieBlock (masked_of_masked _)
  rw [shown] at found
  obtain ⟨-, -, blanks⟩ := around _ _ found
  have default : Kuryr.computedServiceNetwork
      { Spec.empty with serviceNetwork := ["172.31.0.0/16"] } = some "172.30.0.0/15" := by
    decide +kernel
  obtain ⟨cidr, service, host, first, given, expanded, stored⟩ := computed _ _ default
  cases first
  have tab : ∀ c ∈ "\t".toList, Text.isBlank c = true := by simp [Text.isBlank]
  have newline : ∀ c ∈ "\n".toList, Text.isBlank c = true := by simp [Text.isBlank]
  exact ⟨shown, found, blanks "\t" "\n" tab newline, service, host, given, expanded, stored⟩

end Network
end ClusterNet
