import ClusterNet.Proofs.Octets

/- Reading IPv6 addresses back. A run of groups is read up to the double colon or the end, as no
   group of hexadecimal digits is taken for the octet of a dotted quad. The groups that the double
   colon stands for are zero, for it is written where the longest run of zeros is; so they are put
   back, and a mapped IPv4 address is read from its dotted form. -/
namespace ClusterNet.Address

/-- What may stand behind some groups: nothing, the length of a network, or a double colon. -/
inductive GroupsEnd : List Char → Prop where
  | nil : GroupsEnd []
  | length (cs : List Char) : GroupsEnd ('/' :: cs)
  | gap (cs : List Char) : GroupsEnd (':' :: ':' :: cs)

def laterGroups (gs : List Nat) : List Char := gs.flatMap fun g => ':' :: Nat.toDigits 16 g

theorem writeGroups_cons (g : Nat) (gs : List Nat) :
    writeGroups (g :: gs) = Nat.toDigits 16 g ++ laterGroups gs := by
  induction gs generalizing g with
  | nil => simp [writeGroups, laterGroups]
  | cons h gs ih =>
    have others := ih h
    have shape : writeGroups (g :: h :: gs) =
        Nat.toDigits 16 g ++ ':' :: writeGroups (h :: gs) := by
      simp [writeGroups]
    rw [shape, others, laterGroups, laterGroups, List.flatMap_cons, List.cons_append]

def Undotted (cs : List Char) : Prop := ∀ c ∈ cs.head?, c = ':' ∨ c = '/'

section

variable (dialect : Dialect) {rest : List Char}

theorem Undotted.noDigit {base : Nat} (known : base = 10 ∨ base = 16) (ended : Undotted rest) :
    NoDigit base rest := by
  intro c first
  rcases known with rfl | rfl <;> rcases ended c first with rfl | rfl <;> rfl

theorem GroupsEnd.undotted (ended : GroupsEnd rest) : Undotted rest := by
  cases ended with
  | nil => nofun
  | length => rintro c ⟨⟩; exact .inr rfl
  | gap => rintro c ⟨⟩; exact .inl rfl

theorem undotted_laterGroups (ended : Undotted rest) (gs : List Nat) :
    Undotted (laterGroups gs ++ rest) := by
  cases gs with
  | nil => exact ended
  | cons g gs => rintro c ⟨⟩; exact .inl rfl

theorem readQuad_of_undotted (cs : List Char) (plain : '.' ∉ cs) (ended : Undotted rest) :
    readQuad dialect (cs ++ rest) = none := by
  apply readQuad_eq_none
  intro dotted
  induction cs with
  | nil =>
    cases rest with
    | nil => cases dotted
    | cons c cs =>
      rw [List.nil_append] at dotted
      rcases ended c rfl with rfl | rfl <;> cases dotted
  | cons c cs ih =>
    obtain ⟨first, others⟩ := not_or.mp (mt List.mem_cons.mpr plain)
    rw [List.cons_append, List.dropWhile_cons] at dotted
    split at dotted
    · exact ih others dotted
    · cases dotted
      exact first rfl

theorem not_mem_toDigits (n : Nat) : '.' ∉ Nat.toDigits 16 n := by
  have each : ∀ d < 16, '.' ≠ d.digitChar := by decide
  intro dot
  exact forall_mem_toDigits (by decide) each n '.' dot rfl

theorem readQuad_digits (g : Nat) (ended : Undotted rest) :
    readQuad dialect (Nat.toDigits 16 g ++ rest) = none :=
  readQuad_of_undotted dialect _ (not_mem_toDigits g) ended

theorem readNumber_group {g : Nat} (fits : g < 2 ^ 16) (ended : Undotted rest) :
    readNumber 16 4 (Nat.toDigits 16 g ++ rest) = some (g, rest) :=
  readNumber_toDigits (.inr rfl) (by decide) fits (ended.noDigit (.inr rfl))

theorem readGroups_end (ended : GroupsEnd rest) (most : Nat) (first : Bool) :
    readGroups dialect most first rest = ⟨[], false, rest⟩ := by
  have silent {cs : List Char} (undotted : Undotted cs) :
      readQuad dialect cs = none ∧ readNumber 16 4 cs = none :=
    ⟨readQuad_of_undotted dialect [] List.not_mem_nil undotted,
      readNumber_eq_none (undotted.noDigit (.inr rfl))⟩
  have own := silent ended.undotted
  cases most with
  | zero => rfl
  | succ most =>
    cases first with
    | true => simp [readGroups, own]
    | false =>
      cases ended with
      | nil | length => rfl
      | gap cs =>
        have undotted : Undotted (':' :: cs) := by rintro c ⟨⟩; exact .inl rfl
        simp [readGroups, readChar, silent undotted]

theorem readGroups_later {gs : List Nat} (fits : ∀ g ∈ gs, g < 2 ^ 16) (ended : GroupsEnd rest)
    {most : Nat} (room : gs.length ≤ most) :
    readGroups dialect most false (laterGroups gs ++ rest) = ⟨gs, false, rest⟩ := by
  induction gs generalizing most with
  | nil => exact readGroups_end dialect ended most false
  | cons g gs ih =>
    obtain ⟨own, others⟩ := List.forall_mem_cons.mp fits
    cases most with
    | zero => cases room
    | succ most =>
      have undotted := undotted_laterGroups ended.undotted gs
      have shape : laterGroups (g :: gs) ++ rest =
          ':' :: (Nat.toDigits 16 g ++ (laterGroups gs ++ rest)) := by simp [laterGroups]
      rw [shape]
      simp [readGroups, readChar, readQuad_digits dialect g undotted, readNumber_group own undotted,
        ih others (Nat.le_of_succ_le_succ room)]

theorem readGroups_writeGroups {gs : List Nat} (fits : ∀ g ∈ gs, g < 2 ^ 16)
    (ended : GroupsEnd rest) {most : Nat} (room : gs.length ≤ most) :
    readGroups dialect most true (writeGroups gs ++ rest) = ⟨gs, false, rest⟩ := by
  cases gs with
  | nil => exact readGroups_end dialect ended most true
  | cons g gs =>
    obtain ⟨own, others⟩ := List.forall_mem_cons.mp fits
    cases most with
    | zero => cases room
    | succ most =>
      have undotted := undotted_laterGroups ended.undotted gs
      rw [writeGroups_cons, List.append_assoc]
      simp [readGroups, readQuad_digits dialect g undotted, readNumber_group own undotted,
        readGroups_later dialect others ended (Nat.le_of_succ_le_succ room)]

theorem readQuad_writeGroups (gs : List Nat) (ended : GroupsEnd rest) :
    readQuad dialect (writeGroups gs ++ rest) = none := by
  cases gs with
  | nil => exact readQuad_of_undotted dialect [] List.not_mem_nil ended.undotted
  | cons g gs =>
    rw [writeGroups_cons, List.append_assoc]
    exact readQuad_digits dialect g (undotted_laterGroups ended.undotted gs)

end

def Gap.In (gap : Gap) (gs : List Nat) : Prop :=
  ∃ before behind, gs = before ++ List.replicate gap.length 0 ++ behind ∧
    before.length = gap.start

def Gap.Current (gap : Gap) (gs : List Nat) : Prop :=
  gap.length = 0 ∨ ∃ before, gs = before ++ List.replicate gap.length 0 ∧
    before.length = gap.start

theorem Gap.In.append {gap : Gap} {gs : List Nat} (inside : gap.In gs) (more : List Nat) :
    gap.In (gs ++ more) := by
  obtain ⟨before, behind, rfl, start⟩ := inside
  exact ⟨before, behind ++ more, by simp, start⟩

theorem Gap.in_longer {best current : Gap} {gs : List Nat} (inside : best.In gs)
    (ends : current.Current gs) :
    (if best.length < current.length then current else best).In gs := by
  split
  · next longer =>
    rcases ends with empty | ⟨before, shape, start⟩
    · omega
    · exact ⟨before, [], by rw [List.append_nil, shape], start⟩
  · exact inside

/-- One group further, the run that ends there and the best one are still runs of zeros. -/
theorem longestGap_in (done : List Nat) {best current : Gap} (inside : best.In done)
    (ends : current.Current done) (gs : List Nat) :
    (longestGap done.length current best gs).In (done ++ gs) := by
  induction gs generalizing best current done with
  | nil => simpa [longestGap] using inside
  | cons g gs ih =>
    have next {best current : Gap} (inside : best.In (done ++ [g]))
        (ends : current.Current (done ++ [g])) :
        (longestGap (done.length + 1) current best gs).In (done ++ g :: gs) := by
      have longer := ih _ inside ends
      rwa [List.length_append, List.length_singleton, List.append_assoc,
        List.singleton_append] at longer
    rw [longestGap]
    split
    · next zero =>
      subst zero
      have extended : (if current.length = 0 then (⟨done.length, 1⟩ : Gap)
          else ⟨current.start, current.length + 1⟩).Current (done ++ [0]) := by
        rcases ends with empty | ⟨before, shape, start⟩
        · rw [if_pos empty]
          exact .inr ⟨done, rfl, rfl⟩
        · split
          · exact .inr ⟨done, rfl, rfl⟩
          · refine .inr ⟨before, ?_, start⟩
            rw [shape, List.append_assoc, List.replicate_succ']
      exact next (Gap.in_longer (inside.append [0]) extended) extended
    · exact next (inside.append [g]) (.inl rfl)

theorem longestGap_zeros (gs : List Nat) : (longestGap 0 ⟨0, 0⟩ ⟨0, 0⟩ gs).In gs :=
  longestGap_in [] ⟨[], [], rfl, rfl⟩ (.inl rfl) gs

section

variable {rest : List Char} {value : Nat}

theorem readHextets_of_parts {dialect : Dialect} {cs behindGap : List Char}
    {before behind : List Nat} {quad : Bool}
    (head : readGroups dialect 8 true cs = ⟨before, false, ':' :: ':' :: behindGap⟩)
    (short : before.length ≠ 8)
    (tail : readGroups dialect (8 - before.length - dialect.gapLeast) true behindGap =
      ⟨behind, quad, rest⟩) :
    readHextets dialect cs = some (ofGroups 16
      (before ++ List.replicate (8 - before.length - behind.length) 0 ++ behind), rest) := by
  rw [readHextets, head]
  simp [short, readChar, tail]

theorem readHextets_gap {gs : List Nat} (fits : ∀ g ∈ gs, g < 2 ^ 16) (eight : gs.length = 8)
    {gap : Gap} (inside : gap.In gs) (proper : 1 < gap.length) (ended : GroupsEnd rest) :
    readHextets tolerant (writeGroups (gs.take gap.start) ++ [':', ':'] ++
      writeGroups (gs.drop (gap.start + gap.length)) ++ rest) = some (ofGroups 16 gs, rest) := by
  obtain ⟨before, behind, rfl, start⟩ := inside
  have taken : (before ++ List.replicate gap.length 0 ++ behind).take gap.start = before := by
    rw [List.append_assoc, List.take_left' start]
  have dropped : (before ++ List.replicate gap.length 0 ++ behind).drop (gap.start + gap.length) =
      behind := List.drop_left' (by simp [start])
  have count : before.length + (gap.length + behind.length) = 8 := by simpa using eight
  obtain ⟨early, late⟩ := List.forall_mem_append.mp fits
  have shape : writeGroups before ++ [':', ':'] ++ writeGroups behind ++ rest =
      writeGroups before ++ ':' :: ':' :: (writeGroups behind ++ rest) := by simp
  have room : before.length ≤ 8 := by omega
  have room' : behind.length ≤ 8 - before.length - tolerant.gapLeast := by
    change behind.length ≤ 8 - before.length
    omega
  have head := readGroups_writeGroups tolerant (List.forall_mem_append.mp early).1
    (.gap (writeGroups behind ++ rest)) room
  have tail := readGroups_writeGroups tolerant late ended room'
  have zeros : 8 - before.length - behind.length = gap.length := by omega
  rw [taken, dropped, shape, readHextets_of_parts head (by omega) tail, zeros]

theorem readHextets_mapped {low : Nat} (fits : low < 2 ^ 32) (ended : Undotted rest) :
    readHextets tolerant ([':', ':', 'f', 'f', 'f', 'f', ':'] ++ writeQuad low ++ rest) =
      some (0xFFFF * 2 ^ 32 + low, rest) := by
  have digits : Nat.toDigits 16 0xFFFF = ['f', 'f', 'f', 'f'] := by decide
  have quad := readQuad_writeQuad fits (ended.noDigit (.inl rfl))
  have undotted : Undotted (':' :: (writeQuad low ++ rest)) := by rintro c ⟨⟩; exact .inl rfl
  have group := readNumber_group (g := 0xFFFF) (by decide) undotted
  have plain := readQuad_digits tolerant 0xFFFF undotted
  rw [digits] at group plain
  have head := readGroups_end tolerant
    (.gap (['f', 'f', 'f', 'f'] ++ ':' :: (writeQuad low ++ rest))) 8 true
  have tail : readGroups tolerant (8 - 0 - tolerant.gapLeast) true
      (['f', 'f', 'f', 'f'] ++ ':' :: (writeQuad low ++ rest)) =
        ⟨[0xFFFF, low / 2 ^ 16, low % 2 ^ 16], true, rest⟩ := by
    change readGroups tolerant 8 true _ = _
    rw [readGroups]
    simp only [↓reduceIte, plain, group]
    simp [readGroups, readChar, quad]
  have joined : ofGroups 16 [0, 0, 0, 0, 0, 0xFFFF, low / 2 ^ 16, low % 2 ^ 16] =
      0xFFFF * 2 ^ 32 + low := by
    simp only [ofGroups, List.foldl_cons, List.foldl_nil, Nat.pow_eq]
    omega
  rw [← joined]
  exact readHextets_of_parts head (by decide) tail

/-- Every IPv6 address is read back from its text. -/
theorem readHextets_writeHextets (fits : value < 2 ^ 128) (ended : GroupsEnd rest) :
    readHextets tolerant (writeHextets value ++ rest) = some (value, rest) := by
  have groups := groups_lt 16 8 value
  have eight := length_groups 16 8 value
  have whole := ofGroups_groups_of_lt 16 8 fits
  rw [writeHextets]
  split
  · next mapped =>
    have parts : 0xFFFF * 2 ^ 32 + value % 2 ^ 32 = value := by
      have := Nat.div_add_mod value (2 ^ 32)
      rw [Nat.pow_eq] at mapped
      omega
    have low : value % 2 ^ 32 < 2 ^ 32 := Nat.mod_lt _ (Nat.two_pow_pos 32)
    have read := readHextets_mapped low ended.undotted
    rwa [parts] at read
  · dsimp only
    split
    · next proper =>
      rw [readHextets_gap groups eight (longestGap_zeros _) proper ended, whole]
    · have read := readGroups_writeGroups tolerant groups ended (Nat.le_of_eq eight)
      rw [readHextets, read]
      simp [eight, whole]

/-- No IPv6 address begins like an IPv4 address. -/
theorem readQuad_writeHextets (value : Nat) (ended : GroupsEnd rest) :
    readQuad tolerant (writeHextets value ++ rest) = none := by
  rw [writeHextets]
  split
  · rfl
  · dsimp only
    split
    · rw [List.append_assoc, List.append_assoc]
      exact readQuad_writeGroups tolerant _ (.gap _)
    · exact readQuad_writeGroups tolerant _ ended

end

end ClusterNet.Address
