import ClusterNet.Proofs.Blocks

/- Expanding networks. One step leads to the least larger network around a network, whatever bits it
   has behind its leading ones. Repeated steps leave ever fewer leading bits of its address and come
   to the network of length zero, where the next step fails. -/
namespace ClusterNet.Network

/-- The network around this one whose length is `k` less, at its first address. -/
def supernet (n : Network) (k : Nat) : Network :=
  masked ⟨n.address, n.length - k, Nat.le_trans (Nat.sub_le ..) n.length_le⟩

theorem masked_congr {a b : Network} (family : a.family = b.family) (length : a.length = b.length)
    (leading : ∀ i < a.length, a.address.bit i = b.address.bit i) : a.masked = b.masked := by
  refine eq_of_parts family (value_eq_of_bits family ?_) length
  intro i inside
  have inside' : i < b.longest := by
    have widths : a.longest = b.longest := congrArg Family.width family
    rw [← widths]
    exact inside
  rw [bit_masked a inside, bit_masked b inside', length]
  by_cases early : i < b.length
  · rw [leading i (length ▸ early)]
  · simp [early]

section

variable (n : Network) (k : Nat)

theorem supernet_length : (n.supernet k).length = n.length - k := rfl

theorem supernet_masked : (n.supernet k).Masked := masked_of_masked _

theorem bit_supernet {i : Nat} (inside : i < n.longest) :
    (n.supernet k).address.bit i = (decide (i < n.length - k) && n.address.bit i) :=
  bit_masked _ inside

theorem supernet_zero (masked : n.Masked) : n.supernet 0 = n := masked_eq_self masked

theorem supernet_supernet (j : Nat) : (n.supernet j).supernet k = n.supernet (j + k) := by
  refine masked_congr rfl (Nat.sub_sub ..) ?_
  intro i early
  have early : i < n.length - j - k := early
  have fits : n.length ≤ n.longest := n.length_le
  have kept := bit_supernet n j (i := i) (by omega)
  rwa [decide_eq_true (by omega), Bool.true_and] at kept

theorem supernet_includes : (n.supernet k).includes n = true := by
  rw [includes_iff_subset, supernet, addresses_masked]
  rintro x ⟨family, bits⟩
  refine ⟨family, ?_⟩
  intro i early
  have early : i < n.length - k := early
  exact bits i (by omega)

/-- Whatever is around the network and no longer than its supernet is around that too. -/
theorem supernet_least {o : Network} (around : o.includes n = true)
    (short : o.length ≤ n.length - k) : o.includes (n.supernet k) = true := by
  rw [includes_iff_subset]
  have own := includes_iff_subset.mp (supernet_includes n k)
  have other := includes_iff_subset.mp around
  exact subset_of_common (other n.firstAddress_mem) (own n.firstAddress_mem) short

end

section

variable {n : Network} {k : Nat}

theorem expand_eq_some (proper : 0 < n.length) : n.expand = some (n.supernet 1) := by
  rw [expand, if_neg (by omega)]
  congr 1
  refine masked_congr rfl rfl ?_
  intro i early
  have early : i < n.length - 1 := early
  have fits : n.length ≤ n.longest := n.length_le
  have kept := bit_masked n (i := i) (by omega)
  rwa [decide_eq_true (by omega), Bool.true_and] at kept

theorem expand_eq_none (whole : n.length = 0) : n.expand = none := if_pos whole

theorem expansions_succ (proper : 0 < n.length) :
    expansions (k + 1) n = (n.supernet 1 :: (expansions k (n.supernet 1)).1,
      (expansions k (n.supernet 1)).2) := by
  rw [expansions, expand_eq_some proper]

theorem expansions_eq (settled : 0 < n.length ∨ n.Masked) :
    expansions k n = ((List.range (min k n.length)).map fun i => n.supernet (i + 1),
      if k ≤ n.length then none else some (n.supernet n.length)) := by
  induction k generalizing n with
  | zero => simp [expansions]
  | succ k ih =>
    by_cases proper : 0 < n.length
    · have shorter : min (k + 1) n.length = min k (n.length - 1) + 1 := by omega
      have later : (k ≤ n.length - 1) = (k + 1 ≤ n.length) := by
        apply propext
        omega
      have whole : 1 + (n.length - 1) = n.length := by omega
      rw [expansions_succ proper, ih (.inr (supernet_masked n 1)), supernet_length, shorter,
        List.range_succ_eq_map, List.map_cons, List.map_map]
      simp only [supernet_supernet, later, whole]
      congr 2
      apply List.map_congr_left
      intro i _
      exact congrArg n.supernet (Nat.add_comm 1 (i + 1))
    · -- There is no step, and a masked network is its own supernet then.
      have whole : n.length = 0 := by omega
      have masked := settled.resolve_left proper
      rw [expansions, expand_eq_none whole, whole, supernet_zero n masked]
      simp

end

/-- Expanding a network leads to the least larger network around it, and repeatedly to those of all
    shorter lengths in turn, until the one of length zero cannot be expanded. -/
theorem expand_is_least_supernet {n : Network} (proper : 0 < n.length) :
    (∃ m, n.expand = some m ∧ m.Masked ∧ m.length = n.length - 1 ∧ m.includes n = true ∧
      ∀ o : Network, o.includes n = true → o.length < n.length → o.includes m = true) ∧
    (∀ k, (expansions k n).2 = none ↔ k ≤ n.length) ∧
    (∀ k ≤ n.length, (expansions k n).1 = (List.range k).map fun i => n.supernet (i + 1)) ∧
    (∀ k i, i < n.longest →
      (n.supernet k).address.bit i = (decide (i < n.length - k) && n.address.bit i)) ∧
    ∀ k, n.length < k →
      expansions k n = ((expansions n.length n).1, some (n.supernet n.length)) ∧
      (n.supernet n.length).length = 0 ∧ (n.supernet n.length).expand = none := by
  have run (k : Nat) := expansions_eq (k := k) (.inl proper)
  refine ⟨⟨n.supernet 1, expand_eq_some proper, supernet_masked n 1, rfl, supernet_includes n 1,
    ?_⟩, ?_, ?_, fun k i inside => bit_supernet n k inside, ?_⟩
  · intro o around shorter
    exact supernet_least n 1 around (by omega)
  · intro k
    rw [run]
    simp
  · intro k within
    rw [run, Nat.min_eq_left within]
  · intro k beyond
    have whole : (n.supernet n.length).length = 0 := Nat.sub_self _
    refine ⟨?_, whole, expand_eq_none whole⟩
    rw [run, run, Nat.min_eq_right (by omega), Nat.min_self, if_neg (by omega)]

/-- 172.31.5.9/16 -/
def serviceBlock : Network := ⟨⟨.v4, 0xAC1F0509, by decide⟩, 16, by decide⟩

theorem serviceBlock_expands :
    0 < serviceBlock.length ∧ serviceBlock.expand = some (serviceBlock.supernet 1) ∧
      (serviceBlock.supernet 1).text = "172.30.0.0/15" ∧
      (expansions 16 serviceBlock).2 = none ∧
      (expansions 17 serviceBlock).2 = some (serviceBlock.supernet 16) ∧
      (serviceBlock.supernet 16).text = "0.0.0.0/0" := by
  have proper : 0 < serviceBlock.length := by decide
  obtain ⟨-, ends, -, -, beyond⟩ := expand_is_least_supernet proper
  have step := expand_eq_some proper
  refine ⟨proper, step, by decide +kernel, (ends 16).mpr (by decide), ?_, by decide +kernel⟩
  exact congrArg Prod.snd (beyond 17 (by decide)).1

end ClusterNet.Network
