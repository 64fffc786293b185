import ClusterNet.Json.Basic

/- What is found under a key: in a list of entries, in a record some of whose fields are absent, and
   in a dictionary that was built from a list. -/
namespace ClusterNet

def without (key : String) (entries : List (String × α)) : List (String × α) :=
  entries.filter (·.1 ≠ key)

theorem lookup_eq_none_iff {key : String} {entries : List (String × α)} :
    lookup key entries = none ↔ key ∉ entries.map Prod.fst := by
  induction entries with
  | nil => simp [lookup]
  | cons entry rest ih =>
    obtain ⟨k, v⟩ := entry
    by_cases same : k = key
    · simp [lookup, same]
    · simp [lookup, same, ih, Ne.symm same]

theorem without_of_lookup_eq_none {key : String} {entries : List (String × α)}
    (absent : lookup key entries = none) : without key entries = entries := by
  refine List.filter_eq_self.mpr ?_
  intro entry member
  have other : entry.1 ≠ key := by
    rintro rfl
    exact lookup_eq_none_iff.mp absent (List.mem_map_of_mem member)
  exact decide_eq_true other

theorem without_cons_of_ne {key k : String} (different : k ≠ key) (v : α)
    (rest : List (String × α)) : without key ((k, v) :: rest) = (k, v) :: without key rest :=
  List.filter_cons_of_pos (decide_eq_true different)

theorem without_cons_self (key : String) (v : α) (rest : List (String × α)) :
    without key ((key, v) :: rest) = without key rest :=
  List.filter_cons_of_neg (by simp)

theorem without_put_self (key : String) (value : α) (entries : List (String × α)) :
    without key (put key value entries) = without key entries := by
  induction entries with
  | nil => exact without_cons_self key value []
  | cons entry rest ih =>
    obtain ⟨k, v⟩ := entry
    by_cases same : key = k
    · subst same
      rw [put, if_pos rfl, without_cons_self, without_cons_self]
    · rw [put, if_neg same]
      split
      · rw [without_cons_self]
      · rw [without_cons_of_ne (Ne.symm same), without_cons_of_ne (Ne.symm same), ih]

theorem without_put {key : String} {entries : List (String × α)}
    (absent : lookup key entries = none) (value : α) :
    without key (put key value entries) = entries := by
  rw [without_put_self, without_of_lookup_eq_none absent]

/-- Under different keys it does not matter what is written first, whatever the order of the
    entries: each key is written in front of the first entry that it does not follow. -/
theorem put_comm {first second : String} (different : first ≠ second) (v w : α)
    (entries : List (String × α)) :
    put second w (put first v entries) = put first v (put second w entries) := by
  induction entries with
  | nil => grind [put]
  | cons entry rest ih => grind [put]

theorem lookup_without_self (key : String) (entries : List (String × α)) :
    lookup key (without key entries) = none := by
  simp [lookup_eq_none_iff, without]

theorem lookup_without_of_ne {key other : String} (different : other ≠ key)
    (entries : List (String × α)) : lookup other (without key entries) = lookup other entries := by
  induction entries with
  | nil => rfl
  | cons entry rest ih =>
    obtain ⟨k, v⟩ := entry
    by_cases same : k = key
    · subst same
      rw [without_cons_self, ih, lookup, if_neg (Ne.symm different)]
    · rw [without_cons_of_ne same, lookup, lookup, ih]

theorem lookup_eq_some_iff {key : String} {value : α} {entries : List (String × α)}
    (distinct : (entries.map Prod.fst).Nodup) :
    lookup key entries = some value ↔ (key, value) ∈ entries := by
  induction entries with
  | nil => simp [lookup]
  | cons entry rest ih =>
    obtain ⟨k, v⟩ := entry
    obtain ⟨absent, later⟩ := List.nodup_cons.mp distinct
    by_cases same : k = key
    · subst same
      have elsewhere : (k, value) ∉ rest := fun member =>
        absent (List.mem_map.mpr ⟨_, member, rfl⟩)
      simp [lookup, elsewhere, eq_comm]
    · simp [lookup, same, Ne.symm same, ih later]

namespace Json

theorem get?_ofFields {fields : List (String × Option Json)}
    (distinct : (fields.map Prod.fst).Nodup) (key : String) :
    (ofFields fields).get? key = (lookup key fields).join := by
  change lookup key (fields.filterMap fun field => field.2.map (field.1, ·)) = _
  induction fields with
  | nil => rfl
  | cons field rest ih =>
    obtain ⟨k, value⟩ := field
    obtain ⟨absent, later⟩ := List.nodup_cons.mp distinct
    have tail := ih later
    by_cases same : k = key
    · subst same
      cases value with
      | some json => simp [lookup]
      | none =>
        rw [lookup_eq_none_iff.mpr absent] at tail
        simpa [lookup] using tail
    · cases value with
      | some json => simpa [lookup, same] using tail
      | none => simpa [lookup, same] using tail

theorem keys_ofFields (fields : List (String × Option Json)) :
    ((fields.filterMap fun field => field.2.map (field.1, ·)).map Prod.fst).Sublist
      (fields.map Prod.fst) := by
  induction fields with
  | nil => exact .slnil
  | cons field rest ih =>
    obtain ⟨name, _ | json⟩ := field
    · exact ih.cons _
    · exact ih.cons_cons _

theorem at?_append (path more : List String) (json : Json) :
    json.at? (path ++ more) = (json.at? path).bind (at? more) := by
  induction path generalizing json with
  | nil => rfl
  | cons key rest ih =>
    rw [List.cons_append, at?, at?, Option.bind_assoc]
    exact Option.bind_congr fun child _ => ih child

end Json

namespace Dict

theorem keys_nodup (d : Dict α) : d.keys.Nodup := by
  refine List.pairwise_map.mpr (d.sorted.imp ?_)
  intro first second before same
  exact absurd (same ▸ before) (String.lt_irrefl _)

theorem entries_nodup (d : Dict α) : d.entries.Nodup :=
  List.Pairwise.of_map Prod.fst (fun _ _ different same => different (congrArg Prod.fst same))
    d.keys_nodup

/-- A dictionary is determined by what is found in it, as its order is that of its keys. -/
theorem ext_get? {d e : Dict α} (same : ∀ key, d.get? key = e.get? key) : d = e := by
  have members : ∀ entry, entry ∈ d.entries ↔ entry ∈ e.entries := by
    rintro ⟨key, value⟩
    rw [← lookup_eq_some_iff d.keys_nodup, ← lookup_eq_some_iff e.keys_nodup]
    exact iff_of_eq (congrArg (· = some value) (same key))
  have permuted := (List.perm_ext_iff_of_nodup d.entries_nodup e.entries_nodup).mpr members
  have equal : d.entries = e.entries := by
    refine permuted.eq_of_pairwise ?_ d.sorted e.sorted
    intro first second _ _ before after
    exact absurd (String.lt_trans before after) (String.lt_irrefl _)
  obtain ⟨entries, _⟩ := d
  subst equal
  rfl

theorem mem_keys_iff {d : Dict α} {key : String} : key ∈ d.keys ↔ (d.get? key).isSome := by
  rw [← Option.ne_none_iff_isSome]
  constructor
  · exact fun member absent => lookup_eq_none_iff.mp absent member
  · exact fun found => Decidable.not_not.mp fun absent => found (lookup_eq_none_iff.mpr absent)

theorem mem_keys_insert {d : Dict α} {key other : String} {value : α} :
    other ∈ (d.insert key value).keys ↔ other = key ∨ other ∈ d.keys := by
  by_cases same : other = key
  · simp [mem_keys_iff, same, get?_insert_self]
  · simp [mem_keys_iff, same, get?_insert_of_ne]

theorem mem_keys_insertAll {d : Dict α} {entries : List (String × α)} {key : String} :
    key ∈ (d.insertAll entries).keys ↔ key ∈ d.keys ∨ key ∈ entries.map Prod.fst := by
  induction entries generalizing d with
  | nil => simp [insertAll]
  | cons entry rest ih =>
    change key ∈ ((d.insert entry.1 entry.2).insertAll rest).keys ↔ _
    rw [ih, mem_keys_insert, List.map_cons, List.mem_cons, or_assoc, or_left_comm]

theorem mem_keys_ofList {entries : List (String × α)} {key : String} :
    key ∈ (ofList entries).keys ↔ key ∈ entries.map Prod.fst := by
  rw [ofList, mem_keys_insertAll]
  exact or_iff_right List.not_mem_nil

theorem get?_insertAll_of_not_mem {d : Dict α} {entries : List (String × α)} {key : String}
    (absent : key ∉ entries.map Prod.fst) : (d.insertAll entries).get? key = d.get? key := by
  induction entries generalizing d with
  | nil => rfl
  | cons entry rest ih =>
    rw [List.map_cons, List.mem_cons, not_or] at absent
    exact (ih absent.2).trans (get?_insert_of_ne _ absent.1 _)

theorem get?_insertAll_of_mem {d : Dict α} {entries : List (String × α)} {key : String} {value : α}
    (distinct : (entries.map Prod.fst).Nodup) (member : (key, value) ∈ entries) :
    (d.insertAll entries).get? key = some value := by
  induction entries generalizing d with
  | nil => simp at member
  | cons entry rest ih =>
    obtain ⟨absent, later⟩ := List.nodup_cons.mp distinct
    rcases List.mem_cons.mp member with same | member
    · subst same
      exact (get?_insertAll_of_not_mem absent).trans (get?_insert_self ..)
    · exact ih later member

theorem isEmpty_insert (d : Dict α) (key : String) (value : α) :
    (d.insert key value).isEmpty = false := by
  have member : key ∈ (d.insert key value).keys := mem_keys_insert.mpr (.inl rfl)
  obtain ⟨entry, stored, -⟩ := List.mem_map.mp member
  exact List.isEmpty_eq_false_iff.mpr (List.ne_nil_of_mem stored)

theorem eq_empty_of_isEmpty {d : Dict α} (empty : d.isEmpty = true) : d = .empty := by
  obtain ⟨entries, _⟩ := d
  cases List.isEmpty_iff.mp empty
  rfl

def erase (d : Dict α) (key : String) : Dict α :=
  ⟨without key d.entries, List.Pairwise.sublist List.filter_sublist d.sorted⟩

theorem get?_erase_self (d : Dict α) (key : String) : (d.erase key).get? key = none :=
  lookup_without_self key d.entries

theorem get?_erase_of_ne (d : Dict α) {key other : String} (different : other ≠ key) :
    (d.erase key).get? other = d.get? other := lookup_without_of_ne different d.entries

theorem erase_of_absent {d : Dict α} {key : String} (absent : d.get? key = none) :
    d.erase key = d := by
  simp only [erase, without_of_lookup_eq_none absent]

theorem erase_insert {d : Dict α} {key : String} (absent : d.get? key = none) (value : α) :
    (d.insert key value).erase key = d := by
  simp only [erase, insert, without_put absent]

theorem get?_ofList_of_mem {entries : List (String × α)} {key : String} {value : α}
    (distinct : (entries.map Prod.fst).Nodup) (member : (key, value) ∈ entries) :
    (ofList entries).get? key = some value :=
  get?_insertAll_of_mem distinct member

theorem get?_ofList_eq_some_iff {entries : List (String × α)}
    (distinct : (entries.map Prod.fst).Nodup) {key : String} {value : α} :
    (ofList entries).get? key = some value ↔ (key, value) ∈ entries := by
  constructor
  · intro found
    have listed : key ∈ (ofList entries).keys := mem_keys_iff.mpr (found ▸ rfl)
    obtain ⟨⟨_, other⟩, member, rfl⟩ := List.mem_map.mp (mem_keys_ofList.mp listed)
    cases found.symm.trans (get?_ofList_of_mem distinct member)
    exact member
  · exact get?_ofList_of_mem distinct

theorem ofList_eq_of_perm {entries moved : List (String × α)} (permuted : entries.Perm moved)
    (distinct : (entries.map Prod.fst).Nodup) : ofList entries = ofList moved := by
  have distinctMoved := (permuted.map Prod.fst).nodup_iff.mp distinct
  refine ext_get? fun key => Option.ext fun value => ?_
  rw [get?_ofList_eq_some_iff distinct, get?_ofList_eq_some_iff distinctMoved, permuted.mem_iff]

end Dict
end ClusterNet
