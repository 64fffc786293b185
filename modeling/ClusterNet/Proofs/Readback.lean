import Mathlib.Data.List.Forall2
import ClusterNet.Wire.OfJson
import ClusterNet.Proofs.Objects
import ClusterNet.Proofs.Rearrangement

/- Reading back what was written. A reader of a type that undoes its writer does so whatever the
   order of keys in the document is: the fields of a record are found by name, and a dictionary is
   put in order again. Records are combined from readers of their fields. -/
namespace ClusterNet

theorem lookup_perm {entries moved : List (String × α)} (permuted : entries.Perm moved)
    (once : (entries.map Prod.fst).Nodup) (key : String) :
    lookup key entries = lookup key moved := by
  have onceMoved := (permuted.map Prod.fst).nodup_iff.mp once
  refine Option.ext fun value => ?_
  rw [lookup_eq_some_iff once, lookup_eq_some_iff onceMoved, permuted.mem_iff]

theorem Dict.ofList_perm {d : Dict α} {entries : List (String × α)}
    (permuted : d.entries.Perm entries) : ofList entries = d := by
  have once := (permuted.map Prod.fst).nodup_iff.mp d.keys_nodup
  refine ext_get? fun key => Option.ext fun value => ?_
  rw [get?_ofList_eq_some_iff once, ← permuted.mem_iff]
  exact (lookup_eq_some_iff d.keys_nodup).symm

namespace Json

theorem keys_of_alikeEntries {same : Number → Number → Prop} {xs ys : List (String × Json)}
    (entries : AlikeEntries same xs ys) : xs.map Prod.fst = ys.map Prod.fst := by
  have pairs := alikeEntries_iff.mp entries
  clear entries
  induction pairs with
  | nil => rfl
  | cons pair _ ih => rw [List.map_cons, List.map_cons, pair.1, ih]

theorem eq_null_of_alike {same : Number → Number → Prop} {json : Json}
    (alike : Alike same json .null) : json = .null := by
  cases alike
  rfl

theorem lookup_alike {same : Number → Number → Prop} {xs ys : List (String × Json)}
    (entries : AlikeEntries same xs ys) (key : String) :
    Option.Rel (Alike same) (lookup key xs) (lookup key ys) := by
  have pairs := alikeEntries_iff.mp entries
  clear entries
  induction pairs with
  | nil => exact .none
  | @cons x y _ _ pair _ ih =>
    obtain ⟨k, v⟩ := x
    obtain ⟨rfl, alike⟩ := pair
    rw [lookup, lookup]
    split
    · exact .some alike
    · exact ih

end Json

namespace Wire

open Json

variable {α β : Type}

/-- What was written is read back, in whatever order its entries are, and is not taken for unset. -/
structure ReadsBack (write : α → Json) (read : Json → Except Fault α) : Prop where
  reads : ∀ a v, Rearranged (write a) v → read v = .ok a
  set : ∀ a, write a ≠ .null

theorem readsBack_text : ReadsBack .text Format.text where
  reads := by
    rintro s _ ⟨⟩
    rfl
  set _ := by simp

theorem readsBack_boolean : ReadsBack .boolean Format.boolean where
  reads := by
    rintro b _ ⟨⟩
    rfl
  set _ := by simp

theorem read_natural {bound : Nat} {name : String} {n : Nat} (small : n < bound) {v : Json}
    (rearranged : Rearranged (.natural n) v) : Format.natural bound name v = .ok n := by
  cases rearranged with
  | number equal =>
    subst equal
    have fits : 0 ≤ (n : Int) ∧ (n : Int) < bound := by omega
    change (if 0 ≤ (n : Int) ∧ (n : Int) < bound then _ else _) = _
    rw [if_pos fits]
    rfl

theorem readsBack_nat32 : ReadsBack (fun n : UInt32 => .natural n.toNat) readNat32 where
  reads n v rearranged := by
    rw [readNat32, read_natural n.toNat_lt rearranged]
    exact congrArg Except.ok UInt32.ofNat_toNat
  set _ := nofun

theorem readsBack_nat16 : ReadsBack (fun n : UInt16 => .natural n.toNat) readNat16 where
  reads n v rearranged := by
    rw [readNat16, read_natural n.toNat_lt rearranged]
    exact congrArg Except.ok UInt16.ofNat_toNat
  set _ := nofun

theorem readsBack_choice {name : α → String} {alternatives : List α}
    (found : ∀ a, alternatives.find? (name · = name a) = some a) :
    ReadsBack (fun a => .text (name a)) (readChoice name alternatives) where
  reads := by
    rintro a _ ⟨⟩
    have member : name a ∈ alternatives.map name :=
      List.mem_map_of_mem (List.mem_of_find?_eq_some (found a))
    have chosen : Format.choice (alternatives.map name) (Json.text (name a)) = .ok (name a) := by
      change jsonVariant (alternatives.map name) (name a) .null = _
      rw [jsonVariant, if_neg (not_not_intro member), if_pos rfl]
    simp only [readChoice, chosen, ok_bind, found a]
    rfl
  set _ := nofun

section

variable {write : α → Json} {read : Json → Except Fault α}

theorem readsBack_list (each : ReadsBack write read) :
    ReadsBack (fun items => .list (items.map write)) (readList read) where
  reads items v rearranged := by
    cases rearranged with
    | list alike =>
      refine mapM_eq_ok.mpr (List.Forall₂.flip ?_)
      have pairs := List.forall₂_map_left_iff.mp (alikeItems_iff.mp alike)
      exact pairs.imp fun a v => each.reads a v
  set _ := nofun

theorem readsBack_texts : ReadsBack Json.texts readTexts := readsBack_list readsBack_text

theorem readEntries_of_alike (each : ReadsBack write read) {entries : List (String × α)}
    {written : List (String × Json)}
    (alike : AlikeEntries Eq (entries.map fun entry => (entry.1, write entry.2)) written) :
    readEntries read written = .ok entries := by
  induction entries generalizing written with
  | nil =>
    cases alike
    rfl
  | cons entry rest ih =>
    cases alike with
    | cons key value later =>
      rw [readEntries, each.reads _ _ value, ih later]
      rfl

theorem readEntries_perm {entries moved : List (String × Json)} (permuted : entries.Perm moved)
    {results : List (String × α)} (run : readEntries read entries = .ok results) :
    ∃ results', readEntries read moved = .ok results' ∧ results.Perm results' := by
  induction permuted generalizing results with
  | nil => exact ⟨results, run, .refl _⟩
  | cons entry _ ih =>
    obtain ⟨a, first, run⟩ := bind_eq_ok.mp run
    obtain ⟨rest, later, run⟩ := bind_eq_ok.mp run
    cases run
    obtain ⟨rest', later', permuted⟩ := ih later
    refine ⟨(entry.1, a) :: rest', ?_, permuted.cons _⟩
    rw [readEntries, first, later']
    rfl
  | swap x y entries =>
    obtain ⟨a, first, run⟩ := bind_eq_ok.mp run
    obtain ⟨rest, later, run⟩ := bind_eq_ok.mp run
    cases run
    obtain ⟨b, second, later⟩ := bind_eq_ok.mp later
    obtain ⟨rest, tail, later⟩ := bind_eq_ok.mp later
    cases later
    refine ⟨(x.1, b) :: (y.1, a) :: rest, ?_, .swap ..⟩
    simp only [readEntries, first, second, tail, ok_bind]
    rfl
  | trans _ _ ih₁ ih₂ =>
    obtain ⟨between, run, permuted⟩ := ih₁ run
    obtain ⟨results', run, permuted'⟩ := ih₂ run
    exact ⟨results', run, permuted.trans permuted'⟩

theorem readsBack_dict (each : ReadsBack write read) :
    ReadsBack (fun d : Dict α => .object (d.entries.map fun entry => (entry.1, write entry.2)))
      (readDict read) where
  reads d v rearranged := by
    cases rearranged with
    | object alike permuted =>
      obtain ⟨results, run, moved⟩ := readEntries_perm permuted (readEntries_of_alike each alike)
      change (readEntries read _ >>= fun entries => pure (Dict.ofList entries)) = _
      rw [run, ok_bind, Dict.ofList_perm moved]
      rfl
  set _ := nofun

end

/-- Entries that hold the fields that are present, and others perhaps, in some order. -/
structure Written (fields : List (String × Option Json)) (entries : List (String × Json)) :
    Prop where
  once : (entries.map Prod.fst).Nodup
  holds : ∀ field ∈ fields, Option.Rel Rearranged field.2 (lookup field.1 entries)

theorem written_of_rearranged {fields : List (String × Option Json)} {v : Json}
    (distinct : (fields.map Prod.fst).Nodup) (rearranged : Rearranged (.ofFields fields) v) :
    ∃ entries, v = .object entries ∧ Written fields entries := by
  cases rearranged with
  | @object _ zs entries alike permuted =>
    have once := distinct.sublist (keys_ofFields fields)
    rw [keys_of_alikeEntries alike] at once
    refine ⟨entries, rfl, (permuted.map Prod.fst).nodup_iff.mp once, fun field member => ?_⟩
    have given := (lookup_eq_some_iff distinct).mpr member
    have found := get?_ofFields distinct field.1
    rw [given, Option.join_some] at found
    rw [← found, ← lookup_perm permuted once]
    exact lookup_alike alike field.1

namespace Fields

theorem occurrences_cons (name key : String) (value : Json) (entries : List (String × Json)) :
    occurrences name ((key, value) :: entries) =
      (if key = name then [(0, value)] else []) ++
        (occurrences name entries).map fun found => (found.1 + 1, found.2) := by
  have later : (entries.zipIdx 1).filterMap
      (fun entry => if entry.1.1 = name then some (entry.2, entry.1.2) else none) =
        (occurrences name entries).map fun found => (found.1 + 1, found.2) := by
    rw [occurrences, List.zipIdx_succ, List.filterMap_map, List.map_filterMap]
    refine List.filterMap_congr fun entry _ => ?_
    simp only [Function.comp_apply]
    split <;> rfl
  rw [← later, occurrences, List.zipIdx_cons, List.filterMap_cons]
  by_cases same : key = name
  · simp only [same, ↓reduceIte]
    rfl
  · simp only [same, ↓reduceIte]
    rfl

theorem occurrences_of_absent {name : String} {entries : List (String × Json)}
    (absent : lookup name entries = none) : occurrences name entries = [] := by
  induction entries with
  | nil => rfl
  | cons entry rest ih =>
    obtain ⟨key, value⟩ := entry
    by_cases same : key = name
    · rw [lookup, if_pos same] at absent
      cases absent
    · rw [lookup, if_neg same] at absent
      rw [occurrences_cons, if_neg same, ih absent]
      rfl

theorem occurrences_of_present {name : String} {entries : List (String × Json)} {value : Json}
    (once : (entries.map Prod.fst).Nodup) (present : lookup name entries = some value) :
    ∃ i, occurrences name entries = [(i, value)] := by
  induction entries with
  | nil => cases present
  | cons entry rest ih =>
    obtain ⟨key, first⟩ := entry
    obtain ⟨new, later⟩ := List.nodup_cons.mp once
    by_cases same : key = name
    · subst same
      rw [lookup, if_pos rfl] at present
      cases present
      rw [occurrences_cons, if_pos rfl, occurrences_of_absent (lookup_eq_none_iff.mpr new)]
      exact ⟨0, rfl⟩
    · rw [lookup, if_neg same] at present
      obtain ⟨i, found⟩ := ih later present
      rw [occurrences_cons, if_neg same, found]
      exact ⟨i + 1, rfl⟩

section

variable {name : String} {entries : List (String × Json)} {read : Json → Except Fault α}

theorem find_of_absent (absent : lookup name entries = none) (position : Nat) :
    find position name read (.named entries) = .ok none := by
  rw [find, occurrences_of_absent absent]

theorem find_of_present {value : Json} {a : α} (once : (entries.map Prod.fst).Nodup)
    (present : lookup name entries = some value) (good : read value = .ok a) (position : Nat) :
    find position name read (.named entries) = .ok (some a) := by
  obtain ⟨i, found⟩ := occurrences_of_present once present
  simp only [find, found, readAt, good]
  rfl

theorem required_of_lookup {value : Json} {a : α} (once : (entries.map Prod.fst).Nodup)
    (present : lookup name entries = some value) (good : read value = .ok a) (position : Nat) :
    (required position name read).run (.named entries) = .ok a := by
  simp only [required, find_of_present once present good]

theorem optional_of_lookup {value : Option Json} (once : (entries.map Prod.fst).Nodup)
    (found : lookup name entries = value) (set : value ≠ some .null) (position : Nat) :
    (optional position name Except.ok).run (.named entries) = .ok value := by
  cases value with
  | none =>
    simp only [optional, defaulted, find_of_absent found]
    rfl
  | some json =>
    have good : unsettable (Except.ok : Json → Except Fault Json) json = .ok (some json) := by
      have told : Format.isUnset json = Except.ok false :=
        congrArg Except.ok (decide_eq_false fun same => set (congrArg some same))
      simp only [unsettable, told, ok_bind, Bool.false_eq_true, ↓reduceIte]
      rfl
    simp only [optional, defaulted, find_of_present once found good]
    rfl

end

section

variable {fields : List (String × Option Json)} {entries : List (String × Json)} {name : String}
  {write : α → Json} {read : Json → Except Fault α} {position : Nat} {a : α}

theorem find_of_written_none (written : Written fields entries)
    (field : fields[position]? = some (name, none)) :
    find position name read (.named entries) = .ok none := by
  have holds := written.holds _ (List.mem_of_getElem? field)
  cases found : lookup name entries with
  | none => exact find_of_absent found position
  | some v =>
    rw [found] at holds
    cases holds

theorem find_of_written_some (written : Written fields entries) {json : Json}
    (good : ∀ v, Rearranged json v → read v = .ok a)
    (field : fields[position]? = some (name, some json)) :
    find position name read (.named entries) = .ok (some a) := by
  have holds := written.holds _ (List.mem_of_getElem? field)
  cases found : lookup name entries with
  | none =>
    rw [found] at holds
    cases holds
  | some v =>
    rw [found] at holds
    cases holds with
    | some rearranged => exact find_of_present written.once found (good v rearranged) position

theorem required_of_written (each : ReadsBack write read) (written : Written fields entries)
    (field : fields[position]? = some (name, some (write a))) :
    (required position name read).run (.named entries) = .ok a := by
  simp only [required, find_of_written_some written (each.reads a) field]

theorem defaulted_of_written (each : ReadsBack write read) (written : Written fields entries)
    (fallback : α) (field : fields[position]? = some (name, some (write a))) :
    (defaulted position name fallback read).run (.named entries) = .ok a := by
  simp only [defaulted, find_of_written_some written (each.reads a) field]
  rfl

theorem omitted_of_written (each : ReadsBack write read) (written : Written fields entries)
    {omitted : Bool} {fallback : α} (filled : omitted = true → a = fallback)
    (field : fields[position]? = some (name, if omitted then none else some (write a))) :
    (defaulted position name fallback read).run (.named entries) = .ok a := by
  cases omitted with
  | true =>
    rw [filled rfl]
    simp only [defaulted, find_of_written_none written field]
    rfl
  | false => exact defaulted_of_written each written fallback field

theorem optional_of_written (each : ReadsBack write read) (written : Written fields entries)
    {a : Option α} (field : fields[position]? = some (name, a.map write)) :
    (optional position name read).run (.named entries) = .ok a := by
  cases a with
  | none =>
    simp only [optional, defaulted, find_of_written_none written field]
    rfl
  | some a =>
    have good (v : Json) (rearranged : Rearranged (write a) v) :
        unsettable read v = .ok (some a) := by
      have given : v ≠ .null := by
        rintro rfl
        exact each.set a (eq_null_of_alike rearranged)
      have told : Format.isUnset v = Except.ok false :=
        congrArg Except.ok (decide_eq_false given)
      simp only [unsettable, told, ok_bind, Bool.false_eq_true, ↓reduceIte,
        each.reads a v rearranged]
      rfl
    simp only [optional, defaulted, find_of_written_some written good field]
    rfl

theorem run_map {f : Fields Json α} {record : Record Json} (g : α → β)
    (run : f.run record = .ok a) : (g <$> f).run record = .ok (g a) := by
  change both (.ok g) (f.run record) = _
  rw [run]
  rfl

theorem run_seq {f : Fields Json (α → β)} {g : α → β} {rest : Fields Json α}
    {record : Record Json} (first : f.run record = .ok g) (later : rest.run record = .ok a) :
    (f <*> rest).run record = .ok (g a) := by
  change both (f.run record) (rest.run record) = _
  rw [first, later]
  rfl

end

theorem run_seq_eq_ok {f : Fields Json (α → β)} {rest : Fields Json α} {record : Record Json}
    {b : β} (run : (f <*> rest).run record = .ok b) :
    ∃ g a, f.run record = .ok g ∧ rest.run record = .ok a ∧ g a = b := by
  change both (f.run record) (rest.run record) = _ at run
  cases first : f.run record with
  | error e =>
    rw [first] at run
    cases later : rest.run record <;> (rw [later] at run; cases run)
  | ok g =>
    rw [first] at run
    cases later : rest.run record with
    | error e =>
      rw [later] at run
      cases run
    | ok a =>
      rw [later] at run
      exact ⟨g, a, rfl, rfl, Except.ok.inj run⟩

theorem run_map_eq_ok {f : Fields Json α} {g : α → β} {record : Record Json} {b : β}
    (run : (g <$> f).run record = .ok b) : ∃ a, f.run record = .ok a ∧ g a = b := by
  obtain ⟨_, a, given, later, same⟩ := run_seq_eq_ok (run : (pure g <*> f).run record = .ok b)
  cases (Except.ok.inj given : g = _)
  exact ⟨a, later, same⟩

theorem read_of_find {name : String} {read : Json → Except Fault α} {position : Nat}
    {record : Record Json} {a : α} (run : find position name read record = .ok (some a)) :
    ∃ v, read v = .ok a := by
  have got (i : Nat) (v : Json) (run : (readAt i read v).map some = .ok (some a)) :
      ∃ v, read v = .ok a := by
    refine ⟨v, ?_⟩
    unfold readAt at run
    cases good : read v with
    | error fault =>
      rw [good] at run
      cases run
    | ok b =>
      rw [good] at run
      cases run
      rfl
  unfold find at run
  split at run
  · split at run
    · cases run
    · exact got _ _ run
    · obtain ⟨_, -, run⟩ := bind_eq_ok.mp run
      cases run
  · split at run
    · cases run
    · exact got _ _ run

theorem ne_null_of_optional {name : String} {position : Nat} {record : Record Json}
    {value : Option Json}
    (run : (optional position name Except.ok).run record = .ok value) : value ≠ some .null := by
  rintro rfl
  change (find position name (unsettable Except.ok) record).map (·.getD none) = _ at run
  cases found : find position name (unsettable (Except.ok : Json → Except Fault Json)) record with
  | error e =>
    rw [found] at run
    cases run
  | ok got =>
    rw [found] at run
    cases got with
    | none => cases run
    | some json =>
      cases (Except.ok.inj run : json = some .null)
      obtain ⟨v, read⟩ := read_of_find found
      change (if decide (v = .null) then Except.ok none else Except.ok (some v)) = _ at read
      split at read
      · cases read
      · next set =>
        cases read
        exact set rfl

end Fields

/-- A record is read back if its fields are, however they are placed. -/
theorem readsBack_record {write : α → Json} {fields : α → List (String × Option Json)}
    {reader : Fields Json α} {type : String} {count : Nat}
    (writes : ∀ a, write a = .ofFields (fields a))
    (distinct : ∀ a, ((fields a).map Prod.fst).Nodup)
    (run : ∀ a entries, Written (fields a) entries → reader.run (.named entries) = .ok a) :
    ReadsBack write (readRecord type count reader) where
  reads a v rearranged := by
    rw [writes] at rearranged
    obtain ⟨entries, rfl, written⟩ := written_of_rearranged (distinct a) rearranged
    change (reader.run (.named entries)).mapError _ = _
    rw [run a entries written]
    rfl
  set a := by
    rw [writes]
    exact nofun

end Wire
end ClusterNet
