/- Finite maps from text, kept in the order of their keys. The operations on entry lists and their
   laws need no order of the list; `Dict` adds the order as an invariant. -/
namespace ClusterNet

/-- The value stored under a key; of repeated keys the first counts. -/
def lookup (key : String) : List (String × α) → Option α
  | [] => none
  | (k, v) :: rest => if k = key then some v else lookup key rest

/-- Store a value in front of the first key that is not smaller, replacing that key's value when
    the two are equal. -/
def put (key : String) (value : α) : List (String × α) → List (String × α)
  | [] => [(key, value)]
  | (k, v) :: rest =>
    if key = k then (key, value) :: rest
    else if key < k then (key, value) :: (k, v) :: rest
    else (k, v) :: put key value rest

def Sorted (entries : List (String × α)) : Prop :=
  entries.Pairwise fun a b => a.1 < b.1

theorem lookup_put_self (key : String) (value : α) (entries : List (String × α)) :
    lookup key (put key value entries) = some value := by
  induction entries with
  | nil => simp [put, lookup]
  | cons entry rest ih =>
    obtain ⟨k, v⟩ := entry
    by_cases same : key = k
    · simp [put, lookup, same]
    · by_cases before : key < k
      · simp [put, lookup, same, before]
      · simp [put, lookup, same, before, ih, Ne.symm same]

theorem lookup_put_of_ne {key other : String} (different : other ≠ key) (value : α)
    (entries : List (String × α)) :
    lookup other (put key value entries) = lookup other entries := by
  induction entries with
  | nil => simp [put, lookup, Ne.symm different]
  | cons entry rest ih =>
    obtain ⟨k, v⟩ := entry
    by_cases same : key = k
    · subst same
      simp [put, lookup, Ne.symm different]
    · by_cases before : key < k
      · simp [put, lookup, same, before, Ne.symm different]
      · simp [put, lookup, same, before, ih]

theorem put_put_self (key : String) (first second : α) (entries : List (String × α)) :
    put key second (put key first entries) = put key second entries := by
  induction entries with
  | nil => simp [put]
  | cons entry rest ih =>
    obtain ⟨k, v⟩ := entry
    by_cases same : key = k
    · simp [put, same]
    · by_cases before : key < k
      · simp [put, same, before]
      · simp [put, same, before, ih]

theorem mem_put {key : String} {value : α} {entries : List (String × α)} {entry : String × α}
    (member : entry ∈ put key value entries) : entry = (key, value) ∨ entry ∈ entries := by
  induction entries with
  | nil => simpa [put] using member
  | cons head rest ih =>
    obtain ⟨k, v⟩ := head
    unfold put at member
    split at member
    · rcases List.mem_cons.mp member with h | h
      · exact Or.inl h
      · exact Or.inr (List.mem_cons_of_mem _ h)
    · split at member
      · rcases List.mem_cons.mp member with h | h
        · exact Or.inl h
        · exact Or.inr h
      · rcases List.mem_cons.mp member with h | h
        · exact Or.inr (h ▸ List.mem_cons_self)
        · exact (ih h).imp id (List.mem_cons_of_mem _)

theorem sorted_put (key : String) (value : α) {entries : List (String × α)}
    (sorted : Sorted entries) : Sorted (put key value entries) := by
  induction entries with
  | nil => simp [put, Sorted]
  | cons head rest ih =>
    obtain ⟨k, v⟩ := head
    obtain ⟨above, tail⟩ := List.pairwise_cons.mp sorted
    unfold put
    split
    · next same => subst same; exact List.pairwise_cons.mpr ⟨above, tail⟩
    · next different =>
      split
      · next before =>
        refine List.pairwise_cons.mpr ⟨?_, sorted⟩
        intro entry member
        rcases List.mem_cons.mp member with h | h
        · subst h; exact before
        · exact String.lt_trans before (above entry h)
      · next notBefore =>
        refine List.pairwise_cons.mpr ⟨?_, ih tail⟩
        intro entry member
        rcases mem_put member with h | h
        · subst h
          exact Std.lt_of_le_of_ne (String.not_lt.mp notBefore) (Ne.symm different)
        · exact above entry h

structure Dict (α : Type u) where
  entries : List (String × α)
  sorted : Sorted entries
  deriving DecidableEq, Repr

namespace Dict

def empty : Dict α := ⟨[], List.Pairwise.nil⟩

instance : Inhabited (Dict α) := ⟨empty⟩

def insert (d : Dict α) (key : String) (value : α) : Dict α :=
  ⟨put key value d.entries, sorted_put key value d.sorted⟩

def get? (d : Dict α) (key : String) : Option α := lookup key d.entries

def isEmpty (d : Dict α) : Bool := d.entries.isEmpty

def keys (d : Dict α) : List String := d.entries.map Prod.fst

def insertAll (d : Dict α) (entries : List (String × α)) : Dict α :=
  entries.foldl (fun acc entry => acc.insert entry.1 entry.2) d

def ofList (entries : List (String × α)) : Dict α := empty.insertAll entries

def union (d later : Dict α) : Dict α := d.insertAll later.entries

theorem get?_insert_self (d : Dict α) (key : String) (value : α) :
    (d.insert key value).get? key = some value := lookup_put_self key value d.entries

theorem get?_insert_of_ne (d : Dict α) {key other : String} (different : other ≠ key) (value : α) :
    (d.insert key value).get? other = d.get? other := lookup_put_of_ne different value d.entries

end Dict
end ClusterNet
