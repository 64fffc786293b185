import ClusterNet.Json.Basic

/- The canonical form of a value: every object sorted by key, all else as it is. -/
namespace ClusterNet.Json

mutual

def canonical : Json → Json
  | .list items => .list (canonicalItems items)
  | .object entries => .object (canonicalEntries entries)
  | .null => .null
  | .boolean b => .boolean b
  | .number n => .number n
  | .text s => .text s

def canonicalItems : List Json → List Json
  | [] => []
  | item :: rest => canonical item :: canonicalItems rest

def canonicalEntries : List (String × Json) → List (String × Json)
  | [] => []
  | (key, value) :: rest => put key (canonical value) (canonicalEntries rest)

end

theorem canonicalItems_eq_map (items : List Json) : canonicalItems items = items.map canonical := by
  induction items with
  | nil => simp [canonicalItems]
  | cons item rest ih => simp [canonicalItems, ih]

theorem sorted_canonicalEntries (entries : List (String × Json)) :
    Sorted (canonicalEntries entries) := by
  induction entries with
  | nil => simp [canonicalEntries, Sorted]
  | cons entry rest ih =>
    obtain ⟨key, value⟩ := entry
    simpa [canonicalEntries] using sorted_put key (canonical value) ih

end ClusterNet.Json
