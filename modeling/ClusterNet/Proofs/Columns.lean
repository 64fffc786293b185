import Mathlib.Algebra.GroupWithZero.Nat
import Mathlib.Data.List.Forall2
import Mathlib.Data.String.Basic
import ClusterNet.Command.Table
import ClusterNet.Proofs.Blanks
import ClusterNet.Proofs.Sections

/- The columns of a table. A text has no more characters than bytes, so every cell fits its column,
   and a cell with the spaces behind it takes the same number of characters in every line. -/
namespace ClusterNet.Command

def column (lines : List (List String)) (j : Nat) : List String := lines.filterMap (·[j]?)

/-- The place of a column in each line: behind the columns before it, and two more for each. -/
def columnStart (ws : List Nat) (j : Nat) : Nat := ((ws.take j).map (· + 2)).sum

/-- The text is made of the cells. From the start of its column to that of the next one it holds
    the cell and spaces, at least two of them. -/
structure Laid (ws : List Nat) (cells : List String) (text : List Char) : Prop where
  extent : text.length = columnStart ws cells.length
  placed : ∀ j cell, cells[j]? = some cell → ∃ w gap, ws[j]? = some w ∧ 2 ≤ gap ∧
    (text.drop (columnStart ws j)).take (w + 2) = cell.toList ++ List.replicate gap ' '

structure Shows (ws : List Nat) (cells : List String) (line : List Char) : Prop where
  trimmed : ∀ c ∈ line.getLast?, Text.isBlank c = false
  laid : ∃ lost, (∀ c ∈ lost, Text.isBlank c = true) ∧ Laid ws cells (line ++ lost)

/-- The text consists of the lines, one for each list of cells, and all of them have the same
    columns, each as wide as its largest cell is in bytes. -/
structure Tabulates (ws : List Nat) (all : List (List String)) (lines : List (List Char))
    (text : String) : Prop where
  widest : ∀ j, ws[j]? = ((column all j).map String.utf8ByteSize).max?
  ended : text.toList.splitOn '\n' = lines ++ [[]]
  shown : List.Forall₂ (Shows ws) all lines

theorem length_le_utf8ByteSize (s : String) : s.length ≤ s.utf8ByteSize := by
  have sizes (cs : List Char) : cs.length ≤ String.utf8Len cs := by
    induction cs with
    | nil => exact Nat.le_refl 0
    | cons c cs ih =>
      have := c.utf8Size_pos
      rw [List.length_cons, String.utf8Len_cons]
      omega
  rw [← String.utf8Len_toList, ← String.length_toList]
  exact sizes s.toList

section Widths

theorem column_tail (lines : List (List String)) (j : Nat) :
    column (lines.map List.tail) j = column lines (j + 1) := by
  simp [column, List.filterMap_map]

theorem getElem?_widths {headers : List String} {rows : List (List String)}
    (short : ∀ row ∈ rows, row.length ≤ headers.length) (j : Nat) :
    (widths headers rows)[j]? =
      ((column (headers :: rows) j).map String.utf8ByteSize).max? := by
  induction headers generalizing rows j with
  | nil =>
    have none : column ([] :: rows) j = [] := by
      refine List.filterMap_eq_nil_iff.mpr (List.forall_mem_cons.mpr ⟨rfl, ?_⟩)
      intro row member
      exact List.getElem?_eq_none (Nat.le_trans (short row member) (Nat.zero_le j))
    rw [none]
    rfl
  | cons header headers ih =>
    cases j with
    | zero =>
      have heads : rows.filterMap List.head? = column rows 0 := by
        simp [column, List.head?_eq_getElem?]
      have first : column ((header :: headers) :: rows) 0 = header :: column rows 0 := rfl
      rw [widths, heads, first, List.map_cons, List.max?_cons', List.foldl_map]
      rfl
    | succ j =>
      have later : ∀ row ∈ rows.map List.tail, row.length ≤ headers.length := by
        refine List.forall_mem_map.mpr fun row member => ?_
        have := short row member
        rw [List.length_cons] at this
        rw [List.length_tail]
        omega
      rw [widths, List.getElem?_cons_succ, ih later, ← column_tail]
      rfl

inductive Fits : List Nat → List String → Prop where
  | nil {ws : List Nat} : Fits ws []
  | cons {w : Nat} {ws : List Nat} {cell : String} {cells : List String} (room : cell.length ≤ w)
      (later : Fits ws cells) : Fits (w :: ws) (cell :: cells)

theorem fits_of_room {ws : List Nat} {cells : List String}
    (room : ∀ (j : Nat) (cell : String), cells[j]? = some cell →
      ∃ w, ws[j]? = some w ∧ cell.length ≤ w) : Fits ws cells := by
  induction cells generalizing ws with
  | nil => exact .nil
  | cons cell cells ih =>
    obtain ⟨w, first, wide⟩ := room 0 cell rfl
    cases ws with
    | nil => cases first
    | cons _ ws =>
      cases first
      exact .cons wide (ih fun j => room (j + 1))

theorem fits_of_widest {ws : List Nat} {all : List (List String)}
    (widest : ∀ j, ws[j]? = ((column all j).map String.utf8ByteSize).max?) :
    ∀ cells ∈ all, Fits ws cells := by
  intro cells member
  refine fits_of_room ?_
  intro j cell found
  have listed : cell.utf8ByteSize ∈ (column all j).map String.utf8ByteSize :=
    List.mem_map_of_mem (List.mem_filterMap.mpr ⟨cells, member, found⟩)
  cases largest : ((column all j).map String.utf8ByteSize).max? with
  | none =>
    rw [List.max?_eq_none_iff.mp largest] at listed
    cases listed
  | some w =>
    have bound := (List.max?_eq_some_iff.mp largest).2 _ listed
    exact ⟨w, by rw [widest, largest], Nat.le_trans (length_le_utf8ByteSize cell) bound⟩

end Widths

section Lines

variable {ws : List Nat} {cells : List String}

theorem columnStart_succ (w : Nat) (ws : List Nat) (j : Nat) :
    columnStart (w :: ws) (j + 1) = w + 2 + columnStart ws j := by
  simp [columnStart]

def fields (ws : List Nat) (cells : List String) : List Char :=
  (padded ws cells).flatMap (· ++ [' ', ' '])

theorem fields_cons (w : Nat) (ws : List Nat) (cell : String) (cells : List String) :
    fields (w :: ws) (cell :: cells) =
      cell.toList ++ List.replicate (w - cell.length + 2) ' ' ++ fields ws cells := by
  have spaces : [' ', ' '] = List.replicate 2 ' ' := rfl
  rw [fields, padded, List.flatMap_cons, pad, spaces, List.append_assoc cell.toList,
    List.replicate_append_replicate]
  rfl

theorem laid_fields (fits : Fits ws cells) : Laid ws cells (fields ws cells) := by
  induction fits with
  | nil => exact ⟨by simp [fields, padded, columnStart], by simp⟩
  | @cons w ws cell cells room _ ih =>
    have size :
        (cell.toList ++ List.replicate (w - cell.length + 2) ' ').length = w + 2 := by
      rw [List.length_append, List.length_replicate, String.length_toList]
      omega
    rw [fields_cons]
    constructor
    · rw [List.length_append, size, ih.extent, List.length_cons, columnStart_succ]
    · intro j next found
      cases j with
      | zero =>
        cases found
        exact ⟨w, _, rfl, Nat.le_add_left .., List.take_left' size⟩
      | succ j =>
        obtain ⟨width, gap, wide, apart, held⟩ := ih.placed j next found
        refine ⟨width, gap, wide, apart, ?_⟩
        rw [columnStart_succ, ← size, List.drop_length_add_append, held]

theorem mem_fields {c : Char} (fits : Fits ws cells) (member : c ∈ fields ws cells) :
    c = ' ' ∨ ∃ cell ∈ cells, c ∈ cell.toList := by
  induction fits with
  | nil => simp [fields, padded] at member
  | @cons w ws cell cells _ _ ih =>
    rw [fields_cons, List.mem_append, List.mem_append] at member
    rcases member with (own | space) | later
    · exact .inr ⟨cell, List.mem_cons_self, own⟩
    · exact .inl (List.eq_of_mem_replicate space)
    · refine (ih later).imp_right ?_
      rintro ⟨other, listed, inside⟩
      exact ⟨other, List.mem_cons_of_mem _ listed, inside⟩

theorem intercalate_append {α : Type} (separator first : List α) (rest : List (List α)) :
    separator.intercalate (first :: rest) ++ separator =
      (first :: rest).flatMap (· ++ separator) := by
  induction rest generalizing first with
  | nil => simp
  | cons second rest ih =>
    rw [List.intercalate_cons_cons, List.append_assoc, ih]
    rfl

theorem dropFinalBlank_intercalate (ws : List Nat) (cells : List String) :
    Text.dropFinalBlank ([' ', ' '].intercalate (padded ws cells)) =
      Text.dropFinalBlank (fields ws cells) := by
  have blank : [' ', ' '].all Text.isBlank = true := rfl
  rw [fields]
  cases padded ws cells with
  | nil => rfl
  | cons first rest =>
    rw [← intercalate_append, Text.dropFinalBlank_append _ (List.all_eq_true.mp blank)]

def shownCells (ws : List Nat) (cells : List String) : List Char :=
  Text.dropFinalBlank (fields ws cells)

theorem tableLine_eq (ws : List Nat) (cells : List String) :
    tableLine ws cells = shownCells ws cells ++ ['\n'] := by
  rw [tableLine, dropFinalBlank_intercalate]
  rfl

theorem shows_shownCells (fits : Fits ws cells) : Shows ws cells (shownCells ws cells) := by
  obtain ⟨lost, blank, whole⟩ := Text.dropFinalBlank_append_lost (fields ws cells)
  refine ⟨Text.getLast?_dropFinalBlank _, lost, blank, ?_⟩
  rw [shownCells, whole]
  exact laid_fields fits

theorem feed_not_mem_shownCells (fits : Fits ws cells)
    (plain : ∀ cell ∈ cells, '\n' ∉ cell.toList) : '\n' ∉ shownCells ws cells := by
  intro member
  obtain ⟨lost, -, whole⟩ := Text.dropFinalBlank_append_lost (fields ws cells)
  have inside : '\n' ∈ fields ws cells := whole ▸ List.mem_append_left lost member
  rcases mem_fields fits inside with space | ⟨cell, listed, own⟩
  · cases space
  · exact plain cell listed own

theorem toList_table (headers : List String) (rows : List (List String)) :
    (table headers rows).toList =
      ((headers :: rows).map (shownCells (widths headers rows))).flatMap (· ++ ['\n']) := by
  rw [table, String.toList_ofList, List.flatMap_map]
  exact congrArg ((headers :: rows).flatMap ·) (funext (tableLine_eq _))

end Lines

/-- A table has a line for the headers and one for each row. All lines have the same columns, so a
    cell starts at the same place in each of them; no cell is cut, and none runs into the next. -/
theorem table_aligns_columns {headers : List String} {rows : List (List String)}
    (short : ∀ row ∈ rows, row.length ≤ headers.length)
    (plain : ∀ cells ∈ headers :: rows, ∀ cell ∈ cells, '\n' ∉ cell.toList) :
    ∃ ws lines, Tabulates ws (headers :: rows) lines (table headers rows) := by
  have widest := getElem?_widths short
  have fits := fits_of_widest widest
  have unbroken : ∀ line ∈ (headers :: rows).map (shownCells (widths headers rows)),
      '\n' ∉ line :=
    List.forall_mem_map.mpr fun cells member =>
      feed_not_mem_shownCells (fits cells member) (plain cells member)
  have ended := Ini.splitOn_ended ((headers :: rows).map (shownCells (widths headers rows))) []
  rw [List.append_nil, ← toList_table, Ini.flatMap_splitOn_of_plain unbroken,
    List.splitOn_nil] at ended
  refine ⟨widths headers rows, _, widest, ended, ?_⟩
  rw [List.forall₂_map_right_iff, List.forall₂_same]
  exact fun cells member => shows_shownCells (fits cells member)

/-- Characters of several bytes, white space in the last column and a row without cells. -/
theorem foreign_table_is_aligned :
    let headers := ["ÄÖ", "B", "C"]
    let rows := [["日本語", "x", "\t "], ["é "], []]
    (∀ row ∈ rows, row.length ≤ headers.length) ∧
      (∀ cells ∈ headers :: rows, ∀ cell ∈ cells, '\n' ∉ cell.toList) ∧
      ∃ ws lines, Tabulates ws (headers :: rows) lines (table headers rows) := by
  intro headers rows
  have short : ∀ row ∈ rows, row.length ≤ headers.length := by decide
  have plain : ∀ cells ∈ headers :: rows, ∀ cell ∈ cells, '\n' ∉ cell.toList := by decide
  exact ⟨short, plain, table_aligns_columns short plain⟩

/-- The columns of this table are nine bytes, one byte and two bytes wide. -/
example : table ["ÄÖ", "B", "C"] [["日本語", "x", "\t "], ["é "], []] =
    "ÄÖ         B  C\n日本語        x\né\n\n" := by
  decide +kernel

end ClusterNet.Command
