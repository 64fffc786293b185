import ClusterNet.Text.Blank

/- Tables of left-aligned columns, two spaces apart. A column is as wide as its longest cell is in
   bytes; cells are padded to that number of characters. -/
namespace ClusterNet.Command

/-- The width of each column, over the header and those rows that reach it. -/
def widths : List String → List (List String) → List Nat
  | [], _ => []
  | header :: headers, rows =>
    (rows.filterMap List.head?).foldl (fun w cell => max w cell.utf8ByteSize) header.utf8ByteSize
      :: widths headers (rows.map List.tail)

def pad (width : Nat) (cell : String) : List Char :=
  cell.toList ++ List.replicate (width - cell.length) ' '

/-- Cells beyond the last column are not padded. -/
def padded : List Nat → List String → List (List Char)
  | _, [] => []
  | [], cell :: cells => cell.toList :: padded [] cells
  | width :: ws, cell :: cells => pad width cell :: padded ws cells

def tableLine (ws : List Nat) (cells : List String) : List Char :=
  Text.dropFinalBlank ([' ', ' '].intercalate (padded ws cells)) ++ ['\n']

def table (headers : List String) (rows : List (List String)) : String :=
  let ws := widths headers rows
  String.ofList ((headers :: rows).flatMap (tableLine ws))

end ClusterNet.Command
