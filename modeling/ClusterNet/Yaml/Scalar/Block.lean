import ClusterNet.Yaml.Cursor

/- Block scalars: lines that are indented alike, kept as they are or folded. The header may fix the
   indentation and what happens to the breaks at the end. -/
namespace ClusterNet.Yaml.Scalar

inductive Chomping where
  | strip
  | clip
  | keep
  deriving DecidableEq, Repr

structure Header where
  chomping : Chomping
  indentation : Option Nat
  deriving DecidableEq, Repr

def chompingMark? : Char → Option Chomping
  | '+' => some .keep
  | '-' => some .strip
  | _ => none

def indentationMark? (c : Cursor) : Option (Option Nat × Cursor) :=
  match c.rest with
  | d :: _ =>
    if d = '0' then none
    else if d.isDigit then some (some (d.toNat - '0'.toNat), c.advance 1)
    else some (none, c)
  | [] => some (none, c)

def header? (c : Cursor) : Option (Header × Cursor) := do
  match c.rest.head?.bind chompingMark? with
  | some chomping =>
    let (indentation, c) ← indentationMark? (c.advance 1)
    return (⟨chomping, indentation⟩, ← c.finishLine)
  | none =>
    let (indentation, c) ← indentationMark? c
    match if indentation.isSome then c.rest.head?.bind chompingMark? else none with
    | some chomping => return (⟨chomping, indentation⟩, ← (c.advance 1).finishLine)
    | none => return (⟨.clip, indentation⟩, ← c.finishLine)

/-- Empty lines: their breaks, the widest indentation met, and the place behind. Spaces count as
    indentation up to the given column, and no tab may stand among them. -/
def emptyLines (column : Option Nat) : Nat → Cursor → Option (List Char × Nat × Cursor)
  | 0, _ => none
  | fuel + 1, c =>
    let spaces := (c.rest.takeWhile isSpace).length
    let c := c.advance (column.elim spaces fun n => min spaces (n - c.column))
    if c.rest.head? = some '\t' ∧ column.all (c.column < ·) then none
    else
      match c.break? with
      | none => some ([], c.column, c)
      | some (b, next) =>
        (emptyLines column fuel next).map fun (breaks, widest, stop) =>
          (b :: breaks, max c.column widest, stop)

/-- What joins two lines: the break that ends the first and the breaks of empty lines. A single
    break between two lines that do not start with a blank is folded into a space. -/
def joint (isFolded afterBlank beforeBlank : Bool) (first : Option Char) (more : List Char) :
    List Char :=
  if isFolded && first = some '\n' && !afterBlank && !beforeBlank then
    if more.isEmpty then [' '] else more
  else first.toList ++ more

def chomp (chomping : Chomping) (last : Option Char) (more : List Char) : List Char :=
  match chomping with
  | .strip => []
  | .clip => last.toList
  | .keep => last.toList ++ more

def blockLines (isFolded : Bool) (chomping : Chomping) (column : Nat) :
    Nat → Bool → Option Char → List Char → Cursor → Option (List Char × Cursor)
  | 0, _, _, _, _ => none
  | fuel + 1, afterBlank, last, more, c =>
    if c.column ≠ column ∨ c.rest.isEmpty then some (chomp chomping last more, c)
    else do
      let isBlankLine := c.rest.head?.any isBlank
      let (line, behind) := c.span (!isBreak ·)
      let (ending, next) := match behind.break? with
        | some (b, next) => (some b, next)
        | none => (none, behind)
      let (breaks, _, start) ← emptyLines (some column) next.fuel next
      let (rest, stop) ← blockLines isFolded chomping column fuel isBlankLine ending breaks start
      return (joint isFolded afterBlank isBlankLine last more ++ line ++ rest, stop)

def readBlock (isFolded : Bool) (outer : Option Nat) (c : Cursor) :
    Option (List Char × Cursor) := do
  let (header, c) ← header? c
  let fixed := header.indentation.map (outer.getD 0 + ·)
  let (breaks, widest, c) ← emptyLines fixed c.fuel c
  let column := fixed.getD (max widest (max 1 (outer.elim 0 (· + 1))))
  blockLines isFolded header.chomping column c.fuel false none breaks c

end ClusterNet.Yaml.Scalar
