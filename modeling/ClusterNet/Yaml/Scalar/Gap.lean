import ClusterNet.Yaml.Cursor

/- What separates the words of a scalar. One line break counts as a space, of more the first is
   dropped; a break behind a backslash counts as nothing. -/
namespace ClusterNet.Yaml.Scalar

inductive Gap where
  | blanks (text : List Char)
  | broken (first : Option Char) (more : List Char)
  deriving DecidableEq, Repr

namespace Gap

def isBroken : Gap → Bool
  | .blanks _ => false
  | .broken _ _ => true

def text : Gap → List Char
  | .blanks text => text
  | .broken (some '\n') [] => [' ']
  | .broken (some '\n') more => more
  | .broken first more => first.toList ++ more

def addBreak (b : Char) : Gap → Gap
  | .blanks _ => .broken (some b) []
  | .broken first more => .broken first (more ++ [b])

/-- Read on to the next word. Behind a break no tab may stand before the given column. -/
def read (column : Nat) : Nat → Gap → Cursor → Option (Gap × Cursor)
  | 0, gap, c => some (gap, c)
  | fuel + 1, gap, c =>
    match c.break? with
    | some (b, next) => read column fuel (gap.addBreak b) next
    | none =>
      match c.rest with
      | [] => some (gap, c)
      | ch :: _ =>
        if !isBlank ch then some (gap, c)
        else
          match gap with
          | .blanks text => read column fuel (.blanks (text ++ [ch])) (c.advance 1)
          | .broken .. =>
            if ch = '\t' ∧ c.column < column then none else read column fuel gap (c.advance 1)

end Gap
end ClusterNet.Yaml.Scalar
