import ClusterNet.Yaml.Character

/- A place in a text: what follows, how many characters came before, and the line and column. The
   length of the whole text bounds how far can be read. -/
namespace ClusterNet.Yaml

structure Cursor where
  length : Nat
  rest : List Char
  index : Nat
  line : Nat
  column : Nat
  deriving DecidableEq, Repr

namespace Cursor

def start (cs : List Char) : Cursor := ⟨cs.length, cs, 0, 0, 0⟩

def advance (c : Cursor) (n : Nat) : Cursor :=
  { c with rest := c.rest.drop n, index := c.index + n, column := c.column + n }

def span (c : Cursor) (test : Char → Bool) : List Char × Cursor :=
  let run := c.rest.takeWhile test
  (run, c.advance run.length)

def skip (c : Cursor) (test : Char → Bool) : Cursor := (c.span test).2

def nextLine (c : Cursor) (n : Nat) : Cursor :=
  ⟨c.length, c.rest.drop n, c.index + n, c.line + 1, 0⟩

def break? (c : Cursor) : Option (Char × Cursor) :=
  match c.rest with
  | '\r' :: '\n' :: _ => some ('\n', c.nextLine 2)
  | b :: _ =>
    if !isBreak b then none
    else if b.toNat = 0x2028 ∨ b.toNat = 0x2029 then some (b, c.nextLine 1)
    else some ('\n', c.nextLine 1)
  | [] => none

def skipBreak (c : Cursor) : Cursor :=
  match c.break? with
  | some (_, next) => next
  | none => c

def skipComment (c : Cursor) : Cursor :=
  if c.rest.head? = some '#' then c.skip (!isBreak ·) else c

def finishLine (c : Cursor) : Option Cursor :=
  let c := (c.skip isBlank).skipComment
  if c.rest.head?.all isBreak then some c.skipBreak else none

def atDocumentMark (c : Cursor) : Bool :=
  c.column = 0 && hasDocumentMark c.rest && endsWord (c.rest.drop 3)

/-- What has to be counted down to read to the end. -/
def fuel (c : Cursor) : Nat := c.length - c.index + 1

end Cursor
end ClusterNet.Yaml
