import ClusterNet.Yaml.Scalar.Gap
import ClusterNet.Yaml.Plain

/- Scalars in quotes. A single quote is written twice between single quotes; between double quotes a
   backslash starts an escape or joins two lines. -/
namespace ClusterNet.Yaml.Scalar

def coded? (digits : List Char) : Option Char := do
  let n ← Plain.digits? 16 digits
  if n.isValidChar then return Char.ofNat n else none

def codeLength? : Char → Option Nat
  | 'x' => some 2
  | 'u' => some 4
  | 'U' => some 8
  | _ => none

def escaped? : List Char → Option (Char × Nat)
  | _ :: letter :: rest =>
    match codeLength? letter with
    | some n => if rest.length < n then none else (coded? (rest.take n)).map fun c => (c, n + 2)
    | none =>
      if letter ∈ [' ', '/', '\t'] then some (letter, 2)
      else (escapes.find? (·.2 = letter)).map fun entry => (entry.1, 2)
  | _ => none

inductive Piece where
  | close
  | piece (text : List Char) (next : Cursor)

def doublePiece? (c : Cursor) : Option Piece :=
  match c.rest with
  | '"' :: _ => some .close
  | '\\' :: rest =>
    if rest.head?.any isBreak then do
      let behind := (c.advance 1).skipBreak
      let (gap, next) ← Gap.read 0 behind.fuel (.broken none []) behind
      return .piece gap.text next
    else do
      let (ch, length) ← escaped? c.rest
      return .piece [ch] (c.advance length)
  | ch :: _ => some (.piece [ch] (c.advance 1))
  | [] => none

def singlePiece? (c : Cursor) : Option Piece :=
  match c.rest with
  | '\'' :: '\'' :: _ => some (.piece ['\''] (c.advance 2))
  | '\'' :: _ => some .close
  | ch :: _ => some (.piece [ch] (c.advance 1))
  | [] => none

def quotedRest (piece? : Cursor → Option Piece) : Nat → Cursor → Option (List Char × Cursor)
  | 0, _ => none
  | fuel + 1, c => do
    if c.atDocumentMark then none
    else if !c.rest.isEmpty && endsWord c.rest then
      let (gap, next) ← Gap.read 0 c.fuel (.blanks []) c
      let (more, stop) ← quotedRest piece? fuel next
      return (gap.text ++ more, stop)
    else
      match ← piece? c with
      | .close => return ([], c.advance 1)
      | .piece text next =>
        let (more, stop) ← quotedRest piece? fuel next
        return (text ++ more, stop)

def readQuoted (quote : Char) (c : Cursor) : Option (List Char × Cursor) :=
  quotedRest (if quote = '\'' then singlePiece? else doublePiece?) c.fuel (c.advance 1)

end ClusterNet.Yaml.Scalar
