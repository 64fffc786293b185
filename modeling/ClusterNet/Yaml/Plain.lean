import ClusterNet.Decimal.Shortest

/- What an unquoted YAML scalar stands for: null, a boolean, a number or text. -/
namespace ClusterNet.Yaml

inductive Plain where
  | null
  | boolean (value : Bool)
  | integer (value : Int)
  | hugeInteger (value : Int)
  | real (value : Decimal.Binary64)
  | infinite (negative : Bool)
  | notNumber
  | text
  deriving DecidableEq, Repr

namespace Plain

def digitOf? (base : Nat) (c : Char) : Option Nat :=
  let d :=
    if c.isDigit then c.toNat - '0'.toNat
    else if 'a' ≤ c ∧ c ≤ 'f' then c.toNat - 'a'.toNat + 10
    else if 'A' ≤ c ∧ c ≤ 'F' then c.toNat - 'A'.toNat + 10
    else base
  if d < base then some d else none

def digits? (base : Nat) (cs : List Char) : Option Nat :=
  if cs.isEmpty then none
  else cs.foldl (fun acc c => do return base * (← acc) + (← digitOf? base c)) (some 0)

def isSign (c : Char) : Bool := c = '+' || c = '-'

def startsWithSign (cs : List Char) : Bool := cs.head?.any isSign

def dropPlus : List Char → List Char
  | '+' :: cs => cs
  | cs => cs

def markedBase? : List Char → Option (Nat × List Char)
  | '0' :: 'x' :: cs => some (16, cs)
  | '0' :: 'o' :: cs => some (8, cs)
  | '0' :: 'b' :: cs => some (2, cs)
  | _ => none

/-- A zero in front of more digits makes the scalar a text. -/
def hasLeadingZero (cs : List Char) : Bool :=
  let cs := match cs with
    | c :: rest => if isSign c then rest else c :: rest
    | [] => []
  match cs with
  | '0' :: d :: rest => (d :: rest).all Char.isDigit
  | _ => false

def unsigned? (cs : List Char) : Option Nat :=
  let body := dropPlus cs
  match markedBase? body with
  | some (base, digits) => if startsWithSign digits then none else digits? base digits
  | none => if startsWithSign body || hasLeadingZero cs then none else digits? 10 body

def negative? : List Char → Option Nat
  | '-' :: body =>
    match markedBase? body with
    | some (base, digits) => digits? base digits
    | none => if hasLeadingZero ('-' :: body) then none else digits? 10 body
  | _ => none

/-- A number is an integer as far as 128 bits hold it. -/
def integer? (cs : List Char) : Option Plain :=
  match unsigned? cs with
  | some n =>
    if n < Nat.pow 2 64 then some (.integer n)
    else if n < Nat.pow 2 128 then some (.hugeInteger n) else none
  | none =>
    match negative? cs with
    | some n =>
      if n ≤ Nat.pow 2 63 then some (.integer (-(n : Int)))
      else if n ≤ Nat.pow 2 127 then some (.hugeInteger (-(n : Int))) else none
    | none => none

def exponent? : List Char → Option Int
  | [] => some 0
  | c :: cs =>
    if c = 'e' ∨ c = 'E' then
      match cs with
      | '-' :: digits => (digits? 10 digits).map fun n => -(n : Int)
      | digits => (digits? 10 (dropPlus digits)).map Int.ofNat
    else none

def decimal? (negative : Bool) (cs : List Char) : Option Plain := do
  let whole := cs.takeWhile Char.isDigit
  let rest := cs.dropWhile Char.isDigit
  let (fraction, rest) := match rest with
    | '.' :: more => (more.takeWhile Char.isDigit, more.dropWhile Char.isDigit)
    | rest => ([], rest)
  let digits ← digits? 10 (whole ++ fraction)
  let exponent ← exponent? rest
  let magnitude ← Decimal.Binary64.ofDecimal digits (exponent - fraction.length)
  return .real ⟨negative, magnitude⟩

def real? (cs : List Char) : Option Plain :=
  let body := dropPlus cs
  if cs.head? = some '+' ∧ startsWithSign body then none
  else if String.ofList body ∈ [".inf", ".Inf", ".INF"] then some (.infinite false)
  else if String.ofList cs ∈ ["-.inf", "-.Inf", "-.INF"] then some (.infinite true)
  else if String.ofList cs ∈ [".nan", ".NaN", ".NAN"] then some .notNumber
  else
    match body with
    | '-' :: digits => decimal? true digits
    | digits => decimal? false digits

def resolve (s : String) : Plain :=
  if s ∈ ["", "null", "Null", "NULL", "~"] then .null
  else if s ∈ ["true", "True", "TRUE"] then .boolean true
  else if s ∈ ["false", "False", "FALSE"] then .boolean false
  else
    match integer? s.toList with
    | some plain => plain
    | none => if hasLeadingZero s.toList then .text else (real? s.toList).getD .text

/-- Whether a text has to be quoted so as to be read back as a text. -/
def isAmbiguous (s : String) : Bool := resolve s ≠ .text || hasLeadingZero s.toList

end Plain
end ClusterNet.Yaml
