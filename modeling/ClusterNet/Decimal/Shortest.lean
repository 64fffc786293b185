import ClusterNet.Decimal.Binary64

/- The fewest decimal digits that read back as a given double, and layouts for them. -/
namespace ClusterNet.Decimal

def leadingExponent (num den : Nat) : Int :=
  if den ≤ num then ((Nat.toDigits 10 (num / den)).length : Int) - 1
  else -((Nat.toDigits 10 ((den + num - 1) / num - 1)).length : Int)

/-- `digits * 10 ^ exponent` -/
structure Scientific where
  digits : Nat
  exponent : Int
  deriving DecidableEq, Repr

def dropZeros : Nat → Scientific → Scientific
  | 0, x => x
  | fuel + 1, x =>
    if x.digits % 10 = 0 ∧ x.digits ≠ 0 then dropZeros fuel ⟨x.digits / 10, x.exponent + 1⟩ else x

/-- Four times the significand with its neighbours' midpoints: the reals strictly between `low` and
    `high`, and the ends when `closed`, round to the number. The unit is a quarter of the number's
    last place. -/
structure Interval where
  value : Nat
  low : Nat
  high : Nat
  closed : Bool

def interval (magnitude : Nat) : Interval :=
  let m := Binary64.significand magnitude
  let lowest := m = Nat.pow 2 52 ∧ 0 < Binary64.shift magnitude
  ⟨4 * m, if lowest then 4 * m - 1 else 4 * m - 2, 4 * m + 2, m % 2 = 0⟩

def Interval.contains (i : Interval) (num den : Nat) : Bool :=
  (i.low * den < num && num < i.high * den)
    || (i.closed && (num == i.low * den || num == i.high * den))

/-- The decimal with `places` digits that is nearest to the number, if one of the two around it
    reads back. `unitNum / unitDen` is the unit of the interval. -/
def nearestOnGrid (i : Interval) (unitNum unitDen : Nat) (lead : Int) (places : Nat) :
    Option Scientific :=
  let exponent := lead - places + 1
  let up := Nat.pow 10 exponent.toNat
  let down := Nat.pow 10 (-exponent).toNat
  -- a grid point d has the value d * up / down, in units d * (up * unitDen) / (down * unitNum)
  let num := up * unitDen
  let den := down * unitNum
  let below := i.value * den / num
  let above := below + 1
  let belowIn := i.contains (below * num) den
  let aboveIn := i.contains (above * num) den
  let toBelow := i.value * den - below * num
  let toAbove := above * num - i.value * den
  if belowIn && (!aboveIn || toBelow < toAbove || (toBelow == toAbove && below % 2 == 0)) then
    some ⟨below, exponent⟩
  else if aboveIn then some ⟨above, exponent⟩
  else none

def shortest (magnitude : Nat) : Scientific :=
  if magnitude = 0 then ⟨0, 0⟩
  else
    let i := interval magnitude
    let unitNum := Nat.pow 2 (Binary64.shift magnitude)
    let unitDen := 4 * Binary64.denominator
    let lead := leadingExponent (i.value * unitNum) unitDen
    let found := (List.range 17).findSome? fun n => nearestOnGrid i unitNum unitDen lead (n + 1)
    dropZeros 17 (found.getD ⟨i.value / 4, 0⟩)

structure Layout where
  leastPoint : Int
  greatestPoint : Int
  plusSign : Bool

def Layout.write (layout : Layout) (x : Binary64) : String :=
  let s := shortest x.magnitude
  let digits := Nat.toDigits 10 s.digits
  let point := (digits.length : Int) + s.exponent
  let zeros := fun (n : Int) => List.replicate n.toNat '0'
  let body : List Char :=
    if 0 ≤ s.exponent ∧ point ≤ layout.greatestPoint then
      digits ++ zeros s.exponent ++ ['.', '0']
    else if 0 < point ∧ point ≤ layout.greatestPoint then
      digits.take point.toNat ++ '.' :: digits.drop point.toNat
    else if layout.leastPoint ≤ point ∧ point ≤ 0 then
      ['0', '.'] ++ zeros (-point) ++ digits
    else
      let fraction := if digits.length ≤ 1 then [] else '.' :: digits.drop 1
      let power := point - 1
      let sign := if power < 0 then ['-'] else if layout.plusSign then ['+'] else []
      digits.take 1 ++ fraction ++ 'e' :: sign ++ Nat.toDigits 10 power.natAbs
  String.ofList (if x.negative then '-' :: body else body)

/-- Positional from 0.00001 to below 10^16, else with a signed exponent. -/
def jsonLayout : Layout := ⟨-4, 16, true⟩

/-- Positional from 0.00001 to below 10^16, else with an exponent whose plus is left out. -/
def yamlLayout : Layout := ⟨-4, 16, false⟩

def plainLayout : Layout := ⟨-400, 400, false⟩

end ClusterNet.Decimal
