import ClusterNet.Text.Blank
import ClusterNet.Text.Quoted

/- Durations written as numbers with units, such as `1h 30m` or `1.5s`. Offsets in messages count
   bytes. A fraction must come to a whole number of its unit's parts. -/
namespace ClusterNet.Duration

inductive ReadError where
  | empty
  | numberExpected (offset : Nat)
  | invalidCharacter (offset : Nat)
  | outOfRange
  | unknownUnit (name : String) (count : Nat)
  deriving DecidableEq, Repr

def ReadError.message : ReadError → String
  | .empty => "value was empty"
  | .numberExpected offset => s!"expected number at {offset}"
  | .invalidCharacter offset => s!"invalid character at {offset}"
  | .outOfRange =>
    "number is too large or cannot be represented without a lack of precision "
      ++ "(values below 1ns are not supported)"
  | .unknownUnit name count =>
    if name.isEmpty then s!"time unit needed, for example {count}sec or {count}ms"
    else
      s!"unknown time unit {Text.quoted name}, supported units: ns, us/µs, ms, sec, min, hours, "
        ++ "days, weeks, months, years (and few variations)"

/-- A unit: its names, the seconds and the nanoseconds in it, of which one is zero, and in what part
    of it a fraction is counted. -/
structure TimeUnit where
  names : List String
  seconds : Nat
  nanoseconds : Nat
  fractionSeconds : Nat
  fractionNanoseconds : Nat

def units : List TimeUnit := [
  ⟨["nanos", "nsec", "ns"], 0, 1, 0, 0⟩,
  ⟨["usec", "us", "µs"], 0, 1000, 0, 1000⟩,
  ⟨["millis", "msec", "ms"], 0, 1000000, 0, 1000000⟩,
  ⟨["seconds", "second", "secs", "sec", "s"], 1, 0, 0, 1000000000⟩,
  ⟨["minutes", "minute", "min", "mins", "m"], 60, 0, 0, 60000000000⟩,
  ⟨["hours", "hour", "hrs", "hr", "h"], 3600, 0, 3600, 0⟩,
  ⟨["days", "day", "d"], 86400, 0, 86400, 0⟩,
  ⟨["weeks", "week", "wks", "wk", "w"], 604800, 0, 604800, 0⟩,
  ⟨["months", "month", "M"], 2630016, 0, 2630016, 0⟩,
  ⟨["years", "year", "yrs", "yr", "y"], 31557600, 0, 31557600, 0⟩]

/-- Every number on the way stays below 2^64. -/
def bounded (n : Nat) : Except ReadError Nat :=
  if n < Nat.pow 2 64 then .ok n else .error .outOfRange

structure Total where
  seconds : Nat
  nanoseconds : Nat
  deriving DecidableEq, Repr

def Total.zero : Total := ⟨0, 0⟩

def Total.add (t : Total) (seconds nanoseconds : Nat) : Except ReadError Total := do
  let nanoseconds ← bounded (t.nanoseconds + nanoseconds)
  let seconds ← bounded (seconds + nanoseconds / 1000000000)
  return ⟨← bounded (t.seconds + seconds), nanoseconds % 1000000000⟩

structure Fraction where
  numerator : Nat
  denominator : Nat

def exactShare (part : Nat) (fraction : Fraction) : Except ReadError Nat := do
  let product ← bounded (fraction.numerator * part)
  if product % fraction.denominator = 0 then return product / fraction.denominator
  else .error .outOfRange

def addUnit (total : Total) (count : Nat) (fraction : Option Fraction) (name : String) :
    Except ReadError Total := do
  match units.find? (name ∈ ·.names) with
  | none => .error (.unknownUnit name count)
  | some u =>
    let total ← total.add (← bounded (count * u.seconds)) (← bounded (count * u.nanoseconds))
    match fraction with
    | none => return total
    | some f =>
      if u.fractionSeconds = 0 ∧ u.fractionNanoseconds = 0 then .error .outOfRange
      else total.add (← exactShare u.fractionSeconds f) (← exactShare u.fractionNanoseconds f)

def isUnitChar (c : Char) : Bool := c.isAlpha || c = 'µ'

inductive Stage where
  | start (offset : Nat)
  | number (count : Nat)
  | fraction (count : Nat) (f : Fraction) (offset : Nat)
  | unitName (count : Nat) (f : Option Fraction) (name : List Char)

def digitValue (c : Char) : Nat := c.toNat - '0'.toNat

def closeFraction (f : Fraction) (offset : Nat) : Except ReadError Fraction :=
  if f.denominator = 1 then .error (.invalidCharacter offset) else .ok f

/-- One character at a byte offset. Blanks separate numbers from units and end a unit. -/
def step (total : Total) (offset : Nat) (c : Char) : Stage → Except ReadError (Total × Stage)
  | .start begin =>
    if c.isDigit then .ok (total, .number (digitValue c))
    else if Text.isBlank c then .ok (total, .start begin)
    else .error (.numberExpected begin)
  | .number count =>
    if c.isDigit then do
      return (total, .number (← bounded ((← bounded (count * 10)) + digitValue c)))
    else if Text.isBlank c then .ok (total, .number count)
    else if isUnitChar c then .ok (total, .unitName count none [c])
    else if c = '.' then .ok (total, .fraction count ⟨0, 1⟩ offset)
    else .error (.invalidCharacter offset)
  | .fraction count f last =>
    if c.isDigit then do
      let denominator ← bounded (f.denominator * 10)
      let numerator ← bounded ((← bounded (f.numerator * 10)) + digitValue c)
      return (total, .fraction count ⟨numerator, denominator⟩ (offset + 1))
    else if Text.isBlank c then .ok (total, .fraction count f (offset + c.utf8Size))
    else if isUnitChar c then do
      return (total, .unitName count (some (← closeFraction f last)) [c])
    else .error (.invalidCharacter last)
  | .unitName count f name =>
    if c.isDigit then do
      return (← addUnit total count f (String.ofList name), .number (digitValue c))
    else if Text.isBlank c then do
      return (← addUnit total count f (String.ofList name), .start (offset + c.utf8Size))
    else if isUnitChar c then .ok (total, .unitName count f (name ++ [c]))
    else .error (.invalidCharacter offset)

def finish (total : Total) : Stage → Except ReadError Total
  | .start 0 => .error .empty
  | .start _ => .ok total
  | .number count => addUnit total count none ""
  | .fraction count f last => do addUnit total count (some (← closeFraction f last)) ""
  | .unitName count f name => addUnit total count f (String.ofList name)

def run (total : Total) (offset : Nat) (stage : Stage) : List Char → Except ReadError Total
  | [] => finish total stage
  | c :: cs => do
    let (total, stage) ← step total offset c stage
    run total (offset + c.utf8Size) stage cs

/-- A lone zero needs no unit. -/
def read (s : String) : Except ReadError Total :=
  if s = "0" then .ok .zero else run .zero 0 (.start 0) s.toList

end ClusterNet.Duration
