import ClusterNet.Text.Blank

/- Points in time: a date, a time of day and an offset, as in `2024-05-01T12:30:00.5Z`. Blanks may
   stand between the parts, and numbers may be short. -/
namespace ClusterNet.Timestamp

structure Moment where
  year : Int
  month : Nat
  day : Nat
  hour : Nat
  minute : Nat
  second : Nat
  deriving DecidableEq, Repr

def isLeap (year : Int) : Bool := year % 4 = 0 && (year % 100 ≠ 0 || year % 400 = 0)

def daysIn (year : Int) (month : Nat) : Nat :=
  if month = 2 then if isLeap year then 29 else 28
  else if month ∈ [4, 6, 9, 11] then 30
  else 31

/-- A minute may have a leap second. -/
def Moment.isValid (m : Moment) : Bool :=
  -262143 ≤ m.year && m.year ≤ 262142 && 1 ≤ m.month && m.month ≤ 12
    && 1 ≤ m.day && m.day ≤ daysIn m.year m.month
    && m.hour ≤ 23 && m.minute ≤ 59 && m.second ≤ 60

def value (digits : List Char) : Nat :=
  digits.foldl (fun n d => 10 * n + (d.toNat - '0'.toNat)) 0

def number? (width : Nat) (cs : List Char) : Option (Nat × List Char) :=
  let digits := (cs.take width).takeWhile Char.isDigit
  if digits.isEmpty then none else some (value digits, cs.drop digits.length)

def part? (mark : Char) (cs : List Char) : Option (Nat × List Char) := do
  let (n, rest) ← number? 2 (Text.dropBlank cs)
  match Text.dropBlank rest with
  | c :: rest => if c = mark then return (n, rest) else none
  | [] => none

/-- A year with a sign may have any number of digits. -/
def year? (cs : List Char) : Option (Int × List Char) := do
  let (year, rest) ← match Text.dropBlank cs with
    | '-' :: digits => (number? digits.length digits).map fun (n, rest) => (-(n : Int), rest)
    | '+' :: digits => (number? digits.length digits).map fun (n, rest) => ((n : Int), rest)
    | digits => (number? 4 digits).map fun (n, rest) => ((n : Int), rest)
  match Text.dropBlank rest with
  | '-' :: rest => return (year, rest)
  | _ => none

def dropFraction : List Char → Option (List Char)
  | '.' :: c :: rest => if c.isDigit then some (rest.dropWhile Char.isDigit) else none
  | ['.'] => none
  | cs => some cs

def isHourMark (c : Char) : Bool := c = ':' || Text.isBlank c

/-- Behind an offset of less than a day: two digits of hours and two of minutes, or a name of the
    zero offset. -/
def dropOffset (cs : List Char) : Option (List Char) :=
  match cs with
  | [] => none
  | sign :: rest =>
    if (cs.take 3).map Char.toUpper = ['U', 'T', 'C'] then some (cs.drop 3)
    else if sign = 'z' ∨ sign = 'Z' then some rest
    else if sign ≠ '+' ∧ sign ≠ '-' ∧ sign.toNat ≠ 0x2212 then none
    else
      let hours := rest.take 2
      let behind := (rest.drop 2).dropWhile isHourMark
      let minutes := behind.take 2
      if hours.length = 2 ∧ hours.all Char.isDigit ∧ minutes.length = 2 ∧ minutes.all Char.isDigit
          ∧ value hours ≤ 23 ∧ value minutes ≤ 59 then some (behind.drop 2)
      else none

/-- The date and the time of day of a moment; the offset is only checked. -/
def read (s : String) : Option Moment := do
  let (year, rest) ← year? s.toList
  let (month, rest) ← part? '-' rest
  let (day, rest) ← number? 2 (Text.dropBlank rest)
  match rest with
  | c :: rest =>
    if c ≠ 't' ∧ c ≠ 'T' ∧ c ≠ ' ' then none
    else
      let (hour, rest) ← part? ':' rest
      let (minute, rest) ← part? ':' rest
      let (second, rest) ← number? 2 (Text.dropBlank rest)
      let rest ← dropOffset (Text.dropBlank (← dropFraction rest))
      let moment : Moment := ⟨year, month, day, hour, minute, second⟩
      if moment.isValid && (Text.dropBlank rest).isEmpty then return moment else none
  | [] => none

end ClusterNet.Timestamp
