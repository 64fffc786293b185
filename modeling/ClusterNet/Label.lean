/- DNS labels, the names of networks and namespaces. -/
namespace ClusterNet.Label

inductive Fault where
  | empty
  | tooLong
  | badStart
  | badEnd
  | badCharacter
  deriving DecidableEq, Repr

def isAlphanumeric (c : Char) : Bool := c.isLower || c.isDigit

def longest : Nat := 63

/-- The length is counted in bytes. -/
def fault? (label : String) : Option Fault :=
  match label.toList with
  | [] => some .empty
  | c :: cs =>
    if longest < label.utf8ByteSize then some .tooLong
    else if !isAlphanumeric c then some .badStart
    else if (c :: cs).getLast? = some '-' then some .badEnd
    else if !(c :: cs).all fun c => isAlphanumeric c || c = '-' then some .badCharacter
    else none

def Fault.message (what label : String) : Fault → String
  | .empty => s!"{what} cannot be empty"
  | .tooLong => s!"{what} must be at most 63 characters: {label}"
  | .badStart => s!"{what} must start with a lowercase letter or digit: {label}"
  | .badEnd => s!"{what} cannot end with hyphen: {label}"
  | .badCharacter => s!"{what} must be lowercase alphanumeric with hyphens: {label}"

def complaint? (label what : String) : Option String :=
  (fault? label).map (Fault.message what label)

end ClusterNet.Label
