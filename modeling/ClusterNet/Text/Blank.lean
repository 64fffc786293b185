/- White space of Unicode, and the removal of it at the ends of a text. -/
namespace ClusterNet.Text

/-- The characters of the Unicode property White_Space. -/
def isBlank (c : Char) : Bool :=
  let n := c.toNat
  (9 ≤ n && n ≤ 13) || n == 0x20 || n == 0x85 || n == 0xA0 || n == 0x1680
    || (0x2000 ≤ n && n ≤ 0x200A) || n == 0x2028 || n == 0x2029 || n == 0x202F || n == 0x205F
    || n == 0x3000

def dropBlank (cs : List Char) : List Char := cs.dropWhile isBlank

def dropFinalBlank (cs : List Char) : List Char := (cs.reverse.dropWhile isBlank).reverse

def trim (s : String) : String := String.ofList (dropFinalBlank (dropBlank s.toList))

theorem dropBlank_of_not_isBlank {c : Char} (cs : List Char) (h : isBlank c = false) :
    dropBlank (c :: cs) = c :: cs := by
  simp [dropBlank, h]

end ClusterNet.Text
