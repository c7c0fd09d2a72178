/-!
# Text — Blank

The characters with the Unicode property White_Space, and trimming by them.
-/

namespace Courier.Text

/-- The 25 characters of the Unicode property White_Space. -/
def isBlank (c : Char) : Bool :=
  let n := c.toNat
  (9 ≤ n && n ≤ 13) || n == 0x20 || n == 0x85 || n == 0xA0 || n == 0x1680 ||
    (0x2000 ≤ n && n ≤ 0x200A) || n == 0x2028 || n == 0x2029 || n == 0x202F ||
    n == 0x205F || n == 0x3000

/-- What is left of `s` without its leading blanks. -/
def dropBlanks (s : List Char) : List Char :=
  s.dropWhile isBlank

/-- What is left of `s` without its leading and trailing blanks. -/
def trimmed (s : List Char) : List Char :=
  (dropBlanks (dropBlanks s).reverse).reverse

/-- `s` without its leading and trailing blanks. -/
def trim (s : String) : String :=
  String.ofList (trimmed s.toList)

/-- Whether nothing but blanks stands in `s`. -/
def blank (s : String) : Bool :=
  (trimmed s.toList).isEmpty

/-- `s` without the copies of `c` at its end. -/
def dropTrailing (c : Char) (s : List Char) : List Char :=
  (s.reverse.dropWhile (· == c)).reverse

/-- `base` without the slashes at its end. -/
def trimSlashes (base : String) : String :=
  String.ofList (dropTrailing '/' base.toList)

end Courier.Text
