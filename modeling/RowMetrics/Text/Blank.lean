/-!
The characters with the Unicode property White_Space, and trimming them from both ends of a
text. The set is the property's whole table: the ASCII tab, line feed, vertical tab, form feed,
carriage return and space, next line, no-break space, ogham space mark, the spaces from en quad
to hair space, the line and paragraph separators, narrow no-break space, medium mathematical
space and ideographic space.
-/

namespace RowMetrics

namespace Text

/-- Whether `c` has the Unicode property White_Space. -/
def isBlank (c : Char) : Bool :=
  let n := c.toNat
  (0x09 ≤ n && n ≤ 0x0D) || n == 0x20 || n == 0x85 || n == 0xA0 || n == 0x1680 ||
  (0x2000 ≤ n && n ≤ 0x200A) || n == 0x2028 || n == 0x2029 || n == 0x202F || n == 0x205F ||
  n == 0x3000

/-- `cs` without the blanks at either end. -/
def trimBlanks (cs : List Char) : List Char :=
  ((cs.dropWhile isBlank).reverse.dropWhile isBlank).reverse

example : trimBlanks "　 SELECT\x0b".toList = "SELECT".toList := by decide

end Text

end RowMetrics
