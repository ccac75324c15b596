/-!
Upper case by the Unicode full case mapping, as far as a comparison with an upper-case ASCII
word can see it. Such a comparison only meets characters whose upper case begins with an ASCII
letter: the ASCII letters themselves, dotless `ı` and long `ſ`, which become `I` and `S`, and
the characters that expand to several, such as `ß` to `SS` or the ligature `ﬁ` to `FI`. Those
get their full expansion here; every other character is kept as it is, and since its real upper
case begins with no ASCII letter, no ASCII word can tell the difference.
-/

namespace RowMetrics

namespace Text

/-- The upper case of `c`, exact for every character whose upper case begins with an ASCII
letter. -/
def upperChar (c : Char) : List Char :=
  let n := c.toNat
  if 0x61 ≤ n ∧ n ≤ 0x7A then [Char.ofNat (n - 32)]
  else if n = 0xDF then ['S', 'S']
  else if n = 0x131 then ['I']
  else if n = 0x17F then ['S']
  else if n = 0x1F0 then ['J', '\u030C']
  else if n = 0x1E96 then ['H', '\u0331']
  else if n = 0x1E97 then ['T', '\u0308']
  else if n = 0x1E98 then ['W', '\u030A']
  else if n = 0x1E99 then ['Y', '\u030A']
  else if n = 0x1E9A then ['A', '\u02BE']
  else if n = 0xFB00 then ['F', 'F']
  else if n = 0xFB01 then ['F', 'I']
  else if n = 0xFB02 then ['F', 'L']
  else if n = 0xFB03 then ['F', 'F', 'I']
  else if n = 0xFB04 then ['F', 'F', 'L']
  else if n = 0xFB05 then ['S', 'T']
  else if n = 0xFB06 then ['S', 'T']
  else [c]

/-- The upper case of a text, character by character. -/
def upper (cs : List Char) : List Char := cs.flatMap upperChar

example : upper "ſhow ß".toList = "SHOW SS".toList := by decide

end Text

end RowMetrics
