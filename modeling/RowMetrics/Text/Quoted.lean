import RowMetrics.Text.Printable

/-!
Texts in double quotes for messages: the quote and the backslash are escaped, tab, carriage
return, line feed and NUL take their short escapes, and a character that extends a grapheme or
is not printable is written as `\u` with its hex code point in braces. Every other character
stands as it is.
-/

namespace RowMetrics

namespace Text

/-- The hex digits of `n`, lower case, without leading zeros. -/
def hexDigits (n : Nat) : List Char := Nat.toDigits 16 n

/-- The quoted form of one character. -/
def quoteChar (c : Char) : List Char :=
  if c = '"' then ['\\', '"']
  else if c = '\\' then ['\\', '\\']
  else if c = '\t' then ['\\', 't']
  else if c = '\r' then ['\\', 'r']
  else if c = '\n' then ['\\', 'n']
  else if c = '\x00' then ['\\', '0']
  else if isGraphemeExtend c || !isPrintable c then
    ['\\', 'u', '\x7b'] ++ hexDigits c.toNat ++ ['\x7d']
  else [c]

/-- A text in double quotes, escaped for a message. -/
def quoted (s : String) : String := String.ofList ('"' :: s.toList.flatMap quoteChar ++ ['"'])

example : quoted "_key" = "\"_key\"" := by decide +kernel
example : quoted "a\u0301\u00A0" = "\"a\\u\x7b301\x7d\\u\x7ba0\x7d\"" := by decide +kernel

end Text

end RowMetrics
