import RowMetrics.Toml.Value
import RowMetrics.Decimal.Basic

/-!
The scalar parts of TOML text: keys, the four kinds of string, integers, floats, booleans and
date-times. Each reader takes the text as a list of characters and returns what it read with the
rest, or `none` when the text breaks the grammar of TOML 1.0.

Integers and floats are read from one token, the longest run of characters that may make up a
number or a date; the token must then be one of them as a whole. Underscores may stand only
between two digits. A decimal integer has no leading zero and must fit in 64 signed bits; the
hex, octal and binary forms carry no sign. A float literal whose value is too large for 64
bits is refused, unless it is negative.

A dotted key has fewer than `nestingLimit` keys; the same bound holds for arrays and inline
tables nested in one another.
-/

namespace RowMetrics

namespace Toml

/-- The bound on nesting: a dotted key has fewer keys than this, and arrays and inline tables
nest fewer levels deep. -/
def nestingLimit : Nat := 80

/-- Whether a value inside `depth` arrays and inline tables may open one more. -/
def canNest (depth : Nat) : Bool := depth + 1 < nestingLimit

def isBlank (c : Char) : Bool := c = ' ' || c = '\t'

def skipBlanks (cs : List Char) : List Char := cs.dropWhile isBlank

/-- A control character that may not stand raw in a string or a comment: all but the tab. -/
def isForbiddenControl (c : Char) : Bool := (c.toNat < 0x20 && c != '\t') || c.toNat == 0x7F

def isBareKeyChar (c : Char) : Bool := c.isAlphanum || c = '_' || c = '-'

def hexValue (c : Char) : Option Nat :=
  if '0' ≤ c ∧ c ≤ '9' then some (c.toNat - '0'.toNat)
  else if 'a' ≤ c ∧ c ≤ 'f' then some (c.toNat - 'a'.toNat + 10)
  else if 'A' ≤ c ∧ c ≤ 'F' then some (c.toNat - 'A'.toNat + 10)
  else none

def readScalarHex (n : Nat) (cs : List Char) : Option (Char × List Char) := do
  let ds := cs.take n
  if ds.length ≠ n then none
  let v ← ds.foldlM (fun acc c => (hexValue c).map (acc * 16 + ·)) 0
  if v > 0x10FFFF ∨ (0xD800 ≤ v ∧ v < 0xE000) then none
  pure (Char.ofNat v, cs.drop n)

def readEscape : List Char → Option (Char × List Char)
  | 'b' :: r => some ('\x08', r)
  | 't' :: r => some ('\t', r)
  | 'n' :: r => some ('\n', r)
  | 'f' :: r => some ('\x0c', r)
  | 'r' :: r => some ('\r', r)
  | '"' :: r => some ('"', r)
  | '\\' :: r => some ('\\', r)
  | 'u' :: r => readScalarHex 4 r
  | 'U' :: r => readScalarHex 8 r
  | _ => none

/-- Reads a basic string after its opening quote, up to and including the closing quote. -/
def readBasic (acc : List Char) : List Char → Option (String × List Char)
  | [] => none
  | '"' :: r => some (String.ofList acc.reverse, r)
  | '\\' :: r =>
    match readEscape r with
    | some (c, more) => if more.length < r.length then readBasic (c :: acc) more else none
    | none => none
  | c :: r => if c = '\n' || isForbiddenControl c then none else readBasic (c :: acc) r
termination_by cs => cs.length

/-- Reads a literal string after its opening apostrophe, up to and including the closing one. -/
def readLiteral (acc : List Char) : List Char → Option (String × List Char)
  | [] => none
  | '\'' :: r => some (String.ofList acc.reverse, r)
  | c :: r => if c = '\n' || isForbiddenControl c then none else readLiteral (c :: acc) r

/-- Drops one line end at the front, as multi-line strings do right after their opening. -/
def dropLeadingNewline : List Char → List Char
  | '\n' :: r => r
  | '\r' :: '\n' :: r => r
  | cs => cs

/-- Whether the text starts with blanks and then a line end. -/
def startsWithLineEnd (cs : List Char) : Bool :=
  match skipBlanks cs with
  | '\n' :: _ => true
  | '\r' :: '\n' :: _ => true
  | _ => false

/-- Drops blanks and line ends at the front; a carriage return goes only with the line feed
after it. -/
def skipBlanksAndNewlines : List Char → List Char
  | ' ' :: r => skipBlanksAndNewlines r
  | '\t' :: r => skipBlanksAndNewlines r
  | '\n' :: r => skipBlanksAndNewlines r
  | '\r' :: '\n' :: r => skipBlanksAndNewlines r
  | cs => cs

theorem length_skipBlanksAndNewlines_le (cs : List Char) :
    (skipBlanksAndNewlines cs).length ≤ cs.length := by
  fun_induction skipBlanksAndNewlines cs <;> simp_all <;> omega

/-- Reads the body of a multi-line string after its opening delimiter `q q q`, up to and
including the closing one; up to two further `q` before the close belong to the string. When
`escapes`, backslash escapes count and a backslash at the end of a line removes the line end
and the blanks after it. A carriage return stands only before a line feed, and both become one
line feed. -/
def readMultiline (q : Char) (escapes : Bool) (acc : List Char) :
    List Char → Option (String × List Char)
  | [] => none
  | c :: r =>
    if c = q then
      let run := (c :: r).takeWhile (· = q) |>.length
      if run ≥ 3 then
        let extra := min (run - 3) 2
        some (String.ofList (acc.reverse ++ List.replicate extra q), (c :: r).drop (3 + extra))
      else readMultiline q escapes (c :: acc) r
    else if c = '\\' && escapes then
      if startsWithLineEnd r then
        have := length_skipBlanksAndNewlines_le r
        readMultiline q escapes acc (skipBlanksAndNewlines r)
      else
        match readEscape r with
        | some (e, more) =>
          if more.length < r.length then readMultiline q escapes (e :: acc) more else none
        | none => none
    else if c = '\r' then
      match r with
      | '\n' :: more => readMultiline q escapes ('\n' :: acc) more
      | _ => none
    else if c = '\n' then readMultiline q escapes ('\n' :: acc) r
    else if isForbiddenControl c then none
    else readMultiline q escapes (c :: acc) r
termination_by cs => cs.length
decreasing_by all_goals simp_all <;> omega

def readString : List Char → Option (String × List Char)
  | '"' :: '"' :: '"' :: r => readMultiline '"' true [] (dropLeadingNewline r)
  | '"' :: r => readBasic [] r
  | '\'' :: '\'' :: '\'' :: r => readMultiline '\'' false [] (dropLeadingNewline r)
  | '\'' :: r => readLiteral [] r
  | _ => none

/-- Reads one key: bare, or a basic or literal string on one line. -/
def readSimpleKey : List Char → Option (String × List Char)
  | '"' :: r => readBasic [] r
  | '\'' :: r => readLiteral [] r
  | cs =>
    let k := cs.takeWhile isBareKeyChar
    if k.isEmpty then none else some (String.ofList k, cs.drop k.length)

/-- Reads a dotted key: simple keys joined by dots, with blanks allowed around the dots, fewer
than `nestingLimit` of them. -/
def readKey (cs : List Char) : Option (List String × List Char) := do
  let (ks, rest) ← go cs.length cs
  if ks.length < nestingLimit then some (ks, rest) else none
where
  go : Nat → List Char → Option (List String × List Char)
    | 0, _ => none
    | fuel + 1, cs => do
      let (k, rest) ← readSimpleKey (skipBlanks cs)
      match skipBlanks rest with
      | '.' :: more =>
        let (ks, rest) ← go fuel more
        pure (k :: ks, rest)
      | _ => pure ([k], rest)

/-- Reads digits of a class with single underscores between them, returning the digits alone;
none for no digit or a misplaced underscore. -/
def digitsUnderscored (isDigit : Char → Bool) : List Char → Option (List Char)
  | [] => none
  | c :: rest => if isDigit c then go [c] rest else none
where
  go (acc : List Char) : List Char → Option (List Char)
    | [] => some acc.reverse
    | '_' :: d :: rest => if isDigit d then go (d :: acc) rest else none
    | d :: rest => if isDigit d then go (d :: acc) rest else none

def isDecimalDigit (c : Char) : Bool := '0' ≤ c && c ≤ '9'

def valueIn (radix : Nat) (ds : List Char) : Nat :=
  ds.foldl (fun acc c => acc * radix + ((hexValue c).getD 0)) 0

/-- The sign of a number token and the rest of it. -/
def splitSign : List Char → Bool × Bool × List Char
  | '+' :: r => (false, true, r)
  | '-' :: r => (true, true, r)
  | cs => (false, false, cs)

def integerOf (token : List Char) : Option Int :=
  let inRange (n : Int) : Option Int :=
    if -Int.pow 2 63 ≤ n ∧ n < Int.pow 2 63 then some n else none
  match token with
  | '0' :: 'x' :: r =>
    (digitsUnderscored (fun c => (hexValue c).isSome) r).bind fun ds => inRange (valueIn 16 ds)
  | '0' :: 'o' :: r =>
    (digitsUnderscored (fun c => '0' ≤ c && c ≤ '7') r).bind fun ds => inRange (valueIn 8 ds)
  | '0' :: 'b' :: r =>
    (digitsUnderscored (fun c => c = '0' || c = '1') r).bind fun ds => inRange (valueIn 2 ds)
  | _ =>
    let (negative, _, body) := splitSign token
    (digitsUnderscored isDecimalDigit body).bind fun ds =>
      if ds.length > 1 && ds.head? == some '0' then none
      else
        let v : Int := valueIn 10 ds
        inRange (if negative then -v else v)

/-- Reads a whole token as a float: a decimal integer part, then a fraction, an exponent or
both; or `inf` or `nan` with an optional sign. A decimal that rounds to positive infinity is
refused; one that rounds to negative infinity is kept. -/
def floatOf (token : List Char) : Option Binary64 :=
  let (negative, _, body) := splitSign token
  if body = "inf".toList then some (Binary64.infinity negative)
  else if body = "nan".toList then some Binary64.nan
  else
    let isPart (c : Char) : Bool := isDecimalDigit c || c = '_'
    let whole := body.takeWhile isPart
    let rest := body.drop whole.length
    let (fraction, rest) := match rest with
      | '.' :: r => (some (r.takeWhile isPart), r.dropWhile isPart)
      | r => (none, r)
    let (exponent, rest) := match rest with
      | c :: r => if c = 'e' || c = 'E' then
          let (eNeg, _, r) := splitSign r
          (some (eNeg, r.takeWhile isPart), r.dropWhile isPart)
        else (none, c :: r)
      | [] => (none, [])
    if !rest.isEmpty || (fraction.isNone && exponent.isNone) then none
    else do
      let ws ← digitsUnderscored isDecimalDigit whole
      if ws.length > 1 && ws.head? == some '0' then none
      let fs ← match fraction with
        | some f => digitsUnderscored isDecimalDigit f
        | none => some []
      let x ← match exponent with
        | some (eNeg, e) => (digitsUnderscored isDecimalDigit e).map fun ds =>
            let v : Int := valueIn 10 ds
            if eNeg then -v else v
        | none => some 0
      let v := Decimal.toBinary64 ⟨negative, valueIn 10 (ws ++ fs), x - fs.length⟩
      if v = Binary64.infinity false then none else pure v

def fixedDigits (n : Nat) (cs : List Char) : Option (Nat × List Char) :=
  let ds := cs.take n
  if ds.length = n && ds.all isDecimalDigit then some (valueIn 10 ds, cs.drop n) else none

def isLeapYear (y : Nat) : Bool := y % 4 == 0 && (y % 100 != 0 || y % 400 == 0)

def daysIn (y m : Nat) : Nat :=
  if m = 2 then (if isLeapYear y then 29 else 28)
  else if m = 4 ∨ m = 6 ∨ m = 9 ∨ m = 11 then 30 else 31

/-- Reads a full date `YYYY-MM-DD` with a month and day that exist. -/
def readDate (cs : List Char) : Option (List Char) := do
  let (y, r) ← fixedDigits 4 cs
  let r ← match r with | '-' :: r => some r | _ => none
  let (m, r) ← fixedDigits 2 r
  let r ← match r with | '-' :: r => some r | _ => none
  let (d, r) ← fixedDigits 2 r
  if 1 ≤ m ∧ m ≤ 12 ∧ 1 ≤ d ∧ d ≤ daysIn y m then some r else none

/-- Reads a time `HH:MM:SS` with an optional fraction of a second. -/
def readTime (cs : List Char) : Option (List Char) := do
  let (h, r) ← fixedDigits 2 cs
  let r ← match r with | ':' :: r => some r | _ => none
  let (m, r) ← fixedDigits 2 r
  let r ← match r with | ':' :: r => some r | _ => none
  let (s, r) ← fixedDigits 2 r
  if h > 23 ∨ m > 59 ∨ s > 60 then none
  match r with
  | '.' :: more =>
    let ds := more.takeWhile isDecimalDigit
    if ds.isEmpty then none else some (more.drop ds.length)
  | r => some r

/-- Reads a time offset: `Z` in either case, or a signed `HH:MM`. -/
def readOffset : List Char → Option (List Char)
  | 'Z' :: r => some r
  | 'z' :: r => some r
  | c :: r =>
    if c = '+' ∨ c = '-' then do
      let (h, r) ← fixedDigits 2 r
      let r ← match r with | ':' :: r => some r | _ => none
      let (m, r) ← fixedDigits 2 r
      if h > 23 ∨ m > 59 then none else some r
    else none
  | [] => none

/-- Whether a whole text is a date-time, a date or a time of TOML. -/
def isDateTime (text : List Char) : Bool :=
  match readDate text with
  | some [] => true
  | some (sep :: r) =>
    (sep = 'T' || sep = 't' || sep = ' ') &&
      match readTime r with
      | some [] => true
      | some more => readOffset more == some []
      | none => false
  | none => readTime text == some []

def isTokenChar (c : Char) : Bool :=
  c.isAlphanum || c = '_' || c = '+' || c = '-' || c = '.' || c = ':'

/-- Reads a number, boolean or date-time. A date followed by a blank and a time is one token. -/
def readAtom (cs : List Char) : Option (Value × List Char) :=
  let token := cs.takeWhile isTokenChar
  let rest := cs.drop token.length
  let (token, rest) := match rest with
    | ' ' :: d :: more =>
      if (readDate token == some []) && isDecimalDigit d then
        let time := (d :: more).takeWhile isTokenChar
        (token ++ ' ' :: time, (d :: more).drop time.length)
      else (token, rest)
    | _ => (token, rest)
  if token.isEmpty then none
  else if token = "true".toList then some (.boolean true, rest)
  else if token = "false".toList then some (.boolean false, rest)
  else if isDateTime token then some (.datetime (String.ofList token), rest)
  else match integerOf token with
    | some n => some (.integer n, rest)
    | none => (floatOf token).map fun x => (.float x, rest)

example : (readAtom "1_000 ".toList).map (·.1 matches .integer 1000) = some true := by decide
example : (readAtom "1979-05-27 07:32:00Z".toList).isSome = true := by decide
example : (readAtom "007".toList).isSome = false := by decide

end Toml

end RowMetrics
