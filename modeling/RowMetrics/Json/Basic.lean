import RowMetrics.Decimal.Notation

/-!
JSON documents and their compact text. A number keeps the decimal it stands for and whether it
is written as an integer; a non-integral number is written in `Decimal.Notation.json`. Strings
escape the quote, the backslash and the control characters below U+0020, using the short forms
`\n`, `\t`, `\r`, `\b`, `\f` where they exist and `\u00xx` in lower-case hex otherwise; every
other character is written as it is.
-/

namespace RowMetrics

/-- A JSON document. Object members keep the order in which they are given. -/
inductive Json where
  | null
  | bool (b : Bool)
  | number (value : Decimal) (integral : Bool)
  | string (s : String)
  | array (items : List Json)
  | object (members : List (String × Json))
  deriving Repr, Inhabited

namespace Json

def ofInt (n : Int) : Json := .number ⟨decide (n < 0), n.natAbs, 0⟩ true

def ofNat (n : Nat) : Json := .number ⟨false, n, 0⟩ true

/-- The lower-case hex digit of `n < 16`. -/
def hexDigit (n : Nat) : Char :=
  if n < 10 then Char.ofNat (n + '0'.toNat) else Char.ofNat (n - 10 + 'a'.toNat)

/-- The escaped form of one character inside a JSON string. -/
def escapeChar (c : Char) : List Char :=
  if c = '"' then ['\\', '"']
  else if c = '\\' then ['\\', '\\']
  else if c = '\n' then ['\\', 'n']
  else if c = '\t' then ['\\', 't']
  else if c = '\r' then ['\\', 'r']
  else if c = '\x08' then ['\\', 'b']
  else if c = '\x0c' then ['\\', 'f']
  else if c.toNat < 0x20 then
    ['\\', 'u', '0', '0', hexDigit (c.toNat / 16), hexDigit (c.toNat % 16)]
  else [c]

def quote (s : String) : String :=
  String.ofList ('"' :: (s.toList.flatMap escapeChar ++ ['"']))

/-- The text of a number: an integral one as its whole digits, any other in the JSON float
notation. -/
def writeNumber (d : Decimal) (integral : Bool) : String :=
  if integral then
    (if d.negative && d.significand != 0 then "-" else "") ++
      String.ofList (Decimal.digitsOf (d.significand * Nat.pow 10 d.exponent.toNat))
  else Decimal.Notation.json.write d

mutual

/-- The compact text of a document, with no blank between its tokens. -/
def write : Json → String
  | .null => "null"
  | .bool b => if b then "true" else "false"
  | .number d integral => writeNumber d integral
  | .string s => quote s
  | .array items => "[" ++ writeItems items ++ "]"
  | .object members => String.singleton '\x7b' ++ writeMembers members ++ String.singleton '\x7d'

def writeItems : List Json → String
  | [] => ""
  | [j] => write j
  | j :: rest => write j ++ "," ++ writeItems rest

def writeMembers : List (String × Json) → String
  | [] => ""
  | [(k, v)] => quote k ++ ":" ++ write v
  | (k, v) :: rest => quote k ++ ":" ++ write v ++ "," ++ writeMembers rest

end

/-- The member of an object under `key`, if the document is an object that has one; the first
such member when there are several. -/
def get? (j : Json) (key : String) : Option Json :=
  match j with
  | .object members => members.lookup key
  | _ => none

example : quote "a\"\x01" = "\"a\\\"\\u0001\"" := by decide
example : write (.array [.null, .bool true, ofInt (-3)]) = "[null,true,-3]" := by decide

end Json

end RowMetrics
