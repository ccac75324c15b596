import RowMetrics.Text.Utf8

/-!
Integer literals of a cell. A literal is an optional sign, then a base prefix (`0x`, `0b`,
`0o` in either case, or a bare leading `0` for octal) and digits of that base, read as an
unsigned 64-bit word and then given its sign within the signed 64-bit range.

The prefix is compared on the first two bytes after the sign. When that cut falls inside a
multi-byte character the reading does not decide at all: it ends with `Fault.splitCharacter`,
a defect that stops the whole program rather than an answer "no integer".
-/

namespace RowMetrics

/-- A defect that ends the program at once, with no answer for the step that met it. -/
inductive Fault where
  /-- The base prefix of an integer literal was cut inside a multi-byte character. -/
  | splitCharacter
  /-- A row was read at cell `index`, past its `len` cells. -/
  | indexOutOfBounds (index len : Nat)
  deriving DecidableEq, Repr

/-- The text with which a fault ends the program. -/
def Fault.message : Fault → String
  | .splitCharacter => "byte index 2 is not a char boundary"
  | .indexOutOfBounds index len =>
    s!"index out of bounds: the len is {len} but the index is {index}"

namespace Value

/-- The value of `c` as a digit of base `radix`: `0`–`9`, then letters of either case from
ten on; none when it is no digit of that base. -/
def digitValue (radix : Nat) (c : Char) : Option Nat :=
  let v :=
    if '0' ≤ c ∧ c ≤ '9' then some (c.toNat - '0'.toNat)
    else if 'a' ≤ c ∧ c ≤ 'z' then some (c.toNat - 'a'.toNat + 10)
    else if 'A' ≤ c ∧ c ≤ 'Z' then some (c.toNat - 'A'.toNat + 10)
    else none
  v.filter (· < radix)

/-- Reads digits of base `radix` after the value `acc` as an unsigned 64-bit word: none for a
character that is no digit, or as soon as the value reaches `2 ^ 64`. -/
def readWord (radix : Nat) (acc : Nat) : List Char → Option Nat
  | [] => some acc
  | c :: rest => do
    let d ← digitValue radix c
    let next := acc * radix + d
    if next < Nat.pow 2 64 then readWord radix next rest else none

/-- The base that an unsigned literal names by its prefix, and the digits after the prefix. -/
def splitBase : List Char → Nat × List Char
  | '0' :: c :: rest =>
    if c = 'x' ∨ c = 'X' then (16, rest)
    else if c = 'b' ∨ c = 'B' then (2, rest)
    else if c = 'o' ∨ c = 'O' then (8, rest)
    else (8, c :: rest)
  | cs => (10, cs)

def opensDigits (c : Char) : Bool := c.isAlphanum

/-- Gives a magnitude its sign within the signed 64-bit range: down to `-2 ^ 63` for a negative
literal, up to `2 ^ 63 - 1` for the others. -/
def signedWord (negative : Bool) (magnitude : Nat) : Option Int64 :=
  if negative then
    if magnitude ≤ Nat.pow 2 63 then some (Int64.ofInt (-(magnitude : Int))) else none
  else if magnitude < Nat.pow 2 63 then some (Int64.ofNat magnitude) else none

def readUnsignedInteger (negative : Bool) (cs : List Char) : Except Fault (Option Int64) :=
  if 2 ≤ Text.byteLength cs ∧ !Text.isCharBoundary cs 2 then .error .splitCharacter
  else
    let (radix, digits) := splitBase cs
    match digits with
    | [] => .ok none
    | d :: _ =>
      if !opensDigits d then .ok none
      else .ok ((readWord radix 0 digits).bind (signedWord negative))

/-- Reads an integer literal: `none` when the text is not one or leaves the signed 64-bit range,
and a fault when the base prefix would cut a character. -/
def readInteger (s : String) : Except Fault (Option Int64) :=
  match s.toList with
  | '-' :: rest => readUnsignedInteger true rest
  | '+' :: rest => readUnsignedInteger false rest
  | cs => readUnsignedInteger false cs

example : readInteger "0x1F" = .ok (some 31) := rfl
example : readInteger "-0b101" = .ok (some (-5)) := rfl
example : readInteger "017" = .ok (some 15) := rfl
example : readInteger "08" = .ok none := rfl
example : readInteger "-9223372036854775808" = .ok (some (-9223372036854775808)) := rfl
example : readInteger "9223372036854775808" = .ok none := rfl
example : readInteger "0é" = .error .splitCharacter := rfl
example : readInteger "é5" = .ok none := rfl

end Value

end RowMetrics
