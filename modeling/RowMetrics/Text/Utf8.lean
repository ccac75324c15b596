/-!
Byte positions in UTF-8 text, and decoding bytes that may not be UTF-8. A text is read as its
list of characters, each taking one to four bytes; a byte offset is a boundary when it falls
between two characters or at an end.

Decoding replaces each maximal ill-formed part of the bytes by U+FFFD: a byte that cannot start
a character is replaced alone, and a sequence that breaks off is replaced as far as it was
valid, the breaking byte being read again as the start of what follows.
-/

namespace RowMetrics

namespace Text

/-- The number of bytes of the UTF-8 encoding of `cs`. -/
def byteLength : List Char → Nat
  | [] => 0
  | c :: r => c.utf8Size + byteLength r

/-- Whether byte offset `i` of the encoding of `cs` falls between two characters or at the end.
An offset inside a character, or past the end, is no boundary. -/
def isCharBoundary : List Char → Nat → Bool
  | _, 0 => true
  | [], _ + 1 => false
  | c :: rest, i + 1 =>
    if i + 1 < c.utf8Size then false else isCharBoundary rest (i + 1 - c.utf8Size)

/-- The range of the second byte of a sequence led by `lead`, and the number of bytes after
the lead; none when `lead` starts no sequence. -/
def continuationOf (lead : Nat) : Option (Nat × Nat × Nat) :=
  if 0xC2 ≤ lead ∧ lead ≤ 0xDF then some (0x80, 0xBF, 1)
  else if lead = 0xE0 then some (0xA0, 0xBF, 2)
  else if 0xE1 ≤ lead ∧ lead ≤ 0xEC then some (0x80, 0xBF, 2)
  else if lead = 0xED then some (0x80, 0x9F, 2)
  else if 0xEE ≤ lead ∧ lead ≤ 0xEF then some (0x80, 0xBF, 2)
  else if lead = 0xF0 then some (0x90, 0xBF, 3)
  else if 0xF1 ≤ lead ∧ lead ≤ 0xF3 then some (0x80, 0xBF, 3)
  else if lead = 0xF4 then some (0x80, 0x8F, 3)
  else none

def replacement : Char := '\uFFFD'

/-- Reads the `more` continuation bytes of a sequence whose value so far is `acc`, the first
of them in `[lo, hi]` and the others in `[0x80, 0xBF]`: the value and the rest, or the rest at
the first byte that breaks the sequence. -/
def readContinuation (acc : Nat) (lo hi : Nat) :
    Nat → List UInt8 → Except (List UInt8) (Nat × List UInt8)
  | 0, bs => .ok (acc, bs)
  | _ + 1, [] => .error []
  | more + 1, b :: bs =>
    if lo ≤ b.toNat ∧ b.toNat ≤ hi then
      readContinuation (acc * 64 + (b.toNat - 0x80)) 0x80 0xBF more bs
    else .error (b :: bs)

/-- Decodes bytes as UTF-8, replacing ill-formed parts; `fuel` bounds the characters read. -/
def decodeLossyUpTo : Nat → List UInt8 → List Char
  | 0, _ => []
  | _ + 1, [] => []
  | fuel + 1, b :: bs =>
    if b.toNat < 0x80 then Char.ofNat b.toNat :: decodeLossyUpTo fuel bs
    else
      match continuationOf b.toNat with
      | none => replacement :: decodeLossyUpTo fuel bs
      | some (lo, hi, more) =>
        let leadBits := b.toNat % (if more = 1 then 0x20 else if more = 2 then 0x10 else 0x08)
        match readContinuation leadBits lo hi more bs with
        | .ok (v, rest) => Char.ofNat v :: decodeLossyUpTo fuel rest
        | .error rest => replacement :: decodeLossyUpTo fuel rest

/-- Decodes bytes as UTF-8, replacing each maximal ill-formed part by U+FFFD. Every step reads
at least one byte, so as many steps as bytes suffice. -/
def decodeLossy (bs : List UInt8) : String := String.ofList (decodeLossyUpTo bs.length bs)

example : decodeLossy [0xFF, 0x61] = "\uFFFDa" := by decide
example : decodeLossy [0xE6, 0x97, 0xA5] = "日" := by decide
example : decodeLossy [0xE6, 0x97, 0x61] = "\uFFFDa" := by decide

example : isCharBoundary "aé".toList 2 = false ∧ isCharBoundary "ab東".toList 2 = true := by
  decide
example : isCharBoundary "é5".toList 2 = true ∧ byteLength "日本".toList = 6 := by decide

end Text

end RowMetrics
