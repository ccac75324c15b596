import RowMetrics.Json.Basic

/-!
Reading JSON text, strictly: blanks are space, tab, line feed and carriage return; numbers have
no leading zeros, no lone point and no plus sign; strings hold no raw control character and
their `\u` escapes pair surrogates; and nothing but blanks may follow the document. Each reader
takes the text as a list of characters and returns what it read with the rest.

Arrays and objects nest, so the readers carry a fuel that each call spends one of. Every call
also consumes at least one character, so the length of the text plus one is always enough.
-/

namespace RowMetrics

namespace Json

def isBlank (c : Char) : Bool := c = ' ' || c = '\t' || c = '\n' || c = '\r'

def skipBlanks (cs : List Char) : List Char := cs.dropWhile isBlank

def readHex4 : List Char → Option (Nat × List Char)
  | a :: b :: c :: d :: rest => do
    let digit (x : Char) : Option Nat :=
      if '0' ≤ x ∧ x ≤ '9' then some (x.toNat - '0'.toNat)
      else if 'a' ≤ x ∧ x ≤ 'f' then some (x.toNat - 'a'.toNat + 10)
      else if 'A' ≤ x ∧ x ≤ 'F' then some (x.toNat - 'A'.toNat + 10)
      else none
    let v ← [a, b, c, d].foldlM (fun acc x => (digit x).map (acc * 16 + ·)) 0
    pure (v, rest)
  | _ => none

/-- Reads the code point of a `\u` escape whose four digits begin `cs`; a high surrogate must be
followed by a `\u` escape of a low one, and the two make one character. -/
def readUnicodeEscape (cs : List Char) : Option (Char × List Char) := do
  let (v, rest) ← readHex4 cs
  if 0xD800 ≤ v ∧ v < 0xDC00 then
    match rest with
    | '\\' :: 'u' :: more =>
      let (w, rest) ← readHex4 more
      if 0xDC00 ≤ w ∧ w < 0xE000 then
        pure (Char.ofNat (0x10000 + (v - 0xD800) * 0x400 + (w - 0xDC00)), rest)
      else none
    | _ => none
  else if 0xDC00 ≤ v ∧ v < 0xE000 then none
  else pure (Char.ofNat v, rest)

/-- Reads the body of a string after its opening quote, up to and including the closing one;
`acc` holds the characters read so far, last first. -/
def readStringBody (acc : List Char) : List Char → Option (String × List Char)
  | [] => none
  | '"' :: rest => some (String.ofList acc.reverse, rest)
  | '\\' :: c :: rest =>
    let simple : Option Char :=
      if c = '"' then some '"' else if c = '\\' then some '\\' else if c = '/' then some '/'
      else if c = 'b' then some '\x08' else if c = 'f' then some '\x0c'
      else if c = 'n' then some '\n' else if c = 'r' then some '\r'
      else if c = 't' then some '\t' else none
    match simple with
    | some e => readStringBody (e :: acc) rest
    | none =>
      if c = 'u' then
        match readUnicodeEscape rest with
        | some (e, more) =>
          if more.length < rest.length then readStringBody (e :: acc) more else none
        | none => none
      else none
  | c :: rest => if c.toNat < 0x20 then none else readStringBody (c :: acc) rest
termination_by cs => cs.length

def spanDigits (cs : List Char) : List Char × List Char :=
  (cs.takeWhile Char.isDigit, cs.dropWhile Char.isDigit)

/-- Reads a number: `-`, then `0` or digits without a leading zero, then an optional fraction
and exponent, each with at least one digit. It is integral when it has neither. -/
def readNumber (cs : List Char) : Option (Json × List Char) := do
  let (negative, cs) := match cs with
    | '-' :: r => (true, r)
    | r => (false, r)
  let (whole, rest) := spanDigits cs
  if whole.isEmpty then none
  if whole.length > 1 && whole.head? == some '0' then none
  let (fraction, rest) ← match rest with
    | '.' :: r =>
      let (f, r) := spanDigits r
      if f.isEmpty then none else some (f, r)
    | r => some ([], r)
  let (exponent, hasExponent, rest) ← match rest with
    | c :: r =>
      if c = 'e' ∨ c = 'E' then
        let (negExp, r) := match r with
          | '+' :: r => (false, r)
          | '-' :: r => (true, r)
          | r => (false, r)
        let (ds, r) := spanDigits r
        if ds.isEmpty then none
        else
          let v : Int := Decimal.valueOfDigits ds
          some (if negExp then -v else v, true, r)
      else some (0, false, c :: r)
    | [] => some (0, false, [])
  let integral := fraction.isEmpty && !hasExponent
  let value : Decimal :=
    ⟨negative, Decimal.valueOfDigits (whole ++ fraction), exponent - fraction.length⟩
  pure (.number value integral, rest)

mutual

/-- Reads one document after optional blanks. -/
def readValue : Nat → List Char → Option (Json × List Char)
  | 0, _ => none
  | fuel + 1, cs =>
    match skipBlanks cs with
    | 'n' :: 'u' :: 'l' :: 'l' :: rest => some (.null, rest)
    | 't' :: 'r' :: 'u' :: 'e' :: rest => some (.bool true, rest)
    | 'f' :: 'a' :: 'l' :: 's' :: 'e' :: rest => some (.bool false, rest)
    | '"' :: rest => (readStringBody [] rest).map fun (s, r) => (.string s, r)
    | '[' :: rest =>
      match skipBlanks rest with
      | ']' :: r => some (.array [], r)
      | r => readItems fuel [] r
    | c :: rest =>
      if c = '\x7b' then
        match skipBlanks rest with
        | c' :: r => if c' = '\x7d' then some (.object [], r) else readMembers fuel [] (c' :: r)
        | [] => none
      else readNumber (c :: rest)
    | [] => none

/-- Reads the items of an array after its opening bracket, up to the closing one; `acc` holds
the items read so far, last first. -/
def readItems : Nat → List Json → List Char → Option (Json × List Char)
  | 0, _, _ => none
  | fuel + 1, acc, cs => do
    let (item, rest) ← readValue fuel cs
    match skipBlanks rest with
    | ',' :: r => readItems fuel (item :: acc) r
    | ']' :: r => some (.array (item :: acc).reverse, r)
    | _ => none

/-- Reads the members of an object after its opening brace, up to the closing one; `acc` holds
the members read so far, last first. -/
def readMembers : Nat → List (String × Json) → List Char → Option (Json × List Char)
  | 0, _, _ => none
  | fuel + 1, acc, cs => do
    let (key, rest) ← match skipBlanks cs with
      | '"' :: r => readStringBody [] r
      | _ => none
    let rest ← match skipBlanks rest with
      | ':' :: r => some r
      | _ => none
    let (value, rest) ← readValue fuel rest
    match skipBlanks rest with
    | ',' :: r => readMembers fuel ((key, value) :: acc) r
    | c :: r => if c = '\x7d' then some (.object ((key, value) :: acc).reverse, r) else none
    | [] => none

end

/-- Reads a whole text as one document, with blanks allowed around it and nothing else. -/
def parse? (s : String) : Option Json :=
  let cs := s.toList
  match readValue (cs.length + 1) cs with
  | some (j, rest) => if (skipBlanks rest).isEmpty then some j else none
  | none => none

end Json

end RowMetrics
