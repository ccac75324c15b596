import RowMetrics.Toml.Scalar
import RowMetrics.Toml.Document

/-!
Reading a TOML document. Line by line, a line is blank, a comment, a table header `[key]`, an
array-of-tables header `[[key]]`, or a key-value pair `key = value`, and after its content only
blanks and a comment may follow. Values are scalars, arrays (which may span lines, hold comments
and end with a comma) and inline tables (on one line, with no comma at the end). Definitions go
into a `Document`, which enforces the rules of TOML on redefinition.

Arrays and inline tables nest, fewer than `nestingLimit` levels deep; `depth` counts the levels
around a value. An inline table is read into a document of its own and is then one value, closed
to the dotted keys of the table around it. Their readers share a fuel that each call spends; of
two calls in a row, at least one consumes a character, so twice the length of the text plus two
is enough.
-/

namespace RowMetrics

namespace Toml

/-- Skips blanks, line ends and comments between the items of an array; `inComment` says that
a comment is open. A comment may hold no control character but the tab. -/
def skipFill (inComment : Bool) : List Char → Option (List Char)
  | [] => some []
  | '\n' :: r => skipFill false r
  | '\r' :: '\n' :: r => skipFill false r
  | c :: r =>
    if inComment then (if isForbiddenControl c then none else skipFill true r)
    else if c = ' ' || c = '\t' then skipFill false r
    else if c = '#' then skipFill true r
    else some (c :: r)

/-- Reads the end of a line: blanks, an optional comment, and a line end or the end of the
text. A comment may hold no control character but the tab. -/
def endOfLine (cs : List Char) : Option (List Char) := do
  let rest ← match skipBlanks cs with
    | '#' :: r =>
      let body := r.takeWhile fun c => c != '\n' && c != '\r'
      if body.any isForbiddenControl then none else some (r.drop body.length)
    | other => some other
  match rest with
  | [] => some []
  | '\n' :: r => some r
  | '\r' :: '\n' :: r => some r
  | _ => none

mutual

/-- Reads a value inside `depth` arrays and inline tables. -/
def readValue : Nat → Nat → List Char → Option (Value × List Char)
  | 0, _, _ => none
  | fuel + 1, depth, cs =>
    match cs with
    | '"' :: _ => (readString cs).map fun (s, r) => (.string s, r)
    | '\'' :: _ => (readString cs).map fun (s, r) => (.string s, r)
    | '[' :: r => if canNest depth then readArray fuel (depth + 1) [] r else none
    | c :: r =>
      if c = '\x7b' then
        if canNest depth then readInline fuel (depth + 1) r else none
      else readAtom (c :: r)
    | [] => none

/-- Reads the items of an array after its opening bracket, up to the closing one; `acc` holds
the items read so far, last first. -/
def readArray : Nat → Nat → List Value → List Char → Option (Value × List Char)
  | 0, _, _, _ => none
  | fuel + 1, depth, acc, cs => do
    let cs ← skipFill false cs
    match cs with
    | ']' :: r => some (.array acc.reverse, r)
    | _ =>
      let (v, r) ← readValue fuel depth cs
      let r ← skipFill false r
      match r with
      | ',' :: r => readArray fuel depth (v :: acc) r
      | ']' :: r => some (.array (v :: acc).reverse, r)
      | _ => none

/-- Reads an inline table after its opening brace, up to the closing one. -/
def readInline : Nat → Nat → List Char → Option (Value × List Char)
  | 0, _, _ => none
  | fuel + 1, depth, cs =>
    match skipBlanks cs with
    | c :: r =>
      if c = '\x7d' then some (.table [], r) else readMembers fuel depth Document.empty (c :: r)
    | [] => none

/-- Reads the pairs of an inline table into `d`, up to the closing brace. -/
def readMembers : Nat → Nat → Document → List Char → Option (Value × List Char)
  | 0, _, _, _ => none
  | fuel + 1, depth, d, cs => do
    let (keys, r) ← readKey cs
    let r ← match skipBlanks r with
      | '=' :: r => some r
      | _ => none
    let (v, r) ← readValue fuel depth (skipBlanks r)
    let d ← d.define keys v
    match skipBlanks r with
    | ',' :: r => readMembers fuel depth d r
    | c :: r => if c = '\x7d' then some (d.toValue, r) else none
    | [] => none

end

def closeHeader (double : Bool) (cs : List Char) : Option (List Char) :=
  match skipBlanks cs, double with
  | ']' :: ']' :: r, true => some r
  | ']' :: r, false => some r
  | _, _ => none

def readLines : Nat → Document → List Char → Option Document
  | 0, _, _ => none
  | fuel + 1, d, cs =>
    match skipBlanks cs with
    | [] => some d
    | '\n' :: r => readLines fuel d r
    | '\r' :: '\n' :: r => readLines fuel d r
    | '[' :: '[' :: r => do
      let (keys, r) ← readKey r
      let r ← closeHeader true r
      let d ← d.openArrayTable keys
      readLines fuel d (← endOfLine r)
    | '[' :: r => do
      let (keys, r) ← readKey r
      let r ← closeHeader false r
      let d ← d.openTable keys
      readLines fuel d (← endOfLine r)
    | c :: r =>
      if c = '#' then do
        readLines fuel d (← endOfLine (c :: r))
      else do
        let (keys, rest) ← readKey (c :: r)
        let rest ← match skipBlanks rest with
          | '=' :: more => some more
          | _ => none
        let (v, rest) ← readValue (2 * rest.length + 2) 0 (skipBlanks rest)
        let d ← d.define keys v
        readLines fuel d (← endOfLine rest)

def dropByteOrderMark : List Char → List Char
  | '\uFEFF' :: r => r
  | cs => cs

/-- Reads a whole TOML text as its root table; `none` when the text is not valid TOML. A byte
order mark at the start is skipped. -/
def parse? (s : String) : Option Value :=
  let cs := dropByteOrderMark s.toList
  (readLines (cs.length + 1) Document.empty cs).map Document.toValue

end Toml

end RowMetrics
