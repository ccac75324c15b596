import RowMetrics.Toml.Value

/-!
Building a TOML document from its definitions. The document under construction is a list of
entries, each the path of a table, an array of tables or a value, with how it came to be; paths
step through arrays of tables by index. The list keeps the order of definition, and `toValue`
turns it into nested tables at the end.

The rules that a definition must respect are those of TOML 1.0:
- a key is defined once; a table header names a table that no header defined before, and not
  one that dotted keys or an inline table made;
- a header may first name a table that an earlier header made along its way;
- dotted keys make tables of their own; on their way they may pass through tables that no
  header named, and into the last table of an array of tables, but the table that receives the
  value must be one that dotted keys made; a header may still add sub-tables below those;
- a header `[[a]]` adds a table to the array of tables `a`, which nothing else may have made;
  a later header through `a` reaches into its last table;
- an inline table and an array written as a value are closed to every later definition.
-/

namespace RowMetrics

namespace Toml

/-- A step of a path: a key of a table, or the position in an array of tables. -/
inductive Seg where
  | key (k : String)
  | index (i : Nat)
  deriving DecidableEq, Repr

/-- How a table came to be. -/
inductive Origin where
  /-- Named by its own header. -/
  | header
  /-- Made on the way to a deeper header; a header of its own may still name it once. -/
  | passage
  /-- Made by a dotted key. -/
  | dotted
  deriving DecidableEq, Repr

/-- What a path of the document holds. -/
inductive Shape where
  | table (origin : Origin)
  | tables (count : Nat)
  | value (v : Value)
  deriving Repr

/-- A document under construction: its entries in order of definition, and the path of the
table that key-value pairs currently go to. -/
structure Document where
  entries : List (List Seg × Shape)
  current : List Seg
  deriving Repr

namespace Document

/-- The document with nothing defined, writing to its root table. -/
def empty : Document := ⟨[], []⟩

def find? (d : Document) (p : List Seg) : Option Shape := d.entries.lookup p

def add (d : Document) (p : List Seg) (s : Shape) : Document :=
  { d with entries := d.entries ++ [(p, s)] }

def replace (d : Document) (p : List Seg) (s : Shape) : Document :=
  { d with entries := d.entries.map fun e => if e.1 = p then (p, s) else e }

/-- Walks the keys of a header before its last one, from `base`: tables are entered, the last
table of an array of tables is entered, missing tables are made in passing, and a value stops
the walk. -/
def walkHeader (d : Document) (base : List Seg) : List String → Option (Document × List Seg)
  | [] => some (d, base)
  | k :: rest =>
    let p := base ++ [.key k]
    match d.find? p with
    | none => walkHeader (d.add p (.table .passage)) p rest
    | some (.table _) => walkHeader d p rest
    | some (.tables n) => walkHeader d (p ++ [.index (n - 1)]) rest
    | some (.value _) => none

/-- Walks the keys of a dotted key before its last one, from `base`, which is a table of dotted
keys when `dotted`: tables that no header named are entered, and so is the last table of an
array of tables; missing tables are made as tables of dotted keys. Returns also whether the
table reached is one of dotted keys. -/
def walkDotted (d : Document) (base : List Seg) (dotted : Bool) :
    List String → Option (Document × List Seg × Bool)
  | [] => some (d, base, dotted)
  | k :: rest =>
    let p := base ++ [.key k]
    match d.find? p with
    | none => walkDotted (d.add p (.table .dotted)) p true rest
    | some (.table .dotted) => walkDotted d p true rest
    | some (.table .passage) => walkDotted d p false rest
    | some (.tables n) => walkDotted d (p ++ [.index (n - 1)]) false rest
    | some _ => none

def splitLast (keys : List String) : Option (List String × String) :=
  match keys.getLast? with
  | some last => some (keys.dropLast, last)
  | none => none

/-- Defines a table by the header `[keys]` and makes it current. -/
def openTable (d : Document) (keys : List String) : Option Document := do
  let (front, last) ← splitLast keys
  let (d, base) ← d.walkHeader [] front
  let p := base ++ [.key last]
  match d.find? p with
  | none => some { d.add p (.table .header) with current := p }
  | some (.table .passage) => some { d.replace p (.table .header) with current := p }
  | some _ => none

/-- Adds a table to the array of tables named by the header `[[keys]]` and makes it current. -/
def openArrayTable (d : Document) (keys : List String) : Option Document := do
  let (front, last) ← splitLast keys
  let (d, base) ← d.walkHeader [] front
  let p := base ++ [.key last]
  match d.find? p with
  | none => some { d.add p (.tables 1) with current := p ++ [.index 0] }
  | some (.tables n) => some { d.replace p (.tables (n + 1)) with current := p ++ [.index n] }
  | some _ => none

/-- The path at which the dotted key `keys` defines a new item below the table `base`, which no
dotted key made, with the tables made on the way. A key of more than one part must end in a
table of dotted keys, and its last part must be new there. -/
def place (d : Document) (base : List Seg) (keys : List String) :
    Option (Document × List Seg) := do
  let (front, last) ← splitLast keys
  let (d, p, dotted) ← d.walkDotted base false front
  if !front.isEmpty && !dotted then none
  let q := p ++ [.key last]
  match d.find? q with
  | none => some (d, q)
  | some _ => none

/-- Defines the value of a dotted key in the current table. -/
def define (d : Document) (keys : List String) (v : Value) : Option Document := do
  let (d, p) ← d.place d.current keys
  pure (d.add p (.value v))

/-- The keys directly below a path, with what they hold, in order of definition. -/
def children (d : Document) (p : List Seg) : List (String × Shape) :=
  d.entries.filterMap fun (q, s) =>
    match q.getLast? with
    | some (.key k) => if q.dropLast = p then some (k, s) else none
    | _ => none

/-- The table at a path as a value; `fuel` bounds the depth. -/
def tableAt (d : Document) : Nat → List Seg → Value
  | 0, _ => .table []
  | fuel + 1, p => .table ((d.children p).map fun (k, s) =>
    (k, match s with
      | .table _ => tableAt d fuel (p ++ [.key k])
      | .tables n => .array ((List.range n).map fun i => tableAt d fuel (p ++ [.key k, .index i]))
      | .value v => v))

/-- The whole document as one table. Each level of nesting goes through an entry, so the number
of entries bounds the depth. -/
def toValue (d : Document) : Value := d.tableAt (d.entries.length + 1) []

end Document

end Toml

end RowMetrics
