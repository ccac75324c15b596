import RowMetrics.Query
import RowMetrics.Value.Json
import RowMetrics.Clock

/-!
Metric records: the time of a poll, the mode of the query that made the record, and named
values. The field names ascend strictly, and every record carries the proof: `empty` has no
field and `insert` keeps the order. For `String` that order is the order of code points and so
the byte order of the UTF-8 names; a later value under a name replaces the earlier one.

The JSON line of a record is an object: `@timestamp` first with the time in milliseconds, then
`type` with the mode literal unless a field is itself named `type`, then every field in name
order, except one named `@timestamp`, which the record's own time always hides.
-/

namespace RowMetrics

namespace Record

/-- Puts `(name, v)` into a list sorted by name: replaces the value of an equal name, or goes
before the first greater name. -/
def insertSorted (name : String) (v : Value) : List (String × Value) → List (String × Value)
  | [] => [(name, v)]
  | (k, w) :: rest =>
    if name = k then (name, v) :: rest
    else if name < k then (name, v) :: (k, w) :: rest
    else (k, w) :: insertSorted name v rest

theorem mem_insertSorted_names {name k : String} {v : Value} {fs : List (String × Value)} :
    k ∈ (insertSorted name v fs).map Prod.fst ↔ k = name ∨ k ∈ fs.map Prod.fst := by
  induction fs with
  | nil => simp [insertSorted]
  | cons f rest ih =>
      obtain ⟨k', w⟩ := f
      unfold insertSorted
      by_cases heq : name = k'
      · subst heq
        simp
      · by_cases hlt : name < k'
        · simp [heq, hlt]
        · simp only [heq, hlt, if_false, List.map_cons, List.mem_cons, ih]
          exact or_left_comm

theorem insertSorted_names_pairwise (name : String) (v : Value) (fs : List (String × Value))
    (h : (fs.map Prod.fst).Pairwise (· < ·)) :
    ((insertSorted name v fs).map Prod.fst).Pairwise (· < ·) := by
  induction fs with
  | nil => exact List.pairwise_singleton _ _
  | cons f rest ih =>
      obtain ⟨k, w⟩ := f
      rw [List.map_cons, List.pairwise_cons] at h
      obtain ⟨hk, hrest⟩ := h
      unfold insertSorted
      by_cases heq : name = k
      · -- the value under `k` is replaced; the names stay as they were
        subst heq
        rw [if_pos rfl, List.map_cons]
        exact List.pairwise_cons.mpr ⟨hk, hrest⟩
      · by_cases hlt : name < k
        · simp only [heq, hlt, if_false, if_true, List.map_cons]
          refine List.pairwise_cons.mpr ⟨?_, List.pairwise_cons.mpr ⟨hk, hrest⟩⟩
          intro other hother
          rcases List.mem_cons.mp hother with rfl | hmem
          · exact hlt
          · exact String.lt_trans hlt (hk other hmem)
        · -- `name` goes after `k`, which stays below every name of the rest
          have hkn : k < name := ((Std.lt_trichotomy name k).resolve_left hlt).resolve_left heq
          simp only [heq, hlt, if_false, List.map_cons]
          refine List.pairwise_cons.mpr ⟨?_, ih hrest⟩
          intro other hother
          rcases mem_insertSorted_names.mp hother with rfl | hmem
          · exact hkn
          · exact hk other hmem

end Record

/-- A metric record. The fields ascend strictly by name, so each name occurs once. -/
structure Record where
  timestamp : Timestamp
  mode : QueryMode
  fields : List (String × Value)
  ascending : (fields.map Prod.fst).Pairwise (· < ·)
  deriving Repr

namespace Record

/-- The name of the field that holds the time of the record in its JSON line. -/
def timestampField : String := "@timestamp"

/-- The name of the field that holds the mode literal in its JSON line. -/
def typeField : String := "type"

def empty (mode : QueryMode) (time : Timestamp) : Record := ⟨time, mode, [], .nil⟩

/-- Sets a field, replacing an earlier value under the same name. -/
def insert (r : Record) (name : String) (v : Value) : Record :=
  { r with
    fields := insertSorted name v r.fields
    ascending := insertSorted_names_pairwise name v r.fields r.ascending }

def get? (r : Record) (name : String) : Option Value := r.fields.lookup name

/-- The number of fields, `@timestamp` included. -/
def size (r : Record) : Nat := r.fields.length

def isEmpty (r : Record) : Bool := r.fields.isEmpty

/-- The record as the JSON object of its line. -/
def toJson (r : Record) : Json :=
  let head : List (String × Json) :=
    [(timestampField, Json.ofNat r.timestamp.millis.toNat)] ++
    (if (r.fields.lookup typeField).isSome then [] else [(typeField, .string r.mode.literal)])
  let body := (r.fields.filter (fun f => f.1 != timestampField)).map fun f => (f.1, f.2.toJson)
  .object (head ++ body)

/-- The JSON line of a record, without its line end. -/
def line (r : Record) : String := r.toJson.write

example : ((empty .singleRow ⟨1500⟩).insert "b" (.integer 2) |>.insert "a" (.text "x")).line =
    "\x7b\"@timestamp\":1500,\"type\":\"single-row\",\"a\":\"x\",\"b\":2\x7d" := by decide

end Record

end RowMetrics
