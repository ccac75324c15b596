import RowMetrics.Proofs.DispatchErrors

/-!
What a dispatch hands back besides its errors. A result without rows gives no record and keeps
the store in every mode; it is refused only in multiple-rows mode, whose column plan is checked
before the rows are looked at, so a delta column without a key column is refused even then.

Every record a dispatch returns has a field, since a record without one is dropped. The line of
a record shows each field except one named `@timestamp`, which the record's own time hides; so a
record whose only field is `@timestamp` is kept, yet its line holds no more than an empty
record's: the time and the mode tag.
-/

namespace RowMetrics

namespace Json

/-- The members of an object, in order; none for any other document. -/
def members : Json → List (String × Json)
  | .object ms => ms
  | _ => []

end Json

namespace Assemble

/-- Whether a result's columns are refused in multiple-rows mode: a delta column and no key
column. -/
def lacksKey (mk : Markers) (columns : List String) : Bool :=
  columns.any mk.isDeltaColumn && !columns.any (Text.endsWith · mk.key)

theorem actions_no_rows (mk : Markers) (mode : QueryMode) (columns : List String) :
    actions mk mode ⟨columns, []⟩ = [] := by
  cases mode <;> rfl

theorem dispatchError?_no_rows (mk : Markers) (q : Query) (columns : List String) :
    dispatchError? mk q ⟨columns, []⟩ =
      if q.mode = .multipleRows ∧ lacksKey mk columns = true then
        some (.missingKeyColumn q.index)
      else none := by
  unfold dispatchError?
  cases hq : q.mode with
  | multipleRows =>
      simp only [lacksKey, true_and]
      split <;> rfl
  | singleRow | twoColumns | showSlaveDelay => simp

theorem assemble_no_rows (mk : Markers) (q : Query) (columns : List String) (time : Timestamp)
    (store : RateStore) :
    Query.assemble mk q ⟨columns, []⟩ time store =
      .ok (if q.mode = .multipleRows ∧ lacksKey mk columns = true then
        .error (.missingKeyColumn q.index)
      else .ok (store, [])) := by
  rw [assemble_eq, describe, dispatchError?_no_rows]
  by_cases hc : q.mode = .multipleRows ∧ lacksKey mk columns = true
  · simp only [if_pos hc]
    rfl
  · simp only [if_neg hc, actions_no_rows]
    rfl

/-- A dispatch that meets no rows answers with the store it was given, whether it is refused or
returns its empty list of records. -/
theorem zero_rows_keep_store (mk : Markers) (q : Query) (columns : List String)
    (time : Timestamp) (store : RateStore) :
    Query.assemble mk q ⟨columns, []⟩ time store =
        .ok (if q.mode = .multipleRows ∧ lacksKey mk columns = true then
          .error (.missingKeyColumn q.index)
        else .ok (store, [])) ∧
      Session.step mk store (.assemble q.mode.literal q.index time ⟨columns, []⟩) =
        .ok (store, if q.mode = .multipleRows ∧ lacksKey mk columns = true then
          .assembleError (.missingKeyColumn q.index)
        else .records []) := by
  have hq : Query.assemble mk ⟨q.index, q.mode, ""⟩ ⟨columns, []⟩ time store =
      Query.assemble mk q ⟨columns, []⟩ time store := rfl
  refine ⟨assemble_no_rows mk q columns time store, ?_⟩
  simp only [Session.step, QueryMode.ofLiteral?_literal, hq, assemble_no_rows]
  split <;> rfl

/-- Without rows, a multiple-rows result with a delta column and no key column is refused. -/
theorem delta_column_refused_without_rows :
    Query.assemble .standard ⟨0, .multipleRows, ""⟩ ⟨["x__DELTA"], []⟩ ⟨0⟩ .empty =
      .ok (.error (.missingKeyColumn 0)) :=
  rfl

theorem assemble_ok_iff {mk : Markers} {q : Query} {rs : ResultSet} {time : Timestamp}
    {store : RateStore} {out : RateStore × List Record} :
    Query.assemble mk q rs time store = .ok (.ok out) ↔
      dispatchError? mk q rs = none ∧ play q.mode time (actions mk q.mode rs) store = .ok out := by
  rw [assemble_eq, describe]
  cases dispatchError? mk q rs with
  | some e =>
      constructor
      · intro h
        cases h
      · rintro ⟨h, -⟩
        cases h
  | none =>
      constructor
      · intro h
        obtain ⟨out', hplay, hout⟩ := except_map_eq_ok.mp h
        cases hout
        exact ⟨rfl, hplay⟩
      · rintro ⟨-, hplay⟩
        exact except_map_eq_ok.mpr ⟨out, hplay, rfl⟩

/-- Every record of a dispatch has a field: an empty one is dropped. -/
theorem assemble_records_isEmpty {mk : Markers} {q : Query} {rs : ResultSet} {time : Timestamp}
    {store store' : RateStore} {records : List Record}
    (h : Query.assemble mk q rs time store = .ok (.ok (store', records))) :
    ∀ r ∈ records, r.isEmpty = false := by
  obtain ⟨-, hplay⟩ := assemble_ok_iff.mp h
  obtain ⟨actss, -, hbuild⟩ := except_map_eq_ok.mp hplay
  intro r hr
  have hmem : r ∈ (build q.mode time actss store).2 := by
    rw [hbuild]
    exact hr
  exact (build_snd_header q.mode time actss store r hmem).2.2

end Assemble

namespace Record

theorem mem_toJson_members (r : Record) {f : String × Value} (hf : f ∈ r.fields)
    (hname : f.1 ≠ timestampField) : (f.1, f.2.toJson) ∈ r.toJson.members := by
  unfold toJson
  simp only [Json.members, List.mem_append, List.mem_map, List.mem_filter]
  right
  exact ⟨f, ⟨hf, by simpa using hname⟩, rfl⟩

theorem toJson_of_timestamp_fields (r : Record) (h : ∀ f ∈ r.fields, f.1 = timestampField) :
    r.toJson = (empty r.mode r.timestamp).toJson := by
  have hbody : r.fields.filter (fun f => f.1 != timestampField) = [] := by
    rw [List.filter_eq_nil_iff]
    intro f hf
    simp [h f hf]
  have htype : (r.fields.lookup typeField).isSome = false := by
    rw [Option.isSome_eq_false_iff, Option.isNone_iff_eq_none, RateStore.lookup_eq_none_iff]
    intro hmem
    obtain ⟨f, hf, hname⟩ := List.mem_map.mp hmem
    have := h f hf
    rw [hname] at this
    exact absurd this (by decide)
  simp only [toJson, hbody, htype, empty, List.map_nil, List.append_nil, List.filter_nil,
    List.lookup_nil, Option.isSome_none]
  rfl

end Record

/-- Every record a dispatch returns has a field; its line shows each field not named
`@timestamp`, and when `@timestamp` is the only name it has, the line is an empty record's. -/
theorem dispatched_records_have_fields {mk : Markers} {q : Query} {rs : ResultSet}
    {time : Timestamp} {store store' : RateStore} {records : List Record}
    (h : Query.assemble mk q rs time store = .ok (.ok (store', records))) :
    ∀ r ∈ records, r.isEmpty = false ∧
      (∀ f ∈ r.fields, f.1 ≠ Record.timestampField → (f.1, f.2.toJson) ∈ r.toJson.members) ∧
      ((∀ f ∈ r.fields, f.1 = Record.timestampField) →
        r.toJson = (Record.empty r.mode r.timestamp).toJson) := by
  intro r hr
  exact ⟨Assemble.assemble_records_isEmpty h r hr, fun f hf hname => r.mem_toJson_members hf hname,
    r.toJson_of_timestamp_fields⟩

/-- A single-row result whose one column is `@timestamp` gives a record with that field alone. -/
theorem timestamp_column_record_kept :
    Query.assemble .standard ⟨0, .singleRow, ""⟩ ⟨["@timestamp"], [[some "x"]]⟩ ⟨0⟩ .empty =
        .ok (.ok (.empty, [(Record.empty .singleRow ⟨0⟩).insert "@timestamp" (.text "x")])) ∧
      ∀ r ∈ [(Record.empty .singleRow ⟨0⟩).insert "@timestamp" (.text "x")], r.isEmpty = false ∧
        (∀ f ∈ r.fields, f.1 ≠ Record.timestampField → (f.1, f.2.toJson) ∈ r.toJson.members) ∧
        ((∀ f ∈ r.fields, f.1 = Record.timestampField) →
          r.toJson = (Record.empty r.mode r.timestamp).toJson) :=
  ⟨rfl, @dispatched_records_have_fields .standard ⟨0, .singleRow, ""⟩ ⟨["@timestamp"], [[some "x"]]⟩
    ⟨0⟩ .empty .empty _ rfl⟩

/-- That record is published as a line with no column in it. -/
theorem timestamp_column_line_shows_no_column :
    Query.assemble .standard ⟨0, .singleRow, ""⟩ ⟨["@timestamp"], [[some "x"]]⟩ ⟨0⟩ .empty =
        .ok (.ok (.empty, [(Record.empty .singleRow ⟨0⟩).insert "@timestamp" (.text "x")])) ∧
      ((Record.empty .singleRow ⟨0⟩).insert "@timestamp" (.text "x")).line =
        "\x7b\"@timestamp\":0,\"type\":\"single-row\"\x7d" :=
  ⟨rfl, by decide⟩

end RowMetrics
