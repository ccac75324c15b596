import RowMetrics.Proofs.DispatchSpec
import RowMetrics.Session

/-!
When a dispatch fails. Its assembly errors are exactly those `dispatchError?` names, all found
before any cell is read, so a session that meets one keeps its store. Past those checks a
dispatch returns records exactly when every cell it reads reads without a fault: reading an
integer whose third byte falls inside a character faults, so a dispatch that passes every
check can still stop the session.

The checks also make the errors inside the loops dead: a checked multiple-rows row with delta
columns always has a key, a checked two-columns row always has a name and a value, and the
delay column always falls within the checked first row, so no cell is read past its row.
-/

namespace RowMetrics

theorem mapM_isOk_iff {ε α β : Type} (f : α → Except ε β) (l : List α) :
    (∃ out, l.mapM f = .ok out) ↔ ∀ a ∈ l, ∃ b, f a = .ok b := by
  induction l with
  | nil => exact ⟨fun _ a ha => absurd ha List.not_mem_nil, fun _ => ⟨[], rfl⟩⟩
  | cons a rest ih =>
      constructor
      · rintro ⟨out, h⟩ x hx
        obtain ⟨b, more, hb, hrest, -⟩ := mapM_cons_eq_ok.mp h
        rcases List.mem_cons.mp hx with rfl | hx
        · exact ⟨b, hb⟩
        · exact ih.mp ⟨more, hrest⟩ x hx
      · intro hall
        obtain ⟨b, hb⟩ := hall a List.mem_cons_self
        obtain ⟨more, hrest⟩ := ih.mpr fun x hx => hall x (List.mem_cons_of_mem a hx)
        exact ⟨b :: more, mapM_cons_eq_ok.mpr ⟨b, more, hb, hrest, rfl⟩⟩

namespace Assemble

theorem read_isOk_iff (a : Action String) :
    (∃ b, a.read = .ok b) ↔ ∃ v, Value.infer a.cell = .ok v := by
  cases a with
  | field name raw =>
      constructor
      · rintro ⟨b, h⟩
        obtain ⟨v, hv, -⟩ := except_map_eq_ok.mp h
        exact ⟨v, hv⟩
      · rintro ⟨v, hv⟩
        exact ⟨.field name v, except_map_eq_ok.mpr ⟨v, hv, rfl⟩⟩
  | rate name series raw =>
      constructor
      · rintro ⟨b, h⟩
        obtain ⟨v, hv, -⟩ := except_map_eq_ok.mp h
        exact ⟨v, hv⟩
      · rintro ⟨v, hv⟩
        exact ⟨.rate name series v, except_map_eq_ok.mpr ⟨v, hv, rfl⟩⟩

theorem play_isOk_iff (mode : QueryMode) (time : Timestamp) (plans : List (List (Action String)))
    (store : RateStore) :
    (∃ out, play mode time plans store = .ok out) ↔
      ∀ a ∈ plans.flatten, ∃ v, Value.infer a.cell = .ok v := by
  have hread : (∃ actss, plans.mapM (·.mapM Action.read) = .ok actss) ↔
      ∃ out, play mode time plans store = .ok out := by
    constructor
    · rintro ⟨actss, h⟩
      exact ⟨_, except_map_eq_ok.mpr ⟨actss, h, rfl⟩⟩
    · rintro ⟨out, h⟩
      obtain ⟨actss, h, -⟩ := except_map_eq_ok.mp h
      exact ⟨actss, h⟩
  rw [← hread, mapM_isOk_iff]
  simp only [mapM_isOk_iff, read_isOk_iff, List.mem_flatten]
  constructor
  · rintro hall a ⟨acts, hacts, ha⟩
    exact hall acts hacts a ha
  · intro hall acts hacts a ha
    exact hall a ⟨acts, hacts, ha⟩

/-- A dispatch fails with an assembly error exactly when its checks name one. -/
theorem assemble_error_iff (mk : Markers) (q : Query) (rs : ResultSet) (time : Timestamp)
    (store : RateStore) (e : AssembleError) :
    Query.assemble mk q rs time store = .ok (.error e) ↔ dispatchError? mk q rs = some e := by
  rw [assemble_eq, describe]
  cases dispatchError? mk q rs with
  | some e' =>
      show Except.ok (Except.error e') = _ ↔ _
      simp only [Except.ok.injEq, Except.error.injEq, Option.some.injEq]
  | none =>
      constructor
      · intro h
        obtain ⟨out, -, hout⟩ := except_map_eq_ok.mp h
        cases hout
      · intro h
        cases h

/-- Past its checks, a dispatch returns records exactly when it reads all its cells. -/
theorem assemble_isOk_iff {mk : Markers} {q : Query} {rs : ResultSet} (time : Timestamp)
    (store : RateStore) (h : dispatchError? mk q rs = none) :
    (∃ out, Query.assemble mk q rs time store = .ok (.ok out)) ↔
      ∀ a ∈ (actions mk q.mode rs).flatten, ∃ v, Value.infer a.cell = .ok v := by
  rw [← play_isOk_iff q.mode time _ store, assemble_eq, describe, h]
  constructor
  · rintro ⟨out, hout⟩
    obtain ⟨out', hplay, hout'⟩ := except_map_eq_ok.mp hout
    cases hout'
    exact ⟨out, hplay⟩
  · rintro ⟨out, hplay⟩
    exact ⟨out, except_map_eq_ok.mpr ⟨out, hplay, rfl⟩⟩

/-- In multiple-rows mode a checked result with a delta column gives every row a key, so the
refusal of a row without one is never met. -/
theorem multipleRows_rowKey?_isSome {mk : Markers} {q : Query} {rs : ResultSet}
    (hq : q.mode = .multipleRows) (h : dispatchError? mk q rs = none)
    (hdelta : rs.columns.any mk.isDeltaColumn = true) :
    ∀ row ∈ rs.rows, (mk.rowKey? rs.columns (cellTexts row)).isSome := by
  simp only [dispatchError?, hq, hdelta, Bool.true_and] at h
  cases hkey : rs.columns.any (Text.endsWith · mk.key) with
  | false => simp [hkey] at h
  | true =>
      simp only [hkey, Bool.not_true, Bool.false_eq_true, if_false, Option.map_eq_none_iff,
        firstMisfit?_eq_none_iff] at h
      intro row hrow
      rw [rowKey?_eq_some_keyText hkey (by rw [cellTexts, List.length_map, h row hrow])]
      rfl

/-- In two-columns mode every row of a checked result has a name and a value. -/
theorem twoColumns_row_length {mk : Markers} {q : Query} {rs : ResultSet}
    (hq : q.mode = .twoColumns) (h : dispatchError? mk q rs = none) :
    ∀ row ∈ rs.rows, 2 ≤ row.length := by
  intro row hrow
  have hne : rs.rows.isEmpty = false := List.isEmpty_eq_false_iff_exists_mem.mpr ⟨row, hrow⟩
  simp only [dispatchError?, hq, hne, Bool.false_eq_true, if_false] at h
  by_cases hn : rs.columns.length < 2
  · simp [hn] at h
  · simp only [hn, if_false, Option.map_eq_none_iff, firstMisfit?_eq_none_iff] at h
    rw [h row hrow]
    omega

/-- In show-slave-delay mode the delay column falls within the checked first row. -/
theorem showSlaveDelay_index_lt {mk : Markers} {q : Query} {rs : ResultSet}
    (hq : q.mode = .showSlaveDelay) (h : dispatchError? mk q rs = none) :
    ∀ first ∈ rs.rows.head?, ∀ i, rs.columns.idxOf? delayColumn = some i → i < first.length := by
  intro first hfirst i hi
  cases hr : rs.rows with
  | nil => rw [hr] at hfirst; cases hfirst
  | cons first' rest =>
      rw [hr] at hfirst
      cases hfirst
      simp only [dispatchError?, hq, hr, ite_eq_left_iff, reduceCtorEq, imp_false,
        Decidable.not_not] at h
      exact delayIndex_lt hi h

theorem step_assembleError_iff (mk : Markers) (store store' : RateStore) (q : Query)
    (time : Timestamp) (rs : ResultSet) (e : AssembleError) :
    Session.step mk store (.assemble q.mode.literal q.index time rs) =
        .ok (store', .assembleError e) ↔
      store' = store ∧ Query.assemble mk q rs time store = .ok (.error e) := by
  have hq : Query.assemble mk ⟨q.index, q.mode, ""⟩ rs time store =
      Query.assemble mk q rs time store := rfl
  simp only [Session.step, QueryMode.ofLiteral?_literal, hq]
  rcases Query.assemble mk q rs time store with f | (e' | ⟨s, recs⟩)
  · constructor
    · intro h
      cases h
    · rintro ⟨-, h⟩
      cases h
  · constructor
    · intro h
      cases h
      exact ⟨rfl, rfl⟩
    · rintro ⟨rfl, h⟩
      cases h
      rfl
  · constructor
    · intro h
      cases h
    · rintro ⟨-, h⟩
      cases h

/-- What the checks of a dispatch guarantee, on one query, result, time and store. -/
structure ErrorContract (mk : Markers) (q : Query) (rs : ResultSet) (time : Timestamp)
    (store : RateStore) : Prop where
  /-- The assembly errors are exactly the ones the checks name. -/
  error_iff : ∀ e, Query.assemble mk q rs time store = .ok (.error e) ↔ dispatchError? mk q rs = some e
  /-- A session meets an assembly error exactly when the checks name it, and then keeps its
  store. -/
  step_error_iff : ∀ e store', Session.step mk store (.assemble q.mode.literal q.index time rs) =
      .ok (store', .assembleError e) ↔ store' = store ∧ dispatchError? mk q rs = some e
  /-- Past the checks, records come back exactly when every read cell reads. -/
  ok_iff : dispatchError? mk q rs = none →
    ((∃ out, Query.assemble mk q rs time store = .ok (.ok out)) ↔
      ∀ a ∈ (actions mk q.mode rs).flatten, ∃ v, Value.infer a.cell = .ok v)
  row_key : q.mode = .multipleRows → dispatchError? mk q rs = none →
    rs.columns.any mk.isDeltaColumn = true →
    ∀ row ∈ rs.rows, (mk.rowKey? rs.columns (cellTexts row)).isSome
  pair_length : q.mode = .twoColumns → dispatchError? mk q rs = none →
    ∀ row ∈ rs.rows, 2 ≤ row.length
  delay_index : q.mode = .showSlaveDelay → dispatchError? mk q rs = none →
    ∀ first ∈ rs.rows.head?, ∀ i, rs.columns.idxOf? delayColumn = some i → i < first.length

/-- Every dispatch keeps the contract of its checks. -/
theorem dispatch_fails_only_on_checks (mk : Markers) (q : Query) (rs : ResultSet)
    (time : Timestamp) (store : RateStore) : ErrorContract mk q rs time store where
  error_iff := assemble_error_iff mk q rs time store
  step_error_iff e store' := by
    rw [step_assembleError_iff, assemble_error_iff]
  ok_iff := assemble_isOk_iff time store
  row_key := multipleRows_rowKey?_isSome
  pair_length := twoColumns_row_length
  delay_index := showSlaveDelay_index_lt

/-- A single-row result that passes every check still faults on a cell whose third byte falls
inside a character. -/
theorem dispatch_faults_on_split_character :
    dispatchError? .standard ⟨0, .singleRow, ""⟩ ⟨["a"], [[some "aé"]]⟩ = none ∧
      Query.assemble .standard ⟨0, .singleRow, ""⟩ ⟨["a"], [[some "aé"]]⟩ ⟨0⟩ .empty =
        .error .splitCharacter :=
  ⟨rfl, rfl⟩

end Assemble

end RowMetrics
