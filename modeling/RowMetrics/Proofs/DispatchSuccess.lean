import RowMetrics.Proofs.DispatchSpec

/-!
What a successful dispatch does. The store afterwards is the store before with every delta cell
of the result set, in row-major then column order, as the last observation of its series; every
other series is left as it was. The records are those of the description in `DispatchSpec`:
one per consumed row (all rows folded into one in two-columns mode), each of the query's mode
and the dispatch time, built from the key, plain and rate fields of its row, and dropped when
it gets no field.

The delta cells are the cells whose column ends with the delta marker and not with the key
marker, observed under the column name in single-row mode and under the row key followed by
the column name in multiple-rows mode; in two-columns mode, the rows whose name cell ends with
the delta marker, observed under that name; none in show-slave-delay mode.
-/

namespace RowMetrics

namespace Assemble

/-- The delta cells of a result, in row-major then column order, each with the series it
feeds. -/
def deltaCells (mk : Markers) (mode : QueryMode) (rs : ResultSet) : List (String × String) :=
  let rows := rs.rows.map cellTexts
  let deltas := fun cells : List String =>
    (rs.columns.zip cells).filter fun p => mk.isDeltaColumn p.1
  match mode with
  | .singleRow => (rows.take 1).flatMap deltas
  | .multipleRows =>
    rows.flatMap fun cells => (deltas cells).map fun p => (mk.keyText rs.columns cells ++ p.1, p.2)
  | .twoColumns =>
    rows.filterMap fun cells =>
      match cells with
      | name :: raw :: _ => if Text.endsWith name mk.delta then some (name, raw) else none
      | _ => none
  | .showSlaveDelay => []

/-- Reads the text of a delta cell, keeping its series. -/
def readObserved (c : String × String) : Except Fault (String × Value) :=
  (c.1, ·) <$> Value.infer c.2

theorem observed?_columnAction (mk : Markers) (series name raw : String) :
    (columnAction mk series name raw).observed? =
      if mk.isDeltaColumn name then some (series, raw) else none := by
  unfold columnAction Markers.isDeltaColumn
  cases hk : Text.stripSuffix? name mk.key with
  | some base => simp [Action.observed?, endsWith_of_stripSuffix? hk]
  | none =>
      rw [(stripSuffix?_eq_none_iff name mk.key).mp hk]
      cases hd : Text.stripSuffix? name mk.delta with
      | some base => simp [Action.observed?, endsWith_of_stripSuffix? hd]
      | none => simp [Action.observed?, (stripSuffix?_eq_none_iff name mk.delta).mp hd]

theorem rowActions_observed (mk : Markers) (series : String → String) (columns cells : List String) :
    (rowActions mk series columns cells).filterMap Action.observed? =
      ((columns.zip cells).filter fun p => mk.isDeltaColumn p.1).map fun p => (series p.1, p.2) := by
  unfold rowActions
  induction columns.zip cells with
  | nil => rfl
  | cons p rest ih =>
      rw [List.map_cons, List.filterMap_cons, observed?_columnAction, List.filter_cons]
      cases mk.isDeltaColumn p.1 with
      | true => simp [ih]
      | false => simp [ih]

theorem ofPair_observed (mk : Markers) (cells : List String) :
    (Action.ofPair mk cells).bind Action.observed? =
      match cells with
      | name :: raw :: _ => if Text.endsWith name mk.delta then some (name, raw) else none
      | _ => none := by
  rcases cells with _ | ⟨name, _ | ⟨raw, more⟩⟩
  · rfl
  · rfl
  · simp only [Action.ofPair, Option.bind_some, Markers.rateField?]
    cases hd : Text.stripSuffix? name mk.delta with
    | some base => simp [Action.observed?, endsWith_of_stripSuffix? hd]
    | none => simp [Action.observed?, (stripSuffix?_eq_none_iff name mk.delta).mp hd]

/-- The delta cells are exactly what the records' actions observe, in order. -/
theorem deltaCells_eq (mk : Markers) (mode : QueryMode) (rs : ResultSet) :
    deltaCells mk mode rs = (actions mk mode rs).flatMap (·.filterMap Action.observed?) := by
  unfold deltaCells actions
  cases mode with
  | singleRow => simp only [List.flatMap_map, rowActions_observed, id_eq, Prod.mk.eta, List.map_id']
  | multipleRows => simp only [List.flatMap_map, rowActions_observed]
  | twoColumns =>
      cases hrows : (rs.rows.map cellTexts).isEmpty with
      | true =>
          rw [List.isEmpty_iff.mp hrows]
          rfl
      | false =>
          simp only [hrows, Bool.false_eq_true, if_false, List.flatMap_cons, List.flatMap_nil,
            List.append_nil, List.filterMap_filterMap, ofPair_observed]
  | showSlaveDelay =>
      simp only [List.flatMap_map]
      symm
      apply List.flatMap_eq_nil_iff.mpr
      intro cells _
      cases rs.columns.idxOf? delayColumn <;> rfl

theorem mapM_read_observed {acts : List (Action String)} {vs : List (Action Value)}
    (h : acts.mapM Action.read = .ok vs) :
    (acts.filterMap Action.observed?).mapM readObserved = .ok (vs.filterMap Action.observed?) := by
  induction acts generalizing vs with
  | nil =>
      cases h
      rfl
  | cons a rest ih =>
      obtain ⟨b, bs, ha, hrest, rfl⟩ := mapM_cons_eq_ok.mp h
      cases a with
      | field name raw =>
          obtain ⟨v, -, rfl⟩ := except_map_eq_ok.mp ha
          simp only [List.filterMap_cons, Action.observed?]
          exact ih hrest
      | rate name series raw =>
          obtain ⟨v, hv, rfl⟩ := except_map_eq_ok.mp ha
          have hcell : readObserved (series, raw) = .ok (series, v) := by
            rw [readObserved, hv]
            rfl
          simp only [List.filterMap_cons, Action.observed?, List.mapM_cons, hcell, ih hrest]
          rfl

theorem mapM_mapM_read_observed {plans : List (List (Action String))}
    {actss : List (List (Action Value))} (h : plans.mapM (·.mapM Action.read) = .ok actss) :
    (plans.flatMap (·.filterMap Action.observed?)).mapM readObserved =
      .ok (actss.flatMap (·.filterMap Action.observed?)) := by
  induction plans generalizing actss with
  | nil =>
      cases h
      rfl
  | cons acts rest ih =>
      obtain ⟨vs, more, hacts, hrest, rfl⟩ := mapM_cons_eq_ok.mp h
      rw [List.flatMap_cons, List.mapM_append, mapM_read_observed hacts, ih hrest]
      rfl

theorem mapM_readObserved_keys {cells : List (String × String)} {read : List (String × Value)}
    (h : cells.mapM readObserved = .ok read) : read.map Prod.fst = cells.map Prod.fst := by
  induction cells generalizing read with
  | nil =>
      cases h
      rfl
  | cons c rest ih =>
      obtain ⟨r, more, hc, hrest, rfl⟩ := mapM_cons_eq_ok.mp h
      obtain ⟨v, -, rfl⟩ := except_map_eq_ok.mp hc
      simp only [List.map_cons, ih hrest]

theorem foldlM_set (time : Timestamp) (store : RateStore) (cells : List (String × String)) :
    cells.foldlM (fun s c => (fun v => s.set c.1 ⟨v, time⟩) <$> Value.infer c.2) store =
      setAll time store <$> cells.mapM readObserved := by
  induction cells generalizing store with
  | nil => rfl
  | cons c rest ih =>
      rw [List.foldlM_cons, List.mapM_cons]
      cases hv : Value.infer c.2 with
      | error e =>
          simp only [readObserved, hv]
          rfl
      | ok v =>
          simp only [readObserved, hv]
          show rest.foldlM _ (store.set c.1 ⟨v, time⟩) = _
          rw [ih]
          cases rest.mapM readObserved <;> rfl

theorem get?_setAll_of_not_mem (time : Timestamp) (store : RateStore)
    {cells : List (String × Value)} {k : String} (h : k ∉ cells.map Prod.fst) :
    (setAll time store cells).get? k = store.get? k := by
  have hnone : cells.reverse.lookup k = none := by
    rw [RateStore.lookup_eq_none_iff, List.map_reverse, List.mem_reverse]
    exact h
  rw [get?_setAll, hnone]
  rfl

/-- A dispatch that returns records has set every delta cell of the result, in row-major then
column order, as the last observation of its series, and left every other series alone; and its
records are those of the description, each of the query's mode and the dispatch time. -/
theorem dispatch_ok_follows_description {mk : Markers} {q : Query} {rs : ResultSet}
    {time : Timestamp} {store store' : RateStore} {records : List Record}
    (h : Query.assemble mk q rs time store = .ok (.ok (store', records))) :
    (deltaCells mk q.mode rs).foldlM
        (fun s c => (fun v => s.set c.1 ⟨v, time⟩) <$> Value.infer c.2) store = .ok store' ∧
      (∀ k, k ∉ (deltaCells mk q.mode rs).map Prod.fst → store'.get? k = store.get? k) ∧
      play q.mode time (actions mk q.mode rs) store = .ok (store', records) ∧
      ∀ r ∈ records, r.mode = q.mode ∧ r.timestamp = time := by
  rw [assemble_eq, describe] at h
  cases herr : dispatchError? mk q rs with
  | some e =>
      rw [herr] at h
      cases h
  | none =>
      rw [herr] at h
      obtain ⟨out, hplay, hout⟩ := except_map_eq_ok.mp h
      cases hout
      obtain ⟨actss, hread, hbuild⟩ := except_map_eq_ok.mp hplay
      have hcells := mapM_mapM_read_observed hread
      rw [← deltaCells_eq] at hcells
      have hstore : store' = setAll time store
          (actss.flatMap (·.filterMap Action.observed?)) := by
        rw [← build_fst q.mode time actss store, hbuild]
      refine ⟨?_, ?_, hplay, ?_⟩
      · rw [foldlM_set, hcells, hstore]
        rfl
      · intro k hk
        rw [hstore]
        apply get?_setAll_of_not_mem
        rwa [mapM_readObserved_keys hcells]
      · intro r hr
        have hheader := build_snd_header q.mode time actss store r (by rw [hbuild]; exact hr)
        exact ⟨hheader.1, hheader.2.1⟩

/-- The first poll of a single-row query sets its delta series and records its plain column. -/
theorem first_single_row_poll_follows_description :
    Query.assemble .standard ⟨0, .singleRow, ""⟩ ⟨["Queries__DELTA", "host"], [[some "5", some "db1"]]⟩
        ⟨0⟩ .empty =
      .ok (.ok (⟨[("Queries__DELTA", ⟨.integer 5, ⟨0⟩⟩)]⟩,
        [(Record.empty .singleRow ⟨0⟩).insert "host" (.text "db1")])) ∧
    ((deltaCells .standard .singleRow ⟨["Queries__DELTA", "host"], [[some "5", some "db1"]]⟩).foldlM
        (fun s c => (fun v => s.set c.1 ⟨v, ⟨0⟩⟩) <$> Value.infer c.2) RateStore.empty =
          .ok ⟨[("Queries__DELTA", ⟨.integer 5, ⟨0⟩⟩)]⟩ ∧
      (∀ k, k ∉ (deltaCells .standard .singleRow
          ⟨["Queries__DELTA", "host"], [[some "5", some "db1"]]⟩).map Prod.fst →
        RateStore.get? ⟨[("Queries__DELTA", ⟨.integer 5, ⟨0⟩⟩)]⟩ k = RateStore.empty.get? k) ∧
      play .singleRow ⟨0⟩ (actions .standard .singleRow
          ⟨["Queries__DELTA", "host"], [[some "5", some "db1"]]⟩) .empty =
        .ok (⟨[("Queries__DELTA", ⟨.integer 5, ⟨0⟩⟩)]⟩,
          [(Record.empty .singleRow ⟨0⟩).insert "host" (.text "db1")]) ∧
      ∀ r ∈ [(Record.empty .singleRow ⟨0⟩).insert "host" (.text "db1")],
        r.mode = .singleRow ∧ r.timestamp = ⟨0⟩) :=
  ⟨rfl, @dispatch_ok_follows_description .standard ⟨0, .singleRow, ""⟩ _ _ _ _ _ rfl⟩

end Assemble

end RowMetrics
