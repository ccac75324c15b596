import RowMetrics.Proofs.RecordActions

/-!
What a dispatch does, said per mode without the column plan. The error, if there is one, is
decided by the columns and the shapes of the rows alone (`dispatchError?`); otherwise every
record is the replay of actions read off the result (`actions`), one list per record:

* single-row: the first row, each cell by its column: a name ending with the key marker gives
  its value under the name without the marker, else a name ending with the delta marker gives
  its rate under the base name and `_PERSECOND`, observed under the column name, else the cell
  gives its value under the column name;
* multiple-rows: every row the same way, with the delta cells observed under the row's key
  cells joined and then the column name;
* two-columns: one record for all rows, the first cell naming the field and the second giving
  the value, rate tracked under the name when the name ends with the delta marker;
* show-slave-delay: the first row's cell under the first `Seconds_Behind_Master` column.

`assemble_eq` proves the dispatch equal to this description for every input.
-/

namespace RowMetrics

namespace Markers

/-- Whether a column is tracked as a rate: its name ends with the delta marker and not with
the key marker. -/
def isDeltaColumn (mk : Markers) (name : String) : Bool :=
  Text.endsWith name mk.delta && !Text.endsWith name mk.key

/-- The key of a row: the cells of the columns ending with the key marker, in column order,
joined with nothing between them. -/
def keyText (mk : Markers) (columns cells : List String) : String :=
  String.join (((columns.zip cells).filter fun p => Text.endsWith p.1 mk.key).map (·.2))

end Markers

namespace Assemble

/-- The cells of a row as text, `NULL` read as the empty text. -/
def cellTexts (row : List (Option String)) : List String := row.map (·.getD "")

/-- The action of the cell `raw` under the column `name`, a delta cell observed under
`series`. The key marker is looked at first. -/
def columnAction (mk : Markers) (series name raw : String) : Action String :=
  match Text.stripSuffix? name mk.key with
  | some base => .field base raw
  | none =>
    match Text.stripSuffix? name mk.delta with
    | some base => .rate (base ++ Markers.perSecondSuffix) series raw
    | none => .field name raw

/-- The actions of a row, column by column, a delta column observed under `series name`. -/
def rowActions (mk : Markers) (series : String → String) (columns cells : List String) :
    List (Action String) :=
  (columns.zip cells).map fun p => columnAction mk (series p.1) p.1 p.2

/-- The actions of the records that a result gives in each mode, one list per record. -/
def actions (mk : Markers) (mode : QueryMode) (rs : ResultSet) : List (List (Action String)) :=
  let rows := rs.rows.map cellTexts
  match mode with
  | .singleRow => (rows.take 1).map (rowActions mk id rs.columns)
  | .multipleRows =>
    rows.map fun cells => rowActions mk (mk.keyText rs.columns cells ++ ·) rs.columns cells
  | .twoColumns => if rows.isEmpty then [] else [rows.filterMap (Action.ofPair mk)]
  | .showSlaveDelay =>
    (rows.take 1).map fun cells =>
      match rs.columns.idxOf? delayColumn with
      | some i => [.field delayColumn (cells.getD i "")]
      | none => []

/-- The first row, counted from zero, whose number of cells is not `n`. -/
def firstMisfit? (n : Nat) (rows : List (List (Option String))) : Option Nat :=
  rows.findIdx? (·.length != n)

/-- The error of a dispatch: in multiple-rows mode a delta column with no key column, then in
every mode but two-columns the first row of the wrong width (only the first row is looked at in
single-row and show-slave-delay modes); two-columns mode, given rows, needs two columns first. -/
def dispatchError? (mk : Markers) (q : Query) (rs : ResultSet) : Option AssembleError :=
  let n := rs.columns.length
  let misfit := (firstMisfit? n rs.rows).map fun i =>
    AssembleError.rowDecode q.index i n (rs.rows.getD i []).length
  match q.mode with
  | .singleRow | .showSlaveDelay =>
    match rs.rows with
    | [] => none
    | first :: _ =>
      if first.length = n then none else some (.rowDecode q.index 0 n first.length)
  | .multipleRows =>
    if rs.columns.any mk.isDeltaColumn && !rs.columns.any (Text.endsWith · mk.key) then
      some (.missingKeyColumn q.index)
    else misfit
  | .twoColumns =>
    if rs.rows.isEmpty then none
    else if n < 2 then some (.rowDecode q.index 0 2 n)
    else misfit

theorem decodeRow_eq (query row expected : Nat) (cells : List (Option String)) :
    decodeRow query row expected cells =
      if cells.length = expected then .ok (cellTexts cells)
      else .error (.rowDecode query row expected cells.length) := rfl

/-- Decoding stops at the first row of the wrong width, and otherwise reads every cell. -/
theorem decodeRows_eq (query n : Nat) (row : Nat) (rows : List (List (Option String))) :
    decodeRows query n row rows =
      match firstMisfit? n rows with
      | none => .ok (rows.map cellTexts)
      | some i => .error (.rowDecode query (row + i) n (rows.getD i []).length) := by
  induction rows generalizing row with
  | nil => rfl
  | cons cells rest ih =>
      rw [decodeRows, decodeRow_eq, firstMisfit?, List.findIdx?_cons]
      by_cases hlen : cells.length = n
      · have hfit : (cells.length != n) = false := by simpa using hlen
        rw [if_pos hlen, hfit, if_neg Bool.false_ne_true, ← firstMisfit?]
        simp only [bind, Except.bind, ih]
        cases firstMisfit? n rest with
        | none => rfl
        | some i =>
            simp only [Option.map_some, List.getD_cons_succ]
            rw [Nat.add_right_comm, Nat.add_assoc]
      · have hmisfit : (cells.length != n) = true := by simpa using hlen
        rw [if_neg hlen, hmisfit, if_pos rfl]
        rfl

theorem firstMisfit?_eq_none_iff (n : Nat) (rows : List (List (Option String))) :
    firstMisfit? n rows = none ↔ ∀ row ∈ rows, row.length = n := by
  simp [firstMisfit?, List.findIdx?_eq_none_iff]

theorem cellTexts_length_of_fit {n : Nat} {rows : List (List (Option String))}
    (h : firstMisfit? n rows = none) : ∀ cells ∈ rows.map cellTexts, cells.length = n := by
  intro cells hcells
  obtain ⟨row, hrow, rfl⟩ := List.mem_map.mp hcells
  rw [cellTexts, List.length_map]
  exact (firstMisfit?_eq_none_iff n rows).mp h row hrow

theorem stripSuffix?_eq_none_iff (s suffix : String) :
    Text.stripSuffix? s suffix = none ↔ Text.endsWith s suffix = false := by
  unfold Text.stripSuffix? Text.endsWith
  cases suffix.toList.isSuffixOf s.toList <;> simp

theorem endsWith_of_stripSuffix? {s suffix base : String}
    (h : Text.stripSuffix? s suffix = some base) : Text.endsWith s suffix = true := by
  unfold Text.stripSuffix? at h
  unfold Text.endsWith
  split at h
  · assumption
  · cases h

theorem column_role_beq_key (mk : Markers) (name : String) :
    ((mk.column name).role == .key) = Text.endsWith name mk.key := by
  unfold Markers.column
  cases hk : Text.stripSuffix? name mk.key with
  | some base => simp [endsWith_of_stripSuffix? hk]
  | none =>
      rw [(stripSuffix?_eq_none_iff name mk.key).mp hk]
      cases mk.rateField? name <;> rfl

theorem column_role_beq_delta (mk : Markers) (name : String) :
    ((mk.column name).role == .delta) = mk.isDeltaColumn name := by
  unfold Markers.column Markers.isDeltaColumn Markers.rateField?
  cases hk : Text.stripSuffix? name mk.key with
  | some base => simp [endsWith_of_stripSuffix? hk]
  | none =>
      rw [(stripSuffix?_eq_none_iff name mk.key).mp hk]
      cases hd : Text.stripSuffix? name mk.delta with
      | some base => simp [endsWith_of_stripSuffix? hd]
      | none => simp [(stripSuffix?_eq_none_iff name mk.delta).mp hd]

theorem hasRole_plan_key (mk : Markers) (columns : List String) :
    hasRole (mk.plan columns) .key = columns.any (Text.endsWith · mk.key) := by
  simp only [hasRole, Markers.plan, List.any_map, Function.comp_def, column_role_beq_key]

theorem hasRole_plan_delta (mk : Markers) (columns : List String) :
    hasRole (mk.plan columns) .delta = columns.any mk.isDeltaColumn := by
  simp only [hasRole, Markers.plan, List.any_map, Function.comp_def, column_role_beq_delta]

theorem exists_mem_zip_of_mem {α β : Type} {a : α} {l : List α} {l' : List β} (ha : a ∈ l)
    (hlen : l'.length = l.length) : ∃ b, (a, b) ∈ l.zip l' := by
  induction l generalizing l' with
  | nil => exact absurd ha List.not_mem_nil
  | cons x xs ih =>
      cases l' with
      | nil => simp at hlen
      | cons y ys =>
          rcases List.mem_cons.mp ha with rfl | ha
          · exact ⟨y, List.mem_cons_self⟩
          · obtain ⟨b, hb⟩ := ih ha (by simpa using hlen)
            exact ⟨b, List.mem_cons_of_mem _ hb⟩

theorem rowKey?_eq_some_keyText {mk : Markers} {columns cells : List String}
    (hkey : columns.any (Text.endsWith · mk.key) = true) (hlen : cells.length = columns.length) :
    mk.rowKey? columns cells = some (mk.keyText columns cells) := by
  obtain ⟨c, hc, hK⟩ := List.any_eq_true.mp hkey
  obtain ⟨x, hx⟩ := exists_mem_zip_of_mem hc hlen
  have hmem : x ∈ ((columns.zip cells).filter fun p => mk.isKeyColumn p.1).map (·.2) :=
    List.mem_map.mpr ⟨(c, x), List.mem_filter.mpr ⟨hx, hK⟩, rfl⟩
  have hne : (((columns.zip cells).filter fun p => mk.isKeyColumn p.1).map (·.2)).isEmpty =
      false :=
    List.isEmpty_eq_false_iff_exists_mem.mpr ⟨x, hmem⟩
  simp only [Markers.rowKey?, hne]
  rfl

theorem rowKeyOf_of_check {mk : Markers} {query : Nat} {columns cells : List String}
    (hcheck : ¬(columns.any mk.isDeltaColumn && !columns.any (Text.endsWith · mk.key)) = true)
    (hlen : cells.length = columns.length) :
    rowKeyOf mk query (columns.any mk.isDeltaColumn) columns cells =
      .ok (if columns.any mk.isDeltaColumn then some (mk.keyText columns cells) else none) := by
  unfold rowKeyOf
  cases hdelta : columns.any mk.isDeltaColumn with
  | false => rfl
  | true =>
      have hkey : columns.any (Text.endsWith · mk.key) = true := by simpa [hdelta] using hcheck
      rw [if_pos rfl, if_pos rfl, rowKey?_eq_some_keyText hkey hlen]

theorem ofColumn_column (mk : Markers) (rowKey : Option String) (name raw : String) :
    Action.ofColumn rowKey (mk.column name, raw) =
      columnAction mk (match rowKey with
        | some k => k ++ name
        | none => name) name raw := by
  unfold Markers.column columnAction
  cases hk : Text.stripSuffix? name mk.key with
  | some base => rfl
  | none =>
      unfold Markers.rateField?
      cases hd : Text.stripSuffix? name mk.delta with
      | some base =>
          cases rowKey <;> rfl
      | none => rfl

theorem columnAction_of_not_delta (mk : Markers) {name : String} (series series' raw : String)
    (h : mk.isDeltaColumn name = false) :
    columnAction mk series name raw = columnAction mk series' name raw := by
  unfold columnAction
  cases hk : Text.stripSuffix? name mk.key with
  | some base => rfl
  | none =>
      cases hd : Text.stripSuffix? name mk.delta with
      | none => rfl
      | some base =>
          have hkey := (stripSuffix?_eq_none_iff name mk.key).mp hk
          simp [Markers.isDeltaColumn, hkey, endsWith_of_stripSuffix? hd] at h

theorem plan_actions (mk : Markers) (rowKey : Option String) (columns cells : List String) :
    ((mk.plan columns).zip cells).map (Action.ofColumn rowKey) =
      rowActions mk (fun name => match rowKey with
        | some k => k ++ name
        | none => name) columns cells := by
  rw [Markers.plan, List.zip_map_left, List.map_map, rowActions]
  apply List.map_congr_left
  intro p _
  exact ofColumn_column mk rowKey p.1 p.2

theorem plan_actions_none (mk : Markers) (columns cells : List String) :
    ((mk.plan columns).zip cells).map (Action.ofColumn none) = rowActions mk id columns cells :=
  plan_actions mk none columns cells

/-- The description of a dispatch: its error, or the play of its actions. -/
def describe (mk : Markers) (q : Query) (rs : ResultSet) (time : Timestamp) (store : RateStore) :
    Assembled :=
  match dispatchError? mk q rs with
  | some e => pure (.error e)
  | none => .ok <$> play q.mode time (actions mk q.mode rs) store

theorem play_singleton (mode : QueryMode) (time : Timestamp) (acts : List (Action String))
    (store : RateStore) :
    play mode time [acts] store =
      (fun vs => let (s, r) := vs.foldl (Action.apply time) (store, Record.empty mode time)
        (s, nonEmpty r)) <$> acts.mapM Action.read := by
  unfold play
  rw [List.mapM_cons, List.mapM_nil]
  cases acts.mapM Action.read with
  | error e => rfl
  | ok vs => simp [build]

theorem assemble_singleRow (mk : Markers) {q : Query} (hq : q.mode = .singleRow) (rs : ResultSet)
    (time : Timestamp) (store : RateStore) :
    Query.assemble mk q rs time store = describe mk q rs time store := by
  unfold Query.assemble describe dispatchError? actions
  rw [hq]
  simp only [singleRow]
  cases rs.rows with
  | nil => rfl
  | cons first rest =>
      simp only [decodeRow_eq, List.map_cons, List.take_succ_cons, List.take_zero, List.map_nil]
      by_cases hlen : first.length = rs.columns.length
      · simp only [if_pos hlen]
        rw [row_eq, plan_actions_none, play_singleton]
        cases (rowActions mk id rs.columns (cellTexts first)).mapM Action.read with
        | error e => rfl
        | ok vs => rfl
      · simp only [if_neg hlen]

theorem rowActions_of_no_delta (mk : Markers) {columns : List String}
    (h : columns.any mk.isDeltaColumn = false) (series series' : String → String)
    (cells : List String) :
    rowActions mk series columns cells = rowActions mk series' columns cells := by
  apply List.map_congr_left
  intro p hp
  apply columnAction_of_not_delta
  have hmem : p.1 ∈ columns := (List.of_mem_zip hp).1
  simpa using List.any_eq_false.mp h p.1 hmem

theorem assemble_multipleRows (mk : Markers) {q : Query} (hq : q.mode = .multipleRows)
    (rs : ResultSet) (time : Timestamp) (store : RateStore) :
    Query.assemble mk q rs time store = describe mk q rs time store := by
  unfold Query.assemble describe dispatchError? actions
  rw [hq]
  simp only [multipleRows, hasRole_plan_delta, hasRole_plan_key]
  split
  · rfl
  · rename_i hcheck
    rw [decodeRows_eq]
    cases hfit : firstMisfit? rs.columns.length rs.rows with
    | some i => simp only [Nat.zero_add, Option.map_some]
    | none =>
        simp only [Option.map_none]
        rw [eachRow_eq _ _ _ _ _ fun cells hcells =>
          rowKeyOf_of_check hcheck (cellTexts_length_of_fit hfit cells hcells)]
        -- the plan's key is the joined key cells exactly when a delta column needs it
        have hacts : (rs.rows.map cellTexts).map (fun cells =>
              ((mk.plan rs.columns).zip cells).map (Action.ofColumn
                (if rs.columns.any mk.isDeltaColumn = true then
                  some (mk.keyText rs.columns cells) else none))) =
            (rs.rows.map cellTexts).map (fun cells =>
              rowActions mk (mk.keyText rs.columns cells ++ ·) rs.columns cells) := by
          apply List.map_congr_left
          intro cells _
          cases hdelta : rs.columns.any mk.isDeltaColumn with
          | true =>
              rw [if_pos rfl]
              exact plan_actions mk _ rs.columns cells
          | false =>
              rw [if_neg Bool.false_ne_true, plan_actions_none]
              exact rowActions_of_no_delta mk hdelta _ _ cells
        rw [hacts]

theorem assemble_twoColumns (mk : Markers) {q : Query} (hq : q.mode = .twoColumns)
    (rs : ResultSet) (time : Timestamp) (store : RateStore) :
    Query.assemble mk q rs time store = describe mk q rs time store := by
  unfold Query.assemble describe dispatchError? actions
  rw [hq]
  simp only [twoColumns, List.isEmpty_map]
  by_cases hempty : rs.rows.isEmpty = true
  · simp only [if_pos hempty]
    rfl
  · simp only [if_neg hempty]
    by_cases hnarrow : rs.columns.length < 2
    · simp only [if_pos hnarrow]
    · simp only [if_neg hnarrow]
      rw [decodeRows_eq]
      cases hfit : firstMisfit? rs.columns.length rs.rows with
      | some i => simp only [Nat.zero_add, Option.map_some]
      | none =>
          simp only [Option.map_none]
          -- every checked row is as wide as the columns, so it has a name and a value
          have hpairs : ∀ cells ∈ rs.rows.map cellTexts, 2 ≤ cells.length := by
            intro cells hcells
            rw [cellTexts_length_of_fit hfit cells hcells]
            omega
          rw [pairs_eq _ _ _ _ hpairs, play_singleton]
          cases ((rs.rows.map cellTexts).filterMap (Action.ofPair mk)).mapM Action.read <;> rfl

theorem delayIndex_lt {α : Type} {columns : List String} {cells : List α} {i : Nat}
    (hi : columns.idxOf? delayColumn = some i) (hlen : cells.length = columns.length) :
    i < cells.length :=
  hlen ▸ (List.idxOf?_eq_some_iff.mp hi).1

theorem assemble_showSlaveDelay {q : Query} (mk : Markers) (hq : q.mode = .showSlaveDelay)
    (rs : ResultSet) (time : Timestamp) (store : RateStore) :
    Query.assemble mk q rs time store = describe mk q rs time store := by
  unfold Query.assemble describe dispatchError? actions
  rw [hq]
  simp only [slaveDelay]
  cases rs.rows with
  | nil => rfl
  | cons first rest =>
      simp only [decodeRow_eq, List.map_cons, List.take_succ_cons, List.take_zero, List.map_nil]
      by_cases hlen : first.length = rs.columns.length
      · simp only [if_pos hlen]
        rw [play_singleton]
        cases hidx : rs.columns.idxOf? delayColumn with
        | none => rfl
        | some i =>
            -- the delay column is a column, so the first row, as wide, has its cell
            have hi : i < (cellTexts first).length :=
              delayIndex_lt hidx (by rw [cellTexts, List.length_map, hlen])
            simp only [cellAt_of_lt hi, pure_bind, List.mapM_cons, List.mapM_nil, Action.read]
            cases Value.infer ((cellTexts first).getD i "") <;> rfl
      · simp only [if_neg hlen]

/-- A dispatch is its description, on every input and every store. -/
theorem assemble_eq (mk : Markers) (q : Query) (rs : ResultSet) (time : Timestamp)
    (store : RateStore) :
    Query.assemble mk q rs time store = describe mk q rs time store := by
  cases hq : q.mode with
  | singleRow => exact assemble_singleRow mk hq rs time store
  | multipleRows => exact assemble_multipleRows mk hq rs time store
  | twoColumns => exact assemble_twoColumns mk hq rs time store
  | showSlaveDelay => exact assemble_showSlaveDelay mk hq rs time store

end Assemble

end RowMetrics
