import RowMetrics.Proofs.DispatchSuccess
import RowMetrics.Proofs.DispatchErrors

/-!
Rows of a multiple-rows result in isolation. A row's delta cells are observed under the row's
key followed by the column name, and the key joins the key cells with nothing between them, so
two rows with different key cells can still share a series (`"ab" ++ "c"` and `"a" ++ "bc"`).
What keeps the rows apart is that no series is observed by two rows: then every row's record
is the one record the row gives alone from the same store, the store at the end is the same
map whatever the order of the rows, and running the rows alone one after another ends with that
map too.
-/

namespace RowMetrics

theorem mapM_perm {ε α β : Type} {f : α → Except ε β} {l l' : List α} {out : List β}
    (hp : l'.Perm l) (h : l.mapM f = .ok out) :
    ∃ out', l'.mapM f = .ok out' ∧ out'.Perm out := by
  induction hp generalizing out with
  | nil =>
      cases h
      exact ⟨[], rfl, .nil⟩
  | cons x _ ih =>
      obtain ⟨b, rest, hb, hrest, rfl⟩ := mapM_cons_eq_ok.mp h
      obtain ⟨rest', h', hperm⟩ := ih hrest
      exact ⟨b :: rest', mapM_cons_eq_ok.mpr ⟨b, rest', hb, h', rfl⟩, hperm.cons b⟩
  | swap x y l =>
      obtain ⟨bx, rest, hx, hrest, rfl⟩ := mapM_cons_eq_ok.mp h
      obtain ⟨b₂, more, hy, hmore, rfl⟩ := mapM_cons_eq_ok.mp hrest
      have hxl : (x :: l).mapM f = .ok (bx :: more) := mapM_cons_eq_ok.mpr ⟨bx, more, hx, hmore, rfl⟩
      exact ⟨b₂ :: bx :: more, mapM_cons_eq_ok.mpr ⟨b₂, bx :: more, hy, hxl, rfl⟩, .swap bx b₂ more⟩
  | trans _ _ ih₁ ih₂ =>
      obtain ⟨out₂, h₂, hp₂⟩ := ih₂ h
      obtain ⟨out₁, h₁, hp₁⟩ := ih₁ h₂
      exact ⟨out₁, h₁, hp₁.trans hp₂⟩

theorem or_comm_of_none {α : Type} {a b : Option α} (h : a = none ∨ b = none) :
    a.or b = b.or a := by
  rcases h with rfl | rfl
  · rw [Option.none_or, Option.or_none]
  · rw [Option.none_or, Option.or_none]

theorem lookup_reverse_flatten_perm {β : Type} {blocks blocks' : List (List (String × β))}
    (hp : blocks'.Perm blocks) (hdisj : (blocks.map (·.map Prod.fst)).Pairwise List.Disjoint)
    (k : String) :
    blocks'.flatten.reverse.lookup k = blocks.flatten.reverse.lookup k := by
  induction hp with
  | nil => rfl
  | cons x _ ih =>
      rw [List.map_cons, List.pairwise_cons] at hdisj
      simp only [List.flatten_cons, List.reverse_append, List.lookup_append]
      rw [ih hdisj.2]
  | swap x y l =>
      rw [List.map_cons, List.map_cons, List.pairwise_cons, List.pairwise_cons] at hdisj
      have hxy : List.Disjoint (x.map Prod.fst) (y.map Prod.fst) :=
        hdisj.1 _ List.mem_cons_self
      have hnone : x.reverse.lookup k = none ∨ y.reverse.lookup k = none := by
        by_cases hk : k ∈ x.map Prod.fst
        · right
          rw [RateStore.lookup_eq_none_iff, List.map_reverse, List.mem_reverse]
          exact fun hy => hxy hk hy
        · left
          rw [RateStore.lookup_eq_none_iff, List.map_reverse, List.mem_reverse]
          exact hk
      simp only [List.flatten_cons, List.reverse_append, List.lookup_append, Option.or_assoc]
      rw [or_comm_of_none hnone]
  | trans _ h₂ ih₁ ih₂ =>
      have hdisj₂ := (h₂.map (·.map Prod.fst)).symm.pairwise hdisj List.Disjoint.symm
      rw [ih₁ hdisj₂, ih₂ hdisj]

namespace Record

theorem insertSorted_ne_nil (name : String) (v : Value) (fields : List (String × Value)) :
    insertSorted name v fields ≠ [] := by
  cases fields with
  | nil => exact List.cons_ne_nil _ _
  | cons f rest =>
      obtain ⟨k, w⟩ := f
      unfold insertSorted
      split
      · exact List.cons_ne_nil _ _
      · split
        · exact List.cons_ne_nil _ _
        · exact List.cons_ne_nil _ _

theorem insert_isEmpty (r : Record) (name : String) (v : Value) :
    (r.insert name v).isEmpty = false :=
  List.isEmpty_eq_false_iff.mpr (insertSorted_ne_nil name v r.fields)

end Record

namespace Assemble

theorem build_cons (mode : QueryMode) (time : Timestamp) (acts : List (Action Value))
    (rest : List (List (Action Value))) (store : RateStore) :
    build mode time (acts :: rest) store =
      ((build mode time rest (build mode time [acts] store).1).1,
        (build mode time [acts] store).2 ++ (build mode time rest (build mode time [acts] store).1).2) := by
  show _ = (_, nonEmpty _ ++ [] ++ _)
  rw [List.append_nil]
  rfl

def seriesOf (acts : List (Action Value)) : List String :=
  (acts.filterMap Action.observed?).map Prod.fst

theorem build_singleton_snd_congr (mode : QueryMode) (time : Timestamp) (acts : List (Action Value))
    {s s' : RateStore} (h : ∀ p ∈ acts.filterMap Action.observed?, s.get? p.1 = s'.get? p.1) :
    (build mode time [acts] s).2 = (build mode time [acts] s').2 := by
  show nonEmpty _ ++ [] = nonEmpty _ ++ []
  rw [foldl_apply_snd_congr time acts (Record.empty mode time) h]

/-- Records built one after another, no two observing a common series, are each the record its
actions build alone from the first store. -/
theorem build_snd_of_disjoint (mode : QueryMode) (time : Timestamp) {actss : List (List (Action Value))}
    (hdisj : (actss.map seriesOf).Pairwise List.Disjoint) (store : RateStore) :
    (build mode time actss store).2 = actss.flatMap fun acts => (build mode time [acts] store).2 := by
  induction actss generalizing store with
  | nil => rfl
  | cons acts rest ih =>
      rw [List.map_cons, List.pairwise_cons] at hdisj
      obtain ⟨hfirst, hrest⟩ := hdisj
      -- the later records read the store only at series the first one leaves alone
      have hlater : ∀ acts' ∈ rest,
          (build mode time [acts'] (build mode time [acts] store).1).2 =
            (build mode time [acts'] store).2 := by
        intro acts' hacts'
        apply build_singleton_snd_congr
        intro p hp
        show (acts.foldl (Action.apply time) (store, Record.empty mode time)).1.get? p.1 = _
        rw [foldl_apply_fst]
        apply get?_setAll_of_not_mem
        exact fun hmem => hfirst (seriesOf acts') (List.mem_map_of_mem hacts') hmem
          (List.mem_map_of_mem hp)
      rw [build_cons]
      dsimp only
      rw [ih hrest, List.flatMap_cons, List.flatMap_congr hlater]

/-- Built from actions no two of which observe a common series, the store at the end is the
same map in every order of the actions. -/
theorem get?_build_perm (mode : QueryMode) (time : Timestamp)
    {actss actss' : List (List (Action Value))} (hp : actss'.Perm actss)
    (hdisj : (actss.map seriesOf).Pairwise List.Disjoint) (store : RateStore) (k : String) :
    (build mode time actss' store).1.get? k = (build mode time actss store).1.get? k := by
  have hblocks : ((actss.map (·.filterMap Action.observed?)).map (·.map Prod.fst)).Pairwise
      List.Disjoint := by
    rw [List.map_map]
    exact hdisj
  rw [build_fst, build_fst, get?_setAll, get?_setAll, List.flatMap_def, List.flatMap_def,
    lookup_reverse_flatten_perm (hp.map _) hblocks]

/-- The actions of one row of a multiple-rows result: each delta cell is observed under the
row's key followed by the column name. -/
def rowPlan (mk : Markers) (columns : List String) (row : List (Option String)) :
    List (Action String) :=
  rowActions mk (mk.keyText columns (cellTexts row) ++ ·) columns (cellTexts row)

/-- The series a row of a multiple-rows result observes. -/
def rowSeries (mk : Markers) (columns : List String) (row : List (Option String)) :
    List String :=
  (deltaCells mk .multipleRows ⟨columns, [row]⟩).map Prod.fst

theorem actions_multipleRows (mk : Markers) (rs : ResultSet) :
    actions mk .multipleRows rs = rs.rows.map (rowPlan mk rs.columns) := by
  rw [actions, List.map_map]
  rfl

theorem seriesOf_read {mk : Markers} {columns : List String} {row : List (Option String)}
    {vs : List (Action Value)} (h : (rowPlan mk columns row).mapM Action.read = .ok vs) :
    seriesOf vs = rowSeries mk columns row := by
  rw [seriesOf, mapM_readObserved_keys (mapM_read_observed h), rowSeries, deltaCells_eq,
    actions_multipleRows, List.map_singleton, List.flatMap_singleton]

section Checked

variable {mk : Markers} {q : Query} {rs : ResultSet}

theorem dispatchError?_multipleRows (hq : q.mode = .multipleRows)
    (hkey : rs.columns.any (Text.endsWith · mk.key) = true)
    (hwidth : ∀ row ∈ rs.rows, row.length = rs.columns.length) :
    dispatchError? mk q rs = none := by
  have hfit : firstMisfit? rs.columns.length rs.rows = none :=
    (firstMisfit?_eq_none_iff _ _).mpr hwidth
  simp only [dispatchError?, hq, hkey, Bool.not_true, Bool.and_false, Bool.false_eq_true,
    if_false, hfit, Option.map_none]

theorem assemble_multipleRows_ok (time : Timestamp) (store : RateStore)
    (hq : q.mode = .multipleRows) (hkey : rs.columns.any (Text.endsWith · mk.key) = true)
    (hwidth : ∀ row ∈ rs.rows, row.length = rs.columns.length) {vss : List (List (Action Value))}
    (hread : (rs.rows.map (rowPlan mk rs.columns)).mapM (·.mapM Action.read) = .ok vss) :
    Query.assemble mk q rs time store = .ok (.ok (build .multipleRows time vss store)) := by
  rw [assemble_eq, describe, dispatchError?_multipleRows hq hkey hwidth, hq,
    actions_multipleRows, play, hread]
  rfl

theorem multipleRows_read {time : Timestamp} {store : RateStore}
    {out : RateStore × List Record}
    (hq : q.mode = .multipleRows) (hkey : rs.columns.any (Text.endsWith · mk.key) = true)
    (hwidth : ∀ row ∈ rs.rows, row.length = rs.columns.length)
    (h : Query.assemble mk q rs time store = .ok (.ok out)) :
    ∃ vss, (rs.rows.map (rowPlan mk rs.columns)).mapM (·.mapM Action.read) = .ok vss ∧
      build .multipleRows time vss store = out := by
  rw [assemble_eq, describe, dispatchError?_multipleRows hq hkey hwidth, hq,
    actions_multipleRows] at h
  obtain ⟨out', hplay, hout⟩ := except_map_eq_ok.mp h
  cases hout
  exact except_map_eq_ok.mp hplay

theorem rowPlan_has_field {columns : List String} {row : List (Option String)}
    (hkey : columns.any (Text.endsWith · mk.key) = true) (hlen : row.length = columns.length) :
    ∃ name raw, Action.field name raw ∈ rowPlan mk columns row := by
  obtain ⟨c, hc, hK⟩ := List.any_eq_true.mp hkey
  have hcells : (cellTexts row).length = columns.length := by
    rw [cellTexts, List.length_map, hlen]
  obtain ⟨x, hx⟩ := exists_mem_zip_of_mem hc hcells
  obtain ⟨base, hbase⟩ : ∃ base, Text.stripSuffix? c mk.key = some base := by
    cases hs : Text.stripSuffix? c mk.key with
    | none =>
        rw [(stripSuffix?_eq_none_iff c mk.key).mp hs] at hK
        cases hK
    | some base => exact ⟨base, rfl⟩
  refine ⟨base, x, List.mem_map.mpr ⟨(c, x), hx, ?_⟩⟩
  simp only [columnAction, hbase]

end Checked

theorem mapM_read_field {acts : List (Action String)} {vs : List (Action Value)}
    (h : acts.mapM Action.read = .ok vs) {name raw : String} (hmem : Action.field name raw ∈ acts) :
    ∃ v, Action.field name v ∈ vs := by
  induction acts generalizing vs with
  | nil => cases hmem
  | cons a rest ih =>
      obtain ⟨b, more, hb, hrest, rfl⟩ := mapM_cons_eq_ok.mp h
      rcases List.mem_cons.mp hmem with rfl | hmem
      · obtain ⟨v, -, rfl⟩ := except_map_eq_ok.mp hb
        exact ⟨v, List.mem_cons_self⟩
      · obtain ⟨v, hv⟩ := ih hrest hmem
        exact ⟨v, List.mem_cons_of_mem b hv⟩

theorem foldl_apply_isEmpty (time : Timestamp) (acts : List (Action Value)) (store : RateStore)
    (record : Record) (h : record.isEmpty = false ∨ ∃ name v, Action.field name v ∈ acts) :
    (acts.foldl (Action.apply time) (store, record)).2.isEmpty = false := by
  induction acts generalizing store record with
  | nil =>
      rcases h with h | ⟨_, _, hmem⟩
      · exact h
      · cases hmem
  | cons a rest ih =>
      cases a with
      | field name v => exact ih store _ (.inl (Record.insert_isEmpty record name v))
      | rate name series v =>
          simp only [List.foldl_cons, Action.apply]
          apply ih
          rcases h with h | ⟨n, w, hmem⟩
          · left
            split
            · exact Record.insert_isEmpty record name _
            · exact h
          · right
            refine ⟨n, w, ?_⟩
            rcases List.mem_cons.mp hmem with hfield | hmem
            · cases hfield
            · exact hmem

theorem build_singleton_record {mk : Markers} {columns : List String} {row : List (Option String)}
    (hkey : columns.any (Text.endsWith · mk.key) = true) (hlen : row.length = columns.length)
    {vs : List (Action Value)} (hread : (rowPlan mk columns row).mapM Action.read = .ok vs)
    (time : Timestamp) (store : RateStore) :
    ∃ r, (build .multipleRows time [vs] store).2 = [r] := by
  obtain ⟨name, raw, hmem⟩ := rowPlan_has_field hkey hlen
  obtain ⟨v, hv⟩ := mapM_read_field hread hmem
  have hne := foldl_apply_isEmpty time vs store (Record.empty .multipleRows time)
    (.inr ⟨name, v, hv⟩)
  refine ⟨(vs.foldl (Action.apply time) (store, Record.empty .multipleRows time)).2, ?_⟩
  show nonEmpty _ ++ [] = _
  rw [nonEmpty, hne]
  rfl

/-- Dispatches the one-row results of `rows`, each under `columns`, one after another from
`store`, threading the store and gathering the records; the first error or fault stops it. -/
def assembleOneByOne (mk : Markers) (q : Query) (columns : List String) (time : Timestamp) :
    List (List (Option String)) → RateStore → Assembled
  | [], store => pure (.ok (store, []))
  | row :: rest, store => do
    match ← Query.assemble mk q ⟨columns, [row]⟩ time store with
    | .error e => pure (.error e)
    | .ok (store, records) =>
      match ← assembleOneByOne mk q columns time rest store with
      | .error e => pure (.error e)
      | .ok (store, more) => pure (.ok (store, records ++ more))

/-- `r` is the one record that `row` gives alone under `columns`, dispatched from `store`. -/
def RecordAlone (mk : Markers) (q : Query) (columns : List String) (time : Timestamp)
    (store : RateStore) (row : List (Option String)) (r : Record) : Prop :=
  ∃ s, Query.assemble mk q ⟨columns, [row]⟩ time store = .ok (.ok (s, [r]))

section Rows

variable {mk : Markers} {q : Query} {columns : List String}

theorem seriesOf_reads {rows : List (List (Option String))} {vss : List (List (Action Value))}
    (hread : (rows.map (rowPlan mk columns)).mapM (·.mapM Action.read) = .ok vss) :
    vss.map seriesOf = rows.map (rowSeries mk columns) := by
  induction rows generalizing vss with
  | nil =>
      cases hread
      rfl
  | cons row rest ih =>
      rw [List.map_cons] at hread
      obtain ⟨vs, more, hvs, hmore, rfl⟩ := mapM_cons_eq_ok.mp hread
      rw [List.map_cons, List.map_cons, seriesOf_read hvs, ih hmore]

theorem assemble_row_ok (time : Timestamp) (store : RateStore) (hq : q.mode = .multipleRows)
    (hkey : columns.any (Text.endsWith · mk.key) = true) {row : List (Option String)}
    (hlen : row.length = columns.length) {vs : List (Action Value)}
    (hread : (rowPlan mk columns row).mapM Action.read = .ok vs) :
    Query.assemble mk q ⟨columns, [row]⟩ time store =
      .ok (.ok (build .multipleRows time [vs] store)) := by
  have hwidth : ∀ r ∈ [row], r.length = columns.length := List.forall_mem_singleton.mpr hlen
  have hreads : ([row].map (rowPlan mk columns)).mapM (·.mapM Action.read) = .ok [vs] := by
    rw [List.map_singleton]
    exact mapM_cons_eq_ok.mpr ⟨vs, [], hread, rfl, rfl⟩
  exact assemble_multipleRows_ok time store hq hkey hwidth hreads

theorem row_read {time : Timestamp} {store : RateStore} (hq : q.mode = .multipleRows)
    (hkey : columns.any (Text.endsWith · mk.key) = true) {row : List (Option String)}
    (hlen : row.length = columns.length) {out : RateStore × List Record}
    (h : Query.assemble mk q ⟨columns, [row]⟩ time store = .ok (.ok out)) :
    ∃ vs, (rowPlan mk columns row).mapM Action.read = .ok vs := by
  have hwidth : ∀ r ∈ [row], r.length = columns.length := List.forall_mem_singleton.mpr hlen
  obtain ⟨vss, hread, -⟩ := multipleRows_read hq hkey hwidth h
  obtain ⟨vs, -, hvs, -, -⟩ := mapM_cons_eq_ok.mp hread
  exact ⟨vs, hvs⟩

theorem assembleOneByOne_eq (time : Timestamp) (hq : q.mode = .multipleRows)
    (hkey : columns.any (Text.endsWith · mk.key) = true) {rows : List (List (Option String))}
    (hwidth : ∀ row ∈ rows, row.length = columns.length) {vss : List (List (Action Value))}
    (hread : (rows.map (rowPlan mk columns)).mapM (·.mapM Action.read) = .ok vss)
    (store : RateStore) :
    assembleOneByOne mk q columns time rows store =
      .ok (.ok (build .multipleRows time vss store)) := by
  induction rows generalizing store vss with
  | nil =>
      cases hread
      rfl
  | cons row rest ih =>
      rw [List.map_cons] at hread
      obtain ⟨vs, more, hvs, hmore, rfl⟩ := mapM_cons_eq_ok.mp hread
      have hone := assemble_row_ok time store hq hkey (hwidth row List.mem_cons_self) hvs
      rcases hb : build .multipleRows time [vs] store with ⟨s₁, recs⟩
      have hrest := ih (fun r hr => hwidth r (List.mem_cons_of_mem row hr)) hmore s₁
      rw [assembleOneByOne, hone, hb, build_cons, hb]
      simp only [bind, Except.bind, hrest]
      rfl

theorem forall₂_recordAlone (time : Timestamp) (store : RateStore) (hq : q.mode = .multipleRows)
    (hkey : columns.any (Text.endsWith · mk.key) = true) {rows : List (List (Option String))}
    (hwidth : ∀ row ∈ rows, row.length = columns.length) {vss : List (List (Action Value))}
    (hread : (rows.map (rowPlan mk columns)).mapM (·.mapM Action.read) = .ok vss) :
    List.Forall₂ (RecordAlone mk q columns time store) rows
      (vss.flatMap fun vs => (build .multipleRows time [vs] store).2) := by
  induction rows generalizing vss with
  | nil =>
      cases hread
      exact .nil
  | cons row rest ih =>
      rw [List.map_cons] at hread
      obtain ⟨vs, more, hvs, hmore, rfl⟩ := mapM_cons_eq_ok.mp hread
      have hlen := hwidth row List.mem_cons_self
      obtain ⟨r, hr⟩ := build_singleton_record hkey hlen hvs time store
      have hrow : RecordAlone mk q columns time store row r := by
        refine ⟨(build .multipleRows time [vs] store).1, ?_⟩
        rw [assemble_row_ok time store hq hkey hlen hvs, ← hr]
      rw [List.flatMap_cons, hr]
      exact .cons hrow (ih (fun r hr => hwidth r (List.mem_cons_of_mem row hr)) hmore)

theorem forall₂_recordAlone_build (time : Timestamp) (store : RateStore)
    (hq : q.mode = .multipleRows) (hkey : columns.any (Text.endsWith · mk.key) = true)
    {rows : List (List (Option String))} (hwidth : ∀ row ∈ rows, row.length = columns.length)
    (hdisj : (rows.map (rowSeries mk columns)).Pairwise List.Disjoint)
    {vss : List (List (Action Value))}
    (hread : (rows.map (rowPlan mk columns)).mapM (·.mapM Action.read) = .ok vss) :
    List.Forall₂ (RecordAlone mk q columns time store) rows
      (build .multipleRows time vss store).2 := by
  have hseries : (vss.map seriesOf).Pairwise List.Disjoint := by
    rw [seriesOf_reads hread]
    exact hdisj
  rw [build_snd_of_disjoint .multipleRows time hseries store]
  exact forall₂_recordAlone time store hq hkey hwidth hread

end Rows

section Checked

variable {mk : Markers} {q : Query} {rs : ResultSet}

theorem reorder_read {time : Timestamp} {store : RateStore} (hq : q.mode = .multipleRows)
    (hkey : rs.columns.any (Text.endsWith · mk.key) = true)
    (hwidth : ∀ row ∈ rs.rows, row.length = rs.columns.length)
    (hdisj : (rs.rows.map (rowSeries mk rs.columns)).Pairwise List.Disjoint)
    {rows' : List (List (Option String))} (hp : rows'.Perm rs.rows) {store' : RateStore}
    {records : List Record} (h : Query.assemble mk q rs time store = .ok (.ok (store', records))) :
    ∃ vss', (rows'.map (rowPlan mk rs.columns)).mapM (·.mapM Action.read) = .ok vss' ∧
      ∀ k, (build .multipleRows time vss' store).1.get? k = store'.get? k := by
  obtain ⟨vss, hread, hbuild⟩ := multipleRows_read hq hkey hwidth h
  obtain ⟨vss', hread', hperm⟩ := mapM_perm (hp.map _) hread
  have hseries : (vss.map seriesOf).Pairwise List.Disjoint := by
    rw [seriesOf_reads hread]
    exact hdisj
  have hstore : store' = (build .multipleRows time vss store).1 := by rw [hbuild]
  refine ⟨vss', hread', fun k => ?_⟩
  rw [hstore]
  exact get?_build_perm .multipleRows time hperm hseries store k

end Checked

/-- What a multiple-rows dispatch of a result owes to its rows taken alone. The store is a map,
so two stores are the same when they agree at every series. -/
structure RowsIsolated (mk : Markers) (q : Query) (rs : ResultSet) (time : Timestamp)
    (store : RateStore) : Prop where
  /-- The result gives records exactly when each row alone does. -/
  ok_iff : (∃ out, Query.assemble mk q rs time store = .ok (.ok out)) ↔
    ∀ row ∈ rs.rows, ∃ out, Query.assemble mk q ⟨rs.columns, [row]⟩ time store = .ok (.ok out)
  /-- Each row's record is the one record the row gives alone from the same store. -/
  records_alone : ∀ store' records,
    Query.assemble mk q rs time store = .ok (.ok (store', records)) →
    List.Forall₂ (RecordAlone mk q rs.columns time store) rs.rows records
  /-- Running the rows alone one after another, in any order, ends with the same map. -/
  one_by_one : ∀ store' records rows', rows'.Perm rs.rows →
    Query.assemble mk q rs time store = .ok (.ok (store', records)) →
    ∃ store'' records', assembleOneByOne mk q rs.columns time rows' store =
      .ok (.ok (store'', records')) ∧ ∀ k, store''.get? k = store'.get? k
  /-- Reordering the rows reorders the records the same way and ends with the same map. -/
  reorder : ∀ store' records rows', rows'.Perm rs.rows →
    Query.assemble mk q rs time store = .ok (.ok (store', records)) →
    ∃ store'' records', Query.assemble mk q ⟨rs.columns, rows'⟩ time store =
      .ok (.ok (store'', records')) ∧ (∀ k, store''.get? k = store'.get? k) ∧
      List.Forall₂ (RecordAlone mk q rs.columns time store) rows' records'

/-- A multiple-rows result with a key column, rows as wide as its columns and no series observed
by two rows keeps its rows apart. -/
theorem multiple_rows_isolated_of_disjoint_series {mk : Markers} {q : Query} {rs : ResultSet}
    {time : Timestamp} {store : RateStore} (hq : q.mode = .multipleRows)
    (hkey : rs.columns.any (Text.endsWith · mk.key) = true)
    (hwidth : ∀ row ∈ rs.rows, row.length = rs.columns.length)
    (hdisj : (rs.rows.map (rowSeries mk rs.columns)).Pairwise List.Disjoint) :
    RowsIsolated mk q rs time store where
  ok_iff := by
    constructor
    · rintro ⟨out, h⟩ row hrow
      obtain ⟨vss, hread, -⟩ := multipleRows_read hq hkey hwidth h
      obtain ⟨vs, hvs⟩ := (mapM_isOk_iff _ _).mp ⟨vss, hread⟩ _ (List.mem_map_of_mem hrow)
      exact ⟨_, assemble_row_ok time store hq hkey (hwidth row hrow) hvs⟩
    · intro hall
      -- a row gives records alone only when it reads, and reading does not look at the store
      have hrows : ∀ acts ∈ rs.rows.map (rowPlan mk rs.columns),
          ∃ vs, acts.mapM Action.read = .ok vs := by
        intro acts hacts
        obtain ⟨row, hrow, rfl⟩ := List.mem_map.mp hacts
        obtain ⟨out, hout⟩ := hall row hrow
        exact row_read hq hkey (hwidth row hrow) hout
      obtain ⟨vss, hread⟩ := (mapM_isOk_iff _ _).mpr hrows
      exact ⟨_, assemble_multipleRows_ok time store hq hkey hwidth hread⟩
  records_alone store' records h := by
    obtain ⟨vss, hread, hbuild⟩ := multipleRows_read hq hkey hwidth h
    have hrecords : records = (build .multipleRows time vss store).2 := by rw [hbuild]
    rw [hrecords]
    exact forall₂_recordAlone_build time store hq hkey hwidth hdisj hread
  one_by_one store' records rows' hp h := by
    obtain ⟨vss', hread', hstore⟩ := reorder_read hq hkey hwidth hdisj hp h
    have hwidth' : ∀ row ∈ rows', row.length = rs.columns.length :=
      fun row hrow => hwidth row (hp.mem_iff.mp hrow)
    refine ⟨(build .multipleRows time vss' store).1, (build .multipleRows time vss' store).2,
      ?_, hstore⟩
    rw [assembleOneByOne_eq time hq hkey hwidth' hread' store]
  reorder store' records rows' hp h := by
    obtain ⟨vss', hread', hstore⟩ := reorder_read hq hkey hwidth hdisj hp h
    have hwidth' : ∀ row ∈ rows', row.length = rs.columns.length :=
      fun row hrow => hwidth row (hp.mem_iff.mp hrow)
    have hdisj' : (rows'.map (rowSeries mk rs.columns)).Pairwise List.Disjoint :=
      (hp.map _).symm.pairwise hdisj List.Disjoint.symm
    refine ⟨(build .multipleRows time vss' store).1, (build .multipleRows time vss' store).2,
      ?_, hstore, forall₂_recordAlone_build time store hq hkey hwidth' hdisj' hread'⟩
    exact @assemble_multipleRows_ok mk q ⟨rs.columns, rows'⟩ time store hq hkey hwidth' _ hread'

/-- Two hosts polled together keep their rows apart. -/
theorem two_hosts_rows_isolated :
    (⟨0, .multipleRows, ""⟩ : Query).mode = .multipleRows ∧
      ["host__DELTAKEY", "Queries__DELTA"].any (Text.endsWith · Markers.standard.key) = true ∧
      (∀ row ∈ [[some "db1", some "5"], [some "db2", some "7"]], row.length = 2) ∧
      ([[some "db1", some "5"], [some "db2", some "7"]].map
        (rowSeries .standard ["host__DELTAKEY", "Queries__DELTA"])).Pairwise List.Disjoint ∧
      RowsIsolated .standard ⟨0, .multipleRows, ""⟩
        ⟨["host__DELTAKEY", "Queries__DELTA"], [[some "db1", some "5"], [some "db2", some "7"]]⟩
        ⟨1000⟩ .empty := by
  have hseries : [[some "db1", some "5"], [some "db2", some "7"]].map
      (rowSeries .standard ["host__DELTAKEY", "Queries__DELTA"]) =
        [["db1Queries__DELTA"], ["db2Queries__DELTA"]] := rfl
  have hdisj : ([[some "db1", some "5"], [some "db2", some "7"]].map
      (rowSeries .standard ["host__DELTAKEY", "Queries__DELTA"])).Pairwise List.Disjoint := by
    rw [hseries]
    simp
  exact ⟨rfl, by decide, by decide, hdisj,
    multiple_rows_isolated_of_disjoint_series rfl (by decide) (by decide) hdisj⟩

/-- Different key cells that join to the same key share a series: the second row then sees the
first row's value at no elapsed time and gets no rate, where alone it gets one. -/
theorem joined_keys_share_a_series :
    (["ab", "c"] : List String) ≠ ["a", "bc"] ∧
      rowSeries .standard ["a__DELTAKEY", "b__DELTAKEY", "x__DELTA"] [some "ab", some "c", some "1"] =
        rowSeries .standard ["a__DELTAKEY", "b__DELTAKEY", "x__DELTA"] [some "a", some "bc", some "5"] ∧
      (Query.assemble .standard ⟨0, .multipleRows, ""⟩
          ⟨["a__DELTAKEY", "b__DELTAKEY", "x__DELTA"],
            [[some "ab", some "c", some "1"], [some "a", some "bc", some "5"]]⟩
          ⟨1000⟩ ⟨[("abcx__DELTA", ⟨.integer 0, ⟨0⟩⟩)]⟩).map
          (fun r => r.map fun out => out.2.map (·.get? "x_PERSECOND")) =
        .ok (.ok [some (.integer 1), none]) ∧
      (Query.assemble .standard ⟨0, .multipleRows, ""⟩
          ⟨["a__DELTAKEY", "b__DELTAKEY", "x__DELTA"], [[some "a", some "bc", some "5"]]⟩
          ⟨1000⟩ ⟨[("abcx__DELTA", ⟨.integer 0, ⟨0⟩⟩)]⟩).map
          (fun r => r.map fun out => out.2.map (·.get? "x_PERSECOND")) =
        .ok (.ok [some (.integer 5)]) :=
  ⟨by decide, by decide, by decide +kernel, by decide +kernel⟩

end Assemble

end RowMetrics
