import RowMetrics.Assemble.Modes
import RowMetrics.Proofs.RateStoreMap

/-!
Records as the replay of cell actions. Each cell that reaches a record does one of two things:
its value is set under a field, or it is observed under a series and the field gets the rate,
if there is one. Assembling a result is then two separate passes: every cell is read (the only
step that can fault), and the read actions are replayed in order on the store and an empty
record, one record after another.

`row_eq`, `eachRow_eq` and `pairs_eq` put the three loops of the assembly into that form. The
store after a replay is the store with every observed value set in order (`build_fst`), and a
record depends on the store only through the series it observes (`foldl_apply_snd_congr`).
-/

namespace RowMetrics

theorem except_map_eq_ok {ε α β : Type} {f : α → β} {x : Except ε α} {b : β} :
    f <$> x = .ok b ↔ ∃ a, x = .ok a ∧ f a = b := by
  cases x with
  | error e =>
      constructor
      · intro h
        cases h
      · rintro ⟨_, h, _⟩
        cases h
  | ok a =>
      constructor
      · intro h
        exact ⟨a, rfl, Except.ok.inj h⟩
      · rintro ⟨a', h, rfl⟩
        cases h
        rfl

theorem except_bind_eq_ok {ε α β : Type} {x : Except ε α} {f : α → Except ε β} {b : β} :
    x >>= f = .ok b ↔ ∃ a, x = .ok a ∧ f a = .ok b := by
  cases x with
  | error e =>
      constructor
      · intro h
        cases h
      · rintro ⟨_, h, _⟩
        cases h
  | ok a => exact ⟨fun h => ⟨a, rfl, h⟩, fun ⟨a', h, hf⟩ => by cases h; exact hf⟩

theorem mapM_cons_eq_ok {ε α β : Type} {f : α → Except ε β} {a : α} {l : List α}
    {bs : List β} :
    (a :: l).mapM f = .ok bs ↔ ∃ b rest, f a = .ok b ∧ l.mapM f = .ok rest ∧ bs = b :: rest := by
  rw [List.mapM_cons, except_bind_eq_ok]
  constructor
  · rintro ⟨b, hb, hrest⟩
    obtain ⟨rest, hl, hbs⟩ := except_bind_eq_ok.mp hrest
    exact ⟨b, rest, hb, hl, (Except.ok.inj hbs).symm⟩
  · rintro ⟨b, rest, hb, hl, rfl⟩
    exact ⟨b, hb, except_bind_eq_ok.mpr ⟨rest, hl, rfl⟩⟩

namespace Assemble

/-- What a cell does to the record being built, holding the cell's text before reading and its
value after. -/
inductive Action (α : Type) where
  /-- The field `name` gets the cell's value. -/
  | field (name : String) (cell : α)
  /-- The cell's value is observed under `series`, and the field `name` gets the rate. -/
  | rate (name series : String) (cell : α)

namespace Action

def read : Action String → Except Fault (Action Value)
  | .field name raw => (.field name ·) <$> Value.infer raw
  | .rate name series raw => (.rate name series ·) <$> Value.infer raw

def cell {α : Type} : Action α → α
  | .field _ c => c
  | .rate _ _ c => c

/-- The series an action observes, with its cell; none for a field. -/
def observed? {α : Type} : Action α → Option (String × α)
  | .field _ _ => none
  | .rate _ series c => some (series, c)

/-- Replays one read action on the store and the record being built. -/
def apply (time : Timestamp) : RateStore × Record → Action Value → RateStore × Record
  | (store, record), .field name v => (store, record.insert name v)
  | (store, record), .rate name series v =>
      let (store, reply) := store.observe series v time
      (store, match reply with
        | some r => record.insert name r
        | none => record)

/-- The action of a planned column on a row whose key is `rowKey`. -/
def ofColumn (rowKey : Option String) : Column × String → Action String
  | (col, raw) =>
    match col.role with
    | .key | .plain => .field col.field raw
    | .delta =>
      .rate col.field (match rowKey with
        | some k => seriesKey k col.name
        | none => col.name) raw

/-- The action of a name and value row in two-columns mode; none for a row of fewer cells. -/
def ofPair (mk : Markers) : List String → Option (Action String)
  | name :: raw :: _ =>
    some (match mk.rateField? name with
      | some rateName => .rate rateName name raw
      | none => .field name raw)
  | _ => none

/-- Reading while replaying is reading everything, then replaying: a fault stops both at the
first cell that meets it. -/
theorem foldlM_read (time : Timestamp) (acts : List (Action String))
    (init : RateStore × Record) :
    acts.foldlM (fun acc a => apply time acc <$> a.read) init =
      (fun vs => vs.foldl (apply time) init) <$> acts.mapM read := by
  induction acts generalizing init with
  | nil => rfl
  | cons a rest ih =>
      rw [List.foldlM_cons, List.mapM_cons]
      cases h : a.read with
      | error e => rfl
      | ok v =>
          show rest.foldlM _ (apply time init v) = _
          rw [ih]
          cases rest.mapM read <;> rfl

end Action

/-- Builds records one after another from their read actions, threading the store; a record
that gets no field is dropped. -/
def build (mode : QueryMode) (time : Timestamp) :
    List (List (Action Value)) → RateStore → RateStore × List Record
  | [], store => (store, [])
  | acts :: rest, store =>
    let (store, record) := acts.foldl (Action.apply time) (store, Record.empty mode time)
    let (store, records) := build mode time rest store
    (store, nonEmpty record ++ records)

/-- Reads the cells of every record's actions, then builds the records. -/
def play (mode : QueryMode) (time : Timestamp) (plans : List (List (Action String)))
    (store : RateStore) : Except Fault (RateStore × List Record) :=
  (fun acts => build mode time acts store) <$> plans.mapM (·.mapM Action.read)

/-- One row of the assembly is the replay of its columns' actions. -/
theorem row_eq (mode : QueryMode) (time : Timestamp) (rowKey : Option String)
    (plan : List Column) (cells : List String) (store : RateStore) :
    row mode time rowKey plan cells store =
      (fun acts => acts.foldl (Action.apply time) (store, Record.empty mode time)) <$>
        ((plan.zip cells).map (Action.ofColumn rowKey)).mapM Action.read := by
  rw [← Action.foldlM_read, List.foldlM_map, row]
  congr
  funext acc p
  obtain ⟨st, rec⟩ := acc
  obtain ⟨col, raw⟩ := p
  -- both sides read the cell first; they differ only in how the role is matched
  cases hr : col.role with
  | key => simp [Action.ofColumn, hr, Action.read, Action.apply]
  | plain => simp [Action.ofColumn, hr, Action.read, Action.apply]
  | delta =>
      simp only [Action.ofColumn, hr, Action.read, Action.apply, Functor.map_map]
      rfl

/-- The rows of the assembly, each a record of its own, are one play when every row gets its
key. -/
theorem eachRow_eq (mode : QueryMode) (time : Timestamp)
    {key : List String → Except AssembleError (Option String)}
    {rowKey : List String → Option String} (plan : List Column) (rows : List (List String))
    (store : RateStore) (hkey : ∀ cells ∈ rows, key cells = .ok (rowKey cells)) :
    eachRow mode time key plan rows store =
      .ok <$> play mode time
        (rows.map fun cells => (plan.zip cells).map (Action.ofColumn (rowKey cells))) store := by
  induction rows generalizing store with
  | nil => rfl
  | cons cells rest ih =>
      have hrest : ∀ c ∈ rest, key c = .ok (rowKey c) :=
        fun c hc => hkey c (List.mem_cons_of_mem _ hc)
      rw [eachRow, hkey cells List.mem_cons_self]
      dsimp only
      rw [row_eq, play, List.map_cons, List.mapM_cons]
      cases hcells : ((plan.zip cells).map (Action.ofColumn (rowKey cells))).mapM Action.read with
      | error e => rfl
      | ok acts =>
          simp only [Functor.map, Except.map, bind, Except.bind, pure, Except.pure]
          rw [ih _ hrest]
          cases hmore : (rest.map fun cells =>
              (plan.zip cells).map (Action.ofColumn (rowKey cells))).mapM (·.mapM Action.read) with
          | error e => simp [play, hmore, Functor.map, Except.map]
          | ok more => simp [play, hmore, Functor.map, Except.map, build]

theorem cellAt_of_lt {cells : List String} {i : Nat} (h : i < cells.length) :
    cellAt cells i = pure (cells.getD i "") := by
  rw [cellAt, List.getD_eq_getElem?_getD, List.getElem?_eq_getElem h]
  rfl

/-- The name and value rows of two-columns mode, each of two cells or more, are the replay of
one action per row. -/
theorem pairs_eq (mk : Markers) (time : Timestamp) (rows : List (List String))
    (acc : RateStore × Record) (hrows : ∀ cells ∈ rows, 2 ≤ cells.length) :
    pairs mk time rows acc =
      (fun acts => acts.foldl (Action.apply time) acc) <$>
        (rows.filterMap (Action.ofPair mk)).mapM Action.read := by
  induction rows generalizing acc with
  | nil => rfl
  | cons cells rest ih =>
      obtain ⟨store, record⟩ := acc
      have hrest : ∀ c ∈ rest, 2 ≤ c.length := fun c hc => hrows c (List.mem_cons_of_mem _ hc)
      obtain ⟨name, raw, more, rfl⟩ : ∃ name raw more, cells = name :: raw :: more := by
        have hlen := hrows cells List.mem_cons_self
        rcases cells with _ | ⟨name, _ | ⟨raw, more⟩⟩
        · simp at hlen
        · simp at hlen
        · exact ⟨name, raw, more, rfl⟩
      cases hv : Value.infer raw with
      | error e =>
          cases hf : mk.rateField? name <;>
            simp [pairs, cellAt, Action.ofPair, hf, Action.read, hv] <;> rfl
      | ok v =>
          cases hf : mk.rateField? name <;>
            simp [pairs, cellAt, Action.ofPair, hf, Action.read, hv, ih _ hrest, Action.apply] <;>
            rfl

/-- Sets every `(series, value)` in order, observed at `time`. -/
def setAll (time : Timestamp) (store : RateStore) (cells : List (String × Value)) : RateStore :=
  cells.foldl (fun s c => s.set c.1 ⟨c.2, time⟩) store

@[simp] theorem setAll_nil (time : Timestamp) (store : RateStore) :
    setAll time store [] = store := rfl

@[simp] theorem setAll_cons (time : Timestamp) (store : RateStore) (c : String × Value)
    (cells : List (String × Value)) :
    setAll time store (c :: cells) = setAll time (store.set c.1 ⟨c.2, time⟩) cells := rfl

@[simp] theorem setAll_append (time : Timestamp) (store : RateStore)
    (xs ys : List (String × Value)) :
    setAll time store (xs ++ ys) = setAll time (setAll time store xs) ys := by
  simp [setAll, List.foldl_append]

theorem get?_setAll (time : Timestamp) (store : RateStore) (cells : List (String × Value))
    (k : String) :
    (setAll time store cells).get? k =
      ((cells.reverse.lookup k).map fun v => ⟨v, time⟩).or (store.get? k) := by
  induction cells generalizing store with
  | nil => simp
  | cons c rest ih =>
      obtain ⟨k', v⟩ := c
      rw [setAll_cons, ih, RateStore.get?_set, List.reverse_cons, List.lookup_append]
      by_cases hk : k = k'
      · subst hk
        cases rest.reverse.lookup k <;> simp
      · have hb : (k == k') = false := by simpa using hk
        cases rest.reverse.lookup k <;> simp [hk, List.lookup_cons, hb]

theorem foldl_apply_fst (time : Timestamp) (acts : List (Action Value)) (store : RateStore)
    (record : Record) :
    (acts.foldl (Action.apply time) (store, record)).1 =
      setAll time store (acts.filterMap Action.observed?) := by
  induction acts generalizing store record with
  | nil => rfl
  | cons a rest ih =>
      cases a with
      | field name v => simp [Action.apply, ih, List.filterMap_cons, Action.observed?]
      | rate name series v =>
          simp only [List.foldl_cons, Action.apply, List.filterMap_cons, Action.observed?]
          rw [ih]
          rfl

/-- The store after building records is the store with every observed value set, record after
record and cell after cell. -/
theorem build_fst (mode : QueryMode) (time : Timestamp) (actss : List (List (Action Value)))
    (store : RateStore) :
    (build mode time actss store).1 =
      setAll time store (actss.flatMap (·.filterMap Action.observed?)) := by
  induction actss generalizing store with
  | nil => rfl
  | cons acts rest ih =>
      simp only [build, List.flatMap_cons, setAll_append, ih, foldl_apply_fst]

/-- A replayed record reads the store only at the series it observes: two stores that agree
there give the same record. -/
theorem foldl_apply_snd_congr (time : Timestamp) (acts : List (Action Value)) {s s' : RateStore}
    (record : Record) (h : ∀ p ∈ acts.filterMap Action.observed?, s.get? p.1 = s'.get? p.1) :
    (acts.foldl (Action.apply time) (s, record)).2 =
      (acts.foldl (Action.apply time) (s', record)).2 := by
  induction acts generalizing s s' record with
  | nil => rfl
  | cons a rest ih =>
      cases a with
      | field name v =>
          apply ih
          simpa [Action.observed?] using h
      | rate name series v =>
          have hseries : s'.get? series = s.get? series :=
            (h (series, v) (by simp [Action.observed?])).symm
          have hreply := RateStore.observe_snd_congr hseries v time
          simp only [List.foldl_cons, Action.apply, hreply, RateStore.observe_fst]
          apply ih
          intro p hp
          by_cases hk : p.1 = series
          · simp [hk]
          · simpa [hk] using h p (by simp [Action.observed?, hp])

theorem foldl_apply_snd_header (time : Timestamp) (acts : List (Action Value)) (store : RateStore)
    (record : Record) :
    (acts.foldl (Action.apply time) (store, record)).2.mode = record.mode ∧
      (acts.foldl (Action.apply time) (store, record)).2.timestamp = record.timestamp := by
  induction acts generalizing store record with
  | nil => exact ⟨rfl, rfl⟩
  | cons a rest ih =>
      cases a with
      | field name v => exact ih store (record.insert name v)
      | rate name series v =>
          simp only [List.foldl_cons, Action.apply]
          split
          · exact ih _ _
          · exact ih _ _

theorem build_snd_header (mode : QueryMode) (time : Timestamp) (actss : List (List (Action Value)))
    (store : RateStore) :
    ∀ r ∈ (build mode time actss store).2,
      r.mode = mode ∧ r.timestamp = time ∧ r.isEmpty = false := by
  induction actss generalizing store with
  | nil => simp [build]
  | cons acts rest ih =>
      intro r hr
      simp only [build, List.mem_append] at hr
      rcases hr with hr | hr
      · have hheader := foldl_apply_snd_header time acts store (Record.empty mode time)
        unfold nonEmpty at hr
        split at hr
        · cases hr
        · rename_i hne
          rw [List.mem_singleton] at hr
          subst hr
          exact ⟨hheader.1, hheader.2, by simpa using hne⟩
      · exact ih _ r hr

end Assemble

end RowMetrics
