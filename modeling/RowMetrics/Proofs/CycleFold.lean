import RowMetrics.Beat.Basic
import RowMetrics.Proofs.RecordActions

/-!
A cycle as a fold of dispatch over the queries, with one store and the time read at the start.
Once connected, the queries are asked of the source in order and their results dispatched, each
on the store the ones before it left (`Passes`); a `multiple-rows` result without a key column
is skipped, with no record and the store kept. The first query whose source fails or whose
result has a row of the wrong width ends the cycle (`Aborts`): the records of the queries before
it stay published, their store is kept, and nothing is evicted. A cycle whose queries all go
through publishes their records in query order, then reports their number, the number skipped,
and the series evicted from the store by the time to live, measured from the start. Either way
the source is disconnected once, after the last query asked; a refused connection runs no query
and changes nothing.

`cycle_is_fold_of_dispatch` proves that a cycle ends exactly in these ways, and that it meets a
fault exactly when a query whose predecessors went through meets one in its dispatch.
-/

namespace RowMetrics

theorem except_map_eq_error {ε α β : Type} {f : α → β} {x : Except ε α} {e : ε} :
    f <$> x = .error e ↔ x = .error e := by
  cases x with
  | error e' =>
      constructor
      · intro h
        cases h
        rfl
      · intro h
        cases h
        rfl
  | ok a =>
      constructor
      · intro h
        cases h
      · intro h
        cases h

namespace Beat

variable {σ : Type} [QuerySource σ]

/-- Queries that all go through, asked of the source `s` from the store `store` at `time`: each
result is dispatched on the store the queries before it left, and a result refused for lack of a
key column is skipped. Relates the queries to the source and store after them, their records
in order, and the number skipped. -/
inductive Passes (mk : Markers) (time : Timestamp) :
    σ → RateStore → List Query → σ → RateStore → List Record → Nat → Prop
  | nil {s : σ} {store : RateStore} : Passes mk time s store [] s store [] 0
  | done {s s₁ s₂ : σ} {store store₁ store₂ : RateStore} {q : Query} {rest : List Query}
      {rs : ResultSet} {records more : List Record} {skipped : Nat} :
      QuerySource.query s q.sql = (s₁, .ok rs) →
      q.assemble mk rs time store = .ok (.ok (store₁, records)) →
      Passes mk time s₁ store₁ rest s₂ store₂ more skipped →
      Passes mk time s store (q :: rest) s₂ store₂ (records ++ more) skipped
  | skip {s s₁ s₂ : σ} {store store₂ : RateStore} {q : Query} {rest : List Query}
      {rs : ResultSet} {i : Nat} {more : List Record} {skipped : Nat} :
      QuerySource.query s q.sql = (s₁, .ok rs) →
      q.assemble mk rs time store = .ok (.error (.missingKeyColumn i)) →
      Passes mk time s₁ store rest s₂ store₂ more skipped →
      Passes mk time s store (q :: rest) s₂ store₂ more (skipped + 1)

/-- A query that ends the cycle, asked of the source `s` with the store `store`: the source
fails, or the result has a row of the wrong width. Relates it to the source after it and the
error. -/
inductive Aborts (mk : Markers) (time : Timestamp) (s : σ) (store : RateStore) (q : Query) :
    σ → BeatError → Prop
  | source {s₁ : σ} {e : SourceError} :
      QuerySource.query s q.sql = (s₁, .error e) → Aborts mk time s store q s₁ (.source e)
  | rowDecode {s₁ : σ} {rs : ResultSet} {i row expected found : Nat} :
      QuerySource.query s q.sql = (s₁, .ok rs) →
      q.assemble mk rs time store = .ok (.error (.rowDecode i row expected found)) →
      Aborts mk time s store q s₁ (.assemble (.rowDecode i row expected found))

/-- A query whose dispatch meets a fault, asked of the source `s` with the store `store`. -/
def Faults (mk : Markers) (time : Timestamp) (s : σ) (store : RateStore) (q : Query)
    (f : Fault) : Prop :=
  ∃ s₁ rs, QuerySource.query s q.sql = (s₁, .ok rs) ∧ q.assemble mk rs time store = .error f

/-- The eviction after a cycle that went through: the series older than the time to live, from
the start of the cycle, if the poller has one. The store after it and the number evicted. -/
def evictAfter (b : Beat σ) (store : RateStore) : RateStore × Nat :=
  match b.stateTtlMillis with
  | some ttl => store.evictStale b.clock ttl
  | none => (store, 0)

/-- What a connected cycle comes to once its queries ran to `p`: the source disconnected, and the
store kept after an error, or evicted and reported on otherwise. -/
def close (b : Beat σ) (p : Progress σ) : Beat σ × Cycle :=
  match p.failure with
  | some e =>
    ({ b with source := QuerySource.disconnect p.source, store := p.store }, ⟨p.published, .error e⟩)
  | none =>
    ({ b with source := QuerySource.disconnect p.source, store := (b.evictAfter p.store).1 },
      ⟨p.published, .ok ⟨b.clock, p.published.length, p.skipped, (b.evictAfter p.store).2⟩⟩)

/-- The ways a cycle of the poller `b` can end, with the poller after it and what it did. -/
inductive CycleRun (b : Beat σ) : Beat σ × Cycle → Prop
  /-- The connection is refused: no query runs, nothing is published and nothing changes. -/
  | refused {e : SourceError} :
      QuerySource.connect b.source = .error e → CycleRun b (b, ⟨[], .error (.source e)⟩)
  /-- The queries before `q` go through and `q` ends the cycle. -/
  | aborted {s s₁ s₂ : σ} {store : RateStore} {before after : List Query} {q : Query}
      {records : List Record} {skipped : Nat} {e : BeatError} :
      QuerySource.connect b.source = .ok s →
      b.queries = before ++ q :: after →
      Passes b.markers b.clock s b.store before s₁ store records skipped →
      Aborts b.markers b.clock s₁ store q s₂ e →
      CycleRun b ({ b with source := QuerySource.disconnect s₂, store }, ⟨records, .error e⟩)
  /-- Every query goes through, and stale series are evicted after them. -/
  | completed {s s₁ : σ} {store : RateStore} {records : List Record} {skipped : Nat} :
      QuerySource.connect b.source = .ok s →
      Passes b.markers b.clock s b.store b.queries s₁ store records skipped →
      CycleRun b ({ b with source := QuerySource.disconnect s₁, store := (b.evictAfter store).1 },
        ⟨records, .ok ⟨b.clock, records.length, skipped, (b.evictAfter store).2⟩⟩)

section Steps

variable {mk : Markers} {time : Timestamp}

theorem runQueries_done {s s₁ : σ} {store store₁ : RateStore} {q : Query} {rs : ResultSet}
    {records : List Record} (rest : List Query) (published : List Record) (skipped : Nat)
    (hq : QuerySource.query s q.sql = (s₁, .ok rs))
    (ha : q.assemble mk rs time store = .ok (.ok (store₁, records))) :
    runQueries mk time (q :: rest) ⟨s, store, published, skipped, none⟩ =
      runQueries mk time rest ⟨s₁, store₁, published ++ records, skipped, none⟩ := by
  rw [runQueries]
  simp only [hq, ha]
  rfl

theorem runQueries_skip {s s₁ : σ} {store : RateStore} {q : Query} {rs : ResultSet} {i : Nat}
    (rest : List Query) (published : List Record) (skipped : Nat)
    (hq : QuerySource.query s q.sql = (s₁, .ok rs))
    (ha : q.assemble mk rs time store = .ok (.error (.missingKeyColumn i))) :
    runQueries mk time (q :: rest) ⟨s, store, published, skipped, none⟩ =
      runQueries mk time rest ⟨s₁, store, published, skipped + 1, none⟩ := by
  rw [runQueries]
  simp only [hq, ha]
  rfl

theorem runQueries_aborts {s s₁ : σ} {store : RateStore} {q : Query} {e : BeatError}
    (rest : List Query) (published : List Record) (skipped : Nat)
    (h : Aborts mk time s store q s₁ e) :
    runQueries mk time (q :: rest) ⟨s, store, published, skipped, none⟩ =
      .ok ⟨s₁, store, published, skipped, some e⟩ := by
  cases h with
  | source hq =>
      rw [runQueries]
      simp only [hq]
      rfl
  | rowDecode hq ha =>
      rw [runQueries]
      simp only [hq, ha]
      rfl

theorem runQueries_faults {s : σ} {store : RateStore} {q : Query} {f : Fault}
    (rest : List Query) (published : List Record) (skipped : Nat)
    (h : Faults mk time s store q f) :
    runQueries mk time (q :: rest) ⟨s, store, published, skipped, none⟩ = .error f := by
  obtain ⟨s₁, rs, hq, ha⟩ := h
  rw [runQueries]
  simp only [hq, ha]
  rfl

theorem runQueries_passes {s s₁ : σ} {store store₁ : RateStore} {qs : List Query}
    {records : List Record} {skipped : Nat} (h : Passes mk time s store qs s₁ store₁ records skipped)
    (rest : List Query) (published : List Record) (skipped₀ : Nat) :
    runQueries mk time (qs ++ rest) ⟨s, store, published, skipped₀, none⟩ =
      runQueries mk time rest ⟨s₁, store₁, published ++ records, skipped₀ + skipped, none⟩ := by
  induction h generalizing published skipped₀ with
  | nil => simp
  | done hq ha _ ih =>
      rw [List.cons_append, runQueries_done _ _ _ hq ha, ih, List.append_assoc]
  | skip hq ha _ ih =>
      rw [List.cons_append, runQueries_skip _ _ _ hq ha, ih, Nat.add_assoc, Nat.add_comm 1]

theorem runQueries_cons (q : Query) (rest : List Query) (s : σ) (store : RateStore)
    (published : List Record) (skipped : Nat) :
    (∃ s₁ rs store₁ records, QuerySource.query s q.sql = (s₁, .ok rs) ∧
        q.assemble mk rs time store = .ok (.ok (store₁, records)) ∧
        runQueries mk time (q :: rest) ⟨s, store, published, skipped, none⟩ =
          runQueries mk time rest ⟨s₁, store₁, published ++ records, skipped, none⟩) ∨
      (∃ s₁ rs i, QuerySource.query s q.sql = (s₁, .ok rs) ∧
        q.assemble mk rs time store = .ok (.error (.missingKeyColumn i)) ∧
        runQueries mk time (q :: rest) ⟨s, store, published, skipped, none⟩ =
          runQueries mk time rest ⟨s₁, store, published, skipped + 1, none⟩) ∨
      (∃ s₁ e, Aborts mk time s store q s₁ e ∧
        runQueries mk time (q :: rest) ⟨s, store, published, skipped, none⟩ =
          .ok ⟨s₁, store, published, skipped, some e⟩) ∨
      ∃ f, Faults mk time s store q f ∧
        runQueries mk time (q :: rest) ⟨s, store, published, skipped, none⟩ = .error f := by
  -- name the answer without rewriting the statement, which mentions the query too
  obtain ⟨⟨s₁, answer⟩, hq⟩ : ∃ r, QuerySource.query s q.sql = r := ⟨_, rfl⟩
  cases answer with
  | error e =>
      have hab : Aborts mk time s store q s₁ (.source e) := .source hq
      exact .inr (.inr (.inl ⟨s₁, _, hab, runQueries_aborts rest published skipped hab⟩))
  | ok rs =>
      rcases ha : q.assemble mk rs time store with f | (e | ⟨store₁, records⟩)
      · have hf : Faults mk time s store q f := ⟨s₁, rs, hq, ha⟩
        exact .inr (.inr (.inr ⟨f, hf, runQueries_faults rest published skipped hf⟩))
      · cases e with
        | missingKeyColumn i =>
            exact .inr (.inl ⟨s₁, rs, i, hq, ha, runQueries_skip rest published skipped hq ha⟩)
        | rowDecode i row expected found =>
            have hab : Aborts mk time s store q s₁ (.assemble (.rowDecode i row expected found)) :=
              .rowDecode hq ha
            exact .inr (.inr (.inl ⟨s₁, _, hab, runQueries_aborts rest published skipped hab⟩))
      · exact .inl ⟨s₁, rs, store₁, records, hq, ha,
          runQueries_done rest published skipped hq ha⟩

/-- A run of queries either goes through all of them, or ends at the first that aborts after
the ones before it went through. -/
theorem runQueries_eq_ok {qs : List Query} {s : σ} {store : RateStore} {published : List Record}
    {skipped₀ : Nat} {p : Progress σ}
    (h : runQueries mk time qs ⟨s, store, published, skipped₀, none⟩ = .ok p) :
    (∃ records skipped, Passes mk time s store qs p.source p.store records skipped ∧
        p.published = published ++ records ∧ p.skipped = skipped₀ + skipped ∧ p.failure = none) ∨
      ∃ before q after s₁ store₁ records skipped e, qs = before ++ q :: after ∧
        Passes mk time s store before s₁ store₁ records skipped ∧
        Aborts mk time s₁ store₁ q p.source e ∧ p.store = store₁ ∧
        p.published = published ++ records ∧ p.skipped = skipped₀ + skipped ∧ p.failure = some e := by
  induction qs generalizing s store published skipped₀ with
  | nil =>
      cases h
      exact .inl ⟨[], 0, .nil, by simp, rfl, rfl⟩
  | cons q rest ih =>
      rcases runQueries_cons q rest s store published skipped₀ with
        ⟨s₁, rs, store₁, records, hq, ha, hrun⟩ | ⟨s₁, rs, i, hq, ha, hrun⟩ |
          ⟨s₁, e, hab, hrun⟩ | ⟨f, -, hrun⟩ <;> rw [hrun] at h
      · -- the query went through: what the rest does follows its records
        rcases ih h with ⟨more, k, hp, hpub, hsk, hf⟩ |
            ⟨before, q', after, s₂, store₂, more, k, e, hqs, hp, hab, hst, hpub, hsk, hf⟩
        · exact .inl ⟨records ++ more, k, .done hq ha hp, by rw [hpub, List.append_assoc], hsk, hf⟩
        · exact .inr ⟨q :: before, q', after, s₂, store₂, records ++ more, k, e, by rw [hqs]; rfl,
            .done hq ha hp, hab, hst, by rw [hpub, List.append_assoc], hsk, hf⟩
      · rcases ih h with ⟨more, k, hp, hpub, hsk, hf⟩ |
            ⟨before, q', after, s₂, store₂, more, k, e, hqs, hp, hab, hst, hpub, hsk, hf⟩
        · exact .inl ⟨more, k + 1, .skip hq ha hp, hpub, by rw [hsk]; omega, hf⟩
        · exact .inr ⟨q :: before, q', after, s₂, store₂, more, k + 1, e, by rw [hqs]; rfl,
            .skip hq ha hp, hab, hst, hpub, by rw [hsk]; omega, hf⟩
      · cases h
        exact .inr ⟨[], q, rest, s, store, [], 0, e, rfl, .nil, hab, rfl, by simp, rfl, rfl⟩
      · cases h

/-- A run of queries meets a fault only in the dispatch of a query whose predecessors went
through. -/
theorem runQueries_eq_error {qs : List Query} {s : σ} {store : RateStore}
    {published : List Record} {skipped₀ : Nat} {f : Fault}
    (h : runQueries mk time qs ⟨s, store, published, skipped₀, none⟩ = .error f) :
    ∃ before q after s₁ store₁ records skipped, qs = before ++ q :: after ∧
      Passes mk time s store before s₁ store₁ records skipped ∧ Faults mk time s₁ store₁ q f := by
  induction qs generalizing s store published skipped₀ with
  | nil => cases h
  | cons q rest ih =>
      rcases runQueries_cons q rest s store published skipped₀ with
        ⟨s₁, rs, store₁, records, hq, ha, hrun⟩ | ⟨s₁, rs, i, hq, ha, hrun⟩ |
          ⟨s₁, e, -, hrun⟩ | ⟨f', hf, hrun⟩ <;> rw [hrun] at h
      · obtain ⟨before, q', after, s₂, store₂, more, k, hqs, hp, hf⟩ := ih h
        exact ⟨q :: before, q', after, s₂, store₂, records ++ more, k, by rw [hqs]; rfl,
          .done hq ha hp, hf⟩
      · obtain ⟨before, q', after, s₂, store₂, more, k, hqs, hp, hf⟩ := ih h
        exact ⟨q :: before, q', after, s₂, store₂, more, k + 1, by rw [hqs]; rfl,
          .skip hq ha hp, hf⟩
      · cases h
      · cases h
        exact ⟨[], q, rest, s, store, [], 0, rfl, .nil, hf⟩

end Steps

section Cycle

variable (b : Beat σ)

theorem cycle_of_connect_error {e : SourceError} (h : QuerySource.connect b.source = .error e) :
    b.cycle = .ok (b, ⟨[], .error (.source e)⟩) := by
  rw [cycle, h]
  rfl

theorem cycle_of_connect_ok {s : σ} (h : QuerySource.connect b.source = .ok s) :
    b.cycle = b.close <$> runQueries b.markers b.clock b.queries ⟨s, b.store, [], 0, none⟩ := by
  rw [cycle, h]
  simp only [bind, Except.bind, Functor.map, Except.map]
  cases runQueries b.markers b.clock b.queries ⟨s, b.store, [], 0, none⟩ with
  | error f => rfl
  | ok p =>
      obtain ⟨source, store, published, skipped, failure⟩ := p
      cases failure <;> rfl

/-- A cycle ends exactly in one of the ways `CycleRun` lists. -/
theorem cycle_eq_ok_iff (out : Beat σ × Cycle) : b.cycle = .ok out ↔ CycleRun b out := by
  constructor
  · intro h
    cases hc : QuerySource.connect b.source with
    | error e =>
        rw [cycle_of_connect_error b hc] at h
        cases h
        exact .refused hc
    | ok s =>
        rw [cycle_of_connect_ok b hc] at h
        obtain ⟨⟨source, store, published, skipped, failure⟩, hp, rfl⟩ := except_map_eq_ok.mp h
        rcases runQueries_eq_ok hp with ⟨records, k, hpass, hpub, hsk, hf⟩ |
            ⟨before, q, after, s₁, store₁, records, k, e, hqs, hpass, hab, hst, hpub, hsk, hf⟩
        · simp only [List.nil_append, Nat.zero_add] at hpub hsk hf hpass
          subst hpub hsk hf
          exact .completed hc hpass
        · simp only [List.nil_append, Nat.zero_add] at hpub hsk hf hst hab
          subst hpub hsk hf hst
          exact .aborted hc hqs hpass hab
  · intro h
    cases h with
    | refused hc => exact cycle_of_connect_error b hc
    | @aborted s s₁ s₂ store before after q records skipped e hc hqs hpass hab =>
        have hrun : runQueries b.markers b.clock b.queries ⟨s, b.store, [], 0, none⟩ =
            .ok ⟨s₂, store, records, skipped, some e⟩ := by
          rw [hqs, runQueries_passes hpass, runQueries_aborts _ _ _ hab, List.nil_append,
            Nat.zero_add]
        rw [cycle_of_connect_ok b hc, hrun]
        rfl
    | completed hc hpass =>
        have hrun := runQueries_passes hpass [] [] 0
        rw [List.append_nil, List.nil_append, Nat.zero_add] at hrun
        rw [cycle_of_connect_ok b hc, hrun]
        rfl

/-- A cycle meets a fault exactly when, once connected, a query whose predecessors went through
meets one in its dispatch. -/
theorem cycle_eq_error_iff (f : Fault) :
    b.cycle = .error f ↔ ∃ s before q after s₁ store records skipped,
      QuerySource.connect b.source = .ok s ∧ b.queries = before ++ q :: after ∧
      Passes b.markers b.clock s b.store before s₁ store records skipped ∧
      Faults b.markers b.clock s₁ store q f := by
  constructor
  · intro h
    cases hc : QuerySource.connect b.source with
    | error e =>
        rw [cycle_of_connect_error b hc] at h
        cases h
    | ok s =>
        rw [cycle_of_connect_ok b hc, except_map_eq_error] at h
        obtain ⟨before, q, after, s₁, store, records, skipped, hqs, hpass, hf⟩ :=
          runQueries_eq_error h
        exact ⟨s, before, q, after, s₁, store, records, skipped, rfl, hqs, hpass, hf⟩
  · rintro ⟨s, before, q, after, s₁, store, records, skipped, hc, hqs, hpass, hf⟩
    rw [cycle_of_connect_ok b hc, hqs, runQueries_passes hpass, runQueries_faults _ _ _ hf]
    rfl

end Cycle

/-- A cycle is the fold of dispatch over the queries: it ends exactly in the ways `CycleRun`
lists, and meets a fault exactly when the dispatch of a query after ones that went through does. -/
theorem cycle_is_fold_of_dispatch (b : Beat σ) :
    (∀ out, b.cycle = .ok out ↔ CycleRun b out) ∧
      ∀ f, b.cycle = .error f ↔ ∃ s before q after s₁ store records skipped,
        QuerySource.connect b.source = .ok s ∧ b.queries = before ++ q :: after ∧
        Passes b.markers b.clock s b.store before s₁ store records skipped ∧
        Faults b.markers b.clock s₁ store q f :=
  ⟨b.cycle_eq_ok_iff, b.cycle_eq_error_iff⟩

end Beat

end RowMetrics
