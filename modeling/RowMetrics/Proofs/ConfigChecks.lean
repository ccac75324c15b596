import Mathlib.Tactic.SplitIfs
import RowMetrics.Config.Validate

/-!
The order of the configuration checks. A configuration is accepted exactly when it has a query,
a positive period, two non-empty markers that differ, and every query names a mode by its exact
literal and only reads; the checked queries are then the configured ones, numbered from zero in
order. Otherwise the error is that of the first check that fails: the global checks in the order
queries, period, delta marker, key marker, overlap, and then the first query refused, its mode
checked before its text.
-/

namespace RowMetrics

namespace QueryMode

/-- The literals of the modes, the only texts a mode may be given by. -/
def literals : List String := all.map literal

/-- A mode is found from its literal alone: the match is exact and case-sensitive. -/
theorem ofLiteral?_eq_some_iff (s : String) (m : QueryMode) :
    ofLiteral? s = some m ↔ s = m.literal := by
  constructor
  · intro h
    have hmatch := List.find?_some h
    simp only [beq_iff_eq] at hmatch
    exact hmatch.symm
  · rintro rfl
    exact ofLiteral?_literal m

theorem ofLiteral?_isSome_iff (s : String) : (ofLiteral? s).isSome ↔ s ∈ literals := by
  constructor
  · intro h
    obtain ⟨m, hm⟩ := Option.isSome_iff_exists.mp h
    rw [(ofLiteral?_eq_some_iff s m).mp hm]
    exact List.mem_map_of_mem (by cases m <;> decide)
  · intro h
    obtain ⟨m, -, rfl⟩ := List.mem_map.mp h
    rw [ofLiteral?_literal]
    rfl

end QueryMode

namespace QuerySpec

/-- A query as written passes its checks: its mode is one of the mode literals, and its text
only reads. -/
def Passes (q : QuerySpec) : Prop :=
  q.mode ∈ QueryMode.literals ∧ Query.isReadOnly q.sql = true

instance : DecidablePred Passes := fun _ => inferInstanceAs (Decidable (_ ∧ _))

/-- The error of a query refused at place `index`: an unknown mode, or else an unsafe text. -/
def refusal (index : Nat) (q : QuerySpec) : ConfigError :=
  if q.mode ∈ QueryMode.literals then .unsafeQuery index q.sql else .unknownMode index q.mode

end QuerySpec

namespace Config

open QuerySpec

theorem checkQuery_of_passes {q : QuerySpec} (index : Nat) (h : q.Passes) :
    ∃ m, m.literal = q.mode ∧ checkQuery index q = .ok ⟨index, m, q.sql⟩ := by
  obtain ⟨hmode, hread⟩ := h
  obtain ⟨m, hm⟩ := Option.isSome_iff_exists.mp ((QueryMode.ofLiteral?_isSome_iff _).mpr hmode)
  refine ⟨m, ((QueryMode.ofLiteral?_eq_some_iff _ m).mp hm).symm, ?_⟩
  simp [checkQuery, hm, hread]

theorem checkQuery_of_not_passes {q : QuerySpec} (index : Nat) (h : ¬ q.Passes) :
    checkQuery index q = .error (refusal index q) := by
  unfold checkQuery refusal
  cases hm : QueryMode.ofLiteral? q.mode with
  | none =>
      have hnot : q.mode ∉ QueryMode.literals := by
        rw [← QueryMode.ofLiteral?_isSome_iff, hm]
        simp
      simp [hnot]
  | some m =>
      have hmode : q.mode ∈ QueryMode.literals := by
        rw [← QueryMode.ofLiteral?_isSome_iff, hm]
        rfl
      have hread : Query.isReadOnly q.sql = false := by
        simpa [Passes, hmode] using h
      simp [hmode, hread]

theorem passes_of_checkQuery_eq_ok {q : QuerySpec} {index : Nat} {p : Query}
    (h : checkQuery index q = .ok p) : q.Passes := by
  by_cases hq : q.Passes
  · exact hq
  · rw [checkQuery_of_not_passes index hq] at h
    cases h

/-- The checks stop at the first query refused, and its error names its place. -/
theorem checkQueries_first_refused (index : Nat) (qs : List QuerySpec) (i : Nat)
    (hi : i < qs.length) (hbefore : ∀ j (hj : j < qs.length), j < i → qs[j].Passes)
    (hfail : ¬ qs[i].Passes) :
    checkQueries index qs = .error (refusal (index + i) qs[i]) := by
  induction qs generalizing index i with
  | nil => simp at hi
  | cons q rest ih =>
      cases i with
      | zero =>
          simp only [List.getElem_cons_zero] at hfail ⊢
          simp [checkQueries, checkQuery_of_not_passes index hfail, bind, Except.bind]
      | succ i =>
          have hhead : q.Passes := hbefore 0 (by simp) (by omega)
          obtain ⟨m, -, hq⟩ := checkQuery_of_passes index hhead
          have hrest := ih (index + 1) i (by simpa using hi)
            (fun j hj hji => hbefore (j + 1) (by simpa using hj) (by omega))
            (by simpa using hfail)
          simp only [checkQueries, hq, hrest, bind, Except.bind, List.getElem_cons_succ]
          rw [Nat.add_assoc, Nat.add_comm 1 i]

/-- When every query passes, the checked list numbers them from `index` on, each with the mode
its literal names and its text unchanged. -/
theorem checkQueries_of_passes (index : Nat) (qs : List QuerySpec) (h : ∀ q ∈ qs, q.Passes) :
    ∃ out, checkQueries index qs = .ok out ∧
      out.map Query.index = List.range' index qs.length ∧
      out.map (fun p => (p.mode.literal, p.sql)) = qs.map (fun q => (q.mode, q.sql)) := by
  induction qs generalizing index with
  | nil => exact ⟨[], rfl, rfl, rfl⟩
  | cons q rest ih =>
      obtain ⟨m, hm, hq⟩ := checkQuery_of_passes index (h q List.mem_cons_self)
      obtain ⟨out, hout, hidx, hmodes⟩ :=
        ih (index + 1) (fun q' hq' => h q' (List.mem_cons_of_mem q hq'))
      refine ⟨⟨index, m, q.sql⟩ :: out, ?_, ?_, ?_⟩
      · simp [checkQueries, hq, hout, bind, Except.bind, pure, Except.pure]
      · simp [hidx, List.range'_succ]
      · simp [hmodes, hm]

theorem passes_of_checkQueries_eq_ok {index : Nat} {qs : List QuerySpec} {out : List Query}
    (h : checkQueries index qs = .ok out) : ∀ q ∈ qs, q.Passes := by
  induction qs generalizing index out with
  | nil => simp
  | cons q rest ih =>
      simp only [checkQueries, bind, Except.bind] at h
      cases hq : checkQuery index q with
      | error e => rw [hq] at h; cases h
      | ok p =>
          rw [hq] at h
          cases hrest : checkQueries (index + 1) rest with
          | error e => rw [hrest] at h; cases h
          | ok others =>
              intro q' hq'
              rcases List.mem_cons.mp hq' with rfl | hmem
              · exact passes_of_checkQuery_eq_ok hq
              · exact ih hrest q' hmem

/-- The global checks of a configuration, before any query is looked at. -/
def GlobalChecksPass (c : Config) : Prop :=
  c.queries ≠ [] ∧ c.periodMillis ≠ 0 ∧ c.deltaSuffix ≠ "" ∧ c.keySuffix ≠ "" ∧
    c.deltaSuffix ≠ c.keySuffix

theorem validate_of_global (c : Config) (h : GlobalChecksPass c) :
    validate c = checkQueries 0 c.queries := by
  obtain ⟨hq, hp, hd, hk, ho⟩ := h
  simp [validate, hq, hp, hd, hk, ho, String.isEmpty_iff]

theorem global_of_validate_eq_ok {c : Config} {qs : List Query} (h : validate c = .ok qs) :
    GlobalChecksPass c ∧ checkQueries 0 c.queries = .ok qs := by
  unfold validate at h
  split_ifs at h with hq hp hd hk ho
  simp only [List.isEmpty_iff, String.isEmpty_iff] at hq hd hk
  exact ⟨⟨hq, hp, hd, hk, ho⟩, h⟩

end Config

/-- What `validate` accepts, what it gives back, and which error it reports first. -/
structure ValidationContract (c : Config) : Prop where
  /-- Accepted exactly when every check passes. -/
  ok_iff : (∃ qs, Config.validate c = .ok qs) ↔
    Config.GlobalChecksPass c ∧ ∀ q ∈ c.queries, q.Passes
  /-- The checked queries are the configured ones in order, numbered from zero, each with the
  mode its literal names and its text unchanged. -/
  ok_queries : ∀ qs, Config.validate c = .ok qs →
    qs.map Query.index = List.range c.queries.length ∧
      qs.map (fun p => (p.mode.literal, p.sql)) = c.queries.map (fun q => (q.mode, q.sql))
  no_queries : c.queries = [] → Config.validate c = .error .noQueries
  invalid_period : c.queries ≠ [] → c.periodMillis = 0 →
    Config.validate c = .error .invalidPeriod
  empty_delta : c.queries ≠ [] → c.periodMillis ≠ 0 → c.deltaSuffix = "" →
    Config.validate c = .error (.emptyMarker "delta_suffix")
  empty_key : c.queries ≠ [] → c.periodMillis ≠ 0 → c.deltaSuffix ≠ "" → c.keySuffix = "" →
    Config.validate c = .error (.emptyMarker "delta_key_suffix")
  overlap : c.queries ≠ [] → c.periodMillis ≠ 0 → c.deltaSuffix ≠ "" → c.keySuffix ≠ "" →
    c.deltaSuffix = c.keySuffix → Config.validate c = .error (.markerOverlap c.deltaSuffix)
  /-- Past the global checks, the error is that of the first query refused, at its index. -/
  first_refused : Config.GlobalChecksPass c → ∀ i (hi : i < c.queries.length),
    (∀ j (hj : j < c.queries.length), j < i → c.queries[j].Passes) → ¬ c.queries[i].Passes →
    Config.validate c = .error (QuerySpec.refusal i c.queries[i])

theorem validate_reports_first_failed_check (c : Config) : ValidationContract c where
  ok_iff := by
    constructor
    · rintro ⟨qs, hqs⟩
      obtain ⟨hglobal, hchecked⟩ := Config.global_of_validate_eq_ok hqs
      exact ⟨hglobal, Config.passes_of_checkQueries_eq_ok hchecked⟩
    · rintro ⟨hglobal, hall⟩
      obtain ⟨out, hout, -⟩ := Config.checkQueries_of_passes 0 c.queries hall
      exact ⟨out, by rw [Config.validate_of_global c hglobal, hout]⟩
  ok_queries qs h := by
    obtain ⟨hglobal, hchecked⟩ := Config.global_of_validate_eq_ok h
    obtain ⟨out, hout, hidx, hmodes⟩ :=
      Config.checkQueries_of_passes 0 c.queries (Config.passes_of_checkQueries_eq_ok hchecked)
    have hsame : out = qs := by
      rw [hchecked] at hout
      injection hout with hout
      exact hout.symm
    subst hsame
    exact ⟨by rw [hidx, List.range_eq_range'], hmodes⟩
  no_queries h := by simp [Config.validate, h]
  invalid_period hq hp := by simp [Config.validate, hq, hp]
  empty_delta hq hp hd := by simp [Config.validate, hq, hp, hd]
  empty_key hq hp hd hk := by simp [Config.validate, hq, hp, hd, hk, String.isEmpty_iff]
  overlap hq hp _ hk ho := by simp [Config.validate, hq, hp, hk, ho, String.isEmpty_iff]
  first_refused hglobal i hi hbefore hfail := by
    rw [Config.validate_of_global c hglobal, Config.checkQueries_first_refused 0 c.queries i hi
      hbefore hfail, Nat.zero_add]

example : Config.validate { queries := [⟨"single-row", "DROP TABLE t"⟩, ⟨"bogus", "SELECT 1"⟩] } =
    .error (.unsafeQuery 0 "DROP TABLE t") := rfl

end RowMetrics
