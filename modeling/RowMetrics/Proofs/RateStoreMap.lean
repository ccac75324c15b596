import Mathlib.Data.Finset.Card
import RowMetrics.Rate.Observe

/-!
The rate store behaves as a finite map from series keys to their last observation. The store
is a list of entries, and nothing in its type keeps a key from having two of them; but every
store that observations and evictions build from the empty one has distinct keys (`Wf`), and
on such a store `get?` is the map, `dom` its domain and `size` its cardinality.

`MapLaws` lists what the store promises as a map: an observation sets its key whatever it
replies, eviction keeps exactly the fresh entries and counts the others, the reply of an
observation depends only on the key's entry, and observations of distinct keys commute.
The main statement is `reachable_store_is_finite_map`.
-/

namespace RowMetrics

namespace Observation

theorem rateSince_of_prior_text {prior : Observation} {v : Value} (t : Timestamp)
    (hv : v.kind ≠ .text) (hp : prior.value.kind = .text) :
    prior.rateSince ⟨v, t⟩ = none := by
  cases v with
  | text s => exact absurd rfl hv
  | integer n => simp [rateSince, hp]
  | float x => simp [rateSince, hp]

theorem rateSince_of_not_elapsed {prior : Observation} {v : Value} {t : Timestamp}
    (hv : v.kind ≠ .text)
    (he : (t.secondsSince prior.time).le (Binary64.zero false) = true) :
    prior.rateSince ⟨v, t⟩ = none := by
  cases v with
  | text s => exact absurd rfl hv
  | integer n => simp [rateSince, he]
  | float x => simp [rateSince, he]

theorem rateSince_of_elapsed {prior : Observation} {v : Value} {t : Timestamp}
    (hv : v.kind ≠ .text) (hp : prior.value.kind ≠ .text)
    (he : (t.secondsSince prior.time).le (Binary64.zero false) = false) :
    ∃ r, prior.rateSince ⟨v, t⟩ = some r ∧ r.kind = v.kind := by
  obtain ⟨p, tp⟩ := prior
  simp only at he
  cases v with
  | text s => exact absurd rfl hv
  | integer n =>
      cases p with
      | text s => exact absurd rfl hp
      | integer m =>
          simp [rateSince, he, Value.kind]
          split <;> simp
      | float x =>
          simp [rateSince, he, Value.kind, Value.toBinary64?]
          split <;> simp
  | float x =>
      cases p with
      | text s => exact absurd rfl hp
      | integer m =>
          simp [rateSince, he, Value.kind, Value.toBinary64?]
          split <;> simp
      | float y =>
          simp [rateSince, he, Value.kind, Value.toBinary64?]
          split <;> simp

theorem rateSince_kind {prior : Observation} {v : Value} {t : Timestamp} {r : Value}
    (h : prior.rateSince ⟨v, t⟩ = some r) : r.kind = v.kind := by
  by_cases hv : v.kind = .text
  · cases v with
    | text s =>
        simp only [rateSince, Option.some.injEq] at h
        rw [← h]
    | integer n => cases hv
    | float x => cases hv
  · by_cases hp : prior.value.kind = .text
    · rw [rateSince_of_prior_text t hv hp] at h
      cases h
    · cases he : (t.secondsSince prior.time).le (Binary64.zero false) with
      | true =>
          rw [rateSince_of_not_elapsed hv he] at h
          cases h
      | false =>
          obtain ⟨r', hr', hkind⟩ := rateSince_of_elapsed hv hp he
          rw [hr', Option.some.injEq] at h
          rw [← h, hkind]

/-- There is no rate exactly when a number follows text, or follows anything without time
passing. -/
theorem rateSince_eq_none_iff (prior : Observation) (v : Value) (t : Timestamp) :
    prior.rateSince ⟨v, t⟩ = none ↔
      v.kind ≠ .text ∧
        (prior.value.kind = .text ∨
          (t.secondsSince prior.time).le (Binary64.zero false) = true) := by
  by_cases hv : v.kind = .text
  · cases v with
    | text s => simp [rateSince, Value.kind]
    | integer n => cases hv
    | float x => cases hv
  · by_cases hp : prior.value.kind = .text
    · simp [rateSince_of_prior_text t hv hp, hv, hp]
    · cases he : (t.secondsSince prior.time).le (Binary64.zero false) with
      | true => simp [rateSince_of_not_elapsed hv he, hv]
      | false =>
          obtain ⟨r, hr, -⟩ := rateSince_of_elapsed hv hp he
          simp [hr, hp]

theorem rateSince_eq_text_iff (prior : Observation) (v : Value) (t : Timestamp) (s : String) :
    prior.rateSince ⟨v, t⟩ = some (.text s) ↔ v = .text s := by
  constructor
  · intro h
    have hkind : v.kind = .text := (rateSince_kind h).symm
    cases v with
    | text s' =>
        simp only [rateSince, Option.some.injEq] at h
        rw [h]
    | integer n => cases hkind
    | float x => cases hkind
  · rintro rfl
    rfl

end Observation

namespace RateStore

/-- The series keys of the store, in entry order. -/
def keys (s : RateStore) : List String := s.entries.map Prod.fst

/-- The series that the store holds. -/
def dom (s : RateStore) : Finset String := s.keys.toFinset

/-- No series has two entries. -/
def Wf (s : RateStore) : Prop := s.keys.Nodup

/-- The stores that observations and evictions make from the empty store. Reading an entry or
the size leaves the store as it is. -/
inductive Reachable : RateStore → Prop
  | empty : Reachable empty
  | observe {s : RateStore} (key : String) (value : Value) (time : Timestamp) :
      Reachable s → Reachable (s.observe key value time).1
  | evict {s : RateStore} (now : Timestamp) (ttl : Nat) :
      Reachable s → Reachable (s.evictStale now ttl).1

theorem lookup_eq_none_iff {β : Type} (es : List (String × β)) (k : String) :
    es.lookup k = none ↔ k ∉ es.map Prod.fst := by
  rw [List.lookup_eq_none_iff]
  simp only [List.mem_map, not_exists, not_and, bne_iff_ne, ne_eq]
  exact ⟨fun h p hp hk => h p hp hk.symm, fun h p hp hk => h p hp hk.symm⟩

theorem mem_dom_iff (s : RateStore) (k : String) : k ∈ s.dom ↔ s.get? k ≠ none := by
  rw [dom, keys, List.mem_toFinset, get?, ne_eq, lookup_eq_none_iff, not_not]

theorem dom_eq_of_get? {s s' : RateStore} (h : ∀ k, s.get? k = s'.get? k) : s.dom = s'.dom := by
  ext k
  rw [mem_dom_iff, mem_dom_iff, h k]

theorem keys_setEntry (key : String) (o : Observation) (es : List (String × Observation)) :
    (setEntry key o es).map Prod.fst =
      if key ∈ es.map Prod.fst then es.map Prod.fst else es.map Prod.fst ++ [key] := by
  induction es with
  | nil => simp [setEntry]
  | cons e rest ih =>
      obtain ⟨k, p⟩ := e
      by_cases hk : k = key
      · subst hk
        simp [setEntry]
      · simp [setEntry, hk, ih]
        split <;> simp_all [eq_comm]

theorem wf_empty : empty.Wf := List.nodup_nil

theorem wf_set {s : RateStore} (h : s.Wf) (key : String) (o : Observation) :
    (s.set key o).Wf := by
  unfold Wf keys set at *
  rw [keys_setEntry]
  split
  · exact h
  · rename_i hk
    refine List.nodup_append.mpr ⟨h, List.nodup_singleton key, ?_⟩
    intro a ha b hb hab
    rw [List.mem_singleton.mp hb] at hab
    exact hk (hab ▸ ha)

theorem keys_evictStale_sublist (s : RateStore) (now : Timestamp) (ttl : Nat) :
    (s.evictStale now ttl).1.keys.Sublist s.keys :=
  List.Sublist.map Prod.fst List.filter_sublist

theorem wf_evictStale {s : RateStore} (h : s.Wf) (now : Timestamp) (ttl : Nat) :
    (s.evictStale now ttl).1.Wf :=
  h.sublist (keys_evictStale_sublist s now ttl)

/-- Every store that a sequence of operations builds has distinct keys. -/
theorem Reachable.wf {s : RateStore} (h : s.Reachable) : s.Wf := by
  induction h with
  | empty => exact wf_empty
  | observe key value time _ ih => exact wf_set ih key _
  | evict now ttl _ ih => exact wf_evictStale ih now ttl

/-- With distinct keys, eviction reads as the map with every stale entry removed. Without them
a fresh duplicate behind a stale entry would come to light. -/
theorem get?_evictStale {s : RateStore} (h : s.Wf) (now : Timestamp) (ttl : Nat) (k : String) :
    (s.evictStale now ttl).1.get? k = (s.get? k).filter (isFresh now ttl) := by
  obtain ⟨es⟩ := s
  simp only [evictStale, get?]
  unfold Wf keys at h
  simp only at h
  induction es with
  | nil => simp
  | cons e rest ih =>
      obtain ⟨k', p⟩ := e
      simp only [List.map_cons, List.nodup_cons] at h
      by_cases hk : k = k'
      · subst hk
        have hrest : rest.lookup k = none := (lookup_eq_none_iff rest k).mpr h.1
        have hkept : (rest.filter fun e => isFresh now ttl e.2).lookup k = none := by
          rw [ih h.2, hrest, Option.filter_none]
        by_cases hf : isFresh now ttl p <;> simp [hf, hkept, Option.filter_some]
      · have hb : (k == k') = false := by simpa using hk
        by_cases hf : isFresh now ttl p <;> simp [hf, List.lookup_cons, hb, ih h.2]

theorem size_eq_card_dom {s : RateStore} (h : s.Wf) : s.size = s.dom.card := by
  rw [dom, List.toFinset_card_of_nodup h, keys, List.length_map, size]

theorem size_eq_of_get? {s s' : RateStore} (hs : s.Wf) (hs' : s'.Wf)
    (h : ∀ k, s.get? k = s'.get? k) : s.size = s'.size := by
  rw [size_eq_card_dom hs, size_eq_card_dom hs', dom_eq_of_get? h]

theorem evictStale_count {s : RateStore} (h : s.Wf) (now : Timestamp) (ttl : Nat) :
    (s.evictStale now ttl).2 = (s.dom \ (s.evictStale now ttl).1.dom).card := by
  have hsub : (s.evictStale now ttl).1.dom ⊆ s.dom := by
    intro k hk
    simp only [dom, List.mem_toFinset] at hk ⊢
    exact (keys_evictStale_sublist s now ttl).subset hk
  rw [Finset.card_sdiff_of_subset hsub, ← size_eq_card_dom h,
    ← size_eq_card_dom (wf_evictStale h now ttl)]
  rfl

theorem observe_snd_congr {s s' : RateStore} {key : String} (h : s'.get? key = s.get? key)
    (value : Value) (time : Timestamp) :
    (s'.observe key value time).2 = (s.observe key value time).2 := by
  rw [observe_snd, observe_snd, h]

theorem observe_eq_none_iff (s : RateStore) (key : String) (value : Value) (time : Timestamp) :
    (s.observe key value time).2 = none ↔
      s.get? key = none ∨ value.kind ≠ .text ∧ ∃ p, s.get? key = some p ∧
        (p.value.kind = .text ∨
          (time.secondsSince p.time).le (Binary64.zero false) = true) := by
  rw [observe_snd]
  cases s.get? key with
  | none => simp
  | some p => simp [Observation.rateSince_eq_none_iff]

theorem observe_eq_text_iff (s : RateStore) (key : String) (value : Value) (time : Timestamp)
    (str : String) :
    (s.observe key value time).2 = some (.text str) ↔ value = .text str ∧ key ∈ s.dom := by
  rw [observe_snd, mem_dom_iff]
  cases s.get? key with
  | none => simp
  | some p => simp [Observation.rateSince_eq_text_iff]

theorem observe_kind {s : RateStore} {key : String} {value : Value} {time : Timestamp}
    {r : Value} (h : (s.observe key value time).2 = some r) : r.kind = value.kind := by
  rw [observe_snd, Option.bind_eq_some_iff] at h
  obtain ⟨_, -, hr⟩ := h
  exact Observation.rateSince_kind hr

/-- Observations of two distinct keys reply the same and leave the same map, in either order. -/
theorem observe_comm (s : RateStore) {k₁ k₂ : String} (hk : k₁ ≠ k₂) (v₁ v₂ : Value)
    (t₁ t₂ : Timestamp) :
    let a := s.observe k₁ v₁ t₁
    let b := a.1.observe k₂ v₂ t₂
    let c := s.observe k₂ v₂ t₂
    let d := c.1.observe k₁ v₁ t₁
    a.2 = d.2 ∧ b.2 = c.2 ∧ ∀ k, b.1.get? k = d.1.get? k := by
  intro a b c d
  have hc₁ : c.1.get? k₁ = s.get? k₁ := by simp [c, hk]
  have ha₂ : a.1.get? k₂ = s.get? k₂ := by simp [a, hk.symm]
  refine ⟨(observe_snd_congr hc₁ v₁ t₁).symm, observe_snd_congr ha₂ v₂ t₂, ?_⟩
  intro k
  simp only [b, d, a, c, observe_fst, get?_set]
  by_cases h₁ : k = k₁ <;> by_cases h₂ : k = k₂ <;> simp_all

/-- How a store behaves as a finite map from series keys to observations, read through `get?`
with domain `dom`. -/
structure MapLaws (s : RateStore) : Prop where
  /-- An observation sets its key, whatever it replies, and no other. -/
  observe_get? : ∀ key value time k,
    (s.observe key value time).1.get? k = if k = key then some ⟨value, time⟩ else s.get? k
  /-- Eviction removes exactly the entries more than `ttl` milliseconds old. -/
  evict_get? : ∀ now ttl k,
    (s.evictStale now ttl).1.get? k =
      (s.get? k).filter fun o => decide (now.millisSince o.time ≤ ttl)
  /-- Eviction replies with the number of series it removed. -/
  evict_count : ∀ now ttl,
    (s.evictStale now ttl).2 = (s.dom \ (s.evictStale now ttl).1.dom).card
  size_eq_card : s.size = s.dom.card
  /-- No rate for a new series, and none for a number after text or with no time passed. -/
  rate_eq_none_iff : ∀ key value time,
    (s.observe key value time).2 = none ↔
      s.get? key = none ∨ value.kind ≠ .text ∧ ∃ p, s.get? key = some p ∧
        (p.value.kind = .text ∨
          (time.secondsSince p.time).le (Binary64.zero false) = true)
  /-- Text comes back as it is, once the series is known. -/
  rate_eq_text_iff : ∀ key value time str,
    (s.observe key value time).2 = some (.text str) ↔ value = .text str ∧ key ∈ s.dom
  /-- Any other reply is a rate of the new value's kind. -/
  rate_kind : ∀ key value time r, (s.observe key value time).2 = some r → r.kind = value.kind
  /-- The reply depends on the store only through the observed key's entry. -/
  rate_local : ∀ (s' : RateStore) key value time, s'.get? key = s.get? key →
    (s'.observe key value time).2 = (s.observe key value time).2
  /-- Observations of distinct keys commute: the same replies, the same map, the same size. -/
  observe_comm : ∀ k₁ k₂ v₁ v₂ t₁ t₂, k₁ ≠ k₂ →
    let a := s.observe k₁ v₁ t₁
    let b := a.1.observe k₂ v₂ t₂
    let c := s.observe k₂ v₂ t₂
    let d := c.1.observe k₁ v₁ t₁
    a.2 = d.2 ∧ b.2 = c.2 ∧ (∀ k, b.1.get? k = d.1.get? k) ∧ b.1.size = d.1.size
  /-- A series that eviction removed starts cold at its next observation. -/
  evicted_cold : ∀ now ttl key o value time, s.get? key = some o →
    ttl < now.millisSince o.time → ((s.evictStale now ttl).1.observe key value time).2 = none

/-- Every store that observations and evictions build from the empty store is a finite map:
its reads, its size and the replies of its operations are those of the map `get?`. -/
theorem reachable_store_is_finite_map {s : RateStore} (hs : s.Reachable) : s.MapLaws := by
  have hw := hs.wf
  refine ⟨fun key value time k => get?_set s key k _, get?_evictStale hw,
    evictStale_count hw, size_eq_card_dom hw, observe_eq_none_iff s, observe_eq_text_iff s,
    fun _ _ _ _ => observe_kind, fun _ _ _ _ h => observe_snd_congr h _ _, ?_, ?_⟩
  · intro k₁ k₂ v₁ v₂ t₁ t₂ hk
    obtain ⟨ha, hb, hview⟩ := observe_comm s hk v₁ v₂ t₁ t₂
    refine ⟨ha, hb, hview, size_eq_of_get? ?_ ?_ hview⟩
    · exact wf_set (wf_set hw k₁ _) k₂ _
    · exact wf_set (wf_set hw k₂ _) k₁ _
  · intro now ttl key o value time ho hstale
    have hgone : (s.evictStale now ttl).1.get? key = none := by
      rw [get?_evictStale hw, ho, Option.filter_some, isFresh]
      simp [Nat.not_le.mpr hstale]
    rw [observe_snd, hgone, Option.bind_none]

/-- The store after one observation of a new series. -/
theorem store_after_first_observation_is_finite_map :
    (empty.observe "q" (.integer 100) ⟨0⟩).1.Reachable ∧
      (empty.observe "q" (.integer 100) ⟨0⟩).1.MapLaws :=
  have h := Reachable.observe "q" (.integer 100) ⟨0⟩ .empty
  ⟨h, reachable_store_is_finite_map h⟩

end RateStore

end RowMetrics
