import RowMetrics.Value.Basic
import RowMetrics.Clock

/-!
The rate store: for every series key, the last value seen and when. The store is a list of
entries with distinct keys, read through `get?`; writing a key replaces its entry in place or
adds one at the end, and eviction drops every entry older than a time to live.
-/

namespace RowMetrics

/-- One sighting of a series: its value and the time it was taken. -/
structure Observation where
  value : Value
  time : Timestamp
  deriving DecidableEq, Repr

/-- The last observation of every series seen, by series key. -/
structure RateStore where
  entries : List (String × Observation)
  deriving Repr

namespace RateStore

def empty : RateStore := ⟨[]⟩

def get? (s : RateStore) (key : String) : Option Observation := s.entries.lookup key

/-- Sets the entry of a key: replaces it where it stands, or adds it at the end. -/
def setEntry (key : String) (o : Observation) :
    List (String × Observation) → List (String × Observation)
  | [] => [(key, o)]
  | (k, p) :: rest => if k = key then (key, o) :: rest else (k, p) :: setEntry key o rest

/-- Records `o` as the last observation of `key`. -/
def set (s : RateStore) (key : String) (o : Observation) : RateStore :=
  ⟨setEntry key o s.entries⟩

def size (s : RateStore) : Nat := s.entries.length

def isEmpty (s : RateStore) : Bool := s.entries.isEmpty

/-- Whether an observation is at most `ttl` milliseconds older than `now`; one from after
`now` is not old at all. -/
def isFresh (now : Timestamp) (ttl : Nat) (o : Observation) : Bool :=
  decide (now.millisSince o.time ≤ ttl)

/-- Drops the series last seen more than `ttl` milliseconds before `now`, and counts them. -/
def evictStale (s : RateStore) (now : Timestamp) (ttl : Nat) : RateStore × Nat :=
  let kept := s.entries.filter (fun e => isFresh now ttl e.2)
  (⟨kept⟩, s.entries.length - kept.length)

/-- Setting a key changes what that key holds, and nothing else. -/
@[simp] theorem get?_set (s : RateStore) (key k : String) (o : Observation) :
    (s.set key o).get? k = if k = key then some o else s.get? k := by
  simp only [set, get?]
  induction s.entries with
  | nil =>
    by_cases hk : k = key
    · simp [setEntry, hk]
    · have hf : (k == key) = false := by simpa using hk
      simp [setEntry, List.lookup_cons, hk, hf]
  | cons e rest ih =>
    obtain ⟨k', p⟩ := e
    by_cases hk : k = k'
    · subst hk
      by_cases h : k = key
      · subst h; simp [setEntry]
      · simp [setEntry, h]
    · have hf : (k == k') = false := by simpa using hk
      by_cases h : k' = key
      · subst h; simp [setEntry, List.lookup_cons, hk, hf]
      · simp [setEntry, List.lookup_cons, h, hf, ih]

end RateStore

end RowMetrics
