import RowMetrics.Proofs.DispatchErrors

/-!
When typing a cell faults. The integer reader drops one sign and then compares the first two
bytes of the rest with the base prefixes; the only cut that can fall inside a character is that
one, at byte 2. It does exactly when the rest opens with a character of three or four bytes, or
with a one-byte character and then a longer one (`cutsAtTwo`): `"aé"`, `"0é"`, `"日本"`, `"€5"`,
but not `"é5"` or `"-é"`. The cuts after a sign and after a leading zero follow a one-byte
character and so always fall between characters.

The fault of the integer reader is the fault of the whole typing of the cell, and past its
checks a dispatch returns records exactly when none of the cells it reads is cut that way.
-/

namespace RowMetrics

namespace Value

/-- The text after one leading sign, as the integer reader sees it. -/
def unsignedPart : List Char → List Char
  | '-' :: rest => rest
  | '+' :: rest => rest
  | cs => cs

/-- Whether byte 2 of a text falls inside a character: the text opens with a character of three
or four bytes, or with a one-byte character and then a longer one. -/
def cutsAtTwo : List Char → Bool
  | c :: d :: _ => 2 < c.utf8Size || (c.utf8Size == 1 && 1 < d.utf8Size)
  | [c] => 2 < c.utf8Size
  | [] => false

theorem isCharBoundary_one {c : Char} (rest : List Char) (h : c.utf8Size = 1) :
    Text.isCharBoundary (c :: rest) 1 = true := by
  simp [Text.isCharBoundary, h]

theorem cutsAtTwo_iff (cs : List Char) :
    cutsAtTwo cs = true ↔ 2 ≤ Text.byteLength cs ∧ Text.isCharBoundary cs 2 = false := by
  match cs with
  | [] => simp [cutsAtTwo, Text.byteLength]
  | [c] =>
      have hpos := c.utf8Size_pos
      have hle := c.utf8Size_le_four
      by_cases h3 : 2 < c.utf8Size
      · simp [cutsAtTwo, Text.byteLength, Text.isCharBoundary, h3]
        omega
      · have hsmall : c.utf8Size = 1 ∨ c.utf8Size = 2 := by omega
        rcases hsmall with h | h <;> simp [cutsAtTwo, Text.byteLength, Text.isCharBoundary, h]
  | c :: d :: rest =>
      have hpos := c.utf8Size_pos
      have hle := c.utf8Size_le_four
      have hdpos := d.utf8Size_pos
      by_cases h3 : 2 < c.utf8Size
      · simp [cutsAtTwo, Text.byteLength, Text.isCharBoundary, h3]
        omega
      · have hsmall : c.utf8Size = 1 ∨ c.utf8Size = 2 := by omega
        rcases hsmall with h | h
        · -- after a one-byte character, byte 2 ends the second character or falls inside it
          by_cases hd : d.utf8Size = 1
          · simp [cutsAtTwo, Text.byteLength, Text.isCharBoundary, h, hd]
          · have hd2 : 1 < d.utf8Size := by omega
            simp [cutsAtTwo, Text.byteLength, Text.isCharBoundary, h, hd2]
            omega
        · simp [cutsAtTwo, Text.byteLength, Text.isCharBoundary, h]

example : cutsAtTwo "€5".toList = true ∧ cutsAtTwo "0é".toList = true ∧
    cutsAtTwo "é5".toList = false ∧ cutsAtTwo "ab東".toList = false := by
  decide

theorem readUnsignedInteger_eq_error_iff (negative : Bool) (cs : List Char) (f : Fault) :
    readUnsignedInteger negative cs = .error f ↔
      f = .splitCharacter ∧ 2 ≤ Text.byteLength cs ∧ Text.isCharBoundary cs 2 = false := by
  unfold readUnsignedInteger
  by_cases hcut : 2 ≤ Text.byteLength cs ∧ Text.isCharBoundary cs 2 = false
  · have hcut' : 2 ≤ Text.byteLength cs ∧ (!Text.isCharBoundary cs 2) = true := by
      simpa using hcut
    rw [if_pos hcut', and_iff_left hcut]
    exact ⟨fun h => (Except.error.inj h).symm, fun h => h ▸ rfl⟩
  · have hcut' : ¬(2 ≤ Text.byteLength cs ∧ (!Text.isCharBoundary cs 2) = true) := by
      simpa using hcut
    have hno : ¬(f = .splitCharacter ∧ 2 ≤ Text.byteLength cs ∧
        Text.isCharBoundary cs 2 = false) := fun h => hcut h.2
    rw [if_neg hcut', iff_false_intro hno, iff_false]
    intro h
    cases hs : splitBase cs with
    | mk radix digits =>
        rw [hs] at h
        cases digits with
        | nil => cases h
        | cons d tail =>
            dsimp only at h
            split at h <;> cases h

theorem readInteger_eq (s : String) :
    ∃ negative, readInteger s = readUnsignedInteger negative (unsignedPart s.toList) := by
  unfold readInteger
  split
  · rename_i rest h
    exact ⟨true, by rw [h]; rfl⟩
  · rename_i rest h
    exact ⟨false, by rw [h]; rfl⟩
  · rename_i cs hminus hplus
    have hkeep : unsignedPart s.toList = s.toList := by
      unfold unsignedPart
      split
      · rename_i rest h
        exact absurd h (hminus rest)
      · rename_i rest h
        exact absurd h (hplus rest)
      · rfl
    exact ⟨false, by rw [hkeep]⟩

theorem readInteger_eq_error_iff (s : String) (f : Fault) :
    readInteger s = .error f ↔
      f = .splitCharacter ∧ cutsAtTwo (unsignedPart s.toList) = true := by
  obtain ⟨negative, h⟩ := readInteger_eq s
  rw [h, readUnsignedInteger_eq_error_iff, cutsAtTwo_iff]

/-- Only the integer reading can fault; the float reading and the text after it always answer. -/
theorem infer_eq_error_iff (raw : String) (f : Fault) :
    infer raw = .error f ↔ readInteger raw = .error f := by
  unfold infer
  simp only [bind, Except.bind]
  cases readInteger raw with
  | error e => simp only [Except.error.injEq]
  | ok n =>
      constructor
      · intro h
        cases n with
        | some n => cases h
        | none =>
            simp only at h
            split at h <;> cases h
      · intro h
        cases h

theorem infer_isOk_iff (raw : String) :
    (∃ v, infer raw = .ok v) ↔ cutsAtTwo (unsignedPart raw.toList) = false := by
  cases h : infer raw with
  | error f =>
      obtain ⟨-, hcut⟩ := (readInteger_eq_error_iff raw f).mp ((infer_eq_error_iff raw f).mp h)
      simp [hcut]
  | ok v =>
      have hcut : cutsAtTwo (unsignedPart raw.toList) ≠ true := fun hcut => by
        have hfault :=
          (infer_eq_error_iff raw _).mpr ((readInteger_eq_error_iff raw _).mpr ⟨rfl, hcut⟩)
        rw [h] at hfault
        cases hfault
      simpa using hcut

end Value

namespace Assemble

/-- Past its checks, a dispatch returns records exactly when none of the cells it reads is cut
at byte 2 after its sign. -/
theorem assemble_isOk_iff_uncut {mk : Markers} {q : Query} {rs : ResultSet} (time : Timestamp)
    (store : RateStore) (h : dispatchError? mk q rs = none) :
    (∃ out, Query.assemble mk q rs time store = .ok (.ok out)) ↔
      ∀ a ∈ (actions mk q.mode rs).flatten,
        Value.cutsAtTwo (Value.unsignedPart a.cell.toList) = false := by
  rw [assemble_isOk_iff time store h]
  simp only [Value.infer_isOk_iff]

theorem assemble_faults_of_cut {mk : Markers} {q : Query} {rs : ResultSet} {raw : String}
    (time : Timestamp) (store : RateStore)
    (hcut : Value.cutsAtTwo (Value.unsignedPart raw.toList) = true)
    (hreads : ∃ a ∈ (actions mk q.mode rs).flatten, a.cell = raw) (out : RateStore × List Record) :
    Query.assemble mk q rs time store ≠ .ok (.ok out) := by
  intro hout
  have hcheck : dispatchError? mk q rs = none := by
    cases he : dispatchError? mk q rs with
    | none => rfl
    | some e =>
        have herr := (assemble_error_iff mk q rs time store e).mpr he
        rw [hout] at herr
        cases herr
  obtain ⟨a, ha, hcell⟩ := hreads
  have huncut := (assemble_isOk_iff_uncut time store hcheck).mp ⟨out, hout⟩ a ha
  rw [hcell, hcut] at huncut
  cases huncut

end Assemble

/-- Where the integer reader cuts the text of a cell, and what a fault there stops. -/
structure CutContract (raw : String) : Prop where
  /-- The prefix test faults exactly when byte 2 after the sign falls inside a character. -/
  integer_iff : Value.readInteger raw = .error .splitCharacter ↔
    Value.cutsAtTwo (Value.unsignedPart raw.toList) = true
  /-- Typing the cell answers exactly when the prefix test does. -/
  infer_iff : (∃ v, Value.infer raw = .ok v) ↔
    Value.cutsAtTwo (Value.unsignedPart raw.toList) = false
  /-- Dropping a sign cuts after its one byte. -/
  sign_cut : ∀ rest, raw.toList = '-' :: rest ∨ raw.toList = '+' :: rest →
    Text.isCharBoundary raw.toList 1 = true
  /-- Dropping a leading zero cuts after its one byte. -/
  zero_cut : ∀ rest, Value.unsignedPart raw.toList = '0' :: rest →
    Text.isCharBoundary (Value.unsignedPart raw.toList) 1 = true
  /-- A cut text stops every dispatch that reads it. -/
  dispatch_faults : Value.cutsAtTwo (Value.unsignedPart raw.toList) = true →
    ∀ (mk : Markers) (q : Query) (rs : ResultSet) (time : Timestamp) (store : RateStore),
      (∃ a ∈ (Assemble.actions mk q.mode rs).flatten, a.cell = raw) →
      ∀ out, Query.assemble mk q rs time store ≠ .ok (.ok out)

theorem cell_reading_faults_iff_cut (raw : String) : CutContract raw where
  integer_iff := (Value.readInteger_eq_error_iff raw .splitCharacter).trans (and_iff_right rfl)
  infer_iff := Value.infer_isOk_iff raw
  sign_cut rest h := by
    rcases h with h | h <;> rw [h] <;> exact Value.isCharBoundary_one rest (by decide)
  zero_cut rest h := by
    rw [h]
    exact Value.isCharBoundary_one rest (by decide)
  dispatch_faults hcut _ _ _ time store hreads out hout :=
    Assemble.assemble_faults_of_cut time store hcut hreads out hout

/-- A cell of an ASCII letter and an accented letter faults instead of reading as no integer. -/
theorem integer_reading_cuts_inside_character :
    Value.readInteger "aé" = .error .splitCharacter ∧ Value.infer "aé" = .error .splitCharacter :=
  ⟨rfl, rfl⟩

end RowMetrics
