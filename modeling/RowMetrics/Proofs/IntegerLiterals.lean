import Mathlib.Tactic.SplitIfs
import RowMetrics.Value.Basic

/-!
The integer literals of a cell, as a grammar. A literal is at most one sign and then an
unsigned literal: `0x`, `0b` or `0o` in either case followed by digits of base 16, 2 or 8; a
leading `0` followed by octal digits; a lone `0`; or decimal digits that do not start with `0`
(`UnsignedLiteral`). The integer reader returns a value exactly for the literals whose signed
value fits the signed 64-bit range, and that value; on every other text that it reads without a
fault it returns none. Typing a cell gives an integer exactly in the first case.

Every decimal text of a signed 64-bit integer is such a literal, so it reads back to itself.
-/

namespace RowMetrics

namespace Value

/-- The digits of a base as the literal grammar writes them: `[01]`, `[0-7]`, `[0-9]` and
`[0-9a-fA-F]`; no other base has digits. -/
def IsDigitOf : Nat → Char → Prop
  | 2, c => c = '0' ∨ c = '1'
  | 8, c => '0' ≤ c ∧ c ≤ '7'
  | 10, c => '0' ≤ c ∧ c ≤ '9'
  | 16, c => ('0' ≤ c ∧ c ≤ '9') ∨ ('a' ≤ c ∧ c ≤ 'f') ∨ ('A' ≤ c ∧ c ≤ 'F')
  | _, _ => False

/-- The value of a digit: `0`–`9` count from zero, the letters from ten. -/
def charValue (c : Char) : Nat :=
  if c ≤ '9' then c.toNat - '0'.toNat
  else if c ≤ 'Z' then c.toNat - 'A'.toNat + 10
  else c.toNat - 'a'.toNat + 10

/-- The value of digits in base `radix`, most significant first, written after the value
`acc`. -/
def digitsValue (radix acc : Nat) (cs : List Char) : Nat :=
  cs.foldl (fun n c => n * radix + charValue c) acc

/-- Unsigned integer literals and their values. -/
inductive UnsignedLiteral : List Char → Nat → Prop
  | hex {x : Char} {ds : List Char} (hx : x = 'x' ∨ x = 'X') (hne : ds ≠ [])
      (hds : ∀ c ∈ ds, IsDigitOf 16 c) : UnsignedLiteral ('0' :: x :: ds) (digitsValue 16 0 ds)
  | binary {x : Char} {ds : List Char} (hx : x = 'b' ∨ x = 'B') (hne : ds ≠ [])
      (hds : ∀ c ∈ ds, IsDigitOf 2 c) : UnsignedLiteral ('0' :: x :: ds) (digitsValue 2 0 ds)
  | octal {x : Char} {ds : List Char} (hx : x = 'o' ∨ x = 'O') (hne : ds ≠ [])
      (hds : ∀ c ∈ ds, IsDigitOf 8 c) : UnsignedLiteral ('0' :: x :: ds) (digitsValue 8 0 ds)
  | bareOctal {ds : List Char} (hne : ds ≠ []) (hds : ∀ c ∈ ds, IsDigitOf 8 c) :
      UnsignedLiteral ('0' :: ds) (digitsValue 8 0 ds)
  | zero : UnsignedLiteral ['0'] 0
  | decimal {d : Char} {ds : List Char} (hd : '1' ≤ d ∧ d ≤ '9')
      (hds : ∀ c ∈ ds, IsDigitOf 10 c) : UnsignedLiteral (d :: ds) (digitsValue 10 0 (d :: ds))

/-- Integer literals and their signed values: an unsigned literal after at most one sign. -/
inductive IntegerLiteral : List Char → Int → Prop
  | unsigned {cs : List Char} {m : Nat} : UnsignedLiteral cs m → IntegerLiteral cs m
  | plus {cs : List Char} {m : Nat} : UnsignedLiteral cs m → IntegerLiteral ('+' :: cs) m
  | minus {cs : List Char} {m : Nat} : UnsignedLiteral cs m → IntegerLiteral ('-' :: cs) (-(m : Int))

section Digits

theorem char_le_iff (c d : Char) : c ≤ d ↔ c.toNat ≤ d.toNat := by
  simp [Char.le_def, UInt32.le_iff_toNat_le]

/-- The four bases of the grammar. -/
def IsLiteralBase (radix : Nat) : Prop := radix = 2 ∨ radix = 8 ∨ radix = 10 ∨ radix = 16

theorem digitValue_eq_some_iff {radix : Nat} (hr : IsLiteralBase radix) (c : Char) (v : Nat) :
    digitValue radix c = some v ↔ IsDigitOf radix c ∧ v = charValue c := by
  have h0 : c = '0' ↔ c.toNat = 48 := by rw [← Char.toNat_inj]; rfl
  have h1 : c = '1' ↔ c.toNat = 49 := by rw [← Char.toNat_inj]; rfl
  rcases hr with rfl | rfl | rfl | rfl <;>
    simp only [digitValue, IsDigitOf, charValue, char_le_iff, h0, h1, Option.filter,
      Char.reduceToNat] <;>
    split_ifs <;> simp <;> omega

theorem isDigitOf_range {radix : Nat} {c : Char} (h : IsDigitOf radix c) :
    (48 ≤ c.toNat ∧ c.toNat ≤ 57) ∨ (97 ≤ c.toNat ∧ c.toNat ≤ 102) ∨
      (65 ≤ c.toNat ∧ c.toNat ≤ 70) := by
  unfold IsDigitOf at h
  split at h
  · rcases h with rfl | rfl <;> decide
  all_goals simp only [char_le_iff, Char.reduceToNat] at h
  all_goals omega

theorem opensDigits_of_isDigitOf {radix : Nat} {c : Char} (h : IsDigitOf radix c) :
    opensDigits c = true := by
  have hrange := isDigitOf_range h
  show ((decide (c.val ≥ 'A'.val ∧ c.val ≤ 'Z'.val) || (c.val ≥ 'a'.val && c.val ≤ 'z'.val)) ||
    (c.val ≥ '0'.val && c.val ≤ '9'.val)) = true
  simp [UInt32.le_iff_toNat_le]
  omega

theorem le_digitsValue {radix : Nat} (hr : 0 < radix) (acc : Nat) (cs : List Char) :
    acc ≤ digitsValue radix acc cs := by
  induction cs generalizing acc with
  | nil => exact Nat.le_refl acc
  | cons c rest ih =>
      have hstep : acc ≤ acc * radix + charValue c := by
        have := Nat.le_mul_of_pos_right acc hr
        omega
      exact Nat.le_trans hstep (ih _)

theorem readWord_eq_some_iff {radix : Nat} (hr : IsLiteralBase radix) {acc : Nat}
    (hacc : acc < Nat.pow 2 64) (cs : List Char) (m : Nat) :
    readWord radix acc cs = some m ↔
      (∀ c ∈ cs, IsDigitOf radix c) ∧ m = digitsValue radix acc cs ∧ m < Nat.pow 2 64 := by
  have hpos : 0 < radix := by rcases hr with rfl | rfl | rfl | rfl <;> decide
  induction cs generalizing acc with
  | nil =>
      simp only [readWord, Option.some.injEq, digitsValue, List.foldl_nil]
      constructor
      · rintro rfl
        exact ⟨by simp, rfl, hacc⟩
      · rintro ⟨-, rfl, -⟩
        rfl
  | cons c rest ih =>
      simp only [readWord, bind, Option.bind, List.mem_cons, forall_eq_or_imp]
      constructor
      · intro h
        cases hd : digitValue radix c with
        | none => rw [hd] at h; cases h
        | some d =>
            obtain ⟨hdigit, rfl⟩ := (digitValue_eq_some_iff hr c d).mp hd
            rw [hd] at h
            simp only at h
            split at h
            · obtain ⟨hrest, hm, hlt⟩ := (ih (by assumption)).mp h
              exact ⟨⟨hdigit, hrest⟩, hm, hlt⟩
            · cases h
      · rintro ⟨⟨hdigit, hrest⟩, hm, hlt⟩
        rw [(digitValue_eq_some_iff hr c (charValue c)).mpr ⟨hdigit, rfl⟩]
        have hm' : m = digitsValue radix (acc * radix + charValue c) rest := hm
        have hnext : acc * radix + charValue c < Nat.pow 2 64 := by
          have := le_digitsValue hpos (acc * radix + charValue c) rest
          omega
        simp only [hnext, if_true]
        exact (ih hnext).mpr ⟨hrest, hm', hlt⟩

end Digits

section Grammar

theorem isDigitOf_eight_iff (c : Char) : IsDigitOf 8 c ↔ 48 ≤ c.toNat ∧ c.toNat ≤ 55 := by
  simp [IsDigitOf, char_le_iff]

theorem isDigitOf_ten_iff (c : Char) : IsDigitOf 10 c ↔ 48 ≤ c.toNat ∧ c.toNat ≤ 57 := by
  simp [IsDigitOf, char_le_iff]

/-- The grammar said the way the reader splits a text: the base prefix picks the base and the
digits after it, and those digits are a non-empty digit string of that base. -/
theorem unsignedLiteral_iff (cs : List Char) (m : Nat) :
    UnsignedLiteral cs m ↔ (splitBase cs).2 ≠ [] ∧
      (∀ c ∈ (splitBase cs).2, IsDigitOf (splitBase cs).1 c) ∧
      m = digitsValue (splitBase cs).1 0 (splitBase cs).2 := by
  rcases cs with _ | ⟨c, rest⟩
  · simp only [splitBase, ne_eq, not_true_eq_false, false_and, iff_false]
    intro h
    cases h
  · by_cases hc : c = '0'
    · subst hc
      rcases rest with _ | ⟨x, ds⟩
      · simp only [splitBase]
        constructor
        · intro h
          cases h with
          | zero => exact ⟨by simp, by simp [IsDigitOf], rfl⟩
          | bareOctal hne => exact absurd rfl hne
          | decimal hd => exact absurd hd.1 (by decide)
        · rintro ⟨-, -, rfl⟩
          exact .zero
      · simp only [splitBase]
        -- a letter of the base prefixes is no octal digit, so at most one reading applies
        have hletter : ∀ y : Char, y ∈ ['x', 'X', 'b', 'B', 'o', 'O'] → ¬ IsDigitOf 8 y := by
          intro y hy
          rw [isDigitOf_eight_iff]
          simp only [List.mem_cons, List.not_mem_nil, or_false] at hy
          rcases hy with rfl | rfl | rfl | rfl | rfl | rfl <;> decide
        have hzero : ¬ ('1' ≤ '0' ∧ '0' ≤ '9') := by decide
        split_ifs with hx hb ho
        · constructor
          · intro h
            cases h with
            | hex _ hne hds => exact ⟨hne, hds, rfl⟩
            | binary hb' => rcases hx with rfl | rfl <;> simp at hb'
            | octal ho' => rcases hx with rfl | rfl <;> simp at ho'
            | bareOctal _ hds => exact absurd (hds x List.mem_cons_self) (hletter x (by
                rcases hx with rfl | rfl <;> simp))
            | decimal hd => exact absurd hd hzero
          · rintro ⟨hne, hds, rfl⟩
            exact .hex hx hne hds
        · constructor
          · intro h
            cases h with
            | hex hx' => exact absurd hx' hx
            | binary _ hne hds => exact ⟨hne, hds, rfl⟩
            | octal ho' => rcases hb with rfl | rfl <;> simp at ho'
            | bareOctal _ hds => exact absurd (hds x List.mem_cons_self) (hletter x (by
                rcases hb with rfl | rfl <;> simp))
            | decimal hd => exact absurd hd hzero
          · rintro ⟨hne, hds, rfl⟩
            exact .binary hb hne hds
        · constructor
          · intro h
            cases h with
            | hex hx' => exact absurd hx' hx
            | binary hb' => exact absurd hb' hb
            | octal _ hne hds => exact ⟨hne, hds, rfl⟩
            | bareOctal _ hds => exact absurd (hds x List.mem_cons_self) (hletter x (by
                rcases ho with rfl | rfl <;> simp))
            | decimal hd => exact absurd hd hzero
          · rintro ⟨hne, hds, rfl⟩
            exact .octal ho hne hds
        · constructor
          · intro h
            cases h with
            | hex hx' => exact absurd hx' hx
            | binary hb' => exact absurd hb' hb
            | octal ho' => exact absurd ho' ho
            | bareOctal hne hds => exact ⟨hne, hds, rfl⟩
            | decimal hd => exact absurd hd hzero
          · rintro ⟨hne, hds, rfl⟩
            exact .bareOctal hne hds
    · -- with no leading zero the text is decimal
      have hsplit : splitBase (c :: rest) = (10, c :: rest) := by
        rcases rest with _ | ⟨x, ds⟩ <;> simp [splitBase, hc]
      rw [hsplit]
      constructor
      · intro h
        cases h with
        | hex => exact absurd rfl hc
        | binary => exact absurd rfl hc
        | octal => exact absurd rfl hc
        | bareOctal => exact absurd rfl hc
        | zero => exact absurd rfl hc
        | decimal hd hds =>
            refine ⟨by simp, ?_, rfl⟩
            intro c' hc'
            rcases List.mem_cons.mp hc' with rfl | hmem
            · rw [isDigitOf_ten_iff]
              simp only [char_le_iff, Char.reduceToNat] at hd
              omega
            · exact hds c' hmem
      · rintro ⟨-, hds, rfl⟩
        have hhead := (isDigitOf_ten_iff c).mp (hds c List.mem_cons_self)
        have hne : c.toNat ≠ 48 := fun h => hc (Char.toNat_inj.mp h)
        refine .decimal ?_ (fun c' hc' => hds c' (List.mem_cons_of_mem c hc'))
        simp only [char_le_iff, Char.reduceToNat]
        omega

theorem splitBase_isLiteralBase (cs : List Char) : IsLiteralBase (splitBase cs).1 := by
  unfold splitBase IsLiteralBase
  split
  · split_ifs <;> simp
  · simp

theorem UnsignedLiteral.toNat_lt {cs : List Char} {m : Nat} (h : UnsignedLiteral cs m) :
    ∀ c ∈ cs, c.toNat < 128 := by
  have hdigits : ∀ {radix : Nat} (ds : List Char), (∀ c ∈ ds, IsDigitOf radix c) →
      ∀ c ∈ ds, c.toNat < 128 := by
    intro radix ds hds c hc
    have := isDigitOf_range (hds c hc)
    omega
  cases h with
  | hex hx _ hds | binary hx _ hds | octal hx _ hds =>
      intro c hc
      rcases List.mem_cons.mp hc with rfl | hc
      · decide
      rcases List.mem_cons.mp hc with rfl | hc
      · rcases hx with rfl | rfl <;> decide
      exact hdigits _ hds c hc
  | bareOctal _ hds =>
      intro c hc
      rcases List.mem_cons.mp hc with rfl | hc
      · decide
      exact hdigits _ hds c hc
  | zero => simp
  | decimal hd hds =>
      intro c hc
      rcases List.mem_cons.mp hc with rfl | hc
      · simp only [char_le_iff, Char.reduceToNat] at hd
        omega
      exact hdigits _ hds c hc

theorem not_cut_of_ascii {cs : List Char} (h : ∀ c ∈ cs, c.toNat < 128) :
    ¬ (2 ≤ Text.byteLength cs ∧ (!Text.isCharBoundary cs 2) = true) := by
  have hone : ∀ c ∈ cs, c.utf8Size = 1 := by
    intro c hc
    rw [Char.utf8Size_eq_one_iff, UInt32.le_iff_toNat_le]
    have := h c hc
    simp only [Char.toNat_val, UInt32.reduceToNat]
    omega
  rcases cs with _ | ⟨c, _ | ⟨d, rest⟩⟩
  · simp [Text.byteLength]
  · simp [Text.byteLength, hone c List.mem_cons_self]
  · have hc := hone c List.mem_cons_self
    have hd := hone d (List.mem_cons_of_mem c List.mem_cons_self)
    simp [Text.isCharBoundary, hc, hd]

end Grammar

section Reading

theorem signedWord_eq_some_iff (negative : Bool) (m : Nat) (n : Int64) :
    signedWord negative m = some n ↔ (if negative then -(m : Int) else m) = n.toInt := by
  have hpow : Nat.pow 2 63 = 9223372036854775808 := rfl
  have hlo := Int64.le_toInt n
  have hhi := Int64.toInt_lt n
  cases negative with
  | true =>
      simp only [signedWord, if_true, hpow]
      constructor
      · intro h
        split at h
        · cases h
          rw [Int64.toInt_ofInt_of_le (by omega) (by omega)]
        · cases h
      · intro h
        rw [if_pos (by omega), h, Int64.ofInt_toInt]
  | false =>
      simp only [signedWord, Bool.false_eq_true, if_false, hpow]
      constructor
      · intro h
        split at h
        · cases h
          rw [Int64.toInt_ofNat_of_lt (by omega)]
        · cases h
      · intro h
        have hm : m < 9223372036854775808 := by omega
        rw [if_pos hm, Option.some.injEq, ← Int64.toInt_inj, Int64.toInt_ofNat_of_lt (by omega), h]

/-- After its sign, the reader returns a value exactly for an unsigned literal whose value,
signed, fits the signed 64-bit range. -/
theorem readUnsignedInteger_eq_some_iff (negative : Bool) (cs : List Char) (n : Int64) :
    readUnsignedInteger negative cs = .ok (some n) ↔
      ∃ m, UnsignedLiteral cs m ∧ signedWord negative m = some n := by
  unfold readUnsignedInteger
  by_cases hcut : 2 ≤ Text.byteLength cs ∧ (!Text.isCharBoundary cs 2) = true
  · rw [if_pos hcut]
    simp only [reduceCtorEq, false_iff, not_exists, not_and]
    intro m hlit _
    exact not_cut_of_ascii hlit.toNat_lt hcut
  · rw [if_neg hcut]
    have hbase := splitBase_isLiteralBase cs
    have hlit := unsignedLiteral_iff cs
    cases hs : splitBase cs with
    | mk radix digits =>
        rw [hs] at hbase hlit
        simp only at hbase hlit
        cases digits with
        | nil =>
            simp only [hlit]
            constructor
            · intro h
              cases h
            · rintro ⟨m, ⟨hne, -⟩, -⟩
              exact absurd rfl hne
        | cons d rest =>
            simp only
            by_cases hopen : opensDigits d = true
            · simp only [hopen, Bool.not_true, Bool.false_eq_true, if_false, Except.ok.injEq,
                Option.bind_eq_some_iff, hlit]
              constructor
              · rintro ⟨m, hword, hsigned⟩
                obtain ⟨hds, rfl, -⟩ := (readWord_eq_some_iff hbase (by decide) _ m).mp hword
                exact ⟨_, ⟨by simp, hds, rfl⟩, hsigned⟩
              · rintro ⟨m, ⟨-, hds, rfl⟩, hsigned⟩
                refine ⟨_, (readWord_eq_some_iff hbase (by decide) _ _).mpr ⟨hds, rfl, ?_⟩, hsigned⟩
                have := (signedWord_eq_some_iff negative _ n).mp hsigned
                have hlo := Int64.le_toInt n
                have hhi := Int64.toInt_lt n
                have hpow : Nat.pow 2 64 = 18446744073709551616 := rfl
                rw [hpow]
                cases negative <;> simp at this <;> omega
            · simp only [hopen, Bool.not_false, if_true, hlit]
              constructor
              · intro h
                cases h
              · rintro ⟨m, ⟨-, hds, -⟩, -⟩
                exact absurd (opensDigits_of_isDigitOf (hds d List.mem_cons_self)) hopen

theorem UnsignedLiteral.ne_sign {cs : List Char} {m : Nat} (h : UnsignedLiteral cs m)
    {sign : Char} (hsign : sign = '-' ∨ sign = '+') (rest : List Char) : cs ≠ sign :: rest := by
  rintro rfl
  have := h.toNat_lt sign List.mem_cons_self
  cases h with
  | decimal hd =>
      simp only [char_le_iff, Char.reduceToNat] at hd
      rcases hsign with rfl | rfl <;> simp at hd
  | _ => rcases hsign with h | h <;> simp_all

theorem integerLiteral_minus_iff (cs : List Char) (v : Int) :
    IntegerLiteral ('-' :: cs) v ↔ ∃ m, UnsignedLiteral cs m ∧ -(m : Int) = v := by
  constructor
  · intro h
    cases h with
    | unsigned hlit => exact absurd rfl (hlit.ne_sign (.inl rfl) cs)
    | minus hlit => exact ⟨_, hlit, rfl⟩
  · rintro ⟨m, hlit, rfl⟩
    exact .minus hlit

theorem integerLiteral_plus_iff (cs : List Char) (v : Int) :
    IntegerLiteral ('+' :: cs) v ↔ ∃ m, UnsignedLiteral cs m ∧ (m : Int) = v := by
  constructor
  · intro h
    cases h with
    | unsigned hlit => exact absurd rfl (hlit.ne_sign (.inr rfl) cs)
    | plus hlit => exact ⟨_, hlit, rfl⟩
  · rintro ⟨m, hlit, rfl⟩
    exact .plus hlit

theorem integerLiteral_unsigned_iff {cs : List Char} (hminus : ∀ rest, cs ≠ '-' :: rest)
    (hplus : ∀ rest, cs ≠ '+' :: rest) (v : Int) :
    IntegerLiteral cs v ↔ ∃ m, UnsignedLiteral cs m ∧ (m : Int) = v := by
  constructor
  · intro h
    cases h with
    | unsigned hlit => exact ⟨_, hlit, rfl⟩
    | plus => exact absurd rfl (hplus _)
    | minus => exact absurd rfl (hminus _)
  · rintro ⟨m, hlit, rfl⟩
    exact .unsigned hlit

/-- The integer reader returns `n` exactly when the text is an integer literal of value `n`.
A literal is ASCII, so no fault stands in the way. -/
theorem readInteger_eq_some_iff (raw : String) (n : Int64) :
    readInteger raw = .ok (some n) ↔ IntegerLiteral raw.toList n.toInt := by
  unfold readInteger
  split
  · rename_i rest h
    rw [h, integerLiteral_minus_iff, readUnsignedInteger_eq_some_iff]
    simp only [signedWord_eq_some_iff, if_true]
  · rename_i rest h
    rw [h, integerLiteral_plus_iff, readUnsignedInteger_eq_some_iff]
    simp only [signedWord_eq_some_iff, Bool.false_eq_true, if_false]
  · rename_i cs hminus hplus
    rw [integerLiteral_unsigned_iff (fun rest h => hminus rest h) (fun rest h => hplus rest h),
      readUnsignedInteger_eq_some_iff]
    simp only [signedWord_eq_some_iff, Bool.false_eq_true, if_false]

/-- The signed 64-bit range. -/
def InInt64Range (v : Int) : Prop := -Int.pow 2 63 ≤ v ∧ v < Int.pow 2 63

/-- On a text it reads without a fault, the integer reader returns none exactly when the text
is no literal, or a literal whose value leaves the signed 64-bit range. -/
theorem readInteger_eq_none_iff {raw : String} (hreturns : ∃ r, readInteger raw = .ok r) :
    readInteger raw = .ok none ↔ ∀ v, IntegerLiteral raw.toList v → ¬ InInt64Range v := by
  obtain ⟨r, hr⟩ := hreturns
  have hpow : Int.pow 2 63 = 9223372036854775808 := rfl
  rw [hr]
  cases r with
  | none =>
      simp only [true_iff]
      intro v hlit hrange
      have hv : (Int64.ofInt v).toInt = v := by
        unfold InInt64Range at hrange
        rw [hpow] at hrange
        exact Int64.toInt_ofInt_of_le (by omega) (by omega)
      have hsome := (readInteger_eq_some_iff raw (Int64.ofInt v)).mpr (by rw [hv]; exact hlit)
      rw [hr] at hsome
      cases hsome
  | some n =>
      simp only [Except.ok.injEq, reduceCtorEq, false_iff]
      intro hnone
      apply hnone n.toInt ((readInteger_eq_some_iff raw n).mp hr)
      unfold InInt64Range
      rw [hpow]
      exact ⟨by have := Int64.le_toInt n; omega, by have := Int64.toInt_lt n; omega⟩

end Reading

section Printed

theorem exists_toDigits_ten_eq_cons {m : Nat} (hm : 0 < m) :
    ∃ d ds, Nat.toDigits 10 m = d :: ds ∧ d ≠ '0' := by
  induction m using Nat.strongRecOn with
  | ind m ih =>
      rw [Nat.toDigits_eq_if (by decide)]
      split
      · exact ⟨_, [], rfl, by simp only [ne_eq, Nat.digitChar_eq_zero]; omega⟩
      · -- the leading digit is that of `m / 10`, which is positive
        obtain ⟨d, ds, h, hd⟩ := ih (m / 10) (by omega) (by omega)
        exact ⟨d, ds ++ [Nat.digitChar (m % 10)], by rw [h]; rfl, hd⟩

theorem digitsValue_ten {cs : List Char} (h : ∀ c ∈ cs, IsDigitOf 10 c) (acc : Nat) :
    digitsValue 10 acc cs = Nat.ofDigitChars 10 cs acc := by
  induction cs generalizing acc with
  | nil => rfl
  | cons c rest ih =>
      have hc := (isDigitOf_ten_iff c).mp (h c List.mem_cons_self)
      have hvalue : charValue c = c.toNat - '0'.toNat := by
        simp only [charValue, char_le_iff, Char.reduceToNat]
        rw [if_pos (by omega)]
      rw [Nat.ofDigitChars_cons, ← ih (fun c' hc' => h c' (List.mem_cons_of_mem c hc'))]
      simp only [digitsValue, List.foldl_cons, hvalue, Nat.mul_comm acc 10]

theorem unsignedLiteral_toDigits (m : Nat) : UnsignedLiteral (Nat.toDigits 10 m) m := by
  by_cases hm : m = 0
  · subst hm
    exact .zero
  · obtain ⟨d, ds, h, hd⟩ := exists_toDigits_ten_eq_cons (Nat.pos_of_ne_zero hm)
    have hdigits : ∀ c ∈ Nat.toDigits 10 m, IsDigitOf 10 c := by
      intro c hc
      rw [isDigitOf_ten_iff]
      have := Char.isDigit_iff_toNat.mp (Nat.isDigit_of_mem_toDigits (by decide) (by decide) hc)
      simpa using this
    have hvalue : digitsValue 10 0 (d :: ds) = m := by
      rw [digitsValue_ten (h ▸ hdigits), ← h, Nat.ofDigitChars_ten_toDigits]
    rw [h] at hdigits ⊢
    have hlead : '1' ≤ d ∧ d ≤ '9' := by
      have hd' := (isDigitOf_ten_iff d).mp (hdigits d List.mem_cons_self)
      have hne : d.toNat ≠ 48 := fun h' => hd (Char.toNat_inj.mp h')
      simp only [char_le_iff, Char.reduceToNat]
      omega
    have hlit := UnsignedLiteral.decimal hlead (fun c hc => hdigits c (List.mem_cons_of_mem d hc))
    rwa [hvalue] at hlit

/-- The decimal text of every integer is an integer literal of that integer. -/
theorem integerLiteral_toString (v : Int) : IntegerLiteral (toString v).toList v := by
  rw [Int.toString_eq_repr, Int.repr_eq_if]
  split
  · rename_i hv
    have hlit := IntegerLiteral.unsigned (unsignedLiteral_toDigits v.toNat)
    rwa [Int.toNat_of_nonneg hv, ← Nat.toList_repr] at hlit
  · rename_i hv
    have hlit := IntegerLiteral.minus (unsignedLiteral_toDigits (-v).toNat)
    have hneg : -(((-v).toNat : Nat) : Int) = v := by omega
    rw [hneg, ← Nat.toList_repr] at hlit
    simpa [String.toList_append] using hlit

end Printed

section Typing

theorem infer_eq_integer_iff (raw : String) (n : Int64) :
    infer raw = .ok (.integer n) ↔ readInteger raw = .ok (some n) := by
  unfold infer
  simp only [bind, Except.bind]
  cases readInteger raw with
  | error e => simp
  | ok r =>
      cases r with
      | some m => simp [pure, Except.pure]
      | none =>
          simp only [reduceCtorEq, Except.ok.injEq, iff_false]
          split <;> simp [pure, Except.pure]

/-- A text that is no integer literal in range is typed as a float when the float reader takes
it, and as text otherwise. -/
theorem infer_of_readInteger_none {raw : String} (h : readInteger raw = .ok none) :
    infer raw = .ok (match Binary64.ofString? raw with
      | some x => .float x
      | none => .text raw) := by
  unfold infer
  simp only [bind, Except.bind, h]
  cases Binary64.ofString? raw <;> rfl

end Typing

end Value

/-- What the integer reader and the typing of a cell do with a text, said by the literal
grammar. -/
structure IntegerReading (raw : String) : Prop where
  /-- The reader returns `n` exactly for a literal of value `n`. -/
  some_iff : ∀ n : Int64, Value.readInteger raw = .ok (some n) ↔
    Value.IntegerLiteral raw.toList n.toInt
  /-- A literal whose value is in the signed 64-bit range is read as that value. -/
  some_of_in_range : ∀ v, Value.IntegerLiteral raw.toList v → Value.InInt64Range v →
    ∃ n : Int64, n.toInt = v ∧ Value.readInteger raw = .ok (some n)
  /-- On a text read without a fault, none means no literal in range. -/
  none_iff : (∃ r, Value.readInteger raw = .ok r) →
    (Value.readInteger raw = .ok none ↔
      ∀ v, Value.IntegerLiteral raw.toList v → ¬ Value.InInt64Range v)
  /-- The cell is typed as an integer exactly in that case, with that value. -/
  infer_integer_iff : ∀ n : Int64, Value.infer raw = .ok (.integer n) ↔
    Value.IntegerLiteral raw.toList n.toInt
  /-- Otherwise the float reader decides between a float and the text. -/
  infer_otherwise : Value.readInteger raw = .ok none →
    Value.infer raw = .ok (match Binary64.ofString? raw with
      | some x => .float x
      | none => .text raw)
  /-- The decimal text of a signed 64-bit integer reads back to it, also for the least one. -/
  printed : ∀ n : Int64, raw = (Value.integer n).display →
    Value.readInteger raw = .ok (some n) ∧ Value.infer raw = .ok (.integer n)

theorem integer_reading_follows_grammar (raw : String) : IntegerReading raw where
  some_iff := Value.readInteger_eq_some_iff raw
  some_of_in_range v hlit hrange := by
    have hpow : Int.pow 2 63 = 9223372036854775808 := rfl
    unfold Value.InInt64Range at hrange
    rw [hpow] at hrange
    have hv : (Int64.ofInt v).toInt = v := Int64.toInt_ofInt_of_le (by omega) (by omega)
    exact ⟨Int64.ofInt v, hv, (Value.readInteger_eq_some_iff raw _).mpr (by rw [hv]; exact hlit)⟩
  none_iff := Value.readInteger_eq_none_iff
  infer_integer_iff n := (Value.infer_eq_integer_iff raw n).trans (Value.readInteger_eq_some_iff raw n)
  infer_otherwise := Value.infer_of_readInteger_none
  printed n hraw := by
    have hread : Value.readInteger raw = .ok (some n) := by
      rw [Value.readInteger_eq_some_iff, hraw]
      exact Value.integerLiteral_toString n.toInt
    exact ⟨hread, (Value.infer_eq_integer_iff raw n).mpr hread⟩

example : Value.readInteger (Value.integer (-9223372036854775808)).display =
    .ok (some (-9223372036854775808)) := rfl

end RowMetrics
