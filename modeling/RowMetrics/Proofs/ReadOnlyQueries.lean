import Mathlib
import RowMetrics.Query

/-!
Which query texts count as read-only. The check puts the trimmed text in full Unicode upper
case and then looks for `SELECT` or `SHOW` at its start, so it is not a comparison up to ASCII
case. Outside sixteen characters the full upper case of a character is its ASCII upper case
(`upperChar_of_not_mem`), and three of the sixteen can stand for a letter of a verb: long `ſ`,
whose upper case is `S`, and `ẗ` and `ẘ`, whose upper cases are `T` and `W` followed by a
combining mark, which the prefix test never reaches when the letter is the verb's last.

The general step is `prefix_upper_iff`: a word of capitals opens the upper case of a text
exactly when the text opens with one character per letter, each upper-casing to its letter and
the last one only beginning with it, as long as no special character's upper case runs across
two letters of the word. `read_only_iff_spelled_verb` puts this together with trimming and the
`;` test: a text only reads when it has no `;` and, after its leading blanks, opens with one of
the spellings in `verbSpellings`.
-/

namespace RowMetrics

namespace Text

/-! ### Upper case of one character -/

/-- The sixteen characters whose upper case `upperChar` spells out: those outside ASCII whose
full upper case begins with an ASCII letter. -/
def specialCased : List Char :=
  ['ß', 'ı', 'ſ', 'ǰ', 'ẖ', 'ẗ', 'ẘ', 'ẙ', 'ẚ', 'ﬀ', 'ﬁ', 'ﬂ', 'ﬃ', 'ﬄ', 'ﬅ', 'ﬆ']

theorem isLower_iff_toNat (c : Char) : c.isLower = true ↔ 97 ≤ c.toNat ∧ c.toNat ≤ 122 := by
  simp [Char.isLower, UInt32.le_iff_toNat_le]

theorem isUpper_iff_toNat (c : Char) : c.isUpper = true ↔ 65 ≤ c.toNat ∧ c.toNat ≤ 90 := by
  simp [Char.isUpper, UInt32.le_iff_toNat_le]

theorem upperChar_of_not_mem {c : Char} (h : c ∉ specialCased) : upperChar c = [c.toUpper] := by
  have hcode : ∀ d ∈ specialCased, c.toNat ≠ d.toNat := fun d hd e => h (Char.toNat_inj.mp e ▸ hd)
  simp only [specialCased, List.mem_cons, List.not_mem_nil, or_false, forall_eq_or_imp,
    forall_eq, Char.reduceToNat] at hcode
  obtain ⟨h1, h2, h3, h4, h5, h6, h7, h8, h9, h10, h11, h12, h13, h14, h15, h16⟩ := hcode
  unfold upperChar
  simp only [h1, h2, h3, h4, h5, h6, h7, h8, h9, h10, h11, h12, h13, h14, h15, h16, if_false]
  split_ifs with hlow
  · rw [Char.toUpper_eq_of_isLower ((isLower_iff_toNat c).mpr hlow)]
  · rw [Char.toUpper_eq_of_not_isLower (fun hl => hlow ((isLower_iff_toNat c).mp hl))]

theorem specialCased_spec :
    ∀ e ∈ specialCased, 127 < e.toNat ∧ upperChar e ≠ [] ∧ ';' ∉ upperChar e := by
  -- decided as one `List.all`: `decide` on the bounded quantifier itself would go through the
  -- instance that decides a statement for every character
  have hall : specialCased.all
      (fun e => decide (127 < e.toNat ∧ upperChar e ≠ [] ∧ ';' ∉ upperChar e)) = true := by
    decide
  intro e he
  exact of_decide_eq_true (List.all_eq_true.mp hall e he)

theorem upperChar_ne_nil (c : Char) : upperChar c ≠ [] := by
  by_cases hc : c ∈ specialCased
  · exact (specialCased_spec c hc).2.1
  · rw [upperChar_of_not_mem hc]
    exact List.cons_ne_nil _ _

@[simp] theorem upper_cons (c : Char) (cs : List Char) :
    upper (c :: cs) = upperChar c ++ upper cs :=
  List.flatMap_cons

theorem toUpper_eq_iff {X : Char} (hX : X.isUpper = true) (c : Char) :
    c.toUpper = X ↔ c = X ∨ c = X.toLower := by
  constructor
  · intro h
    by_cases hl : c.isLower = true
    · right
      rw [← h, Char.toLower_toUpper_eq_toLower,
        Char.toLower_eq_of_not_isUpper (Char.not_isUpper_of_isLower hl)]
    · left
      rw [← h, Char.toUpper_eq_of_not_isLower hl]
  · rintro (rfl | rfl)
    · exact Char.toUpper_eq_of_not_isLower (Char.not_isLower_of_isUpper hX)
    · rw [Char.toUpper_toLower_eq_toUpper]
      exact Char.toUpper_eq_of_not_isLower (Char.not_isLower_of_isUpper hX)

theorem toUpper_eq_iff_of_not_isAlpha {P : Char} (hP : P.isAlpha = false) (c : Char) :
    c.toUpper = P ↔ c = P := by
  constructor
  · intro h
    by_cases hl : c.isLower = true
    · -- the upper case of a small letter is a capital, and `P` is none
      have hcap := Char.isUpper_toUpper_eq_isAlpha c
      rw [h, Char.isAlpha, hl, Bool.or_true] at hcap
      simp [Char.isAlpha, hcap] at hP
    · rw [← h, Char.toUpper_eq_of_not_isLower hl]
  · rintro rfl
    exact Char.toUpper_eq_of_not_isLower (by simp_all [Char.isAlpha])

theorem upperChar_satisfies_iff {X : Char} (hX : X.isUpper = true) {P : List Char → Bool}
    (hP : ∀ d, P [d] = true ↔ d = X) (c : Char) :
    P (upperChar c) = true ↔
      c ∈ [X, X.toLower] ++ specialCased.filter (fun e => P (upperChar e)) := by
  by_cases hc : c ∈ specialCased
  · -- a special character lies outside ASCII, so it is neither `X` nor its small letter
    have hnot : c ∉ [X, X.toLower] := by
      intro hmem
      have hbig := (specialCased_spec c hc).1
      have hup : c.toUpper = c :=
        Char.toUpper_eq_of_not_isLower (by rw [isLower_iff_toNat]; omega)
      have hcX : c.toUpper = X := (toUpper_eq_iff hX c).mpr (by simpa using hmem)
      have hXnat := (isUpper_iff_toNat X).mp hX
      rw [hup] at hcX
      subst hcX
      omega
    simp only [List.mem_append, hnot, false_or, List.mem_filter, hc, true_and]
  · rw [upperChar_of_not_mem hc, hP, toUpper_eq_iff hX]
    simp [List.mem_filter, hc]

/-- The characters whose upper case is the capital `X` alone. -/
def caseSpellings (X : Char) : List Char :=
  [X, X.toLower] ++ specialCased.filter (fun e => upperChar e == [X])

/-- The characters whose upper case begins with the capital `X`. -/
def headSpellings (X : Char) : List Char :=
  [X, X.toLower] ++ specialCased.filter (fun e => (upperChar e).head? == some X)

theorem upperChar_eq_singleton_iff {X : Char} (hX : X.isUpper = true) (c : Char) :
    upperChar c = [X] ↔ c ∈ caseSpellings X := by
  have h := upperChar_satisfies_iff hX (P := fun u => u == [X]) (by simp) c
  rw [caseSpellings]
  simpa only [beq_iff_eq] using h

theorem head?_upperChar_iff {X : Char} (hX : X.isUpper = true) (c : Char) :
    (upperChar c).head? = some X ↔ c ∈ headSpellings X := by
  have h := upperChar_satisfies_iff hX (P := fun u => u.head? == some X) (by simp) c
  rw [headSpellings]
  simpa only [beq_iff_eq] using h

theorem semicolon_mem_upperChar_iff (c : Char) : ';' ∈ upperChar c ↔ c = ';' := by
  by_cases hc : c ∈ specialCased
  · have hout := (specialCased_spec c hc).2.2
    constructor
    · exact fun h => absurd h hout
    · rintro rfl
      exact absurd hc (by decide)
  · rw [upperChar_of_not_mem hc, List.mem_singleton, eq_comm]
    exact toUpper_eq_iff_of_not_isAlpha (by decide) c

theorem semicolon_mem_upper_iff (cs : List Char) : ';' ∈ upper cs ↔ ';' ∈ cs := by
  simp only [upper, List.mem_flatMap, semicolon_mem_upperChar_iff, exists_eq_right]

/-! ### Trimming -/

theorem trimBlanks_eq_rdropWhile (cs : List Char) :
    trimBlanks cs = (cs.dropWhile isBlank).rdropWhile isBlank := rfl

theorem eq_takeWhile_append_trimBlanks (cs : List Char) :
    cs = cs.takeWhile isBlank ++ trimBlanks cs ++ (cs.dropWhile isBlank).rtakeWhile isBlank := by
  rw [List.append_assoc, trimBlanks_eq_rdropWhile, List.rdropWhile_append_rtakeWhile,
    List.takeWhile_append_dropWhile]

theorem mem_trimBlanks_iff {c : Char} (hc : isBlank c = false) (cs : List Char) :
    c ∈ trimBlanks cs ↔ c ∈ cs := by
  constructor
  · intro h
    rw [eq_takeWhile_append_trimBlanks cs]
    simp [h]
  · intro h
    rw [eq_takeWhile_append_trimBlanks cs] at h
    simp only [List.mem_append] at h
    rcases h with (hlead | hmid) | htrail
    · have := List.mem_takeWhile_imp hlead
      rw [hc] at this
      contradiction
    · exact hmid
    · have := List.mem_rtakeWhile_imp htrail
      rw [hc] at this
      contradiction

theorem prefix_trimBlanks_iff {pre : List Char} (hpre : pre ≠ [])
    (hnb : ∀ c ∈ pre, isBlank c = false) (cs : List Char) :
    pre <+: trimBlanks cs ↔
      ∃ blanks rest, cs = blanks ++ pre ++ rest ∧ ∀ b ∈ blanks, isBlank b = true := by
  constructor
  · rintro ⟨rest, htrim⟩
    refine ⟨cs.takeWhile isBlank, rest ++ (cs.dropWhile isBlank).rtakeWhile isBlank, ?_,
      fun b hb => List.mem_takeWhile_imp hb⟩
    conv_lhs => rw [eq_takeWhile_append_trimBlanks cs, ← htrim]
    simp only [List.append_assoc]
  · rintro ⟨blanks, rest, hcs, hb⟩
    obtain ⟨p, ps, rfl⟩ := List.exists_cons_of_ne_nil hpre
    -- the leading blanks of `cs` are exactly `blanks`, since `p` is no blank
    have hlead : cs.takeWhile isBlank = blanks := by
      rw [hcs, List.append_assoc, List.takeWhile_append_of_pos hb, List.cons_append,
        List.takeWhile_cons_of_neg (by simp [hnb p (by simp)]), List.append_nil]
    have hsplit := eq_takeWhile_append_trimBlanks cs
    conv_lhs at hsplit => rw [hcs]
    rw [hlead] at hsplit
    simp only [List.append_assoc, List.append_cancel_left_eq] at hsplit
    rcases List.append_eq_append_iff.mp hsplit with ⟨mid, htrim, -⟩ | ⟨tail, hpre', htail⟩
    · exact ⟨mid, htrim.symm⟩
    · -- what the trim leaves out of `p :: ps` lies among the trailing blanks, so it is empty
      have htail_nil : tail = [] := by
        apply List.eq_nil_iff_forall_not_mem.mpr
        intro c hc
        have hblank := List.mem_rtakeWhile_imp (htail ▸ List.mem_append_left rest hc)
        have hnot := hnb c (hpre' ▸ List.mem_append_right _ hc)
        rw [hnot] at hblank
        contradiction
      rw [htail_nil, List.append_nil] at hpre'
      exact hpre' ▸ List.prefix_refl _

/-! ### Opening a text with a spelling -/

theorem opens_cons_iff (S : List Char) (ss : List (List Char)) (c : Char) (cs : List Char) :
    (∃ pre rest, c :: cs = pre ++ rest ∧ List.Forall₂ (· ∈ ·) pre (S :: ss)) ↔
      c ∈ S ∧ ∃ pre rest, cs = pre ++ rest ∧ List.Forall₂ (· ∈ ·) pre ss := by
  constructor
  · rintro ⟨pre, rest, hcs, hall⟩
    obtain ⟨d, pre', hd, hall', rfl⟩ := List.forall₂_cons_right_iff.mp hall
    rw [List.cons_append, List.cons.injEq] at hcs
    obtain ⟨rfl, rfl⟩ := hcs
    exact ⟨hd, pre', rest, rfl, hall'⟩
  · rintro ⟨hc, pre, rest, rfl, hall⟩
    exact ⟨c :: pre, rest, rfl, List.Forall₂.cons hc hall⟩

theorem forall_mem_of_forall₂ {pre : List Char} {spelling : List (List Char)}
    (h : List.Forall₂ (· ∈ ·) pre spelling) {q : Char → Prop}
    (hq : ∀ S ∈ spelling, ∀ c ∈ S, q c) : ∀ c ∈ pre, q c := by
  induction h with
  | nil => simp
  | @cons c S pre spelling hc _ ih =>
    intro d hd
    rcases List.mem_cons.mp hd with rfl | hd
    · exact hq S (by simp) d hc
    · exact ih (fun S' hS' => hq S' (by simp [hS'])) d hd

/-! ### Upper-case words at the start of a text -/

/-- Whether no special character's upper case runs from one letter of `w` into the next. -/
def noSpecialSpans : List Char → Bool
  | X :: Y :: w =>
    specialCased.all (fun e => !([X, Y].isPrefixOf (upperChar e))) && noSpecialSpans (Y :: w)
  | _ => true

/-- For each letter of `w`, the characters that stand for it at the start of a text whose upper
case opens with `w`: those whose upper case is the letter, and for the last letter those whose
upper case begins with it. -/
def spellingOf : List Char → List (List Char)
  | [] => []
  | [X] => [headSpellings X]
  | X :: Y :: w => caseSpellings X :: spellingOf (Y :: w)

theorem not_pair_prefix_upperChar {X Y : Char}
    (h : specialCased.all (fun e => !([X, Y].isPrefixOf (upperChar e))) = true) (c : Char) :
    ¬ [X, Y] <+: upperChar c := by
  by_cases hc : c ∈ specialCased
  · have hno := List.all_eq_true.mp h c hc
    rw [Bool.not_eq_true', ← Bool.not_eq_true, List.isPrefixOf_iff_prefix] at hno
    exact hno
  · rw [upperChar_of_not_mem hc]
    intro hp
    have hlen := hp.length_le
    simp at hlen

theorem prefix_upper_cons_cons {X Y : Char} {w : List Char}
    (hXY : ∀ c, ¬ [X, Y] <+: upperChar c) (c : Char) (cs : List Char) :
    X :: Y :: w <+: upper (c :: cs) ↔ upperChar c = [X] ∧ Y :: w <+: upper cs := by
  rw [upper_cons]
  have hne := upperChar_ne_nil c
  have hspan := hXY c
  generalize upperChar c = u at hne hspan ⊢
  -- the upper case of `c` is one character, or two or more, of which the second is not `Y`
  rcases u with _ | ⟨d, _ | ⟨e, u⟩⟩
  · exact absurd rfl hne
  · simp [eq_comm]
  · simp only [List.cons_prefix_cons, List.nil_prefix, and_true, not_and] at hspan
    simp only [List.cons_append, List.cons_prefix_cons, List.cons.injEq, reduceCtorEq, and_false,
      false_and, iff_false, not_and]
    intro hXd hYe
    exact absurd hYe (hspan hXd)

theorem prefix_upper_singleton (X c : Char) (cs : List Char) :
    [X] <+: upper (c :: cs) ↔ (upperChar c).head? = some X := by
  rw [upper_cons, List.singleton_prefix_iff_head?_eq_some,
    List.head?_append_of_ne_nil _ (upperChar_ne_nil c)]

theorem prefix_upper_iff {w : List Char} (hw : w ≠ []) (hcap : ∀ X ∈ w, X.isUpper = true)
    (hspan : noSpecialSpans w = true) (cs : List Char) :
    w <+: upper cs ↔ ∃ pre rest, cs = pre ++ rest ∧ List.Forall₂ (· ∈ ·) pre (spellingOf w) := by
  induction w generalizing cs with
  | nil => exact absurd rfl hw
  | cons X w ih =>
    have hX := hcap X (List.mem_cons_self ..)
    cases w with
    | nil =>
      cases cs with
      | nil => simp [spellingOf, upper]
      | cons c cs =>
        rw [prefix_upper_singleton, head?_upperChar_iff hX, spellingOf, opens_cons_iff]
        exact ⟨fun h => ⟨h, [], cs, rfl, .nil⟩, And.left⟩
    | cons Y w =>
      have hpair : specialCased.all (fun e => !([X, Y].isPrefixOf (upperChar e))) = true ∧
          noSpecialSpans (Y :: w) = true := by
        simpa [noSpecialSpans] using hspan
      have ih' := ih (List.cons_ne_nil Y w) (fun Z hZ => hcap Z (List.mem_cons_of_mem X hZ))
        hpair.2
      cases cs with
      | nil => simp [spellingOf, upper]
      | cons c cs =>
        rw [prefix_upper_cons_cons (not_pair_prefix_upperChar hpair.1), ih',
          upperChar_eq_singleton_iff hX, spellingOf, opens_cons_iff]

end Text

namespace Query

/-- The ways a read-only verb may open a query text, one list of characters per letter: each
letter in either ASCII case, `S` also as long `ſ`, and the verb's last letter also as the one
character whose upper case is that letter followed by a combining mark, `ẗ` or `ẘ`. -/
def verbSpellings : List (List (List Char)) :=
  [[['S', 's', 'ſ'], ['E', 'e'], ['L', 'l'], ['E', 'e'], ['C', 'c'], ['T', 't', 'ẗ']],
   [['S', 's', 'ſ'], ['H', 'h'], ['O', 'o'], ['W', 'w', 'ẘ']]]

theorem spellingOf_readVerbs :
    readVerbs.map (fun verb => Text.spellingOf verb.toList) = verbSpellings := by
  decide

theorem readVerbs_spec : readVerbs.all (fun verb => verb.toList != [] &&
    verb.toList.all Char.isUpper && Text.noSpecialSpans verb.toList) = true := by
  decide

theorem verbSpellings_spec : verbSpellings.all (fun spelling => spelling != [] &&
    spelling.all (fun S => S.all (fun c => !Text.isBlank c))) = true := by
  decide

theorem isReadOnly_eq_true_iff (sql : String) :
    isReadOnly sql = true ↔
      ';' ∉ sql.toList ∧
        ∃ verb ∈ readVerbs, verb.toList <+: Text.upper (Text.trimBlanks sql.toList) := by
  have hsemi : (!(Text.upper (Text.trimBlanks sql.toList)).contains ';') = true ↔
      ';' ∉ sql.toList := by
    rw [Bool.not_eq_true', ← Bool.not_eq_true, List.contains_iff_mem,
      Text.semicolon_mem_upper_iff, Text.mem_trimBlanks_iff (by decide)]
  simp only [isReadOnly, Bool.and_eq_true, List.any_eq_true, List.isPrefixOf_iff_prefix, hsemi]
  exact and_comm

theorem spelled_prefix_nonblank {pre : List Char} {spelling : List (List Char)}
    (hsp : spelling ∈ verbSpellings) (h : List.Forall₂ (· ∈ ·) pre spelling) :
    pre ≠ [] ∧ ∀ c ∈ pre, Text.isBlank c = false := by
  have hspec := List.all_eq_true.mp verbSpellings_spec spelling hsp
  simp only [Bool.and_eq_true, bne_iff_ne, ne_eq, List.all_eq_true, Bool.not_eq_true'] at hspec
  refine ⟨?_, Text.forall_mem_of_forall₂ h hspec.2⟩
  rintro rfl
  exact hspec.1 (List.forall₂_nil_left_iff.mp h)

/-- A query text only reads exactly when it holds no `;` and, after its leading blanks, opens
with a spelling of `SELECT` or `SHOW`: each letter in either ASCII case, `S` also as long `ſ`,
and the verb's last letter also as `ẗ` or `ẘ`, whose upper case is that letter and a mark. -/
theorem read_only_iff_spelled_verb (sql : String) :
    isReadOnly sql = true ↔
      ';' ∉ sql.toList ∧ ∃ spelling ∈ verbSpellings, ∃ blanks pre rest,
        sql.toList = blanks ++ pre ++ rest ∧ (∀ b ∈ blanks, Text.isBlank b = true) ∧
          List.Forall₂ (· ∈ ·) pre spelling := by
  rw [isReadOnly_eq_true_iff, ← spellingOf_readVerbs]
  refine and_congr_right fun _ => ?_
  simp only [List.mem_map, exists_exists_and_eq_and]
  refine exists_congr fun verb => and_congr_right fun hverb => ?_
  have hv := List.all_eq_true.mp readVerbs_spec verb hverb
  simp only [Bool.and_eq_true, bne_iff_ne, ne_eq, List.all_eq_true] at hv
  have hsp : Text.spellingOf verb.toList ∈ verbSpellings :=
    spellingOf_readVerbs ▸ List.mem_map_of_mem hverb
  rw [Text.prefix_upper_iff hv.1.1 hv.1.2 hv.2]
  constructor
  · rintro ⟨pre, rest, htrim, hpre⟩
    obtain ⟨hne, hnb⟩ := spelled_prefix_nonblank hsp hpre
    obtain ⟨blanks, rest', hcs, hb⟩ :=
      (Text.prefix_trimBlanks_iff hne hnb _).mp ⟨rest, htrim.symm⟩
    exact ⟨blanks, pre, rest', hcs, hb, hpre⟩
  · rintro ⟨blanks, pre, rest, hcs, hb, hpre⟩
    obtain ⟨hne, hnb⟩ := spelled_prefix_nonblank hsp hpre
    obtain ⟨rest', htrim⟩ := (Text.prefix_trimBlanks_iff hne hnb _).mpr ⟨blanks, rest, hcs, hb⟩
    exact ⟨pre, rest', htrim.symm, hpre⟩

example : isReadOnly "\n selecẗ * from t" = true := by decide

/-- Long `ſ` opens a read-only query although no ASCII case of `SELECT` or `SHOW` opens the
text: the full upper case of `ſ` is `S`. -/
theorem long_s_opens_read_only_query :
    isReadOnly "ſelect 1" = true ∧ ';' ∉ "ſelect 1".toList ∧
      ∀ verb ∈ readVerbs,
        ¬ verb.toList <+: (Text.trimBlanks "ſelect 1".toList).map Char.toUpper := by
  decide

end Query

end RowMetrics
