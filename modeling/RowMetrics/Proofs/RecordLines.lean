import Mathlib.Data.String.Basic
import Mathlib.Tactic.SplitIfs
import RowMetrics.Proofs.DispatchRecords

/-!
The JSON line of a record, entry by entry. It holds the record's time under `@timestamp`, then
the mode literal under `type` when no field is named `type`, then every field but `@timestamp`,
each once and in ascending byte order of the UTF-8 names. So no key appears twice, `@timestamp`
always holds the record's time, and `type` holds the field of that name when there is one.

This rests on the invariant that the field names strictly ascend, which `empty` and `insert`
keep, so that every record a dispatch builds has it. Names ascend as strings, that is by code
points; the UTF-8 encoding keeps that order, so they ascend by their bytes as well.
-/

namespace RowMetrics

namespace Text

/-- The UTF-8 bytes of a text, as the text stores them. -/
def bytes (s : String) : List UInt8 := s.toByteArray.data.toList

theorem bytes_eq_flatMap (s : String) : bytes s = s.toList.flatMap String.utf8EncodeChar := by
  unfold bytes
  conv => lhs; rw [← String.ofList_toList (s := s)]
  rw [String.toByteArray_ofList]
  show (List.toByteArray _).data.toList = _
  simp only [List.data_toByteArray]

/-- The values of the UTF-8 bytes of code point `v`, the lead byte first. -/
def utf8Values (v : Nat) : List Nat :=
  if v ≤ 127 then [v]
  else if v ≤ 2047 then [v / 64 % 32 + 192, v % 64 + 128]
  else if v ≤ 65535 then [v / 4096 % 16 + 224, v / 64 % 64 + 128, v % 64 + 128]
  else [v / 262144 % 8 + 240, v / 4096 % 64 + 128, v / 64 % 64 + 128, v % 64 + 128]

theorem utf8EncodeChar_eq_map (c : Char) :
    String.utf8EncodeChar c = (utf8Values c.toNat).map UInt8.ofNat := by
  rw [String.utf8EncodeChar.eq_1, utf8Values, Char.toNat_val]
  split_ifs <;> rfl

theorem toNat_lt_of_char (c : Char) : c.toNat < 0x110000 := by
  have h := c.valid
  simp only [UInt32.isValidChar, Nat.isValidChar] at h
  rw [← Char.toNat_val]
  omega

theorem utf8Values_lt (v : Nat) (hv : v < 0x110000) : ∀ p ∈ utf8Values v, p < 256 := by
  unfold utf8Values
  split_ifs <;> simp <;> omega

theorem ofNat_map_append_lt {ps qs : List Nat} (hlen : ps.length = qs.length)
    (hq : ∀ q ∈ qs, q < 256) (h : List.Lex (· < ·) ps qs) (x y : List UInt8) :
    ps.map UInt8.ofNat ++ x < qs.map UInt8.ofNat ++ y := by
  induction h with
  | nil => simp at hlen
  | rel hlt =>
      apply List.Lex.rel
      rw [UInt8.lt_iff_toNat_lt, UInt8.toNat_ofNat', UInt8.toNat_ofNat']
      have := hq _ List.mem_cons_self
      omega
  | cons _ ih =>
      exact List.Lex.cons
        (ih (by simpa using hlen) (fun q hq' => hq q (List.mem_cons_of_mem _ hq')))

theorem lt_lex_div_mod {v w : Nat} (B : Nat) (hvw : v < w) :
    v / B < w / B ∨ v / B = w / B ∧ v % B < w % B := by
  rcases Nat.lt_or_ge (v / B) (w / B) with h | h
  · exact .inl h
  · have heq : v / B = w / B := Nat.le_antisymm (Nat.div_le_div_right hvw.le) h
    have hv := Nat.div_add_mod v B
    have hw := Nat.div_add_mod w B
    rw [heq] at hv
    exact .inr ⟨heq, by omega⟩

theorem lex_four_bytes {v w : Nat} (hvw : v < w) (hw : w < 0x110000) :
    v / 262144 % 8 < w / 262144 % 8 ∨ v / 262144 % 8 = w / 262144 % 8 ∧
      (v / 4096 % 64 < w / 4096 % 64 ∨ v / 4096 % 64 = w / 4096 % 64 ∧
        (v / 64 % 64 < w / 64 % 64 ∨ v / 64 % 64 = w / 64 % 64 ∧ v % 64 < w % 64)) := by
  have hsecond : ∀ u : Nat, u / 4096 % 64 = u % 262144 / 4096 := fun u =>
    (Nat.mod_mul_right_div_self u 4096 64).symm
  have hthird : ∀ u : Nat, u / 64 % 64 = u % 262144 % 4096 / 64 := fun u => by
    rw [Nat.mod_mod_of_dvd u (by decide : 4096 ∣ 262144)]
    exact (Nat.mod_mul_right_div_self u 64 64).symm
  have hlast : ∀ u : Nat, u % 64 = u % 262144 % 4096 % 64 := fun u => by
    rw [Nat.mod_mod_of_dvd u (by decide : 4096 ∣ 262144),
      Nat.mod_mod_of_dvd u (by decide : 64 ∣ 4096)]
  rw [hsecond v, hsecond w, hthird v, hthird w, hlast v, hlast w]
  rcases lt_lex_div_mod 262144 hvw with h1 | ⟨e1, h1⟩
  · left
    omega
  · right
    refine ⟨by rw [e1], ?_⟩
    rcases lt_lex_div_mod 4096 h1 with h2 | ⟨e2, h2⟩
    · exact .inl h2
    · exact .inr ⟨e2, lt_lex_div_mod 64 h2⟩

theorem utf8Values_lex {v w : Nat} (hvw : v < w) (hw : w < 0x110000)
    (hlen : (utf8Values v).length = (utf8Values w).length) :
    List.Lex (· < ·) (utf8Values v) (utf8Values w) := by
  have hfour := lex_four_bytes hvw hw
  unfold utf8Values at hlen ⊢
  split_ifs at hlen ⊢ <;> simp [List.cons_lex_cons_iff] at hlen ⊢ <;> omega

theorem utf8Values_cases (v : Nat) :
    v ≤ 127 ∧ utf8Values v = [v] ∨
    127 < v ∧ v ≤ 2047 ∧ utf8Values v = [v / 64 % 32 + 192, v % 64 + 128] ∨
    2047 < v ∧ v ≤ 65535 ∧
      utf8Values v = [v / 4096 % 16 + 224, v / 64 % 64 + 128, v % 64 + 128] ∨
    65535 < v ∧
      utf8Values v = [v / 262144 % 8 + 240, v / 4096 % 64 + 128, v / 64 % 64 + 128, v % 64 + 128] := by
  unfold utf8Values
  split_ifs with h1 h2 h3
  · exact .inl ⟨h1, rfl⟩
  · exact .inr (.inl ⟨by omega, h2, rfl⟩)
  · exact .inr (.inr (.inl ⟨by omega, h3, rfl⟩))
  · exact .inr (.inr (.inr ⟨by omega, rfl⟩))

theorem utf8Values_head_lt {v w : Nat} (hvw : v < w)
    (hlen : (utf8Values v).length ≠ (utf8Values w).length) :
    ∃ p ps q qs, utf8Values v = p :: ps ∧ utf8Values w = q :: qs ∧ p < q := by
  rcases utf8Values_cases v with ⟨hv, ev⟩ | ⟨hv, hv', ev⟩ | ⟨hv, hv', ev⟩ | ⟨hv, ev⟩ <;>
    rcases utf8Values_cases w with ⟨hw, ew⟩ | ⟨hw, hw', ew⟩ | ⟨hw, hw', ew⟩ | ⟨hw, ew⟩ <;>
    rw [ev, ew] at hlen ⊢ <;>
    -- two code points of one width contradict `hlen`; lead bytes of two widths lie in
    -- disjoint ranges, the wider one above
    first
    | exact absurd rfl hlen
    | exact ⟨_, _, _, _, rfl, rfl, by omega⟩

theorem utf8EncodeChar_append_lt {c d : Char} (h : c < d) (x y : List UInt8) :
    String.utf8EncodeChar c ++ x < String.utf8EncodeChar d ++ y := by
  have hvw : c.toNat < d.toNat := h
  have hw := toNat_lt_of_char d
  rw [utf8EncodeChar_eq_map c, utf8EncodeChar_eq_map d]
  by_cases hlen : (utf8Values c.toNat).length = (utf8Values d.toNat).length
  · exact ofNat_map_append_lt hlen (utf8Values_lt _ hw) (utf8Values_lex hvw hw hlen) x y
  · -- a wider character opens with a larger lead byte
    obtain ⟨p, ps, q, qs, hp, hq, hpq⟩ := utf8Values_head_lt hvw hlen
    have hq256 := utf8Values_lt _ hw q (by rw [hq]; exact List.mem_cons_self)
    rw [hp, hq]
    apply List.Lex.rel
    rw [UInt8.lt_iff_toNat_lt, UInt8.toNat_ofNat', UInt8.toNat_ofNat']
    omega

theorem flatMap_utf8EncodeChar_lt : ∀ {a b : List Char}, a < b →
    a.flatMap String.utf8EncodeChar < b.flatMap String.utf8EncodeChar
  | [], d :: b, _ => by
      obtain ⟨byte, rest, h⟩ :=
        List.exists_cons_of_ne_nil (String.utf8EncodeChar_ne_nil (c := d))
      simp [h]
  | c :: a, d :: b, h => by
      rcases List.cons_lt_cons_iff.mp h with hcd | ⟨rfl, hab⟩
      · exact utf8EncodeChar_append_lt hcd _ _
      · exact List.append_left_lt (flatMap_utf8EncodeChar_lt hab)

/-- Texts compare by code points as their UTF-8 bytes compare. -/
theorem lt_iff_bytes_lt (a b : String) : a < b ↔ bytes a < bytes b := by
  rw [bytes_eq_flatMap, bytes_eq_flatMap]
  constructor
  · exact flatMap_utf8EncodeChar_lt
  · intro hbytes
    by_cases hab : a < b
    · exact hab
    · by_cases hba : b < a
      · exact absurd hbytes (List.lt_asymm (flatMap_utf8EncodeChar_lt hba))
      · have heq : a = b := String.le_antisymm hba hab
        subst heq
        exact absurd hbytes (List.lt_irrefl _)

end Text

theorem lookup_eq_of_mem {β : Type} {ms : List (String × β)} (hnd : (ms.map Prod.fst).Nodup)
    {k : String} {j : β} (hmem : (k, j) ∈ ms) : ms.lookup k = some j := by
  induction ms with
  | nil => cases hmem
  | cons m rest ih =>
      obtain ⟨k', j'⟩ := m
      rw [List.map_cons, List.nodup_cons] at hnd
      rcases List.mem_cons.mp hmem with heq | hrest
      · cases heq
        simp
      · have hk : k ∈ rest.map Prod.fst := List.mem_map_of_mem (f := Prod.fst) hrest
        have hne : k ≠ k' := by
          rintro rfl
          exact hnd.1 hk
        rw [List.lookup_cons, beq_false_of_ne hne]
        exact ih hnd.2 hrest

namespace Record

theorem names_nodup (r : Record) : (r.fields.map Prod.fst).Nodup :=
  r.ascending.imp ne_of_lt

theorem get?_eq_some_iff {r : Record} {name : String} {v : Value} :
    r.get? name = some v ↔ (name, v) ∈ r.fields := by
  constructor
  · intro hget
    obtain ⟨l₁, l₂, hsplit, -⟩ := List.lookup_eq_some_iff.mp hget
    rw [hsplit]
    exact List.mem_append_right _ List.mem_cons_self
  · exact lookup_eq_of_mem r.names_nodup

/-- The entries of a record's line after the time and the mode tag: every field but
`@timestamp`, in the order of the fields. -/
def fieldEntries (r : Record) : List (String × Json) :=
  (r.fields.filter (fun f => f.1 != timestampField)).map fun f => (f.1, f.2.toJson)

@[simp] theorem members_toJson (r : Record) :
    r.toJson.members = (timestampField, Json.ofNat r.timestamp.millis.toNat) ::
      ((if r.get? typeField = none then [(typeField, Json.string r.mode.literal)] else []) ++
        r.fieldEntries) := by
  unfold toJson get?
  cases r.fields.lookup typeField <;> rfl

theorem mem_fieldEntries {r : Record} {name : String} {j : Json} :
    (name, j) ∈ r.fieldEntries ↔
      name ≠ timestampField ∧ ∃ v, r.get? name = some v ∧ j = v.toJson := by
  simp only [fieldEntries, List.mem_map, List.mem_filter, bne_iff_ne, ne_eq]
  constructor
  · rintro ⟨⟨k, v⟩, ⟨hmem, hk⟩, hpair⟩
    cases hpair
    exact ⟨hk, v, get?_eq_some_iff.mpr hmem, rfl⟩
  · rintro ⟨hname, v, hget, rfl⟩
    exact ⟨(name, v), ⟨get?_eq_some_iff.mp hget, hname⟩, rfl⟩

theorem fieldEntries_bytes_ascending (r : Record) :
    r.fieldEntries.Pairwise (fun a b => Text.bytes a.1 < Text.bytes b.1) := by
  have hbytes : (r.fields.map Prod.fst).Pairwise (fun a b => Text.bytes a < Text.bytes b) :=
    r.ascending.imp fun hlt => (Text.lt_iff_bytes_lt _ _).mp hlt
  exact List.pairwise_map.mpr (List.pairwise_map.mp hbytes |>.filter _)

theorem fieldEntries_names_nodup (r : Record) :
    (r.fieldEntries.map Prod.fst).Nodup := by
  have hlt : (r.fieldEntries.map Prod.fst).Pairwise (fun a b => Text.bytes a < Text.bytes b) :=
    List.pairwise_map.mpr r.fieldEntries_bytes_ascending
  exact hlt.imp fun hab => by
    rintro rfl
    exact List.lt_irrefl _ hab

theorem mem_fieldEntries_names {r : Record} {name : String}
    (hmem : name ∈ r.fieldEntries.map Prod.fst) :
    name ≠ timestampField ∧ r.get? name ≠ none := by
  obtain ⟨⟨k, j⟩, hkj, rfl⟩ := List.mem_map.mp hmem
  obtain ⟨hk, v, hget, -⟩ := mem_fieldEntries.mp hkj
  exact ⟨hk, by simp [hget]⟩

theorem line_keys_nodup (r : Record) :
    (r.toJson.members.map Prod.fst).Nodup := by
  have hbody := r.fieldEntries_names_nodup
  rw [members_toJson]
  -- `type` is a key of the line once: as the tag, or as a field when the tag is absent
  cases hget : r.get? typeField with
  | none =>
      have htype : typeField ∉ r.fieldEntries.map Prod.fst := fun hmem =>
        (mem_fieldEntries_names hmem).2 hget
      have hstamp : timestampField ∉ r.fieldEntries.map Prod.fst := fun hmem =>
        (mem_fieldEntries_names hmem).1 rfl
      simp only [if_true, List.singleton_append, List.map_cons, List.nodup_cons, List.mem_cons]
      exact ⟨fun hor => hor.elim (by decide) hstamp, htype, hbody⟩
  | some v =>
      have hstamp : timestampField ∉ r.fieldEntries.map Prod.fst := fun hmem =>
        (mem_fieldEntries_names hmem).1 rfl
      simp only [reduceCtorEq, if_false, List.nil_append, List.map_cons, List.nodup_cons]
      exact ⟨hstamp, hbody⟩

end Record

/-- The line of a record, entry by entry. -/
structure LineFormat (r : Record) : Prop where
  /-- The line is a JSON object. -/
  line_eq : r.line = (Json.object r.toJson.members).write
  /-- The time, the mode tag unless a field is named `type`, then every other field but
  `@timestamp`, each once, ascending by the bytes of the names. -/
  entries : ∃ body : List (String × Json),
    r.toJson.members = (Record.timestampField, Json.ofNat r.timestamp.millis.toNat) ::
      ((if r.get? Record.typeField = none then
        [(Record.typeField, Json.string r.mode.literal)] else []) ++ body) ∧
    (∀ name j, (name, j) ∈ body ↔
      name ≠ Record.timestampField ∧ ∃ v, r.get? name = some v ∧ j = v.toJson) ∧
    body.Pairwise (fun a b => Text.bytes a.1 < Text.bytes b.1)
  /-- No key appears twice. -/
  keys_distinct : (r.toJson.members.map Prod.fst).Nodup
  /-- `@timestamp` holds the record's own time, whatever its fields. -/
  timestamp_entry :
    r.toJson.members.lookup Record.timestampField = some (Json.ofNat r.timestamp.millis.toNat)
  /-- `type` holds the field of that name, or else the mode literal. -/
  type_entry : r.toJson.members.lookup Record.typeField =
    some (match r.get? Record.typeField with
      | some v => v.toJson
      | none => .string r.mode.literal)

theorem record_line_follows_format (r : Record) : LineFormat r where
  line_eq := rfl
  entries := ⟨r.fieldEntries, r.members_toJson, fun _ _ => Record.mem_fieldEntries,
    r.fieldEntries_bytes_ascending⟩
  keys_distinct := r.line_keys_nodup
  timestamp_entry := by
    apply lookup_eq_of_mem r.line_keys_nodup
    simp
  type_entry := by
    apply lookup_eq_of_mem r.line_keys_nodup
    cases hget : r.get? Record.typeField with
    | none => simp [hget]
    | some v =>
        have hfield : (Record.typeField, v.toJson) ∈ r.fieldEntries :=
          Record.mem_fieldEntries.mpr ⟨by decide, v, hget, rfl⟩
        simp [hfield]

example : ((((Record.empty .twoColumns ⟨1500⟩).insert "é" (.integer 1)).insert "type"
    (.text "t")).insert "@timestamp" (.integer 3)).line =
      "\x7b\"@timestamp\":1500,\"type\":\"t\",\"é\":1\x7d" := by decide

end RowMetrics
