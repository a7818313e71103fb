import JsxOutline.Text.Encoding
import Mathlib.Algebra.GroupWithZero.Nat
import Mathlib.Data.List.Induction
import Mathlib.Tactic.SplitIfs

/-!
# UTF-8

The decoder against the encoder.  Main statements: bytes have a text exactly if they are what the
text is encoded as, so each text has one form and what is written longer than that, or stands for
half of a character, has none; and the encoder is that of strings themselves.
-/

namespace JsxOutline.Text

/-! ### Bytes as numbers -/

theorem map_toNat_inj {as bs : List UInt8} :
    as.map UInt8.toNat = bs.map UInt8.toNat ↔ as = bs :=
  List.map_inj_right fun _ _ => UInt8.toNat_inj.mp

theorem not_lt_of_toNat_le {a b : UInt8} (h : b.toNat ≤ a.toNat) : ¬ a < b :=
  UInt8.not_lt.mpr (UInt8.le_iff_toNat_le.mpr h)

theorem toNat_le_of_not_lt {a b : UInt8} (h : ¬ a < b) : b.toNat ≤ a.toNat :=
  UInt8.le_iff_toNat_le.mp (UInt8.not_lt.mp h)

namespace Utf8

/-! ### One character -/

theorem map_toNat_encodeChar (c : Char) : (encodeChar c).map UInt8.toNat =
    if c.toNat < 0x80 then [c.toNat]
    else if c.toNat < 0x800 then [0xC0 + c.toNat / 0x40, 0x80 + c.toNat % 0x40]
    else if c.toNat < 0x10000 then
      [0xE0 + c.toNat / 0x1000, 0x80 + c.toNat / 0x40 % 0x40, 0x80 + c.toNat % 0x40]
    else
      [0xF0 + c.toNat / 0x40000, 0x80 + c.toNat / 0x1000 % 0x40, 0x80 + c.toNat / 0x40 % 0x40,
        0x80 + c.toNat % 0x40] := by
  have hc := isValidChar_toNat c
  simp only [Nat.isValidChar] at hc
  unfold encodeChar
  dsimp only
  split_ifs <;>
    simp only [List.map_cons, List.map_nil, UInt8.toNat_ofNat', List.cons.injEq, and_true] <;> omega

theorem encodeChar_of_lt {c : Char} (h : c.toNat < 0x80) : encodeChar c = [.ofNat c.toNat] :=
  if_pos h

/-- The ways in which a character is written, told apart by the first byte. -/
theorem encodeChar_cases (c : Char) :
    (∃ a, encodeChar c = [a] ∧ a.toNat < 0x80 ∧ a.toNat = c.toNat) ∨
      (∃ a b, encodeChar c = [a, b] ∧ 0xC0 ≤ a.toNat ∧ a.toNat < 0xE0) ∨
      (∃ a b₁ b₂, encodeChar c = [a, b₁, b₂] ∧ 0xE0 ≤ a.toNat ∧ a.toNat < 0xF0) ∨
      ∃ a b₁ b₂ b₃, encodeChar c = [a, b₁, b₂, b₃] ∧ 0xF0 ≤ a.toNat ∧ a.toNat < 0xF8 := by
  have hc := isValidChar_toNat c
  simp only [Nat.isValidChar] at hc
  unfold encodeChar
  dsimp only
  split_ifs with h₁ h₂ h₃
  · exact .inl ⟨_, rfl, by rw [UInt8.toNat_ofNat']; omega⟩
  · exact .inr (.inl ⟨_, _, rfl, by rw [UInt8.toNat_ofNat']; omega⟩)
  · exact .inr (.inr (.inl ⟨_, _, _, rfl, by rw [UInt8.toNat_ofNat']; omega⟩))
  · exact .inr (.inr (.inr ⟨_, _, _, _, rfl, by rw [UInt8.toNat_ofNat']; omega⟩))

theorem exists_first_of_encodeChar (c : Char) :
    ∃ a tails, encodeChar c = a :: tails ∧ a.toNat < 0xF8 := by
  rcases encodeChar_cases c with ⟨a, hc, ha, -⟩ | ⟨a, b, hc, -, ha⟩ | ⟨a, b₁, b₂, hc, -, ha⟩ |
    ⟨a, b₁, b₂, b₃, hc, -, ha⟩
  · exact ⟨a, _, hc, Nat.lt_trans ha (by decide)⟩
  · exact ⟨a, _, hc, Nat.lt_trans ha (by decide)⟩
  · exact ⟨a, _, hc, Nat.lt_trans ha (by decide)⟩
  · exact ⟨a, _, hc, ha⟩

/-! ### Bytes that continue a character -/

theorem tail?_eq_some_iff {b : UInt8} {n : Nat} :
    tail? b = some n ↔ b.toNat = 0x80 + n ∧ n < 0x40 := by
  simp only [tail?, UInt8.le_iff_toNat_le, UInt8.lt_iff_toNat_lt, UInt8.reduceToNat,
    Option.ite_none_right_eq_some, Option.some.injEq]
  omega

theorem map_tail?_eq_some_iff {lead n : Nat} {b : UInt8} :
    (tail? b).map (0x40 * lead + ·) = some n ↔ lead = n / 0x40 ∧ b.toNat = 0x80 + n % 0x40 := by
  simp only [Option.map_eq_some_iff, tail?_eq_some_iff]
  constructor
  · rintro ⟨x, ⟨hb, hx⟩, rfl⟩
    omega
  · rintro ⟨hn, hb⟩
    exact ⟨n % 0x40, by omega⟩

/-- So many bytes with the last bits of a number, six in each. -/
def continuation : Nat → Nat → List Nat
  | 0, _ => []
  | k + 1, n => continuation k (n / 0x40) ++ [0x80 + n % 0x40]

theorem foldlM_tail?_eq_some_iff {lead n : Nat} {tails : List UInt8} :
    tails.foldlM (fun n b => (tail? b).map (0x40 * n + ·)) lead = some n ↔
      lead = n / 0x40 ^ tails.length ∧ tails.map UInt8.toNat = continuation tails.length n := by
  induction tails using List.reverseRecOn generalizing n with
  | nil => simp [continuation]
  | append_singleton tails b ih =>
    have hpow : n / 0x40 ^ (tails.length + 1) = n / 0x40 / 0x40 ^ tails.length := by
      rw [Nat.pow_succ', Nat.div_div_eq_div_mul]
    rw [List.foldlM_append, Option.bind_eq_bind, Option.bind_eq_some_iff]
    simp only [List.foldlM_cons, List.foldlM_nil, bind_pure, map_tail?_eq_some_iff, ih]
    rw [List.length_append, List.length_singleton, continuation, List.map_append, List.map_singleton,
      hpow]
    constructor
    · rintro ⟨m, ⟨hlead, htails⟩, rfl, hb⟩
      exact ⟨hlead, by rw [htails, hb]⟩
    · rintro ⟨hlead, hall⟩
      obtain ⟨htails, hb⟩ := List.append_inj' hall rfl
      exact ⟨_, ⟨hlead, htails⟩, rfl, (List.cons.inj hb).1⟩

theorem assemble_eq_some_iff {least lead : Nat} {tails : List UInt8} {c : Char} :
    assemble least lead tails = some c ↔
      least ≤ c.toNat ∧ lead = c.toNat / 0x40 ^ tails.length ∧
        tails.map UInt8.toNat = continuation tails.length c.toNat := by
  rw [assemble, Option.bind_eq_bind, Option.bind_eq_some_iff]
  simp only [Option.ite_none_right_eq_some, scalar?_eq_some_iff, ← foldlM_tail?_eq_some_iff]
  constructor
  · rintro ⟨n, hn, hleast, rfl⟩
    exact ⟨hleast, hn⟩
  · rintro ⟨hleast, hn⟩
    exact ⟨_, hn, hleast, rfl⟩

theorem assemble_one {a b : UInt8} {c : Char} (ha : 0xC0 ≤ a.toNat) (ha' : a.toNat < 0xE0) :
    assemble 0x80 (a.toNat - 0xC0) [b] = some c ↔ encodeChar c = [a, b] := by
  rw [assemble_eq_some_iff, ← map_toNat_inj, map_toNat_encodeChar]
  simp only [continuation, Nat.reduceAdd, Nat.reducePow, List.length_cons, List.length_nil,
    List.map_cons, List.map_nil, List.nil_append]
  split_ifs <;> simp only [List.cons.injEq, reduceCtorEq, and_false, and_true, iff_false] <;> omega

theorem assemble_two {a b₁ b₂ : UInt8} {c : Char} (ha : 0xE0 ≤ a.toNat) (ha' : a.toNat < 0xF0) :
    assemble 0x800 (a.toNat - 0xE0) [b₁, b₂] = some c ↔ encodeChar c = [a, b₁, b₂] := by
  rw [assemble_eq_some_iff, ← map_toNat_inj, map_toNat_encodeChar]
  simp only [continuation, Nat.reduceAdd, Nat.reducePow, List.length_cons, List.length_nil,
    List.map_cons, List.map_nil, List.nil_append, List.cons_append]
  split_ifs <;> simp only [List.cons.injEq, reduceCtorEq, and_false, and_true, iff_false] <;> omega

theorem assemble_three {a b₁ b₂ b₃ : UInt8} {c : Char} (ha : 0xF0 ≤ a.toNat) :
    assemble 0x10000 (a.toNat - 0xF0) [b₁, b₂, b₃] = some c ↔ encodeChar c = [a, b₁, b₂, b₃] := by
  rw [assemble_eq_some_iff, ← map_toNat_inj, map_toNat_encodeChar]
  simp only [continuation, Nat.reduceAdd, Nat.reducePow, List.length_cons, List.length_nil,
    List.map_cons, List.map_nil, List.nil_append, List.cons_append]
  split_ifs <;> simp only [List.cons.injEq, reduceCtorEq, and_false, and_true, iff_false] <;> omega

/-! ### Texts -/

theorem encode_cons (c : Char) (s : List Char) : encode (c :: s) = encodeChar c ++ encode s :=
  List.flatMap_cons

theorem decode_encodeChar_append (c : Char) (rest : List UInt8) :
    decode (encodeChar c ++ rest) = (decode rest).map (c :: ·) := by
  rcases encodeChar_cases c with ⟨a, hc, ha, hn⟩ | ⟨a, b, hc, ha, ha'⟩ | ⟨a, b₁, b₂, hc, ha, ha'⟩ |
    ⟨a, b₁, b₂, b₃, hc, ha, -⟩
  · have h₁ : a < 0x80 := UInt8.lt_iff_toNat_lt.mpr ha
    rw [hc, List.cons_append, List.nil_append, decode.eq_def]
    simp only [h₁, if_true, hn, Char.ofNat_toNat]
  · have h₁ : ¬ a < 0x80 := not_lt_of_toNat_le (Nat.le_trans (by decide) ha)
    have h₂ : ¬ a < 0xC0 := not_lt_of_toNat_le ha
    have h₃ : a < 0xE0 := UInt8.lt_iff_toNat_lt.mpr ha'
    rw [hc, List.cons_append, List.cons_append, List.nil_append, decode.eq_def]
    simp only [h₁, h₂, h₃, if_true, if_false, (assemble_one ha ha').mpr hc]
    exact Option.map_eq_bind.symm
  · have h₁ : ¬ a < 0x80 := not_lt_of_toNat_le (Nat.le_trans (by decide) ha)
    have h₂ : ¬ a < 0xC0 := not_lt_of_toNat_le (Nat.le_trans (by decide) ha)
    have h₃ : ¬ a < 0xE0 := not_lt_of_toNat_le ha
    have h₄ : a < 0xF0 := UInt8.lt_iff_toNat_lt.mpr ha'
    rw [hc, List.cons_append, List.cons_append, List.cons_append, List.nil_append, decode.eq_def]
    simp only [h₁, h₂, h₃, h₄, if_true, if_false, (assemble_two ha ha').mpr hc]
    exact Option.map_eq_bind.symm
  · have h₁ : ¬ a < 0x80 := not_lt_of_toNat_le (Nat.le_trans (by decide) ha)
    have h₂ : ¬ a < 0xC0 := not_lt_of_toNat_le (Nat.le_trans (by decide) ha)
    have h₃ : ¬ a < 0xE0 := not_lt_of_toNat_le (Nat.le_trans (by decide) ha)
    have h₄ : ¬ a < 0xF0 := not_lt_of_toNat_le ha
    rw [hc, List.cons_append, List.cons_append, List.cons_append, List.cons_append, List.nil_append,
      decode.eq_def]
    simp only [h₁, h₂, h₃, h₄, if_false, (assemble_three ha).mpr hc]
    exact Option.map_eq_bind.symm

theorem decode_encode (s : List Char) : decode (encode s) = some s := by
  induction s with
  | nil => rfl
  | cons c s ih => rw [encode_cons, decode_encodeChar_append, ih, Option.map_some]

theorem bind_cons_eq_some_iff {first : Option Char} {rest : Option (List Char)} {s : List Char} :
    (do let c ← first; return c :: (← rest)) = some s ↔
      ∃ c t, first = some c ∧ rest = some t ∧ c :: t = s := by
  simp only [Option.bind_eq_bind, Option.bind_eq_some_iff, Option.pure_def, Option.some.injEq]
  constructor
  · rintro ⟨c, hc, t, ht, rfl⟩
    exact ⟨c, t, hc, ht, rfl⟩
  · rintro ⟨c, t, hc, ht, rfl⟩
    exact ⟨c, hc, t, ht, rfl⟩

theorem eq_encode_of_decode {bytes : List UInt8} {s : List Char} (h : decode bytes = some s) :
    bytes = encode s := by
  fun_induction decode bytes generalizing s with
  | case1 =>
    cases h
    rfl
  | case2 a rest ha ih =>
    obtain ⟨t, ht, rfl⟩ := Option.map_eq_some_iff.mp h
    have hlt : a.toNat < 0x80 := UInt8.lt_iff_toNat_lt.mp ha
    have hn : (Char.ofNat a.toNat).toNat = a.toNat :=
      toNat_ofNat_of_isValidChar (.inl (Nat.lt_trans hlt (by decide)))
    have hencode : encodeChar (Char.ofNat a.toNat) = [a] := by
      rw [encodeChar_of_lt (hn.symm ▸ hlt), hn, UInt8.ofNat_toNat]
    rw [ih ht, encode_cons, hencode]
    rfl
  | case4 a _ h₂ ha' b rest ih =>
    obtain ⟨c, t, hc, ht, rfl⟩ := bind_cons_eq_some_iff.mp h
    have hencode := (assemble_one (toNat_le_of_not_lt h₂) (UInt8.lt_iff_toNat_lt.mp ha')).mp hc
    rw [ih ht, encode_cons, hencode]
    rfl
  | case6 a _ _ h₃ ha' b₁ b₂ rest ih =>
    obtain ⟨c, t, hc, ht, rfl⟩ := bind_cons_eq_some_iff.mp h
    have hencode := (assemble_two (toNat_le_of_not_lt h₃) (UInt8.lt_iff_toNat_lt.mp ha')).mp hc
    rw [ih ht, encode_cons, hencode]
    rfl
  | case8 a _ _ _ h₄ b₁ b₂ b₃ rest ih =>
    obtain ⟨c, t, hc, ht, rfl⟩ := bind_cons_eq_some_iff.mp h
    have hencode := (assemble_three (toNat_le_of_not_lt h₄)).mp hc
    rw [ih ht, encode_cons, hencode]
    rfl
  | case3 | case5 | case7 | case9 => cases h

/-- Bytes have a text exactly if they are what it is encoded as. -/
theorem decode_eq_some_iff {bytes : List UInt8} {s : List Char} :
    decode bytes = some s ↔ bytes = encode s :=
  ⟨eq_encode_of_decode, fun h => h ▸ decode_encode s⟩

theorem decode_eq_none_iff {bytes : List UInt8} :
    decode bytes = none ↔ ∀ s, bytes ≠ encode s := by
  rw [Option.eq_none_iff_forall_ne_some]
  exact forall_congr' fun s => not_congr decode_eq_some_iff

/-! ### Strings -/

theorem encodeChar_eq_utf8EncodeChar (c : Char) : encodeChar c = String.utf8EncodeChar c := by
  have hc := isValidChar_toNat c
  simp only [Nat.isValidChar] at hc
  rw [← map_toNat_inj, map_toNat_encodeChar]
  unfold String.utf8EncodeChar
  simp only [Char.toNat_val, Nat.le_iff_lt_add_one, Nat.reduceAdd]
  split_ifs <;>
    simp only [List.map_cons, List.map_nil, UInt8.toNat_ofNat', List.cons.injEq, and_true] <;> omega

/-- A string is stored as the bytes that it consists of. -/
theorem toBytes_eq (t : String) : toBytes t = t.toUTF8.data.toList := by
  have hencode : @encodeChar = @String.utf8EncodeChar := funext encodeChar_eq_utf8EncodeChar
  rw [toBytes, encode, hencode, String.toUTF8_eq_toByteArray, ← String.utf8Encode_toList,
    List.utf8Encode, List.toList_data_toByteArray]

end Utf8

end JsxOutline.Text
