import JsxOutline.Text.Encoding

/-!
# UTF-16

The decoder against the encoder.  Main statement: bytes have a text in a byte order exactly if they
are what the text is encoded as, so half a unit and half a character have none.
-/

namespace JsxOutline.Text.Utf16

variable {order : ByteOrder}

/-! ### Units and bytes -/

theorem unitBytes_eq_iff {u : Nat} (hu : u < 0x10000) {a b : UInt8} :
    unitBytes order u = [a, b] ↔ unit order a b = u := by
  have ha := a.toNat_lt
  have hb := b.toNat_lt
  cases order <;>
    simp only [unitBytes, unit, List.cons.injEq, and_true, ← UInt8.toNat_inj, UInt8.toNat_ofNat'] <;>
    omega

theorem unit_lt (order : ByteOrder) (a b : UInt8) : unit order a b < 0x10000 := by
  have ha := a.toNat_lt
  have hb := b.toNat_lt
  cases order <;> simp only [unit] <;> omega

theorem exists_unitBytes (order : ByteOrder) (u : Nat) : ∃ a b, unitBytes order u = [a, b] := by
  cases order <;> exact ⟨_, _, rfl⟩

/-- Bytes are taken apart into the units that they write. -/
theorem toUnits_eq_some_iff {bytes : List UInt8} {us : List Nat} :
    toUnits order bytes = some us ↔
      (∀ u ∈ us, u < 0x10000) ∧ bytes = us.flatMap (unitBytes order) := by
  constructor
  · intro h
    fun_induction toUnits order bytes generalizing us with
    | case1 =>
      cases h
      exact ⟨by simp, rfl⟩
    | case2 => cases h
    | case3 a b rest ih =>
      obtain ⟨vs, hvs, rfl⟩ := Option.map_eq_some_iff.mp h
      obtain ⟨hlt, hrest⟩ := ih hvs
      have hunit := (unitBytes_eq_iff (unit_lt order a b)).mpr rfl
      refine ⟨List.forall_mem_cons.mpr ⟨unit_lt order a b, hlt⟩, ?_⟩
      rw [List.flatMap_cons, hunit, hrest]
      rfl
  · rintro ⟨hlt, rfl⟩
    induction us with
    | nil => rfl
    | cons u us ih =>
      obtain ⟨hu, hus⟩ := List.forall_mem_cons.mp hlt
      obtain ⟨a, b, hbytes⟩ := exists_unitBytes order u
      rw [List.flatMap_cons, hbytes, List.cons_append, List.cons_append, List.nil_append, toUnits,
        ih hus, (unitBytes_eq_iff hu).mp hbytes, Option.map_some]

/-! ### Characters and units -/

theorem units_of_le {c : Char} (h : 0x10000 ≤ c.toNat) :
    ∃ u v, units c = [u, v] ∧ isHigh u = true ∧ isLow v = true ∧ join u v = c.toNat := by
  have hc := isValidChar_toNat c
  simp only [Nat.isValidChar] at hc
  have hpair : ¬ c.toNat < 0x10000 := Nat.not_lt.mpr h
  refine ⟨0xD800 + (c.toNat - 0x10000) / 0x400, 0xDC00 + (c.toNat - 0x10000) % 0x400,
    ?_, ?_, ?_, ?_⟩
  · simp only [units, hpair, if_false]
  · rw [isHigh_iff]
    omega
  · rw [isLow_iff]
    omega
  · unfold join
    omega

/-- A character has one unit, which is neither the first nor the second of two, or two. -/
theorem units_cases (c : Char) :
    (units c = [c.toNat] ∧ ¬ isHigh c.toNat = true ∧ ¬ isLow c.toNat = true ∧ c.toNat < 0x10000) ∨
      ∃ u v, units c = [u, v] ∧ isHigh u = true ∧ isLow v = true ∧ join u v = c.toNat := by
  by_cases h : c.toNat < 0x10000
  · have hc := isValidChar_toNat c
    simp only [Nat.isValidChar] at hc
    have hunits : units c = [c.toNat] := by simp only [units, h, if_true]
    rw [isHigh_iff, isLow_iff]
    exact .inl ⟨hunits, by omega, by omega, h⟩
  · exact .inr (units_of_le (Nat.not_lt.mp h))

theorem units_ofNat {u : Nat} (hhigh : ¬ isHigh u = true) (hlow : ¬ isLow u = true)
    (hu : u < 0x10000) : units (.ofNat u) = [u] := by
  rw [isHigh_iff] at hhigh
  rw [isLow_iff] at hlow
  have hvalid : u.isValidChar := by
    simp only [Nat.isValidChar]
    omega
  simp only [units, toNat_ofNat_of_isValidChar hvalid, hu, if_true]

theorem units_ofNat_join {u v : Nat} (hhigh : isHigh u = true) (hlow : isLow v = true) :
    units (.ofNat (join u v)) = [u, v] := by
  rw [isHigh_iff] at hhigh
  rw [isLow_iff] at hlow
  have hjoin : 0x10000 ≤ join u v ∧ join u v < 0x110000 := by
    unfold join
    omega
  have hvalid : (join u v).isValidChar := .inr ⟨Nat.lt_of_lt_of_le (by decide) hjoin.1, hjoin.2⟩
  have hpair : ¬ join u v < 0x10000 := Nat.not_lt.mpr hjoin.1
  simp only [units, toNat_ofNat_of_isValidChar hvalid, hpair, if_false, List.cons.injEq, and_true]
  unfold join
  omega

theorem units_lt {c : Char} {u : Nat} (h : u ∈ units c) : u < 0x10000 := by
  rcases units_cases c with ⟨hc, -, -, hlt⟩ | ⟨v, w, hc, hhigh, hlow, -⟩
  · rw [hc, List.mem_singleton] at h
    omega
  · rw [isHigh_iff] at hhigh
    rw [isLow_iff] at hlow
    rw [hc, List.mem_cons, List.mem_singleton] at h
    omega

theorem ofUnits_units_append (c : Char) (rest : List Nat) :
    ofUnits (units c ++ rest) = (ofUnits rest).map (c :: ·) := by
  rcases units_cases c with ⟨hc, hhigh, hlow, -⟩ | ⟨u, v, hc, hhigh, hlow, hjoin⟩
  · rw [hc, List.cons_append, List.nil_append, ofUnits.eq_def]
    simp only [hhigh, hlow, Char.ofNat_toNat, Bool.false_eq_true, if_false]
  · rw [hc, List.cons_append, List.cons_append, List.nil_append, ofUnits.eq_def]
    simp only [hhigh, hlow, hjoin, Char.ofNat_toNat, if_true]

theorem ofUnits_flatMap_units (s : List Char) : ofUnits (s.flatMap units) = some s := by
  induction s with
  | nil => rfl
  | cons c s ih => rw [List.flatMap_cons, ofUnits_units_append, ih, Option.map_some]

theorem eq_units_of_ofUnits {us : List Nat} (hus : ∀ u ∈ us, u < 0x10000) {s : List Char}
    (h : ofUnits us = some s) : us = s.flatMap units := by
  fun_induction ofUnits us generalizing s with
  | case1 =>
    cases h
    rfl
  | case2 u hhigh v rest hlow ih =>
    obtain ⟨t, ht, rfl⟩ := Option.map_eq_some_iff.mp h
    have hrest : ∀ w ∈ rest, w < 0x10000 := fun w hw =>
      hus w (List.mem_cons_of_mem _ (List.mem_cons_of_mem _ hw))
    rw [List.flatMap_cons, units_ofNat_join hhigh hlow, ← ih hrest ht]
    rfl
  | case6 u rest hhigh hlow ih =>
    obtain ⟨t, ht, rfl⟩ := Option.map_eq_some_iff.mp h
    obtain ⟨hu, hrest⟩ := List.forall_mem_cons.mp hus
    rw [List.flatMap_cons, units_ofNat hhigh hlow hu, ← ih hrest ht]
    rfl
  | case3 | case4 | case5 => cases h

/-! ### Texts -/

theorem encode_eq_flatMap (order : ByteOrder) (s : List Char) :
    encode order s = (s.flatMap units).flatMap (unitBytes order) := by
  rw [encode, List.flatMap_assoc]

/-- Bytes have a text in a byte order exactly if they are what it is encoded as. -/
theorem decode_eq_some_iff {bytes : List UInt8} {s : List Char} :
    decode order bytes = some s ↔ bytes = encode order s := by
  rw [decode, Option.bind_eq_some_iff, encode_eq_flatMap]
  constructor
  · rintro ⟨us, hus, hs⟩
    obtain ⟨hlt, rfl⟩ := toUnits_eq_some_iff.mp hus
    rw [eq_units_of_ofUnits hlt hs]
  · rintro rfl
    refine ⟨s.flatMap units, toUnits_eq_some_iff.mpr ⟨?_, rfl⟩, ofUnits_flatMap_units s⟩
    intro u hu
    obtain ⟨c, -, hu⟩ := List.mem_flatMap.mp hu
    exact units_lt hu

theorem decode_eq_none_iff {bytes : List UInt8} :
    decode order bytes = none ↔ ∀ s, bytes ≠ encode order s := by
  rw [Option.eq_none_iff_forall_ne_some]
  exact forall_congr' fun s => not_congr decode_eq_some_iff

end JsxOutline.Text.Utf16
