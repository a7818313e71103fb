import JsxOutline.Json.Reader
import JsxOutline.Json.Writer
import JsxOutline.Proofs.Utf16

/-!
# Strings and numbers in JSON

Main statements: a string between quotes and a number that nothing continues are read back as they
were written, and both are written in ASCII.
-/

namespace JsxOutline.Json

open JsxOutline.Text

def IsAscii (s : List Char) : Prop := ∀ c ∈ s, c.toNat < 128

@[simp] theorem isAscii_nil : IsAscii [] := nofun

@[simp] theorem isAscii_cons {c : Char} {s : List Char} :
    IsAscii (c :: s) ↔ c.toNat < 128 ∧ IsAscii s := List.forall_mem_cons

@[simp] theorem isAscii_append {s t : List Char} :
    IsAscii (s ++ t) ↔ IsAscii s ∧ IsAscii t := List.forall_mem_append

theorem isAscii_flatMap {α : Type} {f : α → List Char} {xs : List α} (h : ∀ x ∈ xs, IsAscii (f x)) :
    IsAscii (xs.flatMap f) := by
  intro c hc
  obtain ⟨x, hx, hc⟩ := List.mem_flatMap.mp hc
  exact h x hx c hc

/-! ### Escapes of units -/

theorem exists_hexadecimal_four (u : Nat) : ∃ a b c d, hexadecimal 4 u = [a, b, c, d] :=
  ⟨_, _, _, _, rfl⟩

theorem ofHexadecimal?_hexadecimal_four {u : Nat} (h : u < 0x10000) :
    ofHexadecimal? (hexadecimal 4 u) = some u := by
  rw [ofHexadecimal?_hexadecimal]
  exact congrArg some (Nat.mod_eq_of_lt h)

theorem isAscii_hexadecimal (width n : Nat) : IsAscii (hexadecimal width n) := by
  have hdigit : ∀ i : Fin 16, (hexDigit i).toNat < 128 := by decide
  induction width generalizing n with
  | zero => exact isAscii_nil
  | succ width ih =>
    have hlast := hdigit ⟨n % 16, Nat.mod_lt n (by decide)⟩
    simp [hexadecimal, ih, hlast]

theorem isAscii_unitEscapes (c : Char) : IsAscii (unitEscapes c) := by
  refine isAscii_flatMap fun u _ => ?_
  simp [isAscii_hexadecimal]

-- No unit is read where the text ends with its digits, so something has to follow.
theorem readUnits_of_single {u : Nat} (hhigh : ¬ Utf16.isHigh u = true)
    (hlow : ¬ Utf16.isLow u = true) (hu : u < 0x10000) (t : Char) (ts : List Char) :
    readUnits (hexadecimal 4 u ++ t :: ts) = .ok (.ofNat u, t :: ts) := by
  have hvalue := ofHexadecimal?_hexadecimal_four hu
  obtain ⟨a, b, c, d, hdigits⟩ := exists_hexadecimal_four u
  rw [hdigits] at hvalue ⊢
  simp only [List.cons_append, List.nil_append, readUnits, hvalue, hhigh, hlow, if_false,
    Bool.false_eq_true]

theorem readUnits_of_pair {u v : Nat} (hhigh : Utf16.isHigh u = true)
    (hlow : Utf16.isLow v = true) (t : Char) (ts : List Char) :
    readUnits (hexadecimal 4 u ++ '\\' :: 'u' :: (hexadecimal 4 v ++ t :: ts)) =
      .ok (.ofNat (Utf16.join u v), t :: ts) := by
  have hu := Utf16.isHigh_iff.mp hhigh
  have hv := Utf16.isLow_iff.mp hlow
  have hfirst := ofHexadecimal?_hexadecimal_four (show u < 0x10000 by omega)
  have hsecond := ofHexadecimal?_hexadecimal_four (show v < 0x10000 by omega)
  obtain ⟨a, b, c, d, hu⟩ := exists_hexadecimal_four u
  obtain ⟨a', b', c', d', hv⟩ := exists_hexadecimal_four v
  rw [hu] at hfirst ⊢
  rw [hv] at hsecond ⊢
  simp only [List.cons_append, List.nil_append, readUnits, lowUnit?, hfirst, hsecond, hhigh, hlow,
    if_true]
  rfl

/-! ### Strings -/

/-- A character is written as itself, as a backslash and a letter, or by its units. -/
theorem escapeChar_cases (c : Char) :
    (escapeChar c = [c] ∧ c ≠ '"' ∧ c ≠ '\\' ∧ 32 ≤ c.toNat ∧ c.toNat < 128) ∨
      (∃ e, escapeChar c = ['\\', e] ∧ e ≠ 'u' ∧ simpleEscape? e = some c ∧ e.toNat < 128) ∨
      escapeChar c = unitEscapes c := by
  have letter : ∀ d e, simpleEscape? e = some d → e ≠ 'u' → e.toNat < 128 → c = d →
      ∃ f, ['\\', e] = ['\\', f] ∧ f ≠ 'u' ∧ simpleEscape? f = some c ∧ f.toNat < 128 := by
    rintro d e hd hu hascii rfl
    exact ⟨e, rfl, hu, hd, hascii⟩
  unfold escapeChar
  split
  · next h => exact .inr (.inl (letter '"' '"' rfl (by decide) (by decide) h))
  next hquote =>
  split
  · next h => exact .inr (.inl (letter '\\' '\\' rfl (by decide) (by decide) h))
  next hbackslash =>
  split
  · next h => exact .inr (.inl (letter '\n' 'n' rfl (by decide) (by decide) h))
  split
  · next h => exact .inr (.inl (letter '\r' 'r' rfl (by decide) (by decide) h))
  split
  · next h => exact .inr (.inl (letter '\t' 't' rfl (by decide) (by decide) h))
  split
  · next h => exact .inr (.inl (letter '\x08' 'b' rfl (by decide) (by decide) h))
  split
  · next h => exact .inr (.inl (letter '\x0c' 'f' rfl (by decide) (by decide) h))
  split
  · next h => exact .inl ⟨rfl, hquote, hbackslash, h.1, Nat.lt_succ_of_le (Nat.le_succ_of_le h.2)⟩
  · exact .inr (.inr rfl)

theorem readEscape_of_letter {opened rest : List Char} {e c : Char} (hu : e ≠ 'u')
    (h : simpleEscape? e = some c) : readEscape opened (e :: rest) = .ok (c, rest) := by
  rw [readEscape, h]
  intro hunit
  exact hu hunit

theorem readString_backslash {opened rest after : List Char} {c : Char}
    (h : readEscape opened rest = .ok (c, after)) :
    readString opened ('\\' :: rest) =
      (readString opened after).map fun (cs, after) => (c :: cs, after) := by
  rw [readString]
  simp only [Char.reduceEq, if_false, if_true]
  split
  · next e he => rw [h] at he; cases he
  · next d s hd =>
    rw [h] at hd
    cases hd
    rfl

theorem readString_escapeChar (opened : List Char) (c t : Char) (ts : List Char) :
    readString opened (escapeChar c ++ t :: ts) =
      (readString opened (t :: ts)).map fun (cs, after) => (c :: cs, after) := by
  rcases escapeChar_cases c with ⟨hc, hquote, hbackslash, hcontrol, -⟩ | ⟨e, hc, hu, he, -⟩ | hc
  · rw [hc, List.singleton_append, readString]
    simp only [hquote, hbackslash, Nat.not_lt.mpr hcontrol, if_false]
  · rw [hc]
    exact readString_backslash (readEscape_of_letter hu he)
  · rw [hc, unitEscapes]
    rcases Utf16.units_cases c with ⟨hunits, hhigh, hlow, hlt⟩ | ⟨u, v, hunits, hhigh, hlow, hjoin⟩
    · rw [hunits, List.flatMap_singleton]
      refine readString_backslash ?_
      have hread := readUnits_of_single hhigh hlow hlt t ts
      rwa [Char.ofNat_toNat] at hread
    · rw [hunits, List.flatMap_cons, List.flatMap_singleton]
      refine readString_backslash ?_
      have hread := readUnits_of_pair hhigh hlow t ts
      rw [hjoin, Char.ofNat_toNat] at hread
      simpa [readEscape] using hread

theorem readString_flatMap_escapeChar (opened s rest : List Char) :
    readString opened (s.flatMap escapeChar ++ '"' :: rest) = .ok (s, rest) := by
  induction s with
  | nil =>
    rw [List.flatMap_nil, List.nil_append, readString]
    rfl
  | cons c s ih =>
    -- What follows an escape goes on at least to the closing quote.
    obtain ⟨t, ts, hts⟩ : ∃ t ts, s.flatMap escapeChar ++ '"' :: rest = t :: ts :=
      List.exists_cons_of_ne_nil (List.append_ne_nil_of_right_ne_nil _ (List.cons_ne_nil _ _))
    rw [List.flatMap_cons, List.append_assoc, hts, readString_escapeChar, ← hts, ih]
    rfl

theorem isAscii_escapeChar (c : Char) : IsAscii (escapeChar c) := by
  rcases escapeChar_cases c with ⟨hc, -, -, -, hascii⟩ | ⟨e, hc, -, -, hascii⟩ | hc
  · simp [hc, hascii]
  · simp [hc, hascii]
  · rw [hc]
    exact isAscii_unitEscapes c

theorem isAscii_writeString (s : String) : IsAscii (writeString s) := by
  have hbody : IsAscii (s.toList.flatMap escapeChar) := isAscii_flatMap fun c _ => isAscii_escapeChar c
  simp [writeString, hbody]

/-! ### Parts of numbers -/

/-- Nothing at the head of a text continues a number. -/
def Ends (rest : List Char) : Prop :=
  ∀ c ∈ rest.head?, c.isDigit = false ∧ c ≠ '.' ∧ c ≠ 'e' ∧ c ≠ 'E'

def IsDigits (s : List Char) : Prop := s ≠ [] ∧ ∀ d ∈ s, d.isDigit = true

/-- What comes after the whole part of a number: a point with digits, or nothing. -/
inductive IsFraction : List Char → Prop
  | absent : IsFraction []
  | present {ds : List Char} : IsDigits ds → IsFraction ('.' :: ds)

/-- What a number ends with: a power of ten, or nothing. -/
inductive IsPower : List Char → Prop
  | absent : IsPower []
  | present {e : Char} {sg ds : List Char} : e = 'e' ∨ e = 'E' →
      sg = [] ∨ sg = ['+'] ∨ sg = ['-'] → IsDigits ds → IsPower (e :: (sg ++ ds))

theorem isDigit_ne {c d : Char} (hc : c.isDigit = true) (hd : d.isDigit = false) : c ≠ d := by
  rintro rfl
  rw [hc] at hd
  cases hd

theorem digits_append {ds rest : List Char} (hds : ∀ d ∈ ds, d.isDigit = true)
    (hrest : ∀ c ∈ rest.head?, c.isDigit = false) : digits (ds ++ rest) = (ds, rest) := by
  have hstop : rest.takeWhile Char.isDigit = [] ∧ rest.dropWhile Char.isDigit = rest := by
    cases rest with
    | nil => exact ⟨rfl, rfl⟩
    | cons c rest =>
      have hc : ¬ c.isDigit = true := ne_true_of_eq_false (hrest c rfl)
      exact ⟨List.takeWhile_cons_of_neg hc, List.dropWhile_cons_of_neg hc⟩
  rw [digits, List.takeWhile_append_of_pos hds, List.dropWhile_append_of_pos hds, hstop.1, hstop.2,
    List.append_nil]

theorem Ends.noDigit {rest : List Char} (h : Ends rest) : ∀ c ∈ rest.head?, c.isDigit = false :=
  fun c hc => (h c hc).1

theorem IsPower.head?_append {power rest : List Char} (h : IsPower power) (hrest : Ends rest) :
    ∀ c ∈ (power ++ rest).head?, c.isDigit = false ∧ c ≠ '.' := by
  cases h with
  | absent => exact fun c hc => ⟨(hrest c hc).1, (hrest c hc).2.1⟩
  | present he _ _ =>
    rintro _ ⟨⟩
    rcases he with rfl | rfl <;> decide

theorem IsFraction.head?_append {part rest : List Char} (h : IsFraction part)
    (hrest : ∀ c ∈ rest.head?, c.isDigit = false) :
    ∀ c ∈ (part ++ rest).head?, c.isDigit = false := by
  cases h with
  | absent => exact hrest
  | present _ =>
    rintro _ ⟨⟩
    rfl

theorem fraction_append {part rest : List Char} (h : IsFraction part)
    (hrest : ∀ c ∈ rest.head?, c.isDigit = false ∧ c ≠ '.') :
    fraction (part ++ rest) = (part, rest) := by
  cases h with
  | absent =>
    rw [List.nil_append]
    unfold fraction
    split
    · exact absurd rfl (hrest '.' rfl).2
    · rfl
  | present hds =>
    rw [List.cons_append, fraction, digits_append hds.2 fun c hc => (hrest c hc).1]
    simp [hds.1]

theorem sign_append {sg ds : List Char} (hsg : sg = [] ∨ sg = ['+'] ∨ sg = ['-'])
    (hds : IsDigits ds) (rest : List Char) : sign (sg ++ (ds ++ rest)) = (sg, ds ++ rest) := by
  obtain ⟨d, ds, rfl⟩ := List.exists_cons_of_ne_nil hds.1
  have hd := hds.2 d List.mem_cons_self
  rcases hsg with rfl | rfl | rfl
  · unfold sign
    split
    · next heq => exact absurd (List.cons.inj heq).1 (isDigit_ne hd rfl)
    · next heq => exact absurd (List.cons.inj heq).1 (isDigit_ne hd rfl)
    · rfl
  · rfl
  · rfl

theorem exponent_append {power rest : List Char} (h : IsPower power) (hrest : Ends rest) :
    exponent (power ++ rest) = (power, rest) := by
  cases h with
  | absent =>
    cases rest with
    | nil => rfl
    | cons c rest =>
      obtain ⟨-, -, hlower, hupper⟩ := hrest c rfl
      rw [List.nil_append, exponent, if_neg (not_or.mpr ⟨hlower, hupper⟩)]
  | present he hsg hds =>
    have hdigits := digits_append hds.2 hrest.noDigit
    rw [List.cons_append, List.append_assoc, exponent, if_pos he, sign_append hsg hds]
    simp [hdigits, hds.1]

/-! ### Integers -/

/-- The digits of a number do not begin with a zero, unless that is the number. -/
theorem exists_cons_toDigits (n : Nat) :
    ∃ d ds, Nat.toDigits 10 n = d :: ds ∧ (d = '0' → n = 0) := by
  induction n using Nat.strongRecOn with
  | ind n ih =>
    by_cases hn : n < 10
    · have hzero : ∀ k : Fin 10, Nat.digitChar k = '0' → k.val = 0 := by decide
      exact ⟨Nat.digitChar n, [], Nat.toDigits_of_lt_base hn, hzero ⟨n, hn⟩⟩
    · have hge : 10 ≤ n := Nat.not_lt.mp hn
      obtain ⟨d, ds, hds, hzero⟩ := ih (n / 10) (by omega)
      refine ⟨d, ds ++ [Nat.digitChar (n % 10)], ?_, fun hd => ?_⟩
      · rw [Nat.toDigits_of_base_le (by decide) hge, hds]
        rfl
      · have := hzero hd
        omega

theorem isDigit_toDigits {n : Nat} {d : Char} (h : d ∈ Nat.toDigits 10 n) : d.isDigit = true :=
  Nat.isDigit_of_mem_toDigits (by decide) (by decide) h

theorem wholePart?_toDigits (n : Nat) {rest : List Char}
    (h : ∀ c ∈ rest.head?, c.isDigit = false) :
    wholePart? (Nat.toDigits 10 n ++ rest) = some (Nat.toDigits 10 n, rest) := by
  obtain ⟨d, ds, hds, hzero⟩ := exists_cons_toDigits n
  by_cases hd : d = '0'
  · rw [hzero hd]
    rfl
  · have hdigits : ∀ c ∈ d :: ds, c.isDigit = true := fun c hc => isDigit_toDigits (hds ▸ hc)
    obtain ⟨hfirst, hothers⟩ := List.forall_mem_cons.mp hdigits
    rw [hds, List.cons_append, wholePart?, if_neg hd, if_pos hfirst, digits_append hothers h]

theorem natOfDigits_toDigits (n : Nat) : natOfDigits (Nat.toDigits 10 n) = n :=
  Nat.ofDigitChars_ten_toDigits

/-- The text of a number that nothing continues is read to its end. -/
theorem number?_append {sg part power rest : List Char} (n : Nat) (hsg : sg = [] ∨ sg = ['-'])
    (hpart : IsFraction part) (hpower : IsPower power) (hrest : Ends rest) :
    number? (sg ++ (Nat.toDigits 10 n ++ (part ++ (power ++ rest)))) =
      if part = [] ∧ power = [] then
        some (.integer (if sg = [] then (n : Int) else -n), rest)
      else
        some (.real (.ofList (sg ++ (Nat.toDigits 10 n ++ (part ++ power)))), rest) := by
  have hafterPart := hpower.head?_append hrest
  have hfraction := fraction_append hpart hafterPart
  have hexponent := exponent_append hpower hrest
  have hwhole := wholePart?_toDigits n (hpart.head?_append fun c hc => (hafterPart c hc).1)
  have hvalue := natOfDigits_toDigits n
  -- the text of the number is what is left when the text after it is taken away
  have htext : ∀ s : List Char, (s ++ rest).take ((s ++ rest).length - rest.length) = s := by
    intro s
    rw [List.length_append, Nat.add_sub_cancel, List.take_left]
  have htext := htext (sg ++ (Nat.toDigits 10 n ++ (part ++ power)))
  simp only [List.append_assoc] at htext
  rcases hsg with rfl | rfl
  · obtain ⟨d, ds, hds, -⟩ := exists_cons_toDigits n
    have hd : d ≠ '-' := isDigit_ne (isDigit_toDigits (hds ▸ List.mem_cons_self)) rfl
    rw [hds] at hwhole hvalue htext ⊢
    simp only [List.nil_append, List.cons_append] at hwhole htext ⊢
    unfold number?
    split
    next negative afterSign hsign =>
    split at hsign
    · next heq => exact absurd (List.cons.inj heq).1 hd
    · cases hsign
      simp only [hwhole, Option.bind_eq_bind, Option.bind_some, hfraction, hexponent, hvalue, htext,
        Bool.and_eq_true, List.isEmpty_iff]
      rfl
  · simp only [List.cons_append, List.nil_append] at htext ⊢
    simp only [number?, hwhole, Option.bind_eq_bind, Option.bind_some, hfraction, hexponent, hvalue,
      htext, Bool.and_eq_true, List.isEmpty_iff]
    rfl

theorem number?_writeInteger (n : Int) {rest : List Char} (h : Ends rest) :
    number? (writeInteger n ++ rest) = some (.integer n, rest) := by
  cases n with
  | ofNat n => exact number?_append n (.inl rfl) .absent .absent h
  | negSucc n => exact number?_append (n + 1) (.inr rfl) .absent .absent h

/-- No word has a digit among its first two characters. -/
theorem word?_eq_none {s : List Char} (h : ∃ d ∈ s.take 2, d.isDigit = true) : word? s = none := by
  have hwords : ∀ w ∈ words, 2 ≤ w.1.toList.length ∧ w.1.toList.any Char.isDigit = false := by
    decide
  rw [word?, Option.map_eq_none_iff, List.find?_eq_none]
  intro w hw hword
  obtain ⟨hlength, hletters⟩ := hwords w hw
  obtain ⟨d, hd, hdigit⟩ := h
  obtain ⟨t, rfl⟩ := List.isPrefixOf_iff_prefix.mp hword
  rw [List.take_append_of_le_length hlength] at hd
  exact List.any_eq_false.mp hletters d (List.mem_of_mem_take hd) hdigit

theorem word?_append {sg : List Char} (n : Nat) (hsg : sg = [] ∨ sg = ['-']) (rest : List Char) :
    word? (sg ++ (Nat.toDigits 10 n ++ rest)) = none := by
  refine word?_eq_none ?_
  obtain ⟨d, ds, hds, -⟩ := exists_cons_toDigits n
  rw [hds]
  refine ⟨d, ?_, isDigit_toDigits (hds ▸ List.mem_cons_self)⟩
  rcases hsg with rfl | rfl
  · exact List.mem_cons_self
  · exact List.mem_cons_of_mem _ List.mem_cons_self

theorem word?_writeInteger (n : Int) (rest : List Char) : word? (writeInteger n ++ rest) = none := by
  cases n with
  | ofNat n => exact word?_append n (.inl rfl) rest
  | negSucc n => exact word?_append (n + 1) (.inr rfl) rest

theorem isAscii_of_isDigit {s : List Char} (h : ∀ d ∈ s, d.isDigit = true) : IsAscii s := by
  intro d hd
  have hdigit := h d hd
  rw [Char.isDigit, Bool.and_eq_true, decide_eq_true_iff, decide_eq_true_iff] at hdigit
  exact Nat.lt_of_le_of_lt hdigit.2 (by decide)

theorem isAscii_toDigits (n : Nat) : IsAscii (Nat.toDigits 10 n) :=
  isAscii_of_isDigit fun _ => isDigit_toDigits

theorem isAscii_writeInteger (n : Int) : IsAscii (writeInteger n) := by
  cases n with
  | ofNat n => exact isAscii_toDigits n
  | negSucc n => simp [writeInteger, isAscii_toDigits]

/-! ### Other numbers -/

/-- The text of a number that is not an integer: one of the words, or digits with a fraction or a
power of ten after them. -/
inductive IsReal : String → Prop
  | word {text : String} : text = "NaN" ∨ text = "Infinity" ∨ text = "-Infinity" → IsReal text
  | number {sg part power : List Char} (n : Nat) : sg = [] ∨ sg = ['-'] → IsFraction part →
      IsPower power → ¬ (part = [] ∧ power = []) →
      IsReal (.ofList (sg ++ (Nat.toDigits 10 n ++ (part ++ power))))

theorem IsFraction.isAscii {part : List Char} (h : IsFraction part) : IsAscii part := by
  cases h with
  | absent => exact isAscii_nil
  | present hds => exact isAscii_cons.mpr ⟨by decide, isAscii_of_isDigit hds.2⟩

theorem IsPower.isAscii {power : List Char} (h : IsPower power) : IsAscii power := by
  cases h with
  | absent => exact isAscii_nil
  | present he hsg hds =>
    have hdigits := isAscii_of_isDigit hds.2
    rcases he with rfl | rfl <;> rcases hsg with rfl | rfl | rfl <;> simp [hdigits]

theorem IsReal.ascii {text : String} (h : IsReal text) : IsAscii text.toList := by
  cases h with
  | word hword =>
    rcases hword with rfl | rfl | rfl <;> simp
  | @number sg part power n hsg hpart hpower _ =>
    have hsign : IsAscii sg := by
      rcases hsg with rfl | rfl
      · exact isAscii_nil
      · exact isAscii_cons.mpr ⟨by decide, isAscii_nil⟩
    rw [String.toList_ofList]
    simp [hsign, isAscii_toDigits, hpart.isAscii, hpower.isAscii]

/-- Such a number is read by its text. -/
theorem IsReal.reads {text : String} (h : IsReal text) {rest : List Char} (hrest : Ends rest) :
    (word? (text.toList ++ rest)).or (number? (text.toList ++ rest)) = some (.real text, rest) := by
  cases h with
  | word hword =>
    rcases hword with rfl | rfl | rfl <;> rfl
  | number n hsg hpart hpower hsome =>
    have hread := number?_append n hsg hpart hpower hrest
    rw [if_neg hsome] at hread
    simp only [String.toList_ofList, List.append_assoc]
    rw [word?_append n hsg, Option.none_or, hread]

end JsxOutline.Json
