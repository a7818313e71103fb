import JsxOutline.Proofs.JsonAtoms

/-!
# Reading what was written as JSON

Main statement: a value in any layout is read back with the members of its objects put into tables,
so a value in which no object has a key twice is read back as it was.
-/

namespace JsxOutline.Json

open JsxOutline.Text

/-! ### Values -/

/-- A character that begins neither a string nor an array nor an object, and does not end one. -/
def IsAtomStart (c : Char) : Prop := isBlank c = false ∧ c ∉ ['"', '{', '[', ']']

instance : DecidablePred IsAtomStart := fun c =>
  inferInstanceAs (Decidable (isBlank c = false ∧ c ∉ ['"', '{', '[', ']']))

namespace Value

mutual

/-- The value with the members of each object put into a table. -/
def settled : Value → Value
  | .array vs => .array (settledAll vs)
  | .object ms => .object (Table.ofEntries (settledMembers ms))
  | v => v

def settledAll : List Value → List Value
  | [] => []
  | v :: vs => settled v :: settledAll vs

def settledMembers : List (String × Value) → List (String × Value)
  | [] => []
  | (k, v) :: ms => (k, settled v) :: settledMembers ms

end

mutual

/-- Every number that is not an integer is given by its text. -/
def IsSound : Value → Prop
  | .real text => IsReal text
  | .array vs => AllSound vs
  | .object ms => MembersSound ms
  | _ => True

def AllSound : List Value → Prop
  | [] => True
  | v :: vs => IsSound v ∧ AllSound vs

def MembersSound : List (String × Value) → Prop
  | [] => True
  | (_, v) :: ms => IsSound v ∧ MembersSound ms

end

end Value

open Value

/-! ### Blanks -/

def IsBlanks (s : List Char) : Prop := ∀ c ∈ s, isBlank c = true

theorem skipBlanks_append {blanks s : List Char} (hblanks : IsBlanks blanks) :
    skipBlanks (blanks ++ s) = skipBlanks s := List.dropWhile_append_of_pos hblanks

theorem skipBlanks_cons {c : Char} {s : List Char} (h : isBlank c = false) :
    skipBlanks (c :: s) = c :: s := List.dropWhile_cons_of_neg (ne_true_of_eq_false h)

theorem isBlanks_newLine (indent : Indent) (level : Nat) :
    IsBlanks (Layout.newLine indent level) := by
  refine List.forall_mem_cons.mpr ⟨rfl, ?_⟩
  intro c hc
  obtain ⟨unit, hunit, hc⟩ := List.mem_flatten.mp hc
  rw [(List.mem_replicate.mp hunit).2] at hc
  exact indent.isBlank_unit c hc

theorem isBlanks_first (l : Layout) (level : Nat) : IsBlanks (l.first level) := by
  cases l with
  | line => exact nofun
  | lines indent => exact isBlanks_newLine indent level

theorem exists_between_eq (l : Layout) (level : Nat) :
    ∃ blanks, l.between level = ',' :: blanks ∧ IsBlanks blanks := by
  cases l with
  | line => exact ⟨[' '], rfl, List.forall_mem_singleton.mpr rfl⟩
  | lines indent => exact ⟨Layout.newLine indent level, rfl, isBlanks_newLine indent level⟩

theorem IsBlanks.isAscii {s : List Char} (h : IsBlanks s) : IsAscii s := by
  intro c hc
  have hblank := h c hc
  simp only [isBlank, Bool.or_eq_true, beq_iff_eq] at hblank
  obtain ((rfl | rfl) | rfl) | rfl := hblank <;> decide

theorem isAscii_first (l : Layout) (level : Nat) : IsAscii (l.first level) :=
  (isBlanks_first l level).isAscii

theorem isAscii_between (l : Layout) (level : Nat) : IsAscii (l.between level) := by
  obtain ⟨blanks, hbetween, hblanks⟩ := exists_between_eq l level
  simp [hbetween, hblanks.isAscii]

theorem ends_cons {c : Char} {s : List Char}
    (h : c.isDigit = false ∧ c ≠ '.' ∧ c ≠ 'e' ∧ c ≠ 'E') : Ends (c :: s) := by
  rintro _ ⟨⟩
  exact h

theorem IsBlanks.ends_append {blanks s : List Char} (hblanks : IsBlanks blanks) (hs : Ends s) :
    Ends (blanks ++ s) := by
  cases blanks with
  | nil => exact hs
  | cons c blanks =>
    have hblank := hblanks c List.mem_cons_self
    simp only [isBlank, Bool.or_eq_true, beq_iff_eq] at hblank
    refine ends_cons ?_
    obtain ((rfl | rfl) | rfl) | rfl := hblank <;> decide

theorem ends_writeItems_append (l : Layout) (level : Nat) (vs : List Value) {s : List Char}
    (hs : Ends s) : Ends (writeItems l level vs ++ s) := by
  cases vs with
  | nil => exact hs
  | cons v vs =>
    obtain ⟨blanks, hbetween, -⟩ := exists_between_eq l level
    rw [writeItems, hbetween]
    exact ends_cons (by decide)

theorem ends_writeMembers_append (l : Layout) (level : Nat) (ms : List (String × Value))
    {s : List Char} (hs : Ends s) : Ends (writeMembers l level ms ++ s) := by
  cases ms with
  | nil => exact hs
  | cons m ms =>
    obtain ⟨k, v⟩ := m
    obtain ⟨blanks, hbetween, -⟩ := exists_between_eq l level
    rw [writeMembers, hbetween]
    exact ends_cons (by decide)

/-! ### Beginnings -/

/-- A text begins as a value does. -/
def Starts (s : List Char) : Prop := ∃ c cs, s = c :: cs ∧ isBlank c = false ∧ c ≠ ']'

theorem Starts.append {s : List Char} (h : Starts s) (t : List Char) : Starts (s ++ t) := by
  obtain ⟨c, cs, rfl, hc⟩ := h
  exact ⟨c, cs ++ t, rfl, hc⟩

theorem Starts.skipBlanks {s : List Char} (h : Starts s) : skipBlanks s = s := by
  obtain ⟨c, cs, rfl, hc, -⟩ := h
  exact skipBlanks_cons hc

theorem isAtomStart_of_isDigit {c : Char} (hc : c.isDigit = true) : IsAtomStart c := by
  have hne : ∀ {d : Char}, d.isDigit = false → c ≠ d := by
    rintro d hd rfl
    rw [hd] at hc
    cases hc
  constructor
  · simp only [isBlank, Bool.or_eq_false_iff, beq_eq_false_iff_ne]
    exact ⟨⟨⟨hne rfl, hne rfl⟩, hne rfl⟩, hne rfl⟩
  · simp only [List.mem_cons, not_or]
    exact ⟨hne rfl, hne rfl, hne rfl, hne rfl, List.not_mem_nil⟩

theorem exists_cons_writeInteger (n : Int) :
    ∃ c cs, writeInteger n = c :: cs ∧ IsAtomStart c := by
  cases n with
  | ofNat n =>
    obtain ⟨d, ds, hds, -⟩ := exists_cons_toDigits n
    exact ⟨d, ds, hds, isAtomStart_of_isDigit (isDigit_toDigits (hds ▸ List.mem_cons_self))⟩
  | negSucc n => exact ⟨'-', _, rfl, by decide⟩

theorem IsReal.starts {text : String} (h : IsReal text) :
    ∃ c cs, text.toList = c :: cs ∧ IsAtomStart c := by
  cases h with
  | word hword =>
    rcases hword with rfl | rfl | rfl <;> exact ⟨_, _, rfl, by decide⟩
  | number n hsg _ _ _ =>
    obtain ⟨d, ds, hds, -⟩ := exists_cons_toDigits n
    rw [String.toList_ofList, hds]
    rcases hsg with rfl | rfl
    · exact ⟨d, _, rfl, isAtomStart_of_isDigit (isDigit_toDigits (hds ▸ List.mem_cons_self))⟩
    · exact ⟨'-', _, rfl, by decide⟩

theorem starts_writeValue (l : Layout) (level : Nat) {v : Value} (h : v.IsSound) :
    Starts (writeValue l level v) := by
  have hatom : ∀ {s : List Char}, (∃ c cs, s = c :: cs ∧ IsAtomStart c) → Starts s := by
    rintro s ⟨c, cs, rfl, hblank, hc⟩
    refine ⟨c, cs, rfl, hblank, ?_⟩
    rintro rfl
    exact absurd hc (by decide)
  cases v with
  | null => exact hatom ⟨'n', _, rfl, by decide⟩
  | bool b => cases b <;> exact hatom ⟨_, _, rfl, by decide⟩
  | integer n => exact hatom (exists_cons_writeInteger n)
  | real text => exact hatom h.starts
  | string s => exact ⟨'"', _, rfl, rfl, by decide⟩
  | array vs => cases vs <;> exact ⟨'[', _, rfl, rfl, by decide⟩
  | object ms => cases ms <;> exact ⟨'{', _, rfl, rfl, by decide⟩

/-! ### One step of the reader -/

theorem readValue_atom {fuel : Nat} {c : Char} {cs rest : List Char} {v : Value}
    (hc : IsAtomStart c) (hread : (word? (c :: cs)).or (number? (c :: cs)) = some (v, rest)) :
    readValue (fuel + 1) (c :: cs) = .ok (v, rest) := by
  have hstart : c ≠ '"' ∧ c ≠ '{' ∧ c ≠ '[' := by
    have hnot := hc.2
    simp only [List.mem_cons, not_or] at hnot
    exact ⟨hnot.1, hnot.2.1, hnot.2.2.1⟩
  rw [readValue, hread]
  all_goals simp [hstart]

theorem readItems_last {fuel : Nat} {s t rest : List Char} {v : Value}
    (hread : readValue fuel s = .ok (v, t)) (ht : skipBlanks t = ']' :: rest) :
    readItems (fuel + 1) s = .ok ([v], rest) := by
  simp only [readItems, hread, bind, Except.bind, ht]
  rfl

theorem readItems_comma {fuel : Nat} {s t rest : List Char} {v : Value} {vs : List Value}
    {after : List Char} (hread : readValue fuel s = .ok (v, t)) (ht : skipBlanks t = ',' :: rest)
    (hrest : readItems fuel (skipBlanks rest) = .ok (vs, after)) :
    readItems (fuel + 1) s = .ok (v :: vs, after) := by
  simp only [readItems, hread, bind, Except.bind, ht, hrest]
  rfl

theorem readMembers_last {fuel : Nat} {table : Table Value} {s t u rest : List Char} {k : String}
    {v : Value} (hkey : readKey s = .ok (k, t)) (hread : readValue fuel t = .ok (v, u))
    (hu : skipBlanks u = '}' :: rest) :
    readMembers (fuel + 1) table s = .ok (table.put k v, rest) := by
  simp only [readMembers, hkey, hread, bind, Except.bind, hu]
  rfl

theorem readMembers_comma {fuel : Nat} {table : Table Value} {s t u rest : List Char} {k : String}
    {v : Value} (hkey : readKey s = .ok (k, t)) (hread : readValue fuel t = .ok (v, u))
    (hu : skipBlanks u = ',' :: rest) :
    readMembers (fuel + 1) table s = readMembers fuel (table.put k v) (skipBlanks rest) := by
  simp only [readMembers, hkey, hread, bind, Except.bind, hu]

theorem readKey_writeString (k : String) {s : List Char} (hs : Starts s) :
    readKey (writeString k ++ ([':', ' '] ++ s)) = .ok (k, s) := by
  have hopened : writeString k ++ ([':', ' '] ++ s) =
      '"' :: (k.toList.flatMap escapeChar ++ '"' :: ':' :: ' ' :: s) := by
    simp [writeString]
  have hcolon : skipBlanks (':' :: ' ' :: s) = ':' :: ' ' :: s := skipBlanks_cons rfl
  have hblank : skipBlanks (' ' :: s) = s :=
    (skipBlanks_append (List.forall_mem_singleton.mpr rfl)).trans hs.skipBlanks
  rw [hopened, readKey, readString_flatMap_escapeChar]
  simp only [bind, Except.bind, hcolon, hblank, String.ofList_toList]
  rfl

theorem readValue_writeString (fuel : Nat) (s : String) (rest : List Char) :
    readValue (fuel + 1) (writeString s ++ rest) = .ok (.string s, rest) := by
  have hopened : writeString s ++ rest =
      '"' :: (s.toList.flatMap escapeChar ++ '"' :: rest) := by
    simp [writeString]
  rw [hopened, readValue, readString_flatMap_escapeChar]
  simp only [Except.map, String.ofList_toList]

theorem readValue_array {fuel : Nat} {blanks s rest : List Char} {vs : List Value}
    (hblanks : IsBlanks blanks) (hs : Starts s) (hread : readItems fuel s = .ok (vs, rest)) :
    readValue (fuel + 1) ('[' :: (blanks ++ s)) = .ok (.array vs, rest) := by
  obtain ⟨c, cs, rfl, hblank, hc⟩ := hs
  rw [readValue, skipBlanks_append hblanks, skipBlanks_cons hblank]
  split
  · next heq =>
    cases heq
    exact absurd rfl hc
  · rw [hread]
    rfl

theorem readValue_object {fuel : Nat} {blanks s rest : List Char} {ms : Table Value}
    (hblanks : IsBlanks blanks) (hs : s.head? = some '"')
    (hread : readMembers fuel [] s = .ok (ms, rest)) :
    readValue (fuel + 1) ('{' :: (blanks ++ s)) = .ok (.object ms, rest) := by
  obtain ⟨cs, rfl⟩ := List.head?_eq_some_iff.mp hs
  rw [readValue, skipBlanks_append hblanks, skipBlanks_cons rfl]
  split
  · next heq => cases heq
  · rw [hread]
    rfl

/-! ### Whole values -/

theorem ends_close {blanks rest : List Char} {c : Char} (hblanks : IsBlanks blanks)
    (hc : c = ']' ∨ c = '}') : Ends (blanks ++ c :: rest) := by
  refine hblanks.ends_append (ends_cons ?_)
  rcases hc with rfl | rfl <;> decide

-- The text of a value is as long as the values and items begun inside of it are many, so its length
-- is fuel enough to read it.
mutual

theorem readValue_writeValue (l : Layout) (level : Nat) : ∀ {v : Value}, v.IsSound →
    ∀ {fuel : Nat} {rest : List Char}, (writeValue l level v).length ≤ fuel → Ends rest →
      readValue fuel (writeValue l level v ++ rest) = .ok (v.settled, rest)
  | v, hv, 0, rest, hfuel, _ => by
    obtain ⟨c, cs, hcs, -⟩ := starts_writeValue l level hv
    rw [hcs] at hfuel
    exact absurd hfuel (Nat.not_succ_le_zero _)
  | .null, _, fuel + 1, rest, _, _ => readValue_atom (by decide) rfl
  | .bool true, _, fuel + 1, rest, _, _ => readValue_atom (by decide) rfl
  | .bool false, _, fuel + 1, rest, _, _ => readValue_atom (by decide) rfl
  | .integer n, _, fuel + 1, rest, _, hrest => by
    obtain ⟨c, cs, hcs, hc⟩ := exists_cons_writeInteger n
    have hread : (word? (writeInteger n ++ rest)).or (number? (writeInteger n ++ rest)) =
        some (.integer n, rest) := by
      rw [word?_writeInteger, number?_writeInteger n hrest, Option.none_or]
    rw [writeValue]
    rw [hcs] at hread ⊢
    exact readValue_atom hc hread
  | .real text, hv, fuel + 1, rest, _, hrest => by
    obtain ⟨c, cs, hcs, hc⟩ := IsReal.starts hv
    have hread := IsReal.reads hv hrest
    rw [writeValue]
    rw [hcs] at hread ⊢
    exact readValue_atom hc hread
  | .string s, _, fuel + 1, rest, _, _ => readValue_writeString fuel s rest
  | .array [], _, fuel + 1, rest, _, _ => rfl
  | .array (v :: vs), hv, fuel + 1, rest, hfuel, _ => by
    have hstarts := starts_writeValue l (level + 1) hv.1
    have hclose := isBlanks_first l level
    have hends : Ends (writeItems l (level + 1) vs ++ (l.first level ++ ']' :: rest)) :=
      ends_writeItems_append _ _ _ (ends_close hclose (.inl rfl))
    simp only [writeValue, List.length_append, List.length_cons, List.length_nil] at hfuel
    obtain ⟨fuel, rfl⟩ : ∃ k, fuel = k + 1 := Nat.exists_eq_succ_of_ne_zero (by omega)
    have hvalue : readValue fuel _ = _ := readValue_writeValue l (level + 1) hv.1 (by omega) hends
    have hitems := readItems_writeItems l (level + 1) hv.2 hvalue hclose (by omega)
    have htext : writeValue l level (.array (v :: vs)) ++ rest =
        '[' :: (l.first (level + 1) ++ (writeValue l (level + 1) v ++
          (writeItems l (level + 1) vs ++ (l.first level ++ ']' :: rest)))) := by
      simp only [writeValue, List.append_assoc, List.cons_append, List.nil_append]
    rw [htext]
    exact readValue_array (isBlanks_first l (level + 1)) (hstarts.append _) hitems
  | .object [], _, fuel + 1, rest, _, _ => rfl
  | .object ((k, v) :: ms), hv, fuel + 1, rest, hfuel, _ => by
    have hstarts := starts_writeValue l (level + 1) hv.1
    have hclose := isBlanks_first l level
    have hends : Ends (writeMembers l (level + 1) ms ++ (l.first level ++ '}' :: rest)) :=
      ends_writeMembers_append _ _ _ (ends_close hclose (.inr rfl))
    simp only [writeValue, List.length_append, List.length_cons, List.length_nil] at hfuel
    obtain ⟨fuel, rfl⟩ : ∃ k, fuel = k + 1 := Nat.exists_eq_succ_of_ne_zero (by omega)
    have hvalue : readValue fuel _ = _ := readValue_writeValue l (level + 1) hv.1 (by omega) hends
    have hkey := readKey_writeString k (hstarts.append (writeMembers l (level + 1) ms ++
      (l.first level ++ '}' :: rest)))
    have hmembers := readMembers_writeMembers l (level + 1) hv.2 [] hkey hvalue hclose (by omega)
    have htext : writeValue l level (.object ((k, v) :: ms)) ++ rest =
        '{' :: (l.first (level + 1) ++ (writeString k ++ ([':', ' '] ++
          (writeValue l (level + 1) v ++
            (writeMembers l (level + 1) ms ++ (l.first level ++ '}' :: rest)))))) := by
      simp only [writeValue, List.append_assoc, List.cons_append, List.nil_append]
    rw [htext]
    exact readValue_object (isBlanks_first l (level + 1)) rfl hmembers

theorem readItems_writeItems (l : Layout) (level : Nat) : ∀ {vs : List Value}, AllSound vs →
    ∀ {fuel : Nat} {s close rest : List Char} {v : Value},
      readValue fuel s = .ok (v, writeItems l level vs ++ (close ++ ']' :: rest)) →
      IsBlanks close → (writeItems l level vs).length ≤ fuel →
        readItems (fuel + 1) s = .ok (v :: settledAll vs, rest)
  | [], _, fuel, s, close, rest, v, hread, hclose, _ =>
    readItems_last hread ((skipBlanks_append hclose).trans (skipBlanks_cons rfl))
  | w :: vs, hvs, fuel, s, close, rest, v, hread, hclose, hfuel => by
    obtain ⟨blanks, hbetween, hblanks⟩ := exists_between_eq l level
    have hstarts := starts_writeValue l level hvs.1
    have hends : Ends (writeItems l level vs ++ (close ++ ']' :: rest)) :=
      ends_writeItems_append _ _ _ (ends_close hclose (.inl rfl))
    simp only [writeItems, hbetween, List.length_append, List.length_cons] at hfuel
    obtain ⟨fuel, rfl⟩ : ∃ k, fuel = k + 1 := Nat.exists_eq_succ_of_ne_zero (by omega)
    have hvalue : readValue fuel _ = _ := readValue_writeValue l level hvs.1 (by omega) hends
    have hitems := readItems_writeItems l level hvs.2 hvalue hclose (by omega)
    rw [writeItems, hbetween, List.append_assoc, List.append_assoc, List.cons_append] at hread
    refine readItems_comma hread (skipBlanks_cons rfl) ?_
    rw [skipBlanks_append hblanks, (hstarts.append _).skipBlanks, hitems, settledAll]

theorem readMembers_writeMembers (l : Layout) (level : Nat) :
    ∀ {ms : List (String × Value)}, MembersSound ms → ∀ {fuel : Nat} (table : Table Value)
      {s t close rest : List Char} {k : String} {v : Value}, readKey s = .ok (k, t) →
      readValue fuel t = .ok (v, writeMembers l level ms ++ (close ++ '}' :: rest)) →
      IsBlanks close → (writeMembers l level ms).length ≤ fuel →
        readMembers (fuel + 1) table s =
          .ok ((settledMembers ms).foldl (fun t m => t.put m.1 m.2) (table.put k v), rest)
  | [], _, fuel, table, s, t, close, rest, k, v, hkey, hread, hclose, _ =>
    readMembers_last hkey hread ((skipBlanks_append hclose).trans (skipBlanks_cons rfl))
  | (j, w) :: ms, hms, fuel, table, s, t, close, rest, k, v, hkey, hread, hclose, hfuel => by
    obtain ⟨blanks, hbetween, hblanks⟩ := exists_between_eq l level
    have hstarts := starts_writeValue l level hms.1
    have hends : Ends (writeMembers l level ms ++ (close ++ '}' :: rest)) :=
      ends_writeMembers_append _ _ _ (ends_close hclose (.inr rfl))
    simp only [writeMembers, hbetween, List.length_append, List.length_cons] at hfuel
    obtain ⟨fuel, rfl⟩ : ∃ k, fuel = k + 1 := Nat.exists_eq_succ_of_ne_zero (by omega)
    have hvalue : readValue fuel _ = _ := readValue_writeValue l level hms.1 (by omega) hends
    have hnext := readKey_writeString j (hstarts.append (writeMembers l level ms ++
      (close ++ '}' :: rest)))
    have hmembers := readMembers_writeMembers l level hms.2 (table.put k v) hnext hvalue hclose
      (by omega)
    have hquote : Starts (writeString j) := ⟨'"', _, rfl, rfl, by decide⟩
    simp only [writeMembers, hbetween, List.append_assoc, List.cons_append] at hread
    rw [readMembers_comma hkey hread (skipBlanks_cons rfl), skipBlanks_append hblanks,
      (hquote.append _).skipBlanks]
    exact hmembers

end

mutual

theorem isAscii_writeValue (l : Layout) (level : Nat) :
    ∀ {v : Value}, v.IsSound → IsAscii (writeValue l level v)
  | .null, _ | .bool true, _ | .bool false, _ | .array [], _ | .object [], _ => by simp [writeValue]
  | .integer n, _ => isAscii_writeInteger n
  | .real _, hv => IsReal.ascii hv
  | .string s, _ => isAscii_writeString s
  | .array (v :: vs), hv => by
    have hvalue := isAscii_writeValue l (level + 1) hv.1
    have hitems := isAscii_writeItems l (level + 1) hv.2
    simp [writeValue, isAscii_first, hvalue, hitems]
  | .object ((k, v) :: ms), hv => by
    have hvalue := isAscii_writeValue l (level + 1) hv.1
    have hmembers := isAscii_writeMembers l (level + 1) hv.2
    simp [writeValue, isAscii_first, isAscii_writeString, hvalue, hmembers]

theorem isAscii_writeItems (l : Layout) (level : Nat) :
    ∀ {vs : List Value}, AllSound vs → IsAscii (writeItems l level vs)
  | [], _ => isAscii_nil
  | v :: vs, hvs => by
    have hvalue := isAscii_writeValue l level hvs.1
    have hitems := isAscii_writeItems l level hvs.2
    simp [writeItems, isAscii_between, hvalue, hitems]

theorem isAscii_writeMembers (l : Layout) (level : Nat) :
    ∀ {ms : List (String × Value)}, MembersSound ms → IsAscii (writeMembers l level ms)
  | [], _ => isAscii_nil
  | (k, v) :: ms, hms => by
    have hvalue := isAscii_writeValue l level hms.1
    have hmembers := isAscii_writeMembers l level hms.2
    simp [writeMembers, isAscii_between, isAscii_writeString, hvalue, hmembers]

end

/-- A value that is followed by blanks alone is read back. -/
theorem readText_writeValue (l : Layout) {v : Value} (hv : v.IsSound) {blanks : List Char}
    (hblanks : IsBlanks blanks) : readText (writeValue l 0 v ++ blanks) = .ok v.settled := by
  have hstarts := (starts_writeValue l 0 hv).append blanks
  have hmark : (writeValue l 0 v ++ blanks).head? ≠ some '\uFEFF' := by
    intro hhead
    have hascii : IsAscii (writeValue l 0 v ++ blanks) :=
      isAscii_append.mpr ⟨isAscii_writeValue l 0 hv, hblanks.isAscii⟩
    exact absurd (hascii _ (List.mem_of_mem_head? hhead)) (by decide)
  have hends : Ends blanks := by
    rw [← List.append_nil blanks]
    exact hblanks.ends_append nofun
  have hfuel : (writeValue l 0 v).length ≤ 2 * (writeValue l 0 v ++ blanks).length + 2 := by
    rw [List.length_append]
    omega
  have hnone : skipBlanks blanks = [] := by
    rw [← List.append_nil blanks, skipBlanks_append hblanks]
    rfl
  rw [readText, if_neg hmark, hstarts.skipBlanks, readValue_writeValue l 0 hv hfuel hends]
  simp only [bind, Except.bind, hnone]
  rfl

end JsxOutline.Json
