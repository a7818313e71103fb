/-!
# Hexadecimal numerals

Numerals of a fixed width, in lower case.  Main statement: reading undoes writing for every number
that fits the width.
-/

namespace JsxOutline.Text

def hexDigit (n : Nat) : Char := if n < 10 then .ofNat (48 + n) else .ofNat (87 + n)

/-- The number of a digit in either case. -/
def hexValue? (c : Char) : Option Nat :=
  if '0' ≤ c ∧ c ≤ '9' then some (c.toNat - 48)
  else if 'a' ≤ c ∧ c ≤ 'f' then some (c.toNat - 87)
  else if 'A' ≤ c ∧ c ≤ 'F' then some (c.toNat - 55)
  else none

/-- The last digits of a number, as many as the width says. -/
def hexadecimal : Nat → Nat → List Char
  | 0, _ => []
  | width + 1, n => hexadecimal width (n / 16) ++ [hexDigit (n % 16)]

def ofHexadecimal? (ds : List Char) : Option Nat :=
  ds.foldlM (fun n d => (hexValue? d).map (16 * n + ·)) 0

theorem hexValue?_hexDigit {n : Nat} (h : n < 16) : hexValue? (hexDigit n) = some n := by
  have all : ∀ i : Fin 16, hexValue? (hexDigit i) = some i.val := by decide
  exact all ⟨n, h⟩

theorem ofHexadecimal?_append_singleton {ds : List Char} {d : Char} {n k : Nat}
    (hn : ofHexadecimal? ds = some n) (hk : hexValue? d = some k) :
    ofHexadecimal? (ds ++ [d]) = some (16 * n + k) := by
  rw [ofHexadecimal?] at hn ⊢
  rw [List.foldlM_append, hn]
  change ((hexValue? d).map (16 * n + ·)).bind some = _
  rw [hk]
  rfl

theorem ofHexadecimal?_hexadecimal (width n : Nat) :
    ofHexadecimal? (hexadecimal width n) = some (n % Nat.pow 16 width) := by
  induction width generalizing n with
  | zero => exact congrArg some (Nat.mod_one n).symm
  | succ width ih =>
    rw [hexadecimal, ofHexadecimal?_append_singleton (ih (n / 16))
      (hexValue?_hexDigit (Nat.mod_lt n (by decide)))]
    refine congrArg some ?_
    have h : Nat.pow 16 (width + 1) = 16 * Nat.pow 16 width := Nat.mul_comm _ _
    rw [h, Nat.mod_mul, Nat.add_comm]

end JsxOutline.Text
