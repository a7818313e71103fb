import JsxOutline.Lexicon.CharSet

/-!
# Whole numbers as people write them

Blanks around the number, a sign, digits of any script, and single underscores between digits.
-/

namespace JsxOutline.Text.Numeral

open JsxOutline.Lexicon

/-- The zeros of the scripts; each is followed by its nine other digits. -/
def zeros : List Nat := [
   0x30, 0x660, 0x6F0, 0x7C0, 0x966, 0x9E6, 0xA66, 0xAE6, 0xB66, 0xBE6,
   0xC66, 0xCE6, 0xD66, 0xDE6, 0xE50, 0xED0, 0xF20, 0x1040, 0x1090, 0x17E0,
   0x1810, 0x1946, 0x19D0, 0x1A80, 0x1A90, 0x1B50, 0x1BB0, 0x1C40, 0x1C50, 0xA620,
   0xA8D0, 0xA900, 0xA9D0, 0xA9F0, 0xAA50, 0xABF0, 0xFF10, 0x104A0, 0x10D30, 0x11066,
   0x110F0, 0x11136, 0x111D0, 0x112F0, 0x11450, 0x114D0, 0x11650, 0x116C0, 0x11730, 0x118E0,
   0x11950, 0x11C50, 0x11D50, 0x11DA0, 0x16A60, 0x16AC0, 0x16B50, 0x1D7CE, 0x1D7D8, 0x1D7E2,
   0x1D7EC, 0x1D7F6, 0x1E140, 0x1E2F0, 0x1E950, 0x1FBF0
]

def digit? (c : Char) : Option Nat :=
  (zeros.find? fun z => z ≤ c.toNat && c.toNat < z + 10).map (c.toNat - ·)

/-- The code points of blanks outside of ASCII, as inclusive ranges. -/
def wideBlanks : List (Nat × Nat) := [
   (0x85, 0x85), (0xA0, 0xA0), (0x1680, 0x1680), (0x2000, 0x200A), (0x2028, 0x2029), (0x202F, 0x202F),
   (0x205F, 0x205F), (0x3000, 0x3000)
]

def isBlank (c : Char) : Bool :=
  c == ' ' || ('\t' ≤ c && c ≤ '\r') || CharSet.inRanges wideBlanks c.toNat

def maxDigits : Nat := 4300

/-- The digits of a number, where an underscore may only stand between two digits; `next` says
whether a digit has to come. -/
def digits? (next : Bool) : List Char → Option (List Nat)
  | [] => if next then none else some []
  | c :: cs =>
    if c = '_' then if next then none else digits? true cs
    else do return (← digit? c) :: (← digits? false cs)

/-- The number that a text without blanks around it and without a sign stands for. -/
def unsigned? (s : List Char) : Option Nat := do
  let ds ← digits? true s
  guard (ds.length ≤ maxDigits)
  return ds.foldl (fun n d => 10 * n + d) 0

def read? (s : String) : Option Int :=
  let trimmed := ((s.toList.dropWhile isBlank).reverse.dropWhile isBlank).reverse
  match trimmed with
  | '+' :: rest => (unsigned? rest).map Int.ofNat
  | '-' :: rest => (unsigned? rest).map fun n => -Int.ofNat n
  | rest => (unsigned? rest).map Int.ofNat

end JsxOutline.Text.Numeral
