/-!
# Texts as bytes

UTF-8 and UTF-16, each with an encoder and a strict decoder, and how the encoding of a text is
found: a byte order mark says UTF-16; other bytes are UTF-8 if they can be, else one character each.
-/

namespace JsxOutline.Text

/-- The character of a number, if it is one. -/
def scalar? (n : Nat) : Option Char := if n.isValidChar then some (.ofNat n) else none

theorem isValidChar_toNat (c : Char) : c.toNat.isValidChar := c.valid

theorem toNat_ofNat_of_isValidChar {n : Nat} (h : n.isValidChar) : (Char.ofNat n).toNat = n := by
  rw [Char.ofNat, dif_pos h]
  rfl

theorem scalar?_eq_some_iff {n : Nat} {c : Char} : scalar? n = some c ↔ c.toNat = n := by
  unfold scalar?
  constructor
  · intro h
    split at h
    · next hvalid => rw [← Option.some.inj h, toNat_ofNat_of_isValidChar hvalid]
    · cases h
  · rintro rfl
    rw [if_pos (isValidChar_toNat c), Char.ofNat_toNat]

/-! ### UTF-8 -/

namespace Utf8

def encodeChar (c : Char) : List UInt8 :=
  let n := c.toNat
  let tail (k : Nat) : UInt8 := .ofNat (0x80 + n / k % 0x40)
  if n < 0x80 then [.ofNat n]
  else if n < 0x800 then [.ofNat (0xC0 + n / 0x40), tail 1]
  else if n < 0x10000 then [.ofNat (0xE0 + n / 0x1000), tail 0x40, tail 1]
  else [.ofNat (0xF0 + n / 0x40000), tail 0x1000, tail 0x40, tail 1]

def encode (s : List Char) : List UInt8 := s.flatMap encodeChar

/-- The six bits of a byte that continues a character. -/
def tail? (b : UInt8) : Option Nat :=
  if 0x80 ≤ b ∧ b < 0xC0 then some (b.toNat - 0x80) else none

/-- The character of the bits in a first byte and of the bytes that continue it.  No character below
`least` is written so long. -/
def assemble (least lead : Nat) (tails : List UInt8) : Option Char := do
  let n ← tails.foldlM (fun n b => (tail? b).map (0x40 * n + ·)) lead
  if least ≤ n then scalar? n else none

def decode : List UInt8 → Option (List Char)
  | [] => some []
  | a :: rest =>
    if a < 0x80 then (decode rest).map (Char.ofNat a.toNat :: ·)
    else if a < 0xC0 then none
    else if a < 0xE0 then
      match rest with
      | b :: rest => do
        let c ← assemble 0x80 (a.toNat - 0xC0) [b]
        return c :: (← decode rest)
      | _ => none
    else if a < 0xF0 then
      match rest with
      | b₁ :: b₂ :: rest => do
        let c ← assemble 0x800 (a.toNat - 0xE0) [b₁, b₂]
        return c :: (← decode rest)
      | _ => none
    else
      match rest with
      | b₁ :: b₂ :: b₃ :: rest => do
        let c ← assemble 0x10000 (a.toNat - 0xF0) [b₁, b₂, b₃]
        return c :: (← decode rest)
      | _ => none

end Utf8

/-! ### UTF-16 -/

namespace Utf16

/-- Which byte of a unit comes first. -/
inductive ByteOrder where
  | little
  | big
deriving DecidableEq, Repr

def units (c : Char) : List Nat :=
  let n := c.toNat
  if n < 0x10000 then [n] else [0xD800 + (n - 0x10000) / 0x400, 0xDC00 + (n - 0x10000) % 0x400]

def isHigh (u : Nat) : Bool := 0xD800 ≤ u && u < 0xDC00

theorem isHigh_iff {u : Nat} : isHigh u = true ↔ 0xD800 ≤ u ∧ u < 0xDC00 := by
  rw [isHigh, Bool.and_eq_true, decide_eq_true_iff, decide_eq_true_iff]

def isLow (u : Nat) : Bool := 0xDC00 ≤ u && u < 0xE000

theorem isLow_iff {u : Nat} : isLow u = true ↔ 0xDC00 ≤ u ∧ u < 0xE000 := by
  rw [isLow, Bool.and_eq_true, decide_eq_true_iff, decide_eq_true_iff]

/-- The number of the character that two units stand for. -/
def join (high low : Nat) : Nat := 0x10000 + (high - 0xD800) * 0x400 + (low - 0xDC00)

def unitBytes (order : ByteOrder) (u : Nat) : List UInt8 :=
  match order with
  | .little => [.ofNat (u % 0x100), .ofNat (u / 0x100)]
  | .big => [.ofNat (u / 0x100), .ofNat (u % 0x100)]

def unit (order : ByteOrder) (a b : UInt8) : Nat :=
  match order with
  | .little => a.toNat + 0x100 * b.toNat
  | .big => 0x100 * a.toNat + b.toNat

def encode (order : ByteOrder) (s : List Char) : List UInt8 :=
  s.flatMap fun c => (units c).flatMap (unitBytes order)

def toUnits (order : ByteOrder) : List UInt8 → Option (List Nat)
  | [] => some []
  | [_] => none
  | a :: b :: rest => (toUnits order rest).map (unit order a b :: ·)

/-- The text of some units; the two units of a character have to come in their order. -/
def ofUnits : List Nat → Option (List Char)
  | [] => some []
  | u :: rest =>
    if isHigh u then
      match rest with
      | v :: rest =>
        if isLow v then (ofUnits rest).map (Char.ofNat (join u v) :: ·) else none
      | [] => none
    else if isLow u then none
    else (ofUnits rest).map (Char.ofNat u :: ·)

def decode (order : ByteOrder) (bytes : List UInt8) : Option (List Char) :=
  (toUnits order bytes).bind ofUnits

end Utf16

/-! ### Texts of any encoding -/

def bytewise (bytes : List UInt8) : List Char := bytes.map fun b => .ofNat b.toNat

/-- The text of some bytes.  Only what begins with a byte order mark and is not UTF-16 after it has
none. -/
def ofBytes? (bytes : List UInt8) : Option String :=
  match bytes with
  | 0xFF :: 0xFE :: rest => (Utf16.decode .little rest).map .ofList
  | 0xFE :: 0xFF :: rest => (Utf16.decode .big rest).map .ofList
  | _ => some (.ofList ((Utf8.decode bytes).getD (bytewise bytes)))

def toBytes (s : String) : List UInt8 := Utf8.encode s.toList

end JsxOutline.Text
