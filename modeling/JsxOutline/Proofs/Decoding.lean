import JsxOutline.Text.Encoding

/-!
# Bytes without a text

Which bytes are no text.  Main statement: they are those with a byte order mark after which they are
not UTF-16.
-/

namespace JsxOutline.Text

def Utf16.ByteOrder.mark : Utf16.ByteOrder → List UInt8
  | little => [0xFF, 0xFE]
  | big => [0xFE, 0xFF]

/-- After a byte order mark comes something that is not UTF-16 in that order. -/
def Garbled (bytes : List UInt8) : Prop :=
  ∃ order rest, bytes = Utf16.ByteOrder.mark order ++ rest ∧ Utf16.decode order rest = none

theorem garbled_of_ofBytes? {bytes : List UInt8} (h : ofBytes? bytes = none) : Garbled bytes := by
  unfold ofBytes? at h
  split at h
  · next rest => exact ⟨.little, rest, rfl, Option.map_eq_none_iff.mp h⟩
  · next rest => exact ⟨.big, rest, rfl, Option.map_eq_none_iff.mp h⟩
  · cases h

theorem ofBytes?_eq_none_iff {bytes : List UInt8} : ofBytes? bytes = none ↔ Garbled bytes := by
  refine ⟨garbled_of_ofBytes?, ?_⟩
  rintro ⟨order, rest, rfl, hdecode⟩
  cases order with
  | little => exact Option.map_eq_none_iff.mpr hdecode
  | big => exact Option.map_eq_none_iff.mpr hdecode

end JsxOutline.Text
