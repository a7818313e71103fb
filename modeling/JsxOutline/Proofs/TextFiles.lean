import JsxOutline.FileSystem
import JsxOutline.Proofs.Decoding
import JsxOutline.Proofs.Utf8
import JsxOutline.Proofs.Utf16

/-!
# Files of text

What a file that can be read is read as.  Main statement: a text is read back from its bytes in each
encoding, and only bytes with a byte order mark have no text.
-/

namespace JsxOutline

namespace Text

theorem not_mark_prefix_encode (order : Utf16.ByteOrder) (s : List Char) :
    ¬ order.mark <+: Utf8.encode s := by
  cases s with
  | nil => cases order <;> decide
  | cons c s =>
    obtain ⟨a, tails, hc, ha⟩ := Utf8.exists_first_of_encodeChar c
    rw [Utf8.encode_cons, hc, List.cons_append]
    -- no character begins with a byte that may begin a mark
    cases order <;>
    · rintro ⟨rest, hbytes⟩
      rw [← (List.cons.inj hbytes).1] at ha
      exact absurd ha (by decide)

theorem ofBytes?_mark_append (order : Utf16.ByteOrder) (rest : List UInt8) :
    ofBytes? (order.mark ++ rest) = (Utf16.decode order rest).map .ofList := by
  cases order <;> rfl

theorem ofBytes?_of_unmarked {bytes : List UInt8}
    (h : ∀ order : Utf16.ByteOrder, ¬ order.mark <+: bytes) :
    ofBytes? bytes = some (.ofList ((Utf8.decode bytes).getD (bytewise bytes))) := by
  unfold ofBytes?
  split
  · next rest => exact absurd (List.prefix_append _ rest) (h .little)
  · next rest => exact absurd (List.prefix_append _ rest) (h .big)
  · rfl

theorem ofBytes?_toBytes (t : String) : ofBytes? (toBytes t) = some t := by
  rw [toBytes, ofBytes?_of_unmarked fun order => not_mark_prefix_encode order t.toList,
    Utf8.decode_encode, Option.getD_some, String.ofList_toList]

theorem ofBytes?_encode (order : Utf16.ByteOrder) (t : String) :
    ofBytes? (order.mark ++ Utf16.encode order t.toList) = some t := by
  rw [ofBytes?_mark_append, Utf16.decode_eq_some_iff.mpr rfl, Option.map_some, String.ofList_toList]

theorem map_toNat_bytewise (bytes : List UInt8) :
    (bytewise bytes).map Char.toNat = bytes.map UInt8.toNat := by
  rw [bytewise, List.map_map]
  refine List.map_congr_left ?_
  intro b _
  exact toNat_ofNat_of_isValidChar (.inl (Nat.lt_trans b.toNat_lt (by decide)))

theorem decode_eq_none_of_ne_toUTF8 {bytes : List UInt8}
    (h : ∀ t : String, bytes ≠ t.toUTF8.data.toList) : Utf8.decode bytes = none := by
  refine Utf8.decode_eq_none_iff.mpr ?_
  intro s hs
  refine h (.ofList s) ?_
  rw [← Utf8.toBytes_eq, toBytes, String.toList_ofList, hs]

theorem garbled_iff {bytes : List UInt8} : Garbled bytes ↔
    ∃ (order : Utf16.ByteOrder) (rest : List UInt8), bytes = order.mark ++ rest ∧
      ∀ t : String, rest ≠ Utf16.encode order t.toList := by
  refine exists_congr fun order => exists_congr fun rest => and_congr_right fun _ => ?_
  rw [Utf16.decode_eq_none_iff]
  exact ⟨fun hnone t => hnone t.toList, fun hnone s => by simpa using hnone (.ofList s)⟩

end Text

namespace FileSystem

open JsxOutline.Text

variable {fs : FileSystem} {path : String} {bytes : List UInt8}

theorem readText_eq_ok_iff (h : fs.read (Path.tidy path) = .ok bytes) {t : String} :
    fs.readText path = .ok t ↔ ofBytes? bytes = some t := by
  simp only [readText, h]
  cases ofBytes? bytes <;> simp

theorem readText_eq_error_iff (h : fs.read (Path.tidy path) = .ok bytes) {fault : TextFault} :
    fs.readText path = .error fault ↔ fault = .undecodable ∧ Garbled bytes := by
  simp only [← ofBytes?_eq_none_iff, readText, h]
  cases ofBytes? bytes <;> simp [eq_comm]

/-- What a file that can be read is read as: the text that it holds in UTF-8, or in UTF-16 after the
mark of its byte order; something for all bytes without a mark, and if these are not UTF-8, one
character for each byte; and nothing exactly if what comes after a mark is not UTF-16. -/
theorem readText_of_read (h : fs.read (Path.tidy path) = .ok bytes) :
    (∀ t : String, bytes = t.toUTF8.data.toList → fs.readText path = .ok t) ∧
      (∀ (order : Utf16.ByteOrder) (t : String),
        bytes = order.mark ++ Utf16.encode order t.toList → fs.readText path = .ok t) ∧
      ((∀ order : Utf16.ByteOrder, ¬ order.mark <+: bytes) →
        ∃ t, fs.readText path = .ok t ∧
          ((∀ u : String, bytes ≠ u.toUTF8.data.toList) →
            t.toList.map Char.toNat = bytes.map UInt8.toNat)) ∧
      ∀ fault, fs.readText path = .error fault ↔
        fault = .undecodable ∧ ∃ (order : Utf16.ByteOrder) (rest : List UInt8),
          bytes = order.mark ++ rest ∧ ∀ t : String, rest ≠ Utf16.encode order t.toList := by
  refine ⟨?_, ?_, ?_, ?_⟩
  · rintro t rfl
    rw [readText_eq_ok_iff h, ← Utf8.toBytes_eq]
    exact ofBytes?_toBytes t
  · rintro order t rfl
    exact (readText_eq_ok_iff h).mpr (ofBytes?_encode order t)
  · intro hunmarked
    refine ⟨_, (readText_eq_ok_iff h).mpr (ofBytes?_of_unmarked hunmarked), ?_⟩
    intro hother
    rw [decode_eq_none_of_ne_toUTF8 hother, Option.getD_none, String.toList_ofList]
    exact map_toNat_bytewise bytes
  · intro fault
    rw [readText_eq_error_iff h, garbled_iff]

/-- A file with a character of two units after another mark, and one that is cut off within such a
character. -/
def paired : FileSystem where
  root := .directory [("p", .directory
    [("whole", .file [0xFF, 0xFE, 0xFF, 0xFE, 0x3D, 0xD8, 0x00, 0xDE]),
      ("half", .file [0xFE, 0xFF, 0xD8, 0x3D])])]
  current := ["p"]

theorem readText_of_read_paired :
    paired.read (Path.tidy "whole") = .ok [0xFF, 0xFE, 0xFF, 0xFE, 0x3D, 0xD8, 0x00, 0xDE] ∧
      paired.readText "whole" = .ok "\uFEFF😀" ∧
      paired.read (Path.tidy "half") = .ok [0xFE, 0xFF, 0xD8, 0x3D] ∧
      ∃ (order : Utf16.ByteOrder) (rest : List UInt8), [0xFE, 0xFF, 0xD8, 0x3D] = order.mark ++ rest ∧
        ∀ t : String, rest ≠ Utf16.encode order t.toList := by
  have hwhole : paired.read (Path.tidy "whole") =
      .ok [0xFF, 0xFE, 0xFF, 0xFE, 0x3D, 0xD8, 0x00, 0xDE] := by decide +kernel
  have hhalf : paired.read (Path.tidy "half") = .ok [0xFE, 0xFF, 0xD8, 0x3D] := by decide +kernel
  have hfails : paired.readText "half" = .error .undecodable := by decide +kernel
  refine ⟨hwhole, (readText_of_read hwhole).2.1 .little _ (by decide +kernel), hhalf, ?_⟩
  exact (((readText_of_read hhalf).2.2.2 .undecodable).mp hfails).2

end FileSystem

end JsxOutline
