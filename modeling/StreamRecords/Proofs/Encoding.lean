import StreamRecords.Item
import StreamRecords.Proofs.Hex

/-!
The texts of encodings. The text of an encoding is its bytes in digits of lowercase, and it is the
lowercase of every text that the encoding is parsed from.
-/

namespace StreamRecords.Encoding

/-! ### The text of an encoding -/

@[simp] theorem toList_text (e : Encoding) : e.text.toList = Hex.encode e.bytes :=
  String.toList_ofList

theorem length_text_mod_two (e : Encoding) : e.text.length % 2 = 0 := by
  rw [← String.length_toList]
  simp

theorem isLowercaseDigit_text (e : Encoding) : ∀ c ∈ e.text.toList, Hex.IsLowercaseDigit c := by
  intro c hc
  rw [toList_text] at hc
  exact Hex.isLowercaseDigit_of_mem_encode hc

@[simp] theorem byteLength_text (e : Encoding) : Text.byteLength e.text = 2 * e.byteLength := by
  have hdigit : ∀ c ∈ e.text.toList, Hex.isDigit c = true := by
    simpa using fun c hc => Hex.isDigit_of_mem_encode hc
  rw [Hex.byteLength_of_isDigit hdigit]
  simp [byteLength]

theorem text_ne_empty {e : Encoding} (h : e.isEmpty = false) : e.text ≠ "" := by
  intro htext
  have hlen := Hex.length_encode e.bytes
  rw [← toList_text, htext] at hlen
  have hbytes : e.bytes = [] := List.eq_nil_of_length_eq_zero (by
    have : "".toList.length = 0 := rfl
    omega)
  rw [isEmpty, hbytes] at h
  exact absurd h (by decide)

@[simp] theorem toBytes_eq (e : Encoding) : e.toBytes = .ok e.bytes := by
  have h : Hex.decodePairs (Text.bytes e.text) = .ok e.bytes := by simp [Text.bytes]
  rw [toBytes, h]
  rfl

/-! ### Parsing -/

theorem decode_of_parse {s : String} {e : Encoding} (h : parse s = .ok e) :
    Hex.decode s = .ok e.bytes := by
  rw [parse] at h
  split at h
  · next hdecode =>
    cases h
    exact hdecode
  · cases h

theorem parse_of_decode {s : String} {e : Encoding} (h : Hex.decode s = .ok e.bytes) :
    parse s = .ok e := by rw [parse, h]

theorem parse_of_decode_error {s : String} {f : Hex.Fault} (h : Hex.decode s = .error f) :
    parse s = .error (.invalidHex f.message) := by rw [parse, h]

/-- `parse` refuses a text for its digits alone. -/
theorem parse_cases (s : String) :
    (∃ e, parse s = .ok e) ∨ ∃ detail, parse s = .error (.invalidHex detail) := by
  cases h : Hex.decode s with
  | ok bs => exact .inl ⟨⟨bs⟩, parse_of_decode h⟩
  | error f => exact .inr ⟨f.message, parse_of_decode_error h⟩

@[simp] theorem parse_text (e : Encoding) : parse e.text = .ok e :=
  parse_of_decode (Hex.decode_of_map_toLower (by simp))

/-- The text of an encoding read from `s` is `s` but for the case of its letters. -/
theorem text_of_parse {s : String} {e : Encoding} (h : parse s = .ok e) :
    e.text = .ofList (s.toList.map Char.toLower) := by
  rw [(Hex.of_decode (decode_of_parse h)).2, text]

/-- `s` and `s'` that differ only in the case of their letters give the same encoding. -/
theorem parse_of_map_toLower {s s' : String} {e : Encoding} (h : parse s = .ok e)
    (hs : s'.toList.map Char.toLower = s.toList.map Char.toLower) : parse s' = .ok e :=
  parse_of_decode (Hex.decode_of_map_toLower (hs.trans (Hex.of_decode (decode_of_parse h)).2))

theorem exists_parse_iff {s : String} : (∃ e, parse s = .ok e) ↔ Hex.IsHexadecimal s := by
  rw [← Hex.exists_decode_iff, parse]
  cases Hex.decode s <;> simp

end StreamRecords.Encoding
