import StreamRecords.Proofs.Item
import StreamRecords.Proofs.Text.WellFormed

/-!
The stages of decoding a record. Blanks, hexadecimal digits, UTF-8 and JSON come one after the
other, and each decides in full before the next one has a say.
-/

namespace StreamRecords

open Json

theorem Encoding.isEmpty_of_ne_empty {data : Encoding} (h : data ≠ .empty) :
    data.isEmpty = false := by
  obtain ⟨bytes⟩ := data
  cases bytes with
  | nil => exact absurd rfl h
  | cons b bytes => rfl

/-- The text of data spells them. -/
theorem Encoding.isSpelledBy_text (data : Encoding) : data.IsSpelledBy data.text := by
  refine ⟨[], data.text.toList, [], (List.append_nil _).symm, ?_, ?_, ?_⟩
  · exact fun _ h => nomatch h
  · exact fun _ h => nomatch h
  · simp

namespace Codec

variable {α : Type} (format : Format α)

/-! ### From bytes to an entity -/

/-- What the JSON of `text` is of an entity: the entity, or what is wrong with it. -/
def ofText (text : String) : Except CodecError (Option α) :=
  match format.parse (Text.bytes text) with
  | .ok a => .ok (some a)
  | .error e => .error (.json e.message)

theorem ofText_cases (text : String) :
    (∃ a, ofText format text = .ok (some a)) ∨ ∃ d, ofText format text = .error (.json d) := by
  rw [ofText]
  cases format.parse (Text.bytes text) with
  | ok a => exact .inl ⟨a, rfl⟩
  | error e => exact .inr ⟨e.message, rfl⟩

variable {format} {data : Encoding}

/-- Data that are the bytes of `text` are read as its JSON. -/
theorem deserializeEncoding_of_bytes (h : data ≠ .empty) {text : String}
    (hbytes : data.bytes = Text.bytes text) :
    deserializeEncoding format data = ofText format text := by
  have hdecode : Utf8.decode (Text.bytes text) = .ok text.toList := Utf8.decode_encode text.toList
  cases hparse : format.parse (Text.bytes text) <;>
    simp only [deserializeEncoding, ofText, Encoding.isEmpty_of_ne_empty h, hbytes, hdecode, hparse,
      Bool.false_eq_true, if_false]

/-- Data that are not UTF-8 are refused as such. -/
theorem deserializeEncoding_of_not_wellFormed (h : ¬ Utf8.WellFormed data.bytes) :
    ∃ d, deserializeEncoding format data = .error (.utf8 d) := by
  have hne : data ≠ .empty := by
    rintro rfl
    exact h .nil
  cases hdecode : Utf8.decode data.bytes with
  | ok cs => exact absurd (Utf8.exists_decode_iff_wellFormed.1 ⟨cs, hdecode⟩) h
  | error e =>
    refine ⟨e.message, ?_⟩
    rw [deserializeEncoding, Encoding.isEmpty_of_ne_empty hne, if_neg (by decide), hdecode]

/-- Data are none, or no UTF-8, or the bytes of a text. -/
theorem deserializeEncoding_cases (format : Format α) (data : Encoding) :
    (data = .empty ∧ deserializeEncoding format data = .ok none) ∨
    (¬ Utf8.WellFormed data.bytes ∧ ∃ d, deserializeEncoding format data = .error (.utf8 d)) ∨
    (data ≠ .empty ∧ ∃ text : String, data.bytes = Text.bytes text ∧
      deserializeEncoding format data = ofText format text) := by
  by_cases hempty : data = .empty
  · exact .inl ⟨hempty, if_pos (by rw [hempty]; rfl)⟩
  by_cases hbytes : Utf8.WellFormed data.bytes
  · obtain ⟨text, htext⟩ := Utf8.wellFormed_iff_exists_bytes.1 hbytes
    exact .inr (.inr ⟨hempty, text, htext, deserializeEncoding_of_bytes hempty htext⟩)
  · exact .inr (.inl ⟨hbytes, deserializeEncoding_of_not_wellFormed hbytes⟩)

/-- Only where there are no data is there no entity. -/
theorem deserializeEncoding_eq_ok_none_iff :
    deserializeEncoding format data = .ok none ↔ data = .empty := by
  rcases deserializeEncoding_cases format data with
    ⟨hempty, hresult⟩ | ⟨hbytes, d, hresult⟩ | ⟨hne, text, -, hresult⟩
  · exact iff_of_true hresult hempty
  · refine iff_of_false (by rw [hresult]; simp) ?_
    rintro rfl
    exact hbytes .nil
  · refine iff_of_false ?_ hne
    rcases ofText_cases format text with ⟨a, h⟩ | ⟨d, h⟩ <;> rw [hresult, h] <;> simp

/-- An entity of data is what their JSON is of it. -/
theorem parse_of_deserializeEncoding {a : α} (h : deserializeEncoding format data = .ok (some a)) :
    format.parse data.bytes = .ok a := by
  rcases deserializeEncoding_cases format data with
    ⟨-, hresult⟩ | ⟨-, d, hresult⟩ | ⟨-, text, htext, hresult⟩
  · cases hresult.symm.trans h
  · cases hresult.symm.trans h
  · rw [hresult, ofText, ← htext] at h
    split at h
    · next hparse =>
      cases h
      exact hparse
    · cases h

/-- It is over UTF-8 that data fail just if they are no UTF-8. -/
theorem exists_deserializeEncoding_eq_utf8_iff :
    (∃ d, deserializeEncoding format data = .error (.utf8 d)) ↔ ¬ Utf8.WellFormed data.bytes := by
  rcases deserializeEncoding_cases format data with
    ⟨rfl, hresult⟩ | ⟨hbytes, hresult⟩ | ⟨-, text, htext, hresult⟩
  · exact iff_of_false (by rw [hresult]; simp) (not_not_intro .nil)
  · exact iff_of_true hresult hbytes
  · refine iff_of_false ?_ (not_not_intro (Utf8.wellFormed_iff_exists_bytes.2 ⟨text, htext⟩))
    rcases ofText_cases format text with ⟨a, h⟩ | ⟨d, h⟩ <;> rw [hresult, h] <;> simp

theorem deserializeEncoding_ne_invalidHex (d : String) :
    deserializeEncoding format data ≠ .error (.invalidHex d) := by
  rcases deserializeEncoding_cases format data with
    ⟨-, hresult⟩ | ⟨-, d, hresult⟩ | ⟨-, text, -, hresult⟩
  · simp [hresult]
  · simp [hresult]
  · rcases ofText_cases format text with ⟨a, h⟩ | ⟨d, h⟩ <;> simp [hresult, h]

/-! ### From a text to an entity -/

variable {s : String}

/-- Of a text `s` that is not blank the digits are read, and there is at least one byte of them. -/
theorem deserialize_of_not_blank (format : Format α) (h : Text.trim s ≠ "") :
    (∃ d, Encoding.parse (Text.trim s) = .error (.invalidHex d) ∧
      deserialize format s = .error (.invalidHex d)) ∨
    ∃ data, Encoding.parse (Text.trim s) = .ok data ∧ data ≠ .empty ∧
      deserialize format s = deserializeEncoding format data := by
  rw [deserialize, if_neg h, hexDecode, Encoding.parse]
  cases hdigits : Hex.decode (Text.trim s) with
  | error e => exact .inl ⟨e.message, rfl, rfl⟩
  | ok bytes =>
    refine .inr ⟨⟨bytes⟩, rfl, ?_, rfl⟩
    rintro ⟨⟩
    have hdigits := (Hex.of_decode hdigits).2
    rw [Hex.encode_nil, List.map_eq_nil_iff, String.toList_eq_nil_iff] at hdigits
    exact h hdigits

/-- Exactly a blank text is of no entity. -/
theorem deserialize_eq_ok_none_iff :
    deserialize format s = .ok none ↔ ∀ c ∈ s.toList, Text.isBlank c = true := by
  rw [← Text.trim_eq_empty_iff]
  by_cases h : Text.trim s = ""
  · exact iff_of_true (if_pos h) h
  · refine iff_of_false ?_ h
    rcases deserialize_of_not_blank format h with ⟨d, -, hresult⟩ | ⟨data, -, hne, hresult⟩
    · rw [hresult]
      simp
    · rw [hresult]
      exact mt deserializeEncoding_eq_ok_none_iff.1 hne

/-- It is over its digits that a text fails just as these do by themselves. -/
theorem deserialize_eq_invalidHex_iff (h : Text.trim s ≠ "") (d : String) :
    deserialize format s = .error (.invalidHex d) ↔
      Encoding.parse (Text.trim s) = .error (.invalidHex d) := by
  rcases deserialize_of_not_blank format h with ⟨d', hparse, hresult⟩ | ⟨data, hparse, -, hresult⟩
  · rw [hparse, hresult]
    simp
  · rw [hparse, hresult]
    exact iff_of_false (deserializeEncoding_ne_invalidHex d) (by simp)

/-- **Decoding decides stage by stage.** Exactly a blank text is of no entity. Any other text fails
over its digits exactly as these do by themselves; if they spell bytes, it fails over UTF-8 exactly
if the bytes are not UTF-8; and if they are the bytes of a text, what comes of it is what the JSON
of that text is of an entity. Data are decoded as their own digits are. -/
theorem deserialize_by_stages (format : Format α) :
    (∀ s : String,
      (deserialize format s = .ok none ↔ ∀ c ∈ s.toList, Text.isBlank c = true) ∧
      ((∃ c ∈ s.toList, Text.isBlank c = false) →
        (∀ d, deserialize format s = .error (.invalidHex d) ↔
          Encoding.parse (Text.trim s) = .error (.invalidHex d)) ∧
        ((∃ d, Encoding.parse (Text.trim s) = .error (.invalidHex d)) ∨
          ∃ data, Encoding.parse (Text.trim s) = .ok data ∧
            ((∃ d, deserialize format s = .error (.utf8 d)) ↔ ¬ Utf8.WellFormed data.bytes) ∧
            (Utf8.WellFormed data.bytes → ∃ text : String, data.bytes = Text.bytes text ∧
              deserialize format s =
                match format.parse (Text.bytes text) with
                | .ok a => .ok (some a)
                | .error e => .error (.json e.message))))) ∧
    ∀ data : Encoding, deserializeEncoding format data = deserialize format data.text := by
  refine ⟨fun s => ⟨deserialize_eq_ok_none_iff, ?_⟩, fun data => ?_⟩
  · rintro ⟨c, hc, hfalse⟩
    have htrim : Text.trim s ≠ "" := by
      intro h
      rw [Text.trim_eq_empty_iff.1 h c hc] at hfalse
      cases hfalse
    refine ⟨deserialize_eq_invalidHex_iff htrim, ?_⟩
    -- text that is not blank fails as digits or gives data, and the later stages go by the data
    rcases deserialize_of_not_blank format htrim with ⟨d, hparse, -⟩ | ⟨data, hparse, hne, hresult⟩
    · exact .inl ⟨d, hparse⟩
    · refine .inr ⟨data, hparse, ?_, fun hbytes => ?_⟩
      · rw [hresult]
        exact exists_deserializeEncoding_eq_utf8_iff
      · obtain ⟨text, htext⟩ := Utf8.wellFormed_iff_exists_bytes.1 hbytes
        exact ⟨text, htext, hresult.trans (deserializeEncoding_of_bytes hne htext)⟩
  · exact (deserialize_of_isSpelledBy format data.isSpelledBy_text).symm

/-- A wide blank, digits of an odd number, the bytes of a surrogate, and a word of JSON that ends
too soon. -/
theorem deserialize_by_stages_each :
    deserialize .value "\u3000\n" = .ok none ∧
      deserialize .value " 7B7\u2009" = .error (.invalidHex "odd number of digits (3)") ∧
      (∃ d, deserialize .value "EDa080" = .error (.utf8 d)) ∧
      deserialize .value "6E75" = .error (.json Fault.endInValue.message) := by
  obtain ⟨hstages, -⟩ := deserialize_by_stages .value
  have hparse : Encoding.parse (Text.trim "EDa080") = .ok ⟨[0xED, 0xA0, 0x80]⟩ := by decide +kernel
  have hparse' : Encoding.parse (Text.trim "6E75") = .ok ⟨Text.bytes "nu"⟩ := by decide +kernel
  have hsurrogate : ¬ Utf8.WellFormed [0xED, 0xA0, 0x80] := by
    intro h
    cases h with
    | one ha => exact absurd ha (by decide)
    | two ha => exact absurd ha.2 (by decide)
    | three ha hb hc shortest noSurrogate => exact absurd (noSurrogate rfl) (by decide)
  refine ⟨(hstages _).1.2 (Text.trim_eq_empty_iff.1 (by decide)), ?_, ?_, ?_⟩
  · exact ((hstages _).2 ⟨'7', by decide, by decide⟩).1 _ |>.2 (by decide +kernel)
  · rcases ((hstages "EDa080").2 ⟨'a', by decide, by decide⟩).2 with ⟨d, h⟩ | ⟨data, h, hutf8, -⟩
    · cases hparse.symm.trans h
    · cases hparse.symm.trans h
      exact hutf8.2 hsurrogate
  · rcases ((hstages "6E75").2 ⟨'6', by decide, by decide⟩).2 with ⟨d, h⟩ | ⟨data, h, -, hjson⟩
    · cases hparse'.symm.trans h
    · cases hparse'.symm.trans h
      obtain ⟨text, htext, hresult⟩ := hjson (Utf8.wellFormed_iff_exists_bytes.2 ⟨"nu", rfl⟩)
      rw [hresult, ← htext]
      rfl

end Codec

end StreamRecords
