import StreamRecords.Proofs.Encoding
import StreamRecords.Proofs.Json.CheckedText
import StreamRecords.Repository.Entity

/-!
Encodings and their texts. The text of an encoding tells its bytes and nothing else, so encodings
are in bijection with byte strings, and with the hexadecimal texts up to the case of their letters.
A text that is no encoding is refused for its first fault, wherever it comes from.
-/

namespace StreamRecords

open Json

namespace Encoding

/-! ### Summaries -/

theorem summary_of_le {e : Encoding} (h : Text.byteLength e.text ≤ 16) :
    e.summary = s!"EntityEncoding({e.text})" := by
  have hlength : ¬ summaryDigits < (Hex.encode e.bytes).length := by
    rw [byteLength_text, byteLength] at h
    rw [Hex.length_encode, summaryDigits]
    omega
  rw [summary]
  exact if_neg hlength

/-- The summary of more than sixteen digits shows sixteen of them: these are one byte each, so no
character is cut. -/
theorem summary_of_lt {e : Encoding} (h : 16 < Text.byteLength e.text) :
    ∃ shown hidden : String, e.text = shown ++ hidden ∧ Text.byteLength shown = 16 ∧
      e.summary = s!"EntityEncoding({shown}…, {e.byteLength} bytes)" := by
  have hlength : summaryDigits < (Hex.encode e.bytes).length := by
    rw [byteLength_text, byteLength] at h
    rw [Hex.length_encode, summaryDigits]
    omega
  refine ⟨.ofList ((Hex.encode e.bytes).take 16), .ofList ((Hex.encode e.bytes).drop 16), ?_, ?_,
    if_pos hlength⟩
  · rw [← String.ofList_append, List.take_append_drop, text]
  · rw [Hex.byteLength_of_isDigit, String.toList_ofList, List.length_take]
    · rw [summaryDigits] at hlength
      omega
    · rw [String.toList_ofList]
      exact fun c hc => Hex.isDigit_of_mem_encode (List.mem_of_mem_take hc)

end Encoding

/-! ### Hexadecimal text of entities -/

/-- A refusal of `Encoding.parse`, as the codec of entities reports it. -/
def CodecError.ofInput : InputError → CodecError
  | .invalidHex detail => .invalidHex detail
  | e => .invalidHex e.message

/-- **`hexDecode` is `Encoding.parse` and `Encoding.toBytes`, one after the other.** -/
theorem Codec.hexDecode_eq (s : String) :
    hexDecode s = (Encoding.parse s >>= Encoding.toBytes).mapError CodecError.ofInput := by
  rw [hexDecode, Encoding.parse]
  cases Hex.decode s with
  | error e => rfl
  | ok bs =>
    simp only [bind, Except.bind, Encoding.toBytes_eq]
    rfl

theorem Codec.hexDecode_of_parse {s : String} {e : Encoding} (h : Encoding.parse s = .ok e) :
    hexDecode s = .ok e.bytes := by
  simp only [hexDecode_eq, h, bind, Except.bind, Encoding.toBytes_eq]
  rfl

theorem Codec.hexDecode_of_parse_error {s detail : String}
    (h : Encoding.parse s = .error (.invalidHex detail)) :
    hexDecode s = .error (.invalidHex detail) := by
  rw [hexDecode_eq, h]
  rfl

namespace Encoding

/-- **Encodings are in bijection with byte strings.** The text of an encoding `e`, however it was
made, is an even number of digits in lowercase, two for a byte; so `toBytes` always reads it back,
and `summary` cuts it behind a character. Every byte string is that of its own encoding, leading
zeros included, and every encoding is that of its bytes, of its text and of its JSON. Texts `s` and
`s'` that differ in the case of their letters alone spell the same bytes. -/
theorem in_bijection_with_bytes :
    (∀ e : Encoding,
      Text.byteLength e.text = 2 * e.byteLength ∧
      (∀ c ∈ e.text.toList, Hex.IsLowercaseDigit c) ∧
      (∃ bs, e.toBytes = .ok bs ∧ ⟨bs⟩ = e) ∧ parse e.text = .ok e ∧
      (Text.byteLength e.text ≤ 16 → e.summary = s!"EntityEncoding({e.text})") ∧
      (16 < Text.byteLength e.text →
        ∃ shown hidden : String, e.text = shown ++ hidden ∧ Text.byteLength shown = 16 ∧
          e.summary = s!"EntityEncoding({shown}…, {e.byteLength} bytes)") ∧
      ∃ body, encodingFormat.write e = .ok body ∧ encodingFormat.parse body = .ok e) ∧
    (∀ bs : Bytes,
      toBytes ⟨bs⟩ = .ok bs ∧ byteLength ⟨bs⟩ = bs.length ∧
      Codec.hexDecode (Codec.hexEncode bs) = .ok bs) ∧
    ∀ s e, parse s = .ok e → ∀ s' : String,
      s'.toList.map Char.toLower = s.toList.map Char.toLower →
      parse s' = .ok e ∧
        ∃ bs, e.toBytes = .ok bs ∧ Codec.hexDecode s = .ok bs ∧ Codec.hexDecode s' = .ok bs := by
  refine ⟨fun e => ?_, fun bs => ?_, fun s e h s' hs => ?_⟩
  · exact ⟨byteLength_text e, isLowercaseDigit_text e, ⟨e.bytes, toBytes_eq e, rfl⟩, parse_text e,
      summary_of_le, summary_of_lt, checked_comes_back (parse_text e)⟩
  · exact ⟨toBytes_eq ⟨bs⟩, rfl, Codec.hexDecode_of_parse (parse_text ⟨bs⟩)⟩
  · have hs' := parse_of_map_toLower h hs
    exact ⟨hs', e.bytes, toBytes_eq e, Codec.hexDecode_of_parse h, Codec.hexDecode_of_parse hs'⟩

/-- A zero byte first, and letters in either case. -/
theorem in_bijection_with_bytes_leading_zero :
    parse "00fFaB" = .ok ⟨[0x00, 0xFF, 0xAB]⟩ ∧ parse "00FfAb" = .ok ⟨[0x00, 0xFF, 0xAB]⟩ ∧
      Codec.hexDecode "00FfAb" = .ok [0x00, 0xFF, 0xAB] := by
  have h : parse "00fFaB" = .ok ⟨[0x00, 0xFF, 0xAB]⟩ := by rfl
  obtain ⟨hs, bs, hbs, -, hdecode⟩ :=
    in_bijection_with_bytes.2.2 "00fFaB" _ h "00FfAb" (by decide)
  cases (toBytes_eq _).symm.trans hbs
  exact ⟨h, hs, hdecode⟩

/-! ### What is accepted -/

theorem isHexadecimal_iff {s : String} : Hex.IsHexadecimal s ↔
    Text.byteLength s % 2 = 0 ∧ ∀ c ∈ s.toList, Hex.IsDigitOfEitherCase c := by
  simp only [Hex.IsHexadecimal, Hex.isDigit_iff]

/-- **Exactly the hexadecimal texts are parsed, and any other text is refused for its first fault.**
`parse s` succeeds if and only if `s` has an even number of bytes and its characters are digits of
either case, and then gives the lowercase of `s`. An odd number of bytes is reported whatever the
characters are; where it is even, the first character that is no digit is, with the number of bytes
before it. `hexDecode`, and the reading of a JSON string of `s` in whatever spelling, accept the
same texts and report the same. -/
theorem parse_reports_first_fault (s : String) :
    ((∃ e, parse s = .ok e) ↔
      Text.byteLength s % 2 = 0 ∧ ∀ c ∈ s.toList, Hex.IsDigitOfEitherCase c) ∧
    (∀ e, parse s = .ok e → e.text = .ofList (s.toList.map Char.toLower)) ∧
    (Text.byteLength s % 2 = 1 →
      parse s = .error (.invalidHex s!"odd number of digits ({Text.byteLength s})")) ∧
    (Text.byteLength s % 2 = 0 → (∃ c ∈ s.toList, ¬ Hex.IsDigitOfEitherCase c) →
      ∃ before c after, s.toList = before ++ c :: after ∧
        (∀ d ∈ before, Hex.IsDigitOfEitherCase d) ∧ ¬ Hex.IsDigitOfEitherCase c ∧
        parse s = .error (.invalidHex
          s!"invalid character {Text.quotedChar c} at position {Text.byteLength (.ofList before)}")) ∧
    ((∃ bs, Codec.hexDecode s = .ok bs) ↔ ∃ e, parse s = .ok e) ∧
    (∀ detail, Codec.hexDecode s = .error (.invalidHex detail) ↔
      parse s = .error (.invalidHex detail)) ∧
    encodingFormat.ofValue (.string s) = (parse s).mapError (fun e => .refused e.message) ∧
    Format.text.parse (Value.string s).bytes = .ok s ∧
    ∀ body, Format.text.parse body = .ok s →
      encodingFormat.parse body = (parse s).mapError fun e => .refused e.message := by
  refine ⟨exists_parse_iff.trans isHexadecimal_iff, fun e => text_of_parse, fun hodd => ?_,
    fun heven h => ?_, ?_, fun detail => ?_, ofValue_checked s, parse_string s,
    fun body => parse_checked⟩
  · exact parse_of_decode_error (Hex.decode_of_odd hodd)
  · obtain ⟨c, hc, hno⟩ := h
    obtain ⟨before, d, hbreak⟩ :=
      Hex.exists_breaksAt heven fun hs => hno (Hex.isDigit_iff.1 (hs.2 c hc))
    have hparse := parse_of_decode_error (Hex.decode_of_breaksAt heven hbreak)
    obtain ⟨⟨after, hsplit⟩, hdigits, hd⟩ := hbreak
    refine ⟨before, d, after, hsplit, fun x hx => Hex.isDigit_iff.1 (hdigits x hx), ?_, ?_⟩
    · rw [← Hex.isDigit_iff, hd]
      decide
    · have hlength : Text.byteLength (.ofList before) = (Utf8.encode before).length := by
        rw [Text.byteLength, Text.bytes, String.toList_ofList]
      rw [hlength]
      exact hparse
  · rcases parse_cases s with ⟨e, h⟩ | ⟨detail, h⟩
    · exact iff_of_true ⟨_, Codec.hexDecode_of_parse h⟩ ⟨e, h⟩
    · exact iff_of_false (by rw [Codec.hexDecode_of_parse_error h]; simp) (by rw [h]; simp)
  · rcases parse_cases s with ⟨e, h⟩ | ⟨detail', h⟩
    · exact iff_of_false (by rw [Codec.hexDecode_of_parse h]; simp) (by rw [h]; simp)
    · rw [Codec.hexDecode_of_parse_error h, h]
      simp

/-- Three characters may be an even number of bytes, and two an odd one. -/
theorem parse_reports_first_fault_accent :
    parse "é0" = .error (.invalidHex "odd number of digits (3)") ∧
      parse "0\né" = .error (.invalidHex "invalid character '\\n' at position 1") ∧
      Codec.hexDecode "0\né" = .error (.invalidHex "invalid character '\\n' at position 1") := by
  obtain ⟨-, -, hodd, -⟩ := parse_reports_first_fault "é0"
  obtain ⟨-, -, -, heven, -, hdecode, -⟩ := parse_reports_first_fault "0\né"
  have hbad : parse "0\né" = .error (.invalidHex "invalid character '\\n' at position 1") := by
    obtain ⟨before, c, after, hsplit, hdigits, hno, hparse⟩ :=
      heven (by decide) ⟨'é', by decide, by decide⟩
    have hsplit : ['0', '\n', 'é'] = before ++ c :: after := hsplit
    -- of the three characters only the second can be the one that is reported: before it stands a
    -- digit, and behind it everything has a character before it that is no digit
    match before with
    | [] =>
      obtain rfl := (List.cons.inj hsplit).1
      exact absurd (by decide) hno
    | [d] =>
      obtain ⟨rfl, hlater⟩ := List.cons.inj hsplit
      obtain rfl := (List.cons.inj hlater).1
      exact hparse
    | d :: e :: before =>
      obtain rfl := (List.cons.inj (List.cons.inj hsplit).2).1
      exact absurd (hdigits '\n' (by simp)) (by decide)
  exact ⟨hodd (by decide), hbad, (hdecode _).2 hbad⟩

end Encoding
end StreamRecords
