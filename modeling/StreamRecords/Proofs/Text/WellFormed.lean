import StreamRecords.Proofs.Except
import StreamRecords.Proofs.Text.Utf8

/-!
Which byte strings are UTF-8. A grammar tells them byte by byte: no character takes more bytes than
it needs, none is a surrogate, and none lies beyond the last code point. These are the byte strings
of texts, and just these are read.
-/

namespace StreamRecords.Utf8

/-! ### The grammar -/

/-- A byte that goes on with a character. -/
def IsTail (b : UInt8) : Prop := 0x80 ≤ b.toNat ∧ b.toNat ≤ 0xBF

/-- **`s` is UTF-8**: one character after the other, each of one to four bytes. -/
inductive WellFormed : Bytes → Prop where
  | nil : WellFormed []
  | one {a : UInt8} {s : Bytes} (ha : a.toNat ≤ 0x7F) (hs : WellFormed s) : WellFormed (a :: s)
  /-- The bytes `C0` and `C1` would start characters that need one byte alone. -/
  | two {a b : UInt8} {s : Bytes} (ha : 0xC2 ≤ a.toNat ∧ a.toNat ≤ 0xDF) (hb : IsTail b)
      (hs : WellFormed s) : WellFormed (a :: b :: s)
  | three {a b c : UInt8} {s : Bytes} (ha : 0xE0 ≤ a.toNat ∧ a.toNat ≤ 0xEF) (hb : IsTail b)
      (hc : IsTail c) (shortest : a.toNat = 0xE0 → 0xA0 ≤ b.toNat)
      (noSurrogate : a.toNat = 0xED → b.toNat ≤ 0x9F) (hs : WellFormed s) :
      WellFormed (a :: b :: c :: s)
  | four {a b c d : UInt8} {s : Bytes} (ha : 0xF0 ≤ a.toNat ∧ a.toNat ≤ 0xF4) (hb : IsTail b)
      (hc : IsTail c) (hd : IsTail d) (shortest : a.toNat = 0xF0 → 0x90 ≤ b.toNat)
      (inRange : a.toNat = 0xF4 → b.toNat ≤ 0x8F) (hs : WellFormed s) :
      WellFormed (a :: b :: c :: d :: s)

/-! ### The bytes of texts -/

theorem toNat_char {n : Nat} (h : n < 0xD800 ∨ 0xDFFF < n ∧ n < 0x110000) :
    (Char.ofNat n).toNat = n := by
  have hv : n.isValidChar := h
  rw [Char.ofNat, dif_pos hv]
  rfl

theorem ofNat_eq_of_toNat {n : Nat} {a : UInt8} (h : n = a.toNat) : UInt8.ofNat n = a := by
  rw [h, UInt8.ofNat_toNat]

theorem utf8EncodeChar_one {a : UInt8} (ha : a.toNat ≤ 0x7F) :
    String.utf8EncodeChar (.ofNat a.toNat) = [a] := by
  have hn : (Char.ofNat a.toNat).toNat = a.toNat := toNat_char (by omega)
  rw [utf8EncodeChar_ascii (by omega), hn, UInt8.ofNat_toNat]

theorem utf8EncodeChar_two {a b : UInt8} (ha : 0xC2 ≤ a.toNat ∧ a.toNat ≤ 0xDF) (hb : IsTail b) :
    String.utf8EncodeChar (char2 a b) = [a, b] := by
  obtain ⟨hb, hb'⟩ := hb
  have hn : (char2 a b).toNat = (a.toNat - 0xC0) * 0x40 + (b.toNat - 0x80) :=
    toNat_char (by omega)
  rcases utf8EncodeChar_cases (char2 a b) with ⟨-, h, -⟩ | ⟨-, -, -, e⟩ | ⟨-, h, -⟩ | ⟨-, h, -⟩
  case inr.inl =>
    rw [e, hn, ofNat_eq_of_toNat (a := a) (by omega), ofNat_eq_of_toNat (a := b) (by omega)]
  all_goals omega

theorem utf8EncodeChar_three {a b c : UInt8} (ha : 0xE0 ≤ a.toNat ∧ a.toNat ≤ 0xEF) (hb : IsTail b)
    (hc : IsTail c) (shortest : a.toNat = 0xE0 → 0xA0 ≤ b.toNat)
    (noSurrogate : a.toNat = 0xED → b.toNat ≤ 0x9F) :
    String.utf8EncodeChar (char3 a b c) = [a, b, c] := by
  obtain ⟨hb, hb'⟩ := hb
  obtain ⟨hc, hc'⟩ := hc
  have hn : (char3 a b c).toNat =
      (a.toNat - 0xE0) * 0x1000 + (b.toNat - 0x80) * 0x40 + (c.toNat - 0x80) :=
    toNat_char (by omega)
  rcases utf8EncodeChar_cases (char3 a b c) with
    ⟨-, h, -⟩ | ⟨-, -, h, -⟩ | ⟨-, -, -, e⟩ | ⟨-, h, -⟩
  case inr.inr.inl =>
    rw [e, hn, ofNat_eq_of_toNat (a := a) (by omega), ofNat_eq_of_toNat (a := b) (by omega),
      ofNat_eq_of_toNat (a := c) (by omega)]
  all_goals omega

theorem utf8EncodeChar_four {a b c d : UInt8} (ha : 0xF0 ≤ a.toNat ∧ a.toNat ≤ 0xF4)
    (hb : IsTail b) (hc : IsTail c) (hd : IsTail d) (shortest : a.toNat = 0xF0 → 0x90 ≤ b.toNat)
    (inRange : a.toNat = 0xF4 → b.toNat ≤ 0x8F) :
    String.utf8EncodeChar (char4 a b c d) = [a, b, c, d] := by
  obtain ⟨hb, hb'⟩ := hb
  obtain ⟨hc, hc'⟩ := hc
  obtain ⟨hd, hd'⟩ := hd
  have hn : (char4 a b c d).toNat = (a.toNat - 0xF0) * 0x40000 + (b.toNat - 0x80) * 0x1000 +
      (c.toNat - 0x80) * 0x40 + (d.toNat - 0x80) := toNat_char (by omega)
  rcases utf8EncodeChar_cases (char4 a b c d) with
    ⟨-, h, -⟩ | ⟨-, -, h, -⟩ | ⟨-, -, h, -⟩ | ⟨-, -, e⟩
  case inr.inr.inr =>
    rw [e, hn, ofNat_eq_of_toNat (a := a) (by omega), ofNat_eq_of_toNat (a := b) (by omega),
      ofNat_eq_of_toNat (a := c) (by omega), ofNat_eq_of_toNat (a := d) (by omega)]
  all_goals omega

theorem WellFormed.exists_encode {s : Bytes} (h : WellFormed s) : ∃ cs, s = encode cs := by
  induction h with
  | nil => exact ⟨[], rfl⟩
  | one ha _ ih =>
    obtain ⟨cs, rfl⟩ := ih
    exact ⟨_ :: cs, by rw [encode_cons, utf8EncodeChar_one ha]; rfl⟩
  | two ha hb _ ih =>
    obtain ⟨cs, rfl⟩ := ih
    exact ⟨_ :: cs, by rw [encode_cons, utf8EncodeChar_two ha hb]; rfl⟩
  | three ha hb hc shortest noSurrogate _ ih =>
    obtain ⟨cs, rfl⟩ := ih
    exact ⟨_ :: cs, by
      rw [encode_cons, utf8EncodeChar_three ha hb hc shortest noSurrogate]; rfl⟩
  | four ha hb hc hd shortest inRange _ ih =>
    obtain ⟨cs, rfl⟩ := ih
    exact ⟨_ :: cs, by
      rw [encode_cons, utf8EncodeChar_four ha hb hc hd shortest inRange]; rfl⟩

/-! ### What is read -/

theorem second3_iff_isTail {a b : UInt8} : second3 a b = true ↔
    IsTail b ∧ (a.toNat = 0xE0 → 0xA0 ≤ b.toNat) ∧ (a.toNat = 0xED → b.toNat ≤ 0x9F) := by
  rw [second3_iff, IsTail]
  split <;> split <;> omega

theorem second4_iff_isTail {a b : UInt8} : second4 a b = true ↔
    IsTail b ∧ (a.toNat = 0xF0 → 0x90 ≤ b.toNat) ∧ (a.toNat = 0xF4 → b.toNat ≤ 0x8F) := by
  rw [second4_iff, IsTail]
  split <;> split <;> omega

theorem wellFormed_of_decodeFrom {i : Nat} {s : Bytes} {cs : List Char}
    (h : decodeFrom i s = .ok cs) : WellFormed s := by
  -- a case for each place where reading goes on or stops; it goes on behind a character alone
  fun_induction decodeFrom i s generalizing cs with
  | case1 => exact .nil
  | case2 i a s ha ih =>
    obtain ⟨ds, hds, -⟩ := exists_of_map_eq_ok h
    rw [UInt8.lt_iff_toNat_lt] at ha
    exact .one (Nat.le_of_lt_succ ha) (ih hds)
  | case5 i a _ hlow hhigh b s hb ih =>
    obtain ⟨ds, hds, -⟩ := exists_of_map_eq_ok h
    rw [UInt8.lt_iff_toNat_lt] at hlow hhigh
    exact .two ⟨Nat.le_of_not_lt hlow, Nat.le_of_lt_succ hhigh⟩ (isTail_iff.1 hb) (ih hds)
  | case12 i a _ _ hlow hhigh b c s hb hc ih =>
    obtain ⟨ds, hds, -⟩ := exists_of_map_eq_ok h
    rw [UInt8.lt_iff_toNat_lt] at hlow hhigh
    obtain ⟨hb, shortest, noSurrogate⟩ := second3_iff_isTail.1 (by simpa using hb)
    exact .three ⟨Nat.le_of_not_lt hlow, Nat.le_of_lt_succ hhigh⟩ hb
      (isTail_iff.1 (by simpa using hc)) shortest noSurrogate (ih hds)
  | case22 i a _ _ _ hlow hhigh b c d s hb hc hd ih =>
    obtain ⟨ds, hds, -⟩ := exists_of_map_eq_ok h
    rw [UInt8.lt_iff_toNat_lt] at hlow hhigh
    obtain ⟨hb, shortest, inRange⟩ := second4_iff_isTail.1 (by simpa using hb)
    exact .four ⟨Nat.le_of_not_lt hlow, Nat.le_of_lt_succ hhigh⟩ hb
      (isTail_iff.1 (by simpa using hc)) (isTail_iff.1 (by simpa using hd)) shortest inRange
      (ih hds)
  | _ => cases h

/-- **`decode` reads exactly what is UTF-8.** -/
theorem exists_decode_iff_wellFormed {s : Bytes} : (∃ cs, decode s = .ok cs) ↔ WellFormed s := by
  constructor
  · rintro ⟨cs, h⟩
    exact wellFormed_of_decodeFrom h
  · intro h
    obtain ⟨cs, rfl⟩ := h.exists_encode
    exact ⟨cs, decode_encode cs⟩

theorem wellFormed_iff_exists_bytes {s : Bytes} :
    WellFormed s ↔ ∃ text : String, s = Text.bytes text := by
  constructor
  · intro h
    obtain ⟨cs, rfl⟩ := h.exists_encode
    exact ⟨.ofList cs, by rw [Text.bytes, String.toList_ofList]⟩
  · rintro ⟨text, rfl⟩
    exact exists_decode_iff_wellFormed.1 ⟨text.toList, decode_encode text.toList⟩

end StreamRecords.Utf8
