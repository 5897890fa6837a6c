import StreamRecords.Json.Skip
import StreamRecords.Json.Text
import StreamRecords.Proofs.Text.Utf8

/-!
Strings as they are written, escapes and all, and what each reader of strings makes of them.
-/

namespace StreamRecords.Json

/-! ### Bytes and escapes -/

def IsPlain (b : UInt8) : Prop := b ≠ 0x22 ∧ b ≠ 0x5C ∧ 0x20 ≤ b

theorem stringBytes_drop (taken s : Bytes) :
    stringBytes taken.length (taken ++ s) = stringBytes 0 s := by
  induction taken with
  | nil => rfl
  | cons b taken ih =>
    rw [List.length_cons, List.cons_append, stringBytes, ih]

theorem skipStringBytes_drop (taken s : Bytes) :
    skipStringBytes taken.length (taken ++ s) = skipStringBytes 0 s := by
  induction taken with
  | nil => rfl
  | cons b taken ih =>
    rw [List.length_cons, List.cons_append, skipStringBytes, ih]

theorem stringBytes_plain {bs : Bytes} (h : ∀ b ∈ bs, IsPlain b) (s : Bytes) :
    stringBytes 0 (bs ++ s) = (stringBytes 0 s).map fun (cs, rest) => (bs ++ cs, rest) := by
  induction bs with
  | nil =>
    rw [List.nil_append]
    cases stringBytes 0 s <;> rfl
  | cons b bs ih =>
    obtain ⟨h₁, h₂, h₃⟩ := h b List.mem_cons_self
    have h₄ : ¬ b < 0x20 := by grind
    rw [List.cons_append, stringBytes, if_neg h₁, if_neg h₂, if_neg h₄,
      ih fun d hd => h d (List.mem_cons_of_mem b hd)]
    cases stringBytes 0 s <;> rfl

theorem skipStringBytes_plain {bs : Bytes} (h : ∀ b ∈ bs, IsPlain b) (s : Bytes) :
    skipStringBytes 0 (bs ++ s) = skipStringBytes 0 s := by
  induction bs with
  | nil => rfl
  | cons b bs ih =>
    obtain ⟨h₁, h₂, h₃⟩ := h b List.mem_cons_self
    have h₄ : ¬ b < 0x20 := by grind
    rw [List.cons_append, skipStringBytes, if_neg h₁, if_neg h₂, if_neg h₄,
      ih fun d hd => h d (List.mem_cons_of_mem b hd)]

theorem stringBytes_escape {taken s c : Bytes} (h : escape (taken ++ s) = .ok (c, taken.length)) :
    stringBytes 0 (0x5C :: taken ++ s) =
      (stringBytes 0 s).map fun (cs, rest) => (c ++ cs, rest) := by
  rw [List.cons_append, stringBytes, if_neg (by decide), if_pos rfl, h]
  show (do let (cs, rest) ← stringBytes taken.length (taken ++ s); pure (c ++ cs, rest)) = _
  rw [stringBytes_drop]
  cases stringBytes 0 s <;> rfl

theorem skipStringBytes_escape {taken s : Bytes} (h : skipEscape (taken ++ s) = .ok taken.length) :
    skipStringBytes 0 (0x5C :: taken ++ s) = skipStringBytes 0 s := by
  rw [List.cons_append, skipStringBytes, if_neg (by decide), if_pos rfl, h]
  exact skipStringBytes_drop taken s

/-! ### What is written for a character -/

theorem escape_letter {b c : UInt8} (h : letterEscape? b = some c) (s : Bytes) :
    escape ([b] ++ s) = .ok ([c], 1) := by
  rw [List.singleton_append, escape, h]

theorem skipEscape_letter {b c : UInt8} (h : letterEscape? b = some c) (s : Bytes) :
    skipEscape ([b] ++ s) = .ok 1 := by
  rw [List.singleton_append, skipEscape, h]

theorem byteValue?_digitChar :
    ∀ n < 16, Hex.byteValue? (.ofNat (Nat.digitChar n).toNat) = some n := by decide

theorem toNat_digitChar_le : ∀ n < 16, (Nat.digitChar n).toNat ≤ 0x7F := by decide

theorem hex4_control {n : Nat} (h : n < 0x20) (s : Bytes) :
    hex4 (0x30 :: 0x30 :: .ofNat (Nat.digitChar (n / 16)).toNat ::
      .ofNat (Nat.digitChar (n % 16)).toNat :: s) = .ok n := by
  have h₀ : Hex.byteValue? 0x30 = some 0 := rfl
  rw [hex4, h₀, byteValue?_digitChar _ (by omega), byteValue?_digitChar _ (by omega)]
  exact congrArg Except.ok (by omega)

theorem unitEscape_control {n : Nat} (h : n < 0x20) (s : Bytes) :
    unitEscape (0x30 :: 0x30 :: .ofNat (Nat.digitChar (n / 16)).toNat ::
      .ofNat (Nat.digitChar (n % 16)).toNat :: s) = .ok (.ofNat n, 4) := by
  have hl : isLowSurrogate n = false := by
    simp only [isLowSurrogate, Bool.and_eq_false_iff, decide_eq_false_iff_not]
    omega
  have hh : isHighSurrogate n = false := by
    simp only [isHighSurrogate, Bool.and_eq_false_iff, decide_eq_false_iff_not]
    omega
  rw [unitEscape, hex4_control h]
  show (if isLowSurrogate n then throw .loneSurrogate
    else if isHighSurrogate n then do
      let low ← lowEscape _
      pure (.ofNat (ofSurrogates n low), 10)
    else pure (.ofNat n, 4) : Except Fault (Char × Nat)) = _
  rw [hl, hh]
  rfl

theorem isPlain_utf8EncodeChar {c : Char} (h₁ : c ≠ '"') (h₂ : c ≠ '\\') (h₃ : 0x20 ≤ c.toNat)
    {b : UInt8} (hb : b ∈ String.utf8EncodeChar c) : IsPlain b := by
  by_cases hc : c.toNat ≤ 0x7F
  · rw [Utf8.utf8EncodeChar_ascii hc] at hb
    have hb : b.toNat = c.toNat := by
      rw [List.mem_singleton.1 hb, Utf8.toNat_ofNat (by omega)]
    refine ⟨fun h => h₁ ?_, fun h => h₂ ?_, UInt8.le_iff_toNat_le.2 (hb ▸ h₃)⟩
    · rw [← Char.ofNat_toNat c, ← hb, h]
      rfl
    · rw [← Char.ofNat_toNat c, ← hb, h]
      rfl
  · have hb := Utf8.le_of_mem_utf8EncodeChar (by omega) hb
    refine ⟨?_, ?_, UInt8.le_iff_toNat_le.2 (Nat.le_trans (by decide) hb)⟩
    · rintro rfl
      exact absurd hb (by decide)
    · rintro rfl
      exact absurd hb (by decide)

/-- `c` is written as an escape, which `escape` turns into it again and `skipEscape` passes over. -/
def IsEscaped (c : Char) : Prop :=
  ∃ taken : Bytes, Utf8.encode (escapeChar c) = 0x5C :: taken ∧
    (∀ s, escape (taken ++ s) = .ok (String.utf8EncodeChar c, taken.length)) ∧
    ∀ s, skipEscape (taken ++ s) = .ok taken.length

theorem isEscaped_letter {c : Char} {b : UInt8} (h : letterEscape? b = some (.ofNat c.toNat))
    (hc : c.toNat ≤ 0x7F) (he : Utf8.encode (escapeChar c) = [0x5C, b]) : IsEscaped c := by
  refine ⟨[b], he, fun s => ?_, fun s => skipEscape_letter h s⟩
  rw [escape_letter h, Utf8.utf8EncodeChar_ascii hc]
  rfl

theorem isEscaped_control {c : Char} (hc : c.toNat < 0x20)
    (he : escapeChar c = ['\\', 'u', '0', '0', Nat.digitChar (c.toNat / 16),
      Nat.digitChar (c.toNat % 16)]) : IsEscaped c := by
  -- the two digits are those of a byte below `0x20`, so they are ASCII and read as the byte
  have h₁ := toNat_digitChar_le (c.toNat / 16) (by omega)
  have h₂ := toNat_digitChar_le (c.toNat % 16) (by omega)
  refine ⟨[0x75, 0x30, 0x30, .ofNat (Nat.digitChar (c.toNat / 16)).toNat,
    .ofNat (Nat.digitChar (c.toNat % 16)).toNat], ?_, fun s => ?_, fun s => ?_⟩
  · rw [he, Utf8.encode_ascii]
    · rfl
    · simp only [List.mem_cons, List.not_mem_nil, or_false]
      rintro d (rfl | rfl | rfl | rfl | rfl | rfl)
      · decide
      · decide
      · decide
      · decide
      · exact h₁
      · exact h₂
  · have hu : letterEscape? 0x75 = none := rfl
    simp only [List.cons_append, List.nil_append, escape, hu, if_true, unitEscape_control hc]
    rw [Char.ofNat_toNat]
    rfl
  · have hu : letterEscape? 0x75 = none := rfl
    simp only [List.cons_append, List.nil_append, skipEscape, hu, if_true, hex4_control hc]
    rfl

/-- A character is written as itself or as an escape. -/
theorem escapeChar_cases (c : Char) :
    (escapeChar c = [c] ∧ ∀ b ∈ String.utf8EncodeChar c, IsPlain b) ∨ IsEscaped c := by
  by_cases h₁ : c = '"'
  · subst h₁; exact .inr (isEscaped_letter (b := 0x22) rfl (by decide) rfl)
  by_cases h₂ : c = '\\'
  · subst h₂; exact .inr (isEscaped_letter (b := 0x5C) rfl (by decide) rfl)
  by_cases h₃ : c = '\x08'
  · subst h₃; exact .inr (isEscaped_letter (b := 0x62) rfl (by decide) rfl)
  by_cases h₄ : c = '\x0c'
  · subst h₄; exact .inr (isEscaped_letter (b := 0x66) rfl (by decide) rfl)
  by_cases h₅ : c = '\n'
  · subst h₅; exact .inr (isEscaped_letter (b := 0x6E) rfl (by decide) rfl)
  by_cases h₆ : c = '\r'
  · subst h₆; exact .inr (isEscaped_letter (b := 0x72) rfl (by decide) rfl)
  by_cases h₇ : c = '\t'
  · subst h₇; exact .inr (isEscaped_letter (b := 0x74) rfl (by decide) rfl)
  -- behind the seven characters with letters of their own, the code of `c` decides
  have he : escapeChar c = if c.toNat < 0x20 then
      ['\\', 'u', '0', '0', Nat.digitChar (c.toNat / 16), Nat.digitChar (c.toNat % 16)]
      else [c] := by
    rw [escapeChar, if_neg h₁, if_neg h₂, if_neg h₃, if_neg h₄, if_neg h₅, if_neg h₆, if_neg h₇]
  by_cases h : c.toNat < 0x20
  · exact .inr (isEscaped_control h (he.trans (if_pos h)))
  · exact .inl ⟨he.trans (if_neg h), fun b hb => isPlain_utf8EncodeChar h₁ h₂ (by omega) hb⟩

/-! ### Strings -/

theorem stringBytes_char (c : Char) (s : Bytes) :
    stringBytes 0 (Utf8.encode (escapeChar c) ++ s) =
      (stringBytes 0 s).map fun (cs, rest) => (String.utf8EncodeChar c ++ cs, rest) := by
  rcases escapeChar_cases c with ⟨he, hb⟩ | ⟨taken, he, h, -⟩
  · rw [he, Utf8.encode_cons, Utf8.encode_nil, List.append_nil, stringBytes_plain hb]
  · rw [he]
    exact stringBytes_escape (h s)

theorem skipStringBytes_char (c : Char) (s : Bytes) :
    skipStringBytes 0 (Utf8.encode (escapeChar c) ++ s) = skipStringBytes 0 s := by
  rcases escapeChar_cases c with ⟨he, hb⟩ | ⟨taken, he, -, h⟩
  · rw [he, Utf8.encode_cons, Utf8.encode_nil, List.append_nil, skipStringBytes_plain hb]
  · rw [he]
    exact skipStringBytes_escape (h s)

@[simp] theorem stringBytes_chars (cs : List Char) (rest : Bytes) :
    stringBytes 0 (Utf8.encode (cs.flatMap escapeChar) ++ 0x22 :: rest) =
      .ok (Utf8.encode cs, rest) := by
  induction cs with
  | nil => rfl
  | cons c cs ih =>
    rw [List.flatMap_cons, Utf8.encode_append, List.append_assoc, stringBytes_char, ih]
    rfl

@[simp] theorem skipStringBytes_chars (cs : List Char) (rest : Bytes) :
    skipStringBytes 0 (Utf8.encode (cs.flatMap escapeChar) ++ 0x22 :: rest) = .ok rest := by
  induction cs with
  | nil => rfl
  | cons c cs ih =>
    rw [List.flatMap_cons, Utf8.encode_append, List.append_assoc, skipStringBytes_char, ih]

theorem encode_stringText (s : String) (rest : Bytes) :
    Utf8.encode (stringText s) ++ rest =
      0x22 :: (Utf8.encode (s.toList.flatMap escapeChar) ++ 0x22 :: rest) := by
  rw [stringText, List.cons_append, Utf8.encode_cons, Utf8.encode_append, List.append_assoc,
    List.append_assoc]
  rfl

/-- **A string that is written is read back.** -/
@[simp] theorem stringTail_chars (s : String) (rest : Bytes) :
    stringTail (Utf8.encode (s.toList.flatMap escapeChar) ++ 0x22 :: rest) = .ok (s, rest) := by
  rw [stringTail, stringBytes_chars]
  simp only [bind, Except.bind, Utf8.decode_encode, String.ofList_toList]
  rfl

@[simp] theorem skipStringTail_chars (s : String) (rest : Bytes) :
    skipStringTail (Utf8.encode (s.toList.flatMap escapeChar) ++ 0x22 :: rest) = .ok rest :=
  skipStringBytes_chars s.toList rest

end StreamRecords.Json
