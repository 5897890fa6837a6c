import StreamRecords.Text.Utf8

/-!
What is written in UTF-8 is read back. A character is taken off the front of a byte string whole,
whatever follows it, because the first byte tells how many belong to it; a character of ASCII is one
byte, and all bytes of any other lie above those.
-/

namespace StreamRecords.Utf8

/-! ### One character -/

theorem toNat_valid (c : Char) : c.toNat < 0xD800 ∨ 0xDFFF < c.toNat ∧ c.toNat < 0x110000 := by
  have := c.valid
  simpa [UInt32.isValidChar, Nat.isValidChar] using this

theorem toNat_ofNat {n : Nat} (h : n < 256) : (UInt8.ofNat n).toNat = n :=
  UInt8.toNat_ofNat_of_lt' h

/-- How many bytes the character `c` takes, and which. -/
theorem utf8EncodeChar_cases (c : Char) :
    (c.utf8Size = 1 ∧ c.toNat ≤ 0x7F ∧ String.utf8EncodeChar c = [.ofNat c.toNat]) ∨
    (c.utf8Size = 2 ∧ 0x7F < c.toNat ∧ c.toNat ≤ 0x7FF ∧
      String.utf8EncodeChar c = [.ofNat (c.toNat / 64 + 0xC0), .ofNat (c.toNat % 64 + 0x80)]) ∨
    (c.utf8Size = 3 ∧ 0x7FF < c.toNat ∧ c.toNat ≤ 0xFFFF ∧
      String.utf8EncodeChar c = [.ofNat (c.toNat / 4096 + 0xE0),
        .ofNat (c.toNat / 64 % 64 + 0x80), .ofNat (c.toNat % 64 + 0x80)]) ∨
    (c.utf8Size = 4 ∧ 0xFFFF < c.toNat ∧
      String.utf8EncodeChar c = [.ofNat (c.toNat / 262144 + 0xF0),
        .ofNat (c.toNat / 4096 % 64 + 0x80), .ofNat (c.toNat / 64 % 64 + 0x80),
        .ofNat (c.toNat % 64 + 0x80)]) := by
  have hv := toNat_valid c
  have hlen := String.length_utf8EncodeChar c
  have hc : c.val.toNat = c.toNat := rfl
  unfold String.utf8EncodeChar at hlen ⊢
  simp only [hc] at hlen ⊢
  -- the bits of the first byte leave room for those of the code point, which is bounded by `hv`
  split at hlen
  · next h => exact .inl ⟨hlen.symm, h, if_pos h⟩
  split at hlen
  · next h h' =>
    refine .inr (.inl ⟨hlen.symm, by omega, h', ?_⟩)
    rw [if_neg h, if_pos h', Nat.mod_eq_of_lt (by omega : c.toNat / 64 < 0x20)]
  split at hlen
  · next h h' h'' =>
    refine .inr (.inr (.inl ⟨hlen.symm, by omega, h'', ?_⟩))
    rw [if_neg h, if_neg h', if_pos h'', Nat.mod_eq_of_lt (by omega : c.toNat / 4096 < 0x10)]
  · next h h' h'' =>
    refine .inr (.inr (.inr ⟨hlen.symm, by omega, ?_⟩))
    rw [if_neg h, if_neg h', if_neg h'', Nat.mod_eq_of_lt (by omega : c.toNat / 262144 < 8)]

/-! ### Taking characters off -/

theorem decodeFrom_one {a : UInt8} (i : Nat) (s : Bytes) (h : a < 0x80) :
    decodeFrom i (a :: s) = (decodeFrom (i + 1) s).map (.ofNat a.toNat :: ·) := by
  rw [decodeFrom.eq_def]
  exact if_pos h

theorem decodeFrom_two {a b : UInt8} (i : Nat) (s : Bytes) (h : 0xC2 ≤ a) (h' : a < 0xE0)
    (hb : isTail b = true) :
    decodeFrom i (a :: b :: s) = (decodeFrom (i + 2) s).map (char2 a b :: ·) := by
  have h₁ : ¬ a < 0x80 := by grind
  have h₂ : ¬ a < 0xC2 := by grind
  rw [decodeFrom.eq_def]
  simp only [h₁, h₂, h', hb, if_true, if_false]

theorem decodeFrom_three {a b c : UInt8} (i : Nat) (s : Bytes) (h : 0xE0 ≤ a) (h' : a < 0xF0)
    (hb : second3 a b = true) (hc : isTail c = true) :
    decodeFrom i (a :: b :: c :: s) = (decodeFrom (i + 3) s).map (char3 a b c :: ·) := by
  have h₁ : ¬ a < 0x80 := by grind
  have h₂ : ¬ a < 0xC2 := by grind
  have h₃ : ¬ a < 0xE0 := by grind
  rw [decodeFrom.eq_def]
  simp only [h₁, h₂, h₃, h', hb, hc, if_true, if_false, Bool.not_true, Bool.false_eq_true]

theorem decodeFrom_four {a b c d : UInt8} (i : Nat) (s : Bytes) (h : 0xF0 ≤ a) (h' : a < 0xF5)
    (hb : second4 a b = true) (hc : isTail c = true) (hd : isTail d = true) :
    decodeFrom i (a :: b :: c :: d :: s) = (decodeFrom (i + 4) s).map (char4 a b c d :: ·) := by
  have h₁ : ¬ a < 0x80 := by grind
  have h₂ : ¬ a < 0xC2 := by grind
  have h₃ : ¬ a < 0xE0 := by grind
  have h₄ : ¬ a < 0xF0 := by grind
  rw [decodeFrom.eq_def]
  simp only [h₁, h₂, h₃, h₄, h', hb, hc, hd, if_true, if_false, Bool.not_true, Bool.false_eq_true]

theorem isTail_iff {b : UInt8} : isTail b = true ↔ 0x80 ≤ b.toNat ∧ b.toNat ≤ 0xBF := by
  simp [isTail, UInt8.le_iff_toNat_le]

theorem second3_iff {a b : UInt8} : second3 a b = true ↔
    (if a.toNat = 0xE0 then 0xA0 else 0x80) ≤ b.toNat ∧
      b.toNat ≤ if a.toNat = 0xED then 0x9F else 0xBF := by
  simp only [second3, Bool.and_eq_true, decide_eq_true_eq, UInt8.le_iff_toNat_le,
    ← UInt8.toNat_inj, apply_ite UInt8.toNat]
  rfl

theorem second4_iff {a b : UInt8} : second4 a b = true ↔
    (if a.toNat = 0xF0 then 0x90 else 0x80) ≤ b.toNat ∧
      b.toNat ≤ if a.toNat = 0xF4 then 0x8F else 0xBF := by
  simp only [second4, Bool.and_eq_true, decide_eq_true_eq, UInt8.le_iff_toNat_le,
    ← UInt8.toNat_inj, apply_ite UInt8.toNat]
  rfl

theorem char2_ofNat {n : Nat} (h : n ≤ 0x7FF) :
    char2 (.ofNat (n / 64 + 0xC0)) (.ofNat (n % 64 + 0x80)) = .ofNat n := by
  unfold char2
  rw [toNat_ofNat (by omega), toNat_ofNat (by omega)]
  exact congrArg Char.ofNat (by omega)

theorem char3_ofNat {n : Nat} (h : n ≤ 0xFFFF) :
    char3 (.ofNat (n / 4096 + 0xE0)) (.ofNat (n / 64 % 64 + 0x80)) (.ofNat (n % 64 + 0x80)) =
      .ofNat n := by
  unfold char3
  rw [toNat_ofNat (by omega), toNat_ofNat (by omega), toNat_ofNat (by omega)]
  exact congrArg Char.ofNat (by omega)

theorem char4_ofNat {n : Nat} (h : n < 0x110000) :
    char4 (.ofNat (n / 262144 + 0xF0)) (.ofNat (n / 4096 % 64 + 0x80))
      (.ofNat (n / 64 % 64 + 0x80)) (.ofNat (n % 64 + 0x80)) = .ofNat n := by
  unfold char4
  rw [toNat_ofNat (by omega), toNat_ofNat (by omega), toNat_ofNat (by omega),
    toNat_ofNat (by omega)]
  exact congrArg Char.ofNat (by omega)

theorem isTail_ofNat {n : Nat} (h : n < 64) : isTail (.ofNat (n + 0x80)) = true := by
  rw [isTail_iff, toNat_ofNat (by omega)]
  omega

/-- `decodeFrom` takes the character `c` off the front of a byte string whole. -/
theorem decodeFrom_char (c : Char) (i : Nat) (s : Bytes) :
    decodeFrom i (String.utf8EncodeChar c ++ s) =
      (decodeFrom (i + c.utf8Size) s).map (c :: ·) := by
  have hv := toNat_valid c
  -- the first byte tells how many there are; the second is bounded so that none is spelled longer
  -- than it need be
  rcases utf8EncodeChar_cases c with ⟨hs, h, e⟩ | ⟨hs, h, h', e⟩ | ⟨hs, h, h', e⟩ | ⟨hs, h, e⟩
  · rw [e, hs, List.singleton_append, decodeFrom_one, toNat_ofNat (by omega), Char.ofNat_toNat]
    rw [UInt8.lt_iff_toNat_lt, toNat_ofNat (by omega)]
    exact Nat.lt_succ_of_le h
  · rw [e, hs, List.cons_append, List.cons_append, List.nil_append, decodeFrom_two, char2_ofNat h',
      Char.ofNat_toNat]
    · rw [UInt8.le_iff_toNat_le, toNat_ofNat (by omega)]
      show 0xC2 ≤ _
      omega
    · rw [UInt8.lt_iff_toNat_lt, toNat_ofNat (by omega)]
      show _ < 0xE0
      omega
    · exact isTail_ofNat (by omega)
  · rw [e, hs, List.cons_append, List.cons_append, List.cons_append, List.nil_append,
      decodeFrom_three, char3_ofNat h', Char.ofNat_toNat]
    · rw [UInt8.le_iff_toNat_le, toNat_ofNat (by omega)]
      show 0xE0 ≤ _
      omega
    · rw [UInt8.lt_iff_toNat_lt, toNat_ofNat (by omega)]
      show _ < 0xF0
      omega
    · rw [second3_iff, toNat_ofNat (by omega), toNat_ofNat (by omega)]
      split <;> split <;> omega
    · exact isTail_ofNat (by omega)
  · rw [e, hs, List.cons_append, List.cons_append, List.cons_append, List.cons_append,
      List.nil_append, decodeFrom_four, char4_ofNat (by omega), Char.ofNat_toNat]
    · rw [UInt8.le_iff_toNat_le, toNat_ofNat (by omega)]
      show 0xF0 ≤ _
      omega
    · rw [UInt8.lt_iff_toNat_lt, toNat_ofNat (by omega)]
      show _ < 0xF5
      omega
    · rw [second4_iff, toNat_ofNat (by omega), toNat_ofNat (by omega)]
      split <;> split <;> omega
    · exact isTail_ofNat (by omega)
    · exact isTail_ofNat (by omega)

theorem decodeFrom_encode (cs : List Char) (i : Nat) : decodeFrom i (encode cs) = .ok cs := by
  induction cs generalizing i with
  | nil => rw [encode_nil, decodeFrom_nil]
  | cons c cs ih =>
    rw [encode_cons, decodeFrom_char, ih]
    rfl

/-- **What is written in UTF-8 is read back.** -/
@[simp]
theorem decode_encode (cs : List Char) : decode (encode cs) = .ok cs := decodeFrom_encode cs 0

/-! ### Characters of ASCII -/

theorem utf8EncodeChar_ascii {c : Char} (h : c.toNat ≤ 0x7F) :
    String.utf8EncodeChar c = [.ofNat c.toNat] := if_pos h

theorem le_of_mem_utf8EncodeChar {c : Char} (h : 0x7F < c.toNat) {b : UInt8}
    (hb : b ∈ String.utf8EncodeChar c) : 0x80 ≤ b.toNat := by
  have hv := toNat_valid c
  rcases utf8EncodeChar_cases c with ⟨-, h', -⟩ | ⟨-, -, h', e⟩ | ⟨-, -, h', e⟩ | ⟨-, h', e⟩
  · omega
  all_goals
    rw [e] at hb
    simp only [List.mem_cons, List.not_mem_nil, or_false] at hb
    rcases hb with rfl | rfl | rfl | rfl <;> rw [toNat_ofNat (by omega)] <;> omega

theorem encode_ascii {cs : List Char} (h : ∀ c ∈ cs, c.toNat ≤ 0x7F) :
    encode cs = cs.map fun c => .ofNat c.toNat := by
  induction cs with
  | nil => rfl
  | cons c cs ih =>
    rw [encode_cons, utf8EncodeChar_ascii (h c List.mem_cons_self),
      ih fun d hd => h d (List.mem_cons_of_mem c hd)]
    rfl

end StreamRecords.Utf8
