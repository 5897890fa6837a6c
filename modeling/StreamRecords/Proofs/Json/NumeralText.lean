import StreamRecords.Json.Numeral
import StreamRecords.Json.Text
import StreamRecords.Proofs.Text.Utf8

/-!
Integers in JSON text.
-/

namespace StreamRecords.Json

open Text

/-! ### Decimal digits -/

theorem isDigit_of_mem_decimal {n : Nat} {c : Char} (h : c ∈ decimal n) :
    48 ≤ c.toNat ∧ c.toNat ≤ 57 := by
  have := Nat.isDigit_of_mem_toDigits (by decide) (by decide) h
  simpa [Char.isDigit, UInt32.le_iff_toNat_le] using this

theorem decimal_ne_nil (n : Nat) : decimal n ≠ [] := Nat.toDigits_ne_nil

theorem head?_decimal_ne {n : Nat} (h : n ≠ 0) : (decimal n).head? ≠ some '0' := by
  induction n using Nat.strongRecOn with
  | _ n ih =>
    rw [decimal, Nat.toDigits_eq_if (by decide)]
    split
    · next hn =>
      have : Nat.digitChar n ≠ '0' := by simp [h]
      simpa using this
    · next hn =>
      have := ih (n / 10) (by omega) (by omega)
      rw [List.head?_append]
      cases h : Nat.toDigits 10 (n / 10) with
      | nil => exact absurd h (decimal_ne_nil _)
      | cons c cs =>
        rw [decimal, h] at this
        exact this

def decimalDigits (n : Nat) : List Nat := (decimal n).map fun c => c.toNat - 0x30

theorem foldl_decimalDigits (n : Nat) :
    (decimalDigits n).foldl (fun m d => m * 10 + d) 0 = n := by
  have h : (fun m (c : Char) => m * 10 + (c.toNat - 0x30)) =
      fun m c => 10 * m + (c.toNat - '0'.toNat) := by
    funext m c
    rw [Nat.mul_comm]
    rfl
  rw [decimalDigits, List.foldl_map, h, ← Nat.ofDigitChars_eq_foldl]
  exact ofDecimal_decimal n

theorem le_foldl_digits (m : Nat) (ds : List Nat) : m ≤ ds.foldl (fun m d => m * 10 + d) m := by
  induction ds generalizing m with
  | nil => exact Nat.le_refl m
  | cons d ds ih =>
    have := ih (m * 10 + d)
    simp only [List.foldl_cons]
    omega

/-- No digit of a number of 64 bits is left to `accumulate`'s overflow. -/
theorem accumulate_eq {m : Nat} {ds : List Nat}
    (h : ds.foldl (fun m d => m * 10 + d) m < 18446744073709551616) :
    accumulate m ds = (ds.foldl (fun m d => m * 10 + d) m, []) := by
  induction ds generalizing m with
  | nil => rfl
  | cons d ds ih =>
    have hle := le_foldl_digits (m * 10 + d) ds
    rw [List.foldl_cons] at h
    rw [accumulate, if_pos (by omega), ih h, List.foldl_cons]

theorem accumulate_decimalDigits {n : Nat} (h : n < 18446744073709551616) :
    accumulate 0 (decimalDigits n) = (n, []) := by
  have hn := foldl_decimalDigits n
  rw [accumulate_eq (hn.symm ▸ h), hn]

/-! ### Numerals -/

/-- `s` does not go on with what `numeral` could take for a part of a number. -/
def EndsNumeral (s : Bytes) : Prop :=
  ∀ b ∈ s.head?, isDigit b = false ∧ b ≠ 0x2E ∧ b ≠ 0x65 ∧ b ≠ 0x45

theorem encode_decimal (n : Nat) :
    Utf8.encode (decimal n) = (decimal n).map fun c => .ofNat c.toNat :=
  Utf8.encode_ascii fun c hc => by
    have := isDigit_of_mem_decimal hc
    omega

theorem isDigit_ofNat {n : Nat} (h : 48 ≤ n ∧ n ≤ 57) : isDigit (.ofNat n) = true := by
  rw [isDigit, Bool.and_eq_true, decide_eq_true_eq, decide_eq_true_eq, UInt8.le_iff_toNat_le,
    UInt8.le_iff_toNat_le, Utf8.toNat_ofNat (by omega)]
  exact h

theorem isDigit_of_mem_encode_decimal {n : Nat} {b : UInt8} (h : b ∈ Utf8.encode (decimal n)) :
    isDigit b = true := by
  rw [encode_decimal] at h
  obtain ⟨c, hc, rfl⟩ := List.mem_map.1 h
  exact isDigit_ofNat (isDigit_of_mem_decimal hc)

@[simp] theorem digits_decimal (n : Nat) {rest : Bytes} (hrest : EndsNumeral rest) :
    digits (Utf8.encode (decimal n) ++ rest) = (decimalDigits n, rest) := by
  have hd : ∀ b ∈ Utf8.encode (decimal n), isDigit b = true :=
    fun b hb => isDigit_of_mem_encode_decimal hb
  have htake : rest.takeWhile isDigit = [] := by
    cases rest with
    | nil => rfl
    | cons b rest => exact List.takeWhile_cons_of_neg (by simp [(hrest b rfl).1])
  have hdrop : rest.dropWhile isDigit = rest := by
    cases rest with
    | nil => rfl
    | cons b rest => exact List.dropWhile_cons_of_neg (by simp [(hrest b rfl).1])
  rw [digits, List.takeWhile_append_of_pos hd, List.dropWhile_append_of_pos hd, htake, hdrop,
    List.append_nil, encode_decimal, List.map_map, decimalDigits]
  congr 1
  refine List.map_congr_left fun c hc => ?_
  have := isDigit_of_mem_decimal hc
  show (UInt8.ofNat c.toNat).toNat - 0x30 = _
  rw [Utf8.toNat_ofNat (by omega)]

/-- `decimal` writes no zero in front, as JSON wants it. -/
theorem decimalDigits_cases (n : Nat) :
    decimalDigits n = [0] ∨ ∃ d ds, decimalDigits n = (d + 1) :: ds := by
  by_cases hn : n = 0
  · subst hn
    exact .inl rfl
  · right
    have h₀ := head?_decimal_ne hn
    have hd : ∀ c ∈ decimal n, 48 ≤ c.toNat ∧ c.toNat ≤ 57 := fun c hc => isDigit_of_mem_decimal hc
    rw [decimalDigits]
    cases h : decimal n with
    | nil => exact absurd h (decimal_ne_nil n)
    | cons c cs =>
      rw [h] at h₀ hd
      have hc := hd c List.mem_cons_self
      have hne : c.toNat ≠ 48 := by
        intro e
        refine h₀ (congrArg some ?_)
        rw [← Char.ofNat_toNat c, e]
      exact ⟨c.toNat - 49, cs.map fun c => c.toNat - 0x30, by
        rw [List.map_cons, show c.toNat - 0x30 = c.toNat - 49 + 1 by omega]⟩

theorem wholePart_decimal (n : Nat) {rest : Bytes} (hrest : EndsNumeral rest) :
    wholePart (Utf8.encode (decimal n) ++ rest) = .ok (decimalDigits n, rest) := by
  rw [wholePart, digits1, digits_decimal n hrest]
  rcases decimalDigits_cases n with h | ⟨d, ds, h⟩
  · rw [h]
    rfl
  · rw [h]
    rfl

theorem fractionPart_none {rest : Bytes} (hrest : EndsNumeral rest) :
    fractionPart rest = .ok (none, rest) := by
  unfold fractionPart
  split
  · exact absurd rfl (hrest _ rfl).2.1
  · rfl

theorem exponentPart_none {rest : Bytes} (hrest : EndsNumeral rest) :
    exponentPart rest = .ok (none, rest) := by
  unfold exponentPart
  split
  · exact absurd rfl (hrest _ rfl).2.2.1
  · exact absurd rfl (hrest _ rfl).2.2.2
  · rfl

theorem lead_of_isDigit {b : UInt8} (h : isDigit b = true) (s : Bytes) :
    lead (b :: s) = .digit := by
  have hb : 0x30 ≤ b.toNat ∧ b.toNat ≤ 0x39 := by
    simpa [isDigit, UInt8.le_iff_toNat_le] using h
  have ne (k : UInt8) (hk : k.toNat < 0x30 ∨ 0x39 < k.toNat) : b ≠ k := by
    rintro rfl
    omega
  rw [lead, Lead.ofByte, if_neg (ne _ (by decide)), if_neg (ne _ (by decide)),
    if_neg (ne _ (by decide)), if_neg (ne _ (by decide)), if_neg (ne _ (by decide)),
    if_neg (ne _ (by decide)), if_neg (ne _ (by decide)), if_neg (ne _ (by decide)), if_pos h]

theorem lead_encode_decimal (n : Nat) (s : Bytes) :
    lead (Utf8.encode (decimal n) ++ s) = .digit := by
  cases h : Utf8.encode (decimal n) with
  | nil =>
    rw [encode_decimal, List.map_eq_nil_iff] at h
    exact absurd h (decimal_ne_nil n)
  | cons b bs => exact lead_of_isDigit (isDigit_of_mem_encode_decimal (h ▸ List.mem_cons_self)) _

theorem encode_decimalInt_of_neg {n : Int} (h : n < 0) :
    Utf8.encode (decimalInt n) = 0x2D :: Utf8.encode (decimal n.natAbs) := by
  rw [decimalInt, if_pos h]
  rfl

theorem encode_decimalInt_of_nonneg {n : Int} (h : ¬ n < 0) :
    Utf8.encode (decimalInt n) = Utf8.encode (decimal n.natAbs) := by
  rw [decimalInt, if_neg h]

/-- `numeral` takes the whole spelling of the integer `n`. -/
theorem numeral_decimalInt (n : Int) {rest : Bytes} (hrest : EndsNumeral rest) :
    numeral (Utf8.encode (decimalInt n) ++ rest) =
      .ok (⟨decide (n < 0), decimalDigits n.natAbs, none, none⟩, rest) := by
  by_cases hn : n < 0
  · rw [encode_decimalInt_of_neg hn, numeral, List.cons_append]
    have hlead : lead (0x2D :: (Utf8.encode (decimal n.natAbs) ++ rest)) = .minus := rfl
    simp only [hlead, if_true, List.tail_cons, wholePart_decimal _ hrest, bind, Except.bind,
      fractionPart_none hrest, exponentPart_none hrest, pure, Except.pure, hn, decide_true]
  · rw [encode_decimalInt_of_nonneg hn, numeral, lead_encode_decimal]
    have hlead : ¬ Lead.digit = .minus := by decide
    simp only [hlead, if_false, wholePart_decimal _ hrest, bind, Except.bind,
      fractionPart_none hrest, exponentPart_none hrest, pure, Except.pure, hn, decide_false]

/-- The spelling of an integer `n` of 64 bits stands for `n`. -/
theorem value_decimalDigits {n : Int} (h : IsExact n) :
    Numeral.value ⟨decide (n < 0), decimalDigits n.natAbs, none, none⟩ = .ok (.int n h) := by
  have hle : n.natAbs < 18446744073709551616 := by
    obtain ⟨h₁, h₂⟩ := h
    omega
  have hm : (if decide (n < 0) = true then -(n.natAbs : Int) else n.natAbs) = n := by
    split
    · next hn => have := of_decide_eq_true hn; omega
    · next hn => have := of_decide_eq_false (Bool.eq_false_iff.2 hn); omega
  have hz : (decide (n < 0) && decide (n.natAbs = 0)) = false := by
    simp only [Bool.and_eq_false_iff, decide_eq_false_iff_not]
    omega
  rw [Numeral.value]
  simp only [accumulate_decimalDigits hle, hm, h, dif_pos, hz, Bool.false_eq_true, if_false]

/-- **An integer that is written is read back.** -/
theorem number_decimalInt {n : Int} (h : IsExact n) {rest : Bytes} (hrest : EndsNumeral rest) :
    number (Utf8.encode (decimalInt n) ++ rest) = .ok (.int n h, rest) := by
  rw [number, numeral_decimalInt n hrest]
  show (Numeral.value _).map _ = _
  rw [value_decimalDigits h]
  rfl

theorem skipNumber_decimalInt (n : Int) {rest : Bytes} (hrest : EndsNumeral rest) :
    skipNumber (Utf8.encode (decimalInt n) ++ rest) = .ok rest := by
  rw [skipNumber, numeral_decimalInt n hrest]

theorem lead_encode_decimalInt (n : Int) (s : Bytes) :
    lead (Utf8.encode (decimalInt n) ++ s) = if n < 0 then .minus else .digit := by
  by_cases hn : n < 0
  · rw [encode_decimalInt_of_neg hn, if_pos hn]
    rfl
  · rw [encode_decimalInt_of_nonneg hn, if_neg hn, lead_encode_decimal]

end StreamRecords.Json
