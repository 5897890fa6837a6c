import StreamRecords.Hex
import StreamRecords.Proofs.Text.Utf8

/-!
Hexadecimal text. Two digits are written for each byte, so the text of a byte string has an even
length and only digits in lowercase; the texts that differ from it in the case of letters, and no
others, are read as the same bytes. Every other text is refused for its length, or for the first of
its characters that is no digit.
-/

namespace StreamRecords.Hex

/-! ### Digits of either case -/

theorem char_le_iff {a b : Char} : a ≤ b ↔ a.toNat ≤ b.toNat := UInt32.le_iff_toNat_le

theorem digitValue?_eq (c : Char) : digitValue? c =
    if 48 ≤ c.toNat ∧ c.toNat ≤ 57 then some (c.toNat - 48)
    else if 97 ≤ c.toNat ∧ c.toNat ≤ 102 then some (c.toNat - 97 + 10)
    else if 65 ≤ c.toNat ∧ c.toNat ≤ 70 then some (c.toNat - 65 + 10)
    else none := by
  simp only [digitValue?, char_le_iff]
  rfl

theorem toNat_toLower (c : Char) : c.toLower.toNat =
    if 65 ≤ c.toNat ∧ c.toNat ≤ 90 then c.toNat + 32 else c.toNat := by
  unfold Char.toLower
  have h : (c.val ≥ 'A'.val ∧ c.val ≤ 'Z'.val) ↔ (65 ≤ c.toNat ∧ c.toNat ≤ 90) := by
    simp only [ge_iff_le, UInt32.le_iff_toNat_le]
    rfl
  simp only [h]
  split
  · next h =>
    have hc : c.val.toNat = c.toNat := rfl
    show (c.val + 32).toNat = _
    rw [UInt32.toNat_add, hc]
    exact Nat.mod_eq_of_lt (by have : (32 : UInt32).toNat = 32 := rfl; omega)
  · rfl

@[simp] theorem digitValue?_toLower (c : Char) : digitValue? c.toLower = digitValue? c := by
  rw [digitValue?_eq, digitValue?_eq, toNat_toLower]
  -- `toLower` moves the 26 capitals by 32 and nothing else; the first six of them become digits of
  -- the same value, and the others are no digits before nor after
  split
  · rw [if_neg (by omega)]
    by_cases h : c.toNat ≤ 70
    · rw [if_pos (by omega), if_neg (by omega), if_neg (by omega), if_pos (by omega)]
      exact congrArg some (by omega)
    · rw [if_neg (by omega), if_neg (by omega), if_neg (by omega), if_neg (by omega),
        if_neg (by omega)]
  · rfl

@[simp] theorem isDigit_toLower (c : Char) : isDigit c.toLower = isDigit c := by
  simp [isDigit]

theorem digitValue?_digit : ∀ n < 16, digitValue? (digit n) = some n := by decide

/-- `digit` writes the value of the digit `c` as `c` itself, but for its case. -/
theorem digit_of_digitValue? {c : Char} {n : Nat} (h : digitValue? c = some n) :
    n < 16 ∧ digit n = c.toLower := by
  have hdigit : ∀ n < 16, (digit n).toNat = if n < 10 then 48 + n else 87 + n := by decide
  have hc := toNat_toLower c
  rw [digitValue?_eq] at h
  have hn : n < 16 := by grind
  refine ⟨hn, Char.toNat_inj.1 ?_⟩
  rw [hdigit n hn, hc]
  grind

theorem isDigit_digit {n : Nat} (h : n < 16) : isDigit (digit n) = true := by
  rw [isDigit, digitValue?_digit n h]
  rfl

/-- The digits that `digit` writes. -/
def IsLowercaseDigit (c : Char) : Prop := ('0' ≤ c ∧ c ≤ '9') ∨ ('a' ≤ c ∧ c ≤ 'f')

instance : DecidablePred IsLowercaseDigit := fun _ => inferInstanceAs (Decidable (_ ∨ _))

theorem isLowercaseDigit_digit : ∀ n < 16, IsLowercaseDigit (digit n) := by decide

/-! ### Digits and bytes -/

@[simp] theorem encode_nil : encode [] = [] := rfl

theorem encode_cons (b : UInt8) (bs : Bytes) :
    encode (b :: bs) = digit (b.toNat / 16) :: digit (b.toNat % 16) :: encode bs := rfl

@[simp] theorem length_encode (bs : Bytes) : (encode bs).length = 2 * bs.length := by
  induction bs with
  | nil => rfl
  | cons b bs ih =>
    simp only [encode_cons, List.length_cons, ih]
    omega

theorem exists_of_mem_encode {bs : Bytes} {c : Char} (h : c ∈ encode bs) :
    ∃ n < 16, c = digit n := by
  obtain ⟨b, -, hc⟩ := List.mem_flatMap.1 h
  have hb := b.toNat_lt
  rcases List.mem_cons.1 hc with rfl | hc
  · exact ⟨b.toNat / 16, by omega, rfl⟩
  · exact ⟨b.toNat % 16, by omega, List.mem_singleton.1 hc⟩

theorem isLowercaseDigit_of_mem_encode {bs : Bytes} {c : Char} (h : c ∈ encode bs) :
    IsLowercaseDigit c := by
  obtain ⟨n, hn, rfl⟩ := exists_of_mem_encode h
  exact isLowercaseDigit_digit n hn

@[simp] theorem map_toLower_encode (bs : Bytes) : (encode bs).map Char.toLower = encode bs := by
  have h : ∀ n < 16, (digit n).toLower = digit n := by decide
  conv => rhs; rw [← List.map_id (encode bs)]
  refine List.map_congr_left fun c hc => ?_
  obtain ⟨n, hn, rfl⟩ := exists_of_mem_encode hc
  exact h n hn

theorem isDigit_of_mem_encode {bs : Bytes} {c : Char} (h : c ∈ encode bs) : isDigit c = true := by
  obtain ⟨n, hn, rfl⟩ := exists_of_mem_encode h
  exact isDigit_digit hn

@[simp] theorem ofDigits_encode (bs : Bytes) : ofDigits (encode bs) = bs := by
  induction bs with
  | nil => rfl
  | cons b bs ih =>
    have hb := b.toNat_lt
    rw [encode_cons, ofDigits, digitValue?_digit _ (by omega), digitValue?_digit _ (by omega), ih]
    have h : 16 * (b.toNat / 16) + b.toNat % 16 = b.toNat := by omega
    simp only [Option.getD_some, h, UInt8.ofNat_toNat]

@[simp]
theorem ofDigits_map_toLower (cs : List Char) : ofDigits (cs.map Char.toLower) = ofDigits cs := by
  induction cs using ofDigits.induct with
  | case1 a b cs ih =>
    simp only [List.map_cons, ofDigits, digitValue?_toLower, ih]
  | case2 cs h =>
    match cs, h with
    | [], _ => rfl
    | [a], _ => rfl
    | a :: b :: cs, h => exact absurd rfl (h a b cs)

/-- The bytes of the digits `cs` are written as `cs` again, but for their case. -/
theorem encode_ofDigits {cs : List Char} (hdigit : ∀ c ∈ cs, isDigit c = true)
    (heven : cs.length % 2 = 0) : encode (ofDigits cs) = cs.map Char.toLower := by
  induction cs using ofDigits.induct with
  | case1 a b cs ih =>
    -- the byte of the two digits is `16 * m + n`, and it is taken apart into `m` and `n` again
    obtain ⟨m, hm⟩ := Option.isSome_iff_exists.1 (hdigit a (by simp))
    obtain ⟨n, hn⟩ := Option.isSome_iff_exists.1 (hdigit b (by simp))
    obtain ⟨hm16, hma⟩ := digit_of_digitValue? hm
    obtain ⟨hn16, hnb⟩ := digit_of_digitValue? hn
    have hlater := ih (fun c hc => hdigit c (by simp [hc])) (by simp at heven; omega)
    have hbyte : (UInt8.ofNat (16 * m + n)).toNat = 16 * m + n :=
      UInt8.toNat_ofNat_of_lt' (show 16 * m + n < 256 by omega)
    have hhigh : (16 * m + n) / 16 = m := by omega
    have hlow : (16 * m + n) % 16 = n := by omega
    rw [ofDigits, hm, hn, Option.getD_some, Option.getD_some, encode_cons, hbyte, hhigh, hlow, hma,
      hnb, hlater, List.map_cons, List.map_cons]
  | case2 cs h =>
    match cs, h with
    | [], _ => rfl
    | [a], _ => simp at heven
    | a :: b :: cs, h => exact absurd rfl (h a b cs)

/-! ### Accepted texts -/

/-- **A text is hexadecimal**: it has an even number of bytes, and its characters are digits of
either case. -/
def IsHexadecimal (s : String) : Prop :=
  Text.byteLength s % 2 = 0 ∧ ∀ c ∈ s.toList, isDigit c = true

theorem firstBadDigit?_eq_none_iff {cs : List Char} {position : Nat} :
    firstBadDigit? position cs = none ↔ ∀ c ∈ cs, isDigit c = true := by
  induction cs generalizing position with
  | nil => simp [firstBadDigit?]
  | cons c cs ih => by_cases hc : isDigit c = true <;> simp [firstBadDigit?, hc, ih]

theorem toNat_le_of_isDigit {c : Char} (h : isDigit c = true) : c.toNat ≤ 0x7F := by
  rw [isDigit, digitValue?_eq] at h
  grind

theorem byteLength_of_isDigit {s : String} (h : ∀ c ∈ s.toList, isDigit c = true) :
    Text.byteLength s = s.toList.length := by
  rw [Text.byteLength, Text.bytes,
    Utf8.encode_ascii fun c hc => toNat_le_of_isDigit (h c hc), List.length_map]

theorem isDigit_of_map_toLower {cs : List Char} {bs : Bytes} (h : cs.map Char.toLower = encode bs) :
    ∀ c ∈ cs, isDigit c = true := by
  intro c hc
  have hmem : c.toLower ∈ encode bs := h ▸ List.mem_map_of_mem hc
  obtain ⟨n, hn, e⟩ := exists_of_mem_encode hmem
  rw [← isDigit_toLower, e]
  exact isDigit_digit hn

/-- **A text that is `encode bs` up to the case of its letters is read as `bs`.** -/
theorem decode_of_map_toLower {s : String} {bs : Bytes}
    (h : s.toList.map Char.toLower = encode bs) : decode s = .ok bs := by
  have hdigit := isDigit_of_map_toLower h
  have hlen : s.toList.length = 2 * bs.length := by
    rw [← length_encode, ← h, List.length_map]
  have heven : ¬ Text.byteLength s % 2 ≠ 0 := by
    rw [byteLength_of_isDigit hdigit]
    omega
  rw [decode, if_neg heven, firstBadDigit?_eq_none_iff.2 hdigit]
  show Except.ok (ofDigits s.toList) = .ok bs
  rw [← ofDigits_map_toLower, h, ofDigits_encode]

/-- A text that is read is hexadecimal, and `encode bs` up to the case of its letters. -/
theorem of_decode {s : String} {bs : Bytes} (h : decode s = .ok bs) :
    IsHexadecimal s ∧ s.toList.map Char.toLower = encode bs := by
  rw [decode] at h
  split at h
  · cases h
  · next heven =>
    split at h
    · cases h
    · next hbad =>
      cases h
      have heven : Text.byteLength s % 2 = 0 := by simpa using heven
      have hdigit := firstBadDigit?_eq_none_iff.1 hbad
      rw [encode_ofDigits hdigit (byteLength_of_isDigit hdigit ▸ heven)]
      exact ⟨⟨heven, hdigit⟩, rfl⟩

/-- **Exactly the hexadecimal texts are read.** -/
theorem exists_decode_iff {s : String} : (∃ bs, decode s = .ok bs) ↔ IsHexadecimal s := by
  constructor
  · rintro ⟨bs, h⟩
    exact (of_decode h).1
  · rintro ⟨heven, hdigit⟩
    rw [decode, if_neg (by simpa using heven), firstBadDigit?_eq_none_iff.2 hdigit]
    exact ⟨_, rfl⟩

/-! ### Refused texts -/

def IsDigitOfEitherCase (c : Char) : Prop :=
  ('0' ≤ c ∧ c ≤ '9') ∨ ('a' ≤ c ∧ c ≤ 'f') ∨ ('A' ≤ c ∧ c ≤ 'F')

instance : DecidablePred IsDigitOfEitherCase := fun _ => inferInstanceAs (Decidable (_ ∨ _ ∨ _))

theorem isDigit_iff {c : Char} : isDigit c = true ↔ IsDigitOfEitherCase c := by
  unfold isDigit digitValue? IsDigitOfEitherCase
  grind

/-- **The first character of a text that is no digit** is `c`, and it stands behind `before`. -/
structure BreaksAt (cs before : List Char) (c : Char) : Prop where
  split : ∃ after, cs = before ++ c :: after
  digits : ∀ d ∈ before, isDigit d = true
  noDigit : isDigit c = false

theorem breaksAt_nil {c : Char} (h : isDigit c = false) (cs : List Char) :
    BreaksAt (c :: cs) [] c := ⟨⟨cs, rfl⟩, fun _ h => (nomatch h), h⟩

/-- Behind the digit `d` the first character that is no digit is that of the rest. -/
theorem breaksAt_cons_iff {d c : Char} {cs before : List Char} (hd : isDigit d = true) :
    BreaksAt (d :: cs) before c ↔ ∃ later, before = d :: later ∧ BreaksAt cs later c := by
  constructor
  · rintro ⟨⟨after, hsplit⟩, hdigits, hc⟩
    cases before with
    | nil =>
      obtain rfl := (List.cons.inj hsplit).1
      rw [hd] at hc
      cases hc
    | cons e later =>
      obtain ⟨rfl, hcs⟩ := List.cons.inj hsplit
      exact ⟨later, rfl, ⟨after, hcs⟩, fun x hx => hdigits x (List.mem_cons_of_mem d hx), hc⟩
  · rintro ⟨later, rfl, ⟨after, rfl⟩, hdigits, hc⟩
    refine ⟨⟨after, rfl⟩, fun x hx => ?_, hc⟩
    rcases List.mem_cons.1 hx with rfl | hx
    · exact hd
    · exact hdigits x hx

/-- `firstBadDigit?` finds the character at which `cs` breaks, at the number of bytes before it. -/
theorem firstBadDigit?_eq_some_iff {cs : List Char} {position : Nat} {c : Char} {n : Nat} :
    firstBadDigit? position cs = some (c, n) ↔
      ∃ before, BreaksAt cs before c ∧ n = position + (Utf8.encode before).length := by
  induction cs generalizing position with
  | nil =>
    refine iff_of_false (by simp [firstBadDigit?]) ?_
    rintro ⟨before, ⟨⟨after, h⟩, -, -⟩, -⟩
    cases before <;> cases h
  | cons d cs ih =>
    rw [firstBadDigit?]
    by_cases hd : isDigit d = true
    · rw [if_pos hd, ih]
      -- the position is counted in bytes, so behind the digit `d` it is that of the rest and the
      -- bytes of `d`
      have hlength (later : List Char) : (Utf8.encode (d :: later)).length =
          d.utf8Size + (Utf8.encode later).length := by
        rw [Utf8.encode_cons, List.length_append, String.length_utf8EncodeChar]
      constructor
      · rintro ⟨later, hbreak, rfl⟩
        exact ⟨d :: later, (breaksAt_cons_iff hd).2 ⟨later, rfl, hbreak⟩, by rw [hlength]; omega⟩
      · rintro ⟨before, hbreak, rfl⟩
        obtain ⟨later, rfl, hlater⟩ := (breaksAt_cons_iff hd).1 hbreak
        exact ⟨later, hlater, by rw [hlength]; omega⟩
    · have hd : isDigit d = false := by simpa using hd
      rw [if_neg (by simp [hd])]
      constructor
      · rintro ⟨⟩
        exact ⟨[], breaksAt_nil hd cs, rfl⟩
      · rintro ⟨before, ⟨⟨after, hsplit⟩, hdigits, -⟩, rfl⟩
        cases before with
        | nil =>
          obtain rfl := (List.cons.inj hsplit).1
          rfl
        | cons e later =>
          obtain rfl := (List.cons.inj hsplit).1
          rw [hdigits d List.mem_cons_self] at hd
          cases hd

theorem decode_of_odd {s : String} (h : Text.byteLength s % 2 = 1) :
    decode s = .error (.oddLength (Text.byteLength s)) := if_pos (by omega)

/-- With an even number of bytes `s` is refused for the character at which it breaks. -/
theorem decode_of_breaksAt {s : String} (h : Text.byteLength s % 2 = 0) {before : List Char}
    {c : Char} (hbreak : BreaksAt s.toList before c) :
    decode s = .error (.badDigit c (Utf8.encode before).length) := by
  have hbad : firstBadDigit? 0 s.toList = some (c, (Utf8.encode before).length) :=
    firstBadDigit?_eq_some_iff.2 ⟨before, hbreak, (Nat.zero_add _).symm⟩
  rw [decode, if_neg (by omega), hbad]

theorem exists_breaksAt {s : String} (heven : Text.byteLength s % 2 = 0)
    (h : ¬ IsHexadecimal s) : ∃ before c, BreaksAt s.toList before c := by
  cases hbad : firstBadDigit? 0 s.toList with
  | none => exact absurd ⟨heven, firstBadDigit?_eq_none_iff.1 hbad⟩ h
  | some p =>
    obtain ⟨before, hbreak, -⟩ := firstBadDigit?_eq_some_iff.1 hbad
    exact ⟨before, p.1, hbreak⟩

/-! ### Pair by pair -/

theorem pairDigit_digit (position : Nat) {n : Nat} (h : n < 16) :
    pairDigit position (.ofNat (digit n).toNat) = .ok n := by
  have hchar : ∀ n < 16, Char.ofNat (UInt8.ofNat (digit n).toNat).toNat = digit n := by decide
  rw [pairDigit, byteValue?, hchar n h, digitValue?_digit n h]

theorem ofPairs_encode (position : Nat) (bs : Bytes) :
    ofPairs position ((encode bs).map fun c => .ofNat c.toNat) = .ok bs := by
  induction bs generalizing position with
  | nil => rfl
  | cons b bs ih =>
    have hb := b.toNat_lt
    have h : 16 * (b.toNat / 16) + b.toNat % 16 = b.toNat := by omega
    rw [encode_cons, List.map_cons, List.map_cons, ofPairs, pairDigit_digit _ (by omega),
      pairDigit_digit _ (by omega), ih]
    show Except.ok (UInt8.ofNat (16 * (b.toNat / 16) + b.toNat % 16) :: bs) = _
    rw [h, UInt8.ofNat_toNat]

/-- **The text of a byte string is read back pair by pair.** -/
@[simp]
theorem decodePairs_encode (bs : Bytes) : decodePairs (Utf8.encode (encode bs)) = .ok bs := by
  have hascii : ∀ c ∈ encode bs, c.toNat ≤ 0x7F :=
    fun c hc => toNat_le_of_isDigit (isDigit_of_mem_encode hc)
  rw [decodePairs, Utf8.encode_ascii hascii, List.length_map, length_encode, if_neg (by omega),
    ofPairs_encode]

end StreamRecords.Hex
