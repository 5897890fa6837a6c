import StreamRecords.Proofs.Except
import StreamRecords.Proofs.Json.NumeralText
import StreamRecords.Proofs.Json.StringText

/-!
Strings and numbers in all their spellings. A character of a string may stand for itself or be
escaped in several ways, and a number may be written with an exponent or without; what a reader
makes of a spelling does not depend on what follows it.
-/

namespace StreamRecords.Json

/-! ### The spellings of a string -/

/-- **What may stand between the quotes of a string**: bytes that stand for themselves, escapes of
one letter, and escapes of four hexadecimal digits. Nothing is said of what they stand for. -/
inductive IsStringText : Bytes → Prop where
  | nil : IsStringText []
  | plain {b : UInt8} {s : Bytes} (hb : IsPlain b) (hs : IsStringText s) : IsStringText (b :: s)
  | letter {b c : UInt8} {s : Bytes} (hb : letterEscape? b = some c) (hs : IsStringText s) :
      IsStringText (0x5C :: b :: s)
  | unit {a b c d : UInt8} {n : Nat} {s : Bytes} (hn : hex4 [a, b, c, d] = .ok n)
      (hs : IsStringText s) : IsStringText (0x5C :: 0x75 :: a :: b :: c :: d :: s)

/-- **What the text between quotes stands for**: a character for its bytes in UTF-8 or for an
escape, one beyond the code units for the escapes of its two halves. -/
inductive Denotes : Bytes → List Char → Prop where
  | nil : Denotes [] []
  | char {c : Char} {s : Bytes} {cs : List Char} (hc : ∀ b ∈ String.utf8EncodeChar c, IsPlain b)
      (hs : Denotes s cs) : Denotes (String.utf8EncodeChar c ++ s) (c :: cs)
  | letter {b c : UInt8} {s : Bytes} {cs : List Char} (hb : letterEscape? b = some c)
      (hs : Denotes s cs) : Denotes (0x5C :: b :: s) (.ofNat c.toNat :: cs)
  | unit {a b c d : UInt8} {n : Nat} {s : Bytes} {cs : List Char} (hn : hex4 [a, b, c, d] = .ok n)
      (hhigh : isHighSurrogate n = false) (hlow : isLowSurrogate n = false) (hs : Denotes s cs) :
      Denotes (0x5C :: 0x75 :: a :: b :: c :: d :: s) (.ofNat n :: cs)
  | pair {a b c d e f g h : UInt8} {m n : Nat} {s : Bytes} {cs : List Char}
      (hm : hex4 [a, b, c, d] = .ok m) (hhigh : isHighSurrogate m = true)
      (hn : hex4 [e, f, g, h] = .ok n) (hlow : isLowSurrogate n = true) (hs : Denotes s cs) :
      Denotes (0x5C :: 0x75 :: a :: b :: c :: d :: 0x5C :: 0x75 :: e :: f :: g :: h :: s)
        (.ofNat (ofSurrogates m n) :: cs)

theorem hex4_append (a b c d : UInt8) (s : Bytes) :
    hex4 (a :: b :: c :: d :: s) = hex4 [a, b, c, d] := rfl

/-! ### Reading a string -/

/-- `read` makes `r` of `s` and leaves what follows, whatever this is; or, if `r` is `none`, it
fails whatever follows. -/
def ReadsTo {α : Type} (read : Reader α) (s : Bytes) (r : Option α) : Prop :=
  ∀ rest, (read (s ++ rest)).toOption = r.map (·, rest)

/-- The bytes that are read behind `front`, which stands for `c`. -/
theorem ReadsTo.after {front s c : Bytes} {r : Option Bytes}
    (h : ReadsTo (stringBytes 0) s r) (hfront : ∀ s, stringBytes 0 (front ++ s) =
      (stringBytes 0 s).map fun (cs, rest) => (c ++ cs, rest)) :
    ReadsTo (stringBytes 0) (front ++ s) (r.map (c ++ ·)) := by
  intro rest
  rw [List.append_assoc, hfront, toOption_map, h rest]
  cases r <;> rfl

theorem stringBytes_letter {b c : UInt8} (hb : letterEscape? b = some c) (s : Bytes) :
    stringBytes 0 ([0x5C, b] ++ s) =
      (stringBytes 0 s).map fun (cs, rest) => ([c] ++ cs, rest) := by
  have hescape : escape ([b] ++ s) = .ok ([c], [b].length) := escape_letter hb s
  exact stringBytes_escape hescape

/-! ### Escapes by digits -/

/-- The escape of the unit `n` is taken alone, with the escape behind it, or not at all. -/
theorem escape_unit {a b c d : UInt8} {n : Nat} (hn : hex4 [a, b, c, d] = .ok n) (s : Bytes) :
    escape ([0x75, a, b, c, d] ++ s) =
      if isLowSurrogate n then .error .loneSurrogate
      else if isHighSurrogate n then
        (lowEscape s).map fun low => (String.utf8EncodeChar (.ofNat (ofSurrogates n low)), 11)
      else .ok (String.utf8EncodeChar (.ofNat n), 5) := by
  show (unitEscape (a :: b :: c :: d :: s)).map _ = _
  rw [unitEscape, hex4_append, hn]
  show Except.map _ (if isLowSurrogate n then throw .loneSurrogate
    else if isHighSurrogate n then do
      let low ← lowEscape s
      pure (.ofNat (ofSurrogates n low), 10)
    else pure (.ofNat n, 4) : Except Fault (Char × Nat)) = _
  split
  · rfl
  split
  · cases lowEscape s <;> rfl
  · rfl

/-- `lowEscape` where an escape by digits stands. -/
theorem lowEscape_unit {a b c d : UInt8} {n : Nat} (hn : hex4 [a, b, c, d] = .ok n) (s : Bytes) :
    lowEscape ([0x5C, 0x75, a, b, c, d] ++ s) =
      if isLowSurrogate n then .ok n else .error .loneSurrogate := by
  show (hex4 (a :: b :: c :: d :: s) >>= fun low =>
    if isLowSurrogate low then pure low else throw .loneSurrogate) = _
  rw [hex4_append, hn]
  rfl

theorem isLowSurrogate_of_isHighSurrogate {n : Nat} (h : isHighSurrogate n = true) :
    isLowSurrogate n = false := by
  simp only [isHighSurrogate, isLowSurrogate, Bool.and_eq_true, decide_eq_true_eq,
    Bool.and_eq_false_iff, decide_eq_false_iff_not] at *
  omega

theorem stringBytes_unit {a b c d : UInt8} {n : Nat} (hn : hex4 [a, b, c, d] = .ok n)
    (hhigh : isHighSurrogate n = false) (hlow : isLowSurrogate n = false) (s : Bytes) :
    stringBytes 0 ([0x5C, 0x75, a, b, c, d] ++ s) =
      (stringBytes 0 s).map fun (cs, rest) => (String.utf8EncodeChar (.ofNat n) ++ cs, rest) := by
  have hescape : escape ([0x75, a, b, c, d] ++ s) =
      .ok (String.utf8EncodeChar (.ofNat n), [0x75, a, b, c, d].length) := by
    rw [escape_unit hn, hlow, hhigh]
    rfl
  exact stringBytes_escape hescape

theorem stringBytes_pair {a b c d e f g h : UInt8} {m n : Nat} (hm : hex4 [a, b, c, d] = .ok m)
    (hhigh : isHighSurrogate m = true) (hn : hex4 [e, f, g, h] = .ok n)
    (hlow : isLowSurrogate n = true) (s : Bytes) :
    stringBytes 0 ([0x5C, 0x75, a, b, c, d, 0x5C, 0x75, e, f, g, h] ++ s) =
      (stringBytes 0 s).map fun (cs, rest) =>
        (String.utf8EncodeChar (.ofNat (ofSurrogates m n)) ++ cs, rest) := by
  have hescape : escape ([0x75, a, b, c, d, 0x5C, 0x75, e, f, g, h] ++ s) =
      .ok (String.utf8EncodeChar (.ofNat (ofSurrogates m n)),
        [0x75, a, b, c, d, 0x5C, 0x75, e, f, g, h].length) := by
    have hlowEscape := lowEscape_unit hn s
    rw [if_pos hlow] at hlowEscape
    refine (escape_unit hm ([0x5C, 0x75, e, f, g, h] ++ s)).trans ?_
    rw [isLowSurrogate_of_isHighSurrogate hhigh, hhigh, hlowEscape]
    rfl
  exact stringBytes_escape hescape

theorem stringBytes_of_escape_none {taken : Bytes} (h : (escape taken).toOption = none) :
    (stringBytes 0 (0x5C :: taken)).toOption = none := by
  rw [stringBytes, if_neg (by decide), if_pos rfl]
  cases he : escape taken with
  | error e => rfl
  | ok p =>
    rw [he] at h
    cases h

/-- `lowEscape` where another text stands. -/
theorem toOption_lowEscape {s : Bytes} (h : IsStringText s)
    (hs : ∀ a b c d u, s ≠ 0x5C :: 0x75 :: a :: b :: c :: d :: u) (rest : Bytes) :
    (lowEscape (s ++ 0x22 :: rest)).toOption = none := by
  cases h with
  | nil => rfl
  | @plain b s hb =>
    show (if b ≠ 0x5C then Except.error Fault.unfinishedPair else _).toOption = none
    rw [if_pos hb.2.1]
    rfl
  | @letter b c s hb =>
    have hu : b ≠ 0x75 := by
      rintro rfl
      cases hb
    show (if b ≠ 0x75 then Except.error Fault.unfinishedPair else _).toOption = none
    rw [if_pos hu]
    rfl
  | @unit a b c d n s hn => exact absurd rfl (hs a b c d s)

/-- The escape of a unit stands for a character, or for one together with the escape behind it, or
for none whatever follows the text. -/
theorem unit_cases {a b c d : UInt8} {n : Nat} {s : Bytes} (hn : hex4 [a, b, c, d] = .ok n)
    (hs : IsStringText s) :
    (isHighSurrogate n = false ∧ isLowSurrogate n = false) ∨
    (isHighSurrogate n = true ∧ ∃ e f g h m u, s = [0x5C, 0x75, e, f, g, h] ++ u ∧
      hex4 [e, f, g, h] = .ok m ∧ isLowSurrogate m = true) ∨
    ∀ rest, (escape ([0x75, a, b, c, d] ++ (s ++ 0x22 :: rest))).toOption = none := by
  -- a second half of a pair cannot come first, and a first half wants a second one behind it
  cases hlow : isLowSurrogate n with
  | true =>
    refine .inr (.inr fun rest => ?_)
    rw [escape_unit hn, hlow]
    rfl
  | false =>
    cases hhigh : isHighSurrogate n with
    | false => exact .inl ⟨rfl, rfl⟩
    | true =>
      have hescape (s : Bytes) (h : (lowEscape s).toOption = none) :
          (escape ([0x75, a, b, c, d] ++ s)).toOption = none := by
        rw [escape_unit hn, hlow, hhigh]
        show ((lowEscape s).map _).toOption = none
        rw [toOption_map, h]
        rfl
      by_cases hunit : ∃ e f g h u, s = 0x5C :: 0x75 :: e :: f :: g :: h :: u
      · obtain ⟨e, f, g, h, u, rfl⟩ := hunit
        cases hs with
        | plain hb => exact absurd rfl hb.2.1
        | letter hb => cases hb
        | @unit _ _ _ _ m _ hm =>
          cases hlow' : isLowSurrogate m with
          | true => exact .inr (.inl ⟨rfl, e, f, g, h, m, u, rfl, hm, hlow'⟩)
          | false =>
            refine .inr (.inr fun rest => hescape _ ?_)
            have := lowEscape_unit hm (u ++ 0x22 :: rest)
            rw [hlow'] at this
            exact congrArg Except.toOption this
      · refine .inr (.inr fun rest => hescape _ (toOption_lowEscape hs ?_ rest))
        exact fun e f g h u he => hunit ⟨e, f, g, h, u, he⟩

/-! ### Strings -/

theorem stringBytes_readsTo {s : Bytes} (h : IsStringText s) :
    ∃ r, ReadsTo (stringBytes 0) (s ++ [0x22]) r := by
  -- an escape by digits may take the one behind it along, and what is left is read after both: so
  -- the text behind a second escape is followed up too
  suffices hpair : (∃ r, ReadsTo (stringBytes 0) (s ++ [0x22]) r) ∧
      ∀ a b c d u, s = [0x5C, 0x75, a, b, c, d] ++ u →
        ∃ r, ReadsTo (stringBytes 0) (u ++ [0x22]) r from hpair.1
  induction h with
  | nil => exact ⟨⟨some [], fun rest => rfl⟩, fun _ _ _ _ _ h => nomatch h⟩
  | @plain b s hb hs ih =>
    obtain ⟨⟨r, hr⟩, -⟩ := ih
    constructor
    · have hplain : ∀ d ∈ [b], IsPlain d := by simpa using hb
      exact ⟨_, hr.after (stringBytes_plain hplain)⟩
    · intro a b' c d u h
      cases h
      exact absurd rfl hb.2.1
  | @letter b c s hb hs ih =>
    obtain ⟨⟨r, hr⟩, -⟩ := ih
    constructor
    · exact ⟨_, hr.after (stringBytes_letter hb)⟩
    · intro a b' c' d' u h
      cases h
      cases hb
  | @unit a b c d n s hn hs ih =>
    obtain ⟨⟨r, hr⟩, hpair⟩ := ih
    constructor
    · rcases unit_cases hn hs with ⟨hhigh, hlow⟩ | ⟨hhigh, e, f, g, h, m, u, rfl, hm, hlow⟩ | hnone
      · exact ⟨_, hr.after (stringBytes_unit hn hhigh hlow)⟩
      · obtain ⟨r', hr'⟩ := hpair e f g h u rfl
        exact ⟨_, hr'.after (stringBytes_pair hn hhigh hm hlow)⟩
      · refine ⟨none, fun rest => ?_⟩
        have := stringBytes_of_escape_none (hnone rest)
        rw [List.append_assoc]
        exact this
    · intro a' b' c' d' u h
      cases h
      exact ⟨r, hr⟩

/-- **What a string stands for does not depend on what follows it**, though `stringTail` is given
all of it. -/
theorem stringTail_readsTo {s : Bytes} (h : IsStringText s) :
    ∃ r, ReadsTo stringTail (s ++ [0x22]) r := by
  obtain ⟨r, hr⟩ := stringBytes_readsTo h
  refine ⟨r.bind fun bytes => (Utf8.decode bytes).toOption.map String.ofList, fun rest => ?_⟩
  rw [stringTail, toOption_bind, hr rest]
  cases r with
  | none => rfl
  | some bytes =>
    simp only [Option.map_some, Option.bind_some]
    cases Utf8.decode bytes <;> rfl

/-- A string is passed over even if it stands for nothing. -/
theorem skipStringTail_text {s : Bytes} (h : IsStringText s) (rest : Bytes) :
    skipStringTail (s ++ 0x22 :: rest) = .ok rest := by
  rw [skipStringTail]
  induction h with
  | nil => rfl
  | @plain b s hb hs ih =>
    have hplain : ∀ d ∈ [b], IsPlain d := by simpa using hb
    exact (skipStringBytes_plain hplain _).trans ih
  | @letter b c s hb hs ih =>
    have hescape : skipEscape ([b] ++ (s ++ 0x22 :: rest)) = .ok [b].length :=
      skipEscape_letter hb _
    exact (skipStringBytes_escape hescape).trans ih
  | @unit a b c d n s hn hs ih =>
    have hescape : skipEscape ([0x75, a, b, c, d] ++ (s ++ 0x22 :: rest)) =
        .ok [0x75, a, b, c, d].length := by
      show (hex4 (a :: b :: c :: d :: (s ++ 0x22 :: rest))).map _ = _
      rw [hex4_append, hn]
      rfl
    exact (skipStringBytes_escape hescape).trans ih

theorem utf8EncodeChar_letter {b c : UInt8} (hb : letterEscape? b = some c) :
    String.utf8EncodeChar (.ofNat c.toNat) = [c] := by
  simp only [letterEscape?] at hb
  repeat' split at hb
  all_goals cases hb
  all_goals rfl

/-- **The text `s` is read as the characters `cs` that it denotes.** -/
theorem stringTail_of_denotes {s : Bytes} {cs : List Char} (h : Denotes s cs) (rest : Bytes) :
    stringTail (s ++ 0x22 :: rest) = .ok (.ofList cs, rest) := by
  -- the bytes are those of the characters in UTF-8, which are then read as characters
  have hbytes : stringBytes 0 (s ++ 0x22 :: rest) = .ok (Utf8.encode cs, rest) := by
    induction h with
    | nil => rfl
    | @char c s cs hc hs ih =>
      rw [List.append_assoc, stringBytes_plain hc, ih]
      rfl
    | @letter b c s cs hb hs ih =>
      refine (stringBytes_letter hb (s ++ 0x22 :: rest)).trans ?_
      rw [ih, Utf8.encode_cons, utf8EncodeChar_letter hb]
      rfl
    | @unit a b c d n s cs hn hhigh hlow hs ih =>
      refine (stringBytes_unit hn hhigh hlow (s ++ 0x22 :: rest)).trans ?_
      rw [ih]
      rfl
    | @pair a b c d e f g h m n s cs hm hhigh hn hlow hs ih =>
      refine (stringBytes_pair hm hhigh hn hlow (s ++ 0x22 :: rest)).trans ?_
      rw [ih]
      rfl
  rw [stringTail, hbytes]
  simp only [bind, Except.bind, Utf8.decode_encode]
  rfl

instance : DecidablePred IsPlain := fun b =>
  inferInstanceAs (Decidable (b ≠ 0x22 ∧ b ≠ 0x5C ∧ 0x20 ≤ b))

theorem isStringText_of_isPlain {s : Bytes} (h : ∀ b ∈ s, IsPlain b) : IsStringText s := by
  induction s with
  | nil => exact .nil
  | cons b s ih => exact .plain (h b List.mem_cons_self) (ih fun c hc => h c (.tail b hc))

theorem denotes_encode {cs : List Char} (h : ∀ b ∈ Utf8.encode cs, IsPlain b) :
    Denotes (Utf8.encode cs) cs := by
  induction cs with
  | nil => exact .nil
  | cons c cs ih =>
    rw [Utf8.encode_cons] at h ⊢
    exact .char (fun b hb => h b (List.mem_append_left _ hb))
      (ih fun b hb => h b (List.mem_append_right _ hb))

/-! ### The spellings of a number -/

def IsDigits (s : Bytes) : Prop := s ≠ [] ∧ ∀ b ∈ s, isDigit b = true

/-- What stands before the digits of an exponent: the letter in either case, and a sign or none. -/
def exponentMarks : List Bytes :=
  [[0x65], [0x65, 0x2B], [0x65, 0x2D], [0x45], [0x45, 0x2B], [0x45, 0x2D]]

/-- **The spelling of a number**, with digits of any length. A zero before the point stands
alone. -/
structure NumberText where
  minus : Bool
  whole : Bytes
  fraction : Option Bytes
  /-- The mark of the exponent and its digits. -/
  exponent : Option (Bytes × Bytes)
  whole_digits : IsDigits whole
  whole_zero : whole.head? = some 0x30 → whole = [0x30]
  fraction_digits : ∀ ds ∈ fraction, IsDigits ds
  exponent_digits : ∀ e ∈ exponent, e.1 ∈ exponentMarks ∧ IsDigits e.2

namespace NumberText

def exponentBytes (n : NumberText) : Bytes := n.exponent.elim [] fun e => e.1 ++ e.2

def fractionBytes (n : NumberText) : Bytes := n.fraction.elim [] (0x2E :: ·)

def bytes (n : NumberText) : Bytes :=
  (if n.minus then [0x2D] else []) ++ (n.whole ++ (n.fractionBytes ++ n.exponentBytes))

end NumberText

/-! ### Reading a number -/

/-- The digits as numbers, as a `Numeral` has them. -/
def digitValues (s : Bytes) : List Nat := s.map fun b => b.toNat - 0x30

def EndsDigits (s : Bytes) : Prop := ∀ b ∈ s.head?, isDigit b = false

theorem digits1_append {ds rest : Bytes} (hds : IsDigits ds) (hrest : EndsDigits rest) :
    digits1 (ds ++ rest) = .ok (digitValues ds, rest) := by
  have htake : rest.takeWhile isDigit = [] := by
    cases rest with
    | nil => rfl
    | cons b rest => exact List.takeWhile_cons_of_neg (by simp [hrest b rfl])
  have hdrop : rest.dropWhile isDigit = rest := by
    cases rest with
    | nil => rfl
    | cons b rest => exact List.dropWhile_cons_of_neg (by simp [hrest b rfl])
  rw [digits1, digits, List.takeWhile_append_of_pos hds.2, List.dropWhile_append_of_pos hds.2,
    htake, hdrop, List.append_nil]
  cases ds with
  | nil => exact absurd rfl hds.1
  | cons d ds => rfl

theorem EndsNumeral.endsDigits {s : Bytes} (h : EndsNumeral s) : EndsDigits s :=
  fun b hb => (h b hb).1

theorem wholePart_append {ds rest : Bytes} (hds : IsDigits ds)
    (hzero : ds.head? = some 0x30 → ds = [0x30]) (hrest : EndsDigits rest) :
    wholePart (ds ++ rest) = .ok (digitValues ds, rest) := by
  rw [wholePart, digits1_append hds hrest]
  cases ds with
  | nil => exact absurd rfl hds.1
  | cons d ds =>
    by_cases hd : d = 0x30
    · rw [hzero (congrArg some hd)]
      rfl
    · have hvalue : d.toNat - 0x30 ≠ 0 := by
        have hdigit : 0x30 ≤ d.toNat ∧ d.toNat ≤ 0x39 := by
          simpa [isDigit, UInt8.le_iff_toNat_le] using hds.2 d List.mem_cons_self
        have hne : d.toNat ≠ 0x30 := fun h => hd (UInt8.toNat_inj.1 h)
        omega
      obtain ⟨k, hk⟩ := Nat.exists_eq_succ_of_ne_zero hvalue
      rw [digitValues, List.map_cons, hk]
      rfl

theorem exponentSign_digits {ds : Bytes} (hds : IsDigits ds) (rest : Bytes) :
    exponentSign (ds ++ rest) = (false, ds ++ rest) := by
  cases ds with
  | nil => exact absurd rfl hds.1
  | cons d ds =>
    have hd := hds.2 d List.mem_cons_self
    unfold exponentSign
    split
    · next h => cases h; cases hd
    · next h => cases h; cases hd
    · rfl

/-- `exponentPart` takes the exponent by its mark and its digits. -/
theorem exponentPart_append {mark ds rest : Bytes} (hmark : mark ∈ exponentMarks)
    (hds : IsDigits ds) (hrest : EndsDigits rest) :
    exponentPart (mark ++ ds ++ rest) =
      .ok (some (mark.contains 0x2D, digitValues ds), rest) := by
  have hdigits := digits1_append hds hrest
  have part {letter : UInt8} (hletter : letter = 0x65 ∨ letter = 0x45) {s : Bytes} {negative : Bool}
      (hs : exponentSign s = (negative, ds ++ rest)) :
      exponentPart (letter :: s) = .ok (some (negative, digitValues ds), rest) := by
    have he : exponentPart (letter :: s) =
        (digits1 (exponentSign s).2).map fun p => (some ((exponentSign s).1, p.1), p.2) := by
      rcases hletter with rfl | rfl <;> rfl
    rw [he, hs, hdigits]
    rfl
  simp only [exponentMarks, List.mem_cons, List.not_mem_nil, or_false] at hmark
  rcases hmark with rfl | rfl | rfl | rfl | rfl | rfl
  · exact part (.inl rfl) (exponentSign_digits hds rest)
  · exact part (.inl rfl) rfl
  · exact part (.inl rfl) rfl
  · exact part (.inr rfl) (exponentSign_digits hds rest)
  · exact part (.inr rfl) rfl
  · exact part (.inr rfl) rfl

namespace NumberText

variable (n : NumberText)

/-- What `Json.numeral` makes of the spelling. -/
def numeral : Numeral where
  negative := n.minus
  whole := digitValues n.whole
  fraction := n.fraction.map digitValues
  exponent := n.exponent.map fun e => (e.1.contains 0x2D, digitValues e.2)

/-- Behind the digits of a part of a number stands neither a digit nor, behind those of the
fraction, a point. -/
theorem head?_exponentBytes {rest : Bytes} (hrest : EndsNumeral rest) :
    ∀ b ∈ (n.exponentBytes ++ rest).head?, isDigit b = false ∧ b ≠ 0x2E := by
  rw [exponentBytes]
  cases he : n.exponent with
  | none => exact fun b hb => ⟨(hrest b hb).1, (hrest b hb).2.1⟩
  | some e =>
    have hmark := (n.exponent_digits e he).1
    obtain ⟨mark, ds⟩ := e
    simp only [exponentMarks, List.mem_cons, List.not_mem_nil, or_false] at hmark
    intro b hb
    rcases hmark with rfl | rfl | rfl | rfl | rfl | rfl <;> cases hb <;> decide

theorem exponentPart_exponentBytes {rest : Bytes} (hrest : EndsNumeral rest) :
    exponentPart (n.exponentBytes ++ rest) = .ok (n.numeral.exponent, rest) := by
  rw [exponentBytes, numeral]
  cases he : n.exponent with
  | none => exact exponentPart_none hrest
  | some e =>
    obtain ⟨hmark, hds⟩ := n.exponent_digits e he
    exact exponentPart_append hmark hds hrest.endsDigits

theorem fractionPart_fractionBytes {rest : Bytes} (hrest : EndsNumeral rest) :
    fractionPart (n.fractionBytes ++ (n.exponentBytes ++ rest)) =
      .ok (n.numeral.fraction, n.exponentBytes ++ rest) := by
  have hhead := n.head?_exponentBytes hrest
  rw [fractionBytes, numeral]
  cases hf : n.fraction with
  | none =>
    show fractionPart (n.exponentBytes ++ rest) = .ok (none, n.exponentBytes ++ rest)
    unfold fractionPart
    split
    · next h => exact absurd rfl (hhead _ (by rw [h]; rfl)).2
    · rfl
  | some ds =>
    have hds := n.fraction_digits ds hf
    show (digits1 (ds ++ (n.exponentBytes ++ rest))).map _ = _
    rw [digits1_append hds fun b hb => (hhead b hb).1]
    rfl

theorem wholePart_bytes {rest : Bytes} (hrest : EndsNumeral rest) :
    wholePart (n.whole ++ (n.fractionBytes ++ (n.exponentBytes ++ rest))) =
      .ok (n.numeral.whole, n.fractionBytes ++ (n.exponentBytes ++ rest)) := by
  refine wholePart_append n.whole_digits n.whole_zero ?_
  rw [fractionBytes]
  cases n.fraction with
  | none => exact fun b hb => (n.head?_exponentBytes hrest b hb).1
  | some ds =>
    intro b hb
    cases hb
    rfl

theorem lead_whole (rest : Bytes) : Json.lead (n.whole ++ rest) = .digit := by
  cases hw : n.whole with
  | nil => exact absurd hw n.whole_digits.1
  | cons d ds =>
    have hd : isDigit d = true := n.whole_digits.2 d (by rw [hw]; exact List.mem_cons_self)
    exact lead_of_isDigit hd _

theorem bytes_append (rest : Bytes) :
    n.bytes ++ rest = (if n.minus then [0x2D] else []) ++
      (n.whole ++ (n.fractionBytes ++ (n.exponentBytes ++ rest))) := by
  simp [bytes]

theorem lead_bytes (rest : Bytes) :
    Json.lead (n.bytes ++ rest) = if n.minus then .minus else .digit := by
  rw [bytes_append]
  cases n.minus with
  | true => rfl
  | false => exact n.lead_whole _

/-- **A number is read whole in all its spellings**, up to an end that is none of a number. -/
theorem numeral_bytes {rest : Bytes} (hrest : EndsNumeral rest) :
    Json.numeral (n.bytes ++ rest) = .ok (n.numeral, rest) := by
  rw [Json.numeral, lead_bytes, bytes_append]
  have hparts : (wholePart (n.whole ++ (n.fractionBytes ++ (n.exponentBytes ++ rest))) >>=
      fun p => fractionPart p.2 >>= fun q => exponentPart q.2 >>= fun r =>
        pure (⟨n.minus, p.1, q.1, r.1⟩, r.2)) = .ok (n.numeral, rest) := by
    rw [n.wholePart_bytes hrest]
    show (fractionPart _ >>= _) = _
    rw [n.fractionPart_fractionBytes hrest]
    show (exponentPart _ >>= _) = _
    rw [n.exponentPart_exponentBytes hrest]
    rfl
  cases hminus : n.minus with
  | true => rw [hminus] at hparts; exact hparts
  | false => rw [hminus] at hparts; exact hparts

theorem number_bytes {rest : Bytes} (hrest : EndsNumeral rest) :
    number (n.bytes ++ rest) = n.numeral.value.map (·, rest) := by
  rw [number, n.numeral_bytes hrest]

theorem skipNumber_bytes {rest : Bytes} (hrest : EndsNumeral rest) :
    skipNumber (n.bytes ++ rest) = .ok rest := by
  rw [skipNumber, n.numeral_bytes hrest]

end NumberText

end StreamRecords.Json
