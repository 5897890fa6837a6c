import Mathlib.Data.List.Basic
import StreamRecords.Proofs.Json.NumeralText
import StreamRecords.Proofs.Toml.StringText
import StreamRecords.Toml.Document

/-!
Documents of lines, each with a key and a value as they are written, are read back. A number is read
as an integer and not as the start of a date, a time or a floating-point number, because its digits
end with the line.
-/

namespace StreamRecords.Toml

open Text

/-! ### Digits -/

/-- A `fixedNumber` within the digits `ds` has more digits behind it, or the end of the line. -/
theorem after_of_fixedNumber {width lo hi n : Nat} {ds rest s : List Char}
    (hds : ∀ d ∈ ds, d.isDigit = true)
    (h : fixedNumber width lo hi (ds ++ '\n' :: rest) = some (n, s)) {c : Char}
    (hc : c.isDigit = false) (hn : c ≠ '\n') : after c s = none := by
  have hafter {d : Char} (hd : d ≠ c) (s : List Char) : after c (d :: s) = none := if_neg hd
  simp only [fixedNumber] at h
  split at h
  · next hdigits =>
    split at h
    · cases h
      -- the end of the line is no digit, so the number is not longer than the digits
      have hwidth : width ≤ ds.length := by
        by_contra hlt
        obtain ⟨k, hk⟩ : ∃ k, width - ds.length = k + 1 := ⟨width - ds.length - 1, by omega⟩
        have hall := hdigits.2
        rw [List.take_append, hk] at hall
        simp at hall
      rw [List.drop_append_of_le_length hwidth]
      cases hdrop : ds.drop width with
      | nil => exact hafter hn.symm _
      | cons d ds' =>
        have hd := hds d (List.mem_of_mem_drop (hdrop ▸ List.mem_cons_self))
        refine hafter ?_ _
        rintro rfl
        rw [hd] at hc
        cases hc
    · cases h
  · cases h

theorem fixedNumber_bind_after {α : Type} (width lo hi : Nat) {ds : List Char}
    (hds : ∀ d ∈ ds, d.isDigit = true) (rest : List Char) {c : Char} (hc : c.isDigit = false)
    (hn : c ≠ '\n') (k : Nat × List Char → List Char → Option α) :
    ((fixedNumber width lo hi (ds ++ '\n' :: rest)).bind fun p =>
      (after c p.2).bind (k p)) = none := by
  cases h : fixedNumber width lo hi (ds ++ '\n' :: rest) with
  | none => rfl
  | some p => rw [Option.bind_some, after_of_fixedNumber hds h hc hn, Option.bind_none]

/-- `dateTime` looks for marks that the digits `ds` do not have. -/
theorem dateTime_of_digits {ds : List Char} (hds : ∀ d ∈ ds, d.isDigit = true)
    (rest : List Char) : dateTime (ds ++ '\n' :: rest) = none := by
  have hdate : date (ds ++ '\n' :: rest) = none := by
    unfold date
    exact fixedNumber_bind_after 4 0 9999 hds rest rfl (c := '-') (by decide) _
  have htime : time (ds ++ '\n' :: rest) = none := by
    unfold time
    exact fixedNumber_bind_after 2 0 23 hds rest rfl (c := ':') (by decide) _
  rw [dateTime, hdate]
  exact htime

theorem digitsTail_of_digits {ds : List Char} (hds : ∀ d ∈ ds, d.isDigit = true)
    (rest : List Char) :
    digitsTail Char.isDigit (ds ++ '\n' :: rest) = (ds, '\n' :: rest) := by
  induction ds with
  | nil =>
    rw [List.nil_append, digitsTail.eq_def]
    rfl
  | cons d ds ih =>
    rw [List.cons_append, digitsTail.eq_def]
    dsimp only
    rw [if_pos (hds d List.mem_cons_self), ih fun e he => hds e (List.mem_cons_of_mem d he)]

theorem isDigit_of_mem_decimal {n : Nat} {c : Char} (h : c ∈ decimal n) : c.isDigit = true :=
  Nat.isDigit_of_mem_toDigits (by decide) (by decide) h

theorem decimal_cases (n : Nat) :
    decimal n = ['0'] ∨ ∃ d ds, decimal n = d :: ds ∧ d ≠ '0' ∧ d.isDigit = true := by
  by_cases hn : n = 0
  · subst hn
    exact .inl rfl
  · have hzero := Json.head?_decimal_ne hn
    cases h : decimal n with
    | nil => exact absurd h (Json.decimal_ne_nil n)
    | cons d ds =>
      rw [h] at hzero
      have hd : d.isDigit = true := isDigit_of_mem_decimal (h ▸ List.mem_cons_self)
      exact .inr ⟨d, ds, rfl, fun e => hzero (congrArg some e), hd⟩

theorem decimalDigits_decimal (n : Nat) (rest : List Char) :
    decimalDigits (decimal n ++ '\n' :: rest) = some (decimal n, '\n' :: rest) := by
  have hds : ∀ d ∈ decimal n, d.isDigit = true := fun d hd => isDigit_of_mem_decimal hd
  rcases decimal_cases n with h | ⟨d, ds, h, hzero, hd⟩
  · rw [h]
    rfl
  · rw [h] at hds ⊢
    rw [List.cons_append]
    unfold decimalDigits
    split
    · next e => exact absurd (List.cons.inj e).1 hzero
    · rw [digits, if_pos hd, digitsTail_of_digits fun e he => hds e (List.mem_cons_of_mem d he)]

theorem ofDigits_decimal (n : Nat) : ofDigits 10 (decimal n) = n := by
  have hvalue : ∀ c ∈ decimal n, (Hex.digitValue? c).getD 0 = c.toNat - '0'.toNat := by
    intro c hc
    have hdigit : '0' ≤ c ∧ c ≤ '9' := by
      have := Json.isDigit_of_mem_decimal hc
      exact ⟨UInt32.le_iff_toNat_le.2 this.1, UInt32.le_iff_toNat_le.2 this.2⟩
    rw [Hex.digitValue?, if_pos hdigit]
    rfl
  have hfold := ofDecimal_decimal n
  rw [ofDecimal, Nat.ofDigitChars_eq_foldl] at hfold
  rw [ofDigits]
  refine (List.foldl_ext _ _ _ fun m c hc => ?_).trans hfold
  rw [hvalue c hc]

/-! ### Numbers -/

theorem sign_of_digit {c : Char} (hc : c.isDigit = true) (s : List Char) :
    sign (c :: s) = (false, c :: s) := by
  unfold sign
  split
  · next e =>
    cases e
    cases hc
  · next e =>
    cases e
    cases hc
  · rfl

theorem namedFloat_of_digit {c : Char} (hc : c.isDigit = true) (s : List Char) :
    namedFloat (c :: s) = none := by
  rw [namedFloat, sign_of_digit hc]
  dsimp only
  split
  · next e =>
    cases e
    cases hc
  · next e =>
    cases e
    cases hc
  · rfl

/-- `finiteFloat` looks for a point or an exponent. -/
theorem finiteFloat_of_decimalDigits {s ds rest : List Char}
    (hsign : sign s = (false, s)) (h : decimalDigits s = some (ds, '\n' :: rest)) :
    finiteFloat s = none := by
  unfold finiteFloat
  rw [hsign]
  dsimp only
  rw [h]
  rfl

theorem integerOf_natCast {n : Nat} (h : n < 9223372036854775808) :
    integerOf false n = some (n : Int) := by
  have hrange : isInteger n = true := by
    rw [isInteger, Bool.and_eq_true, decide_eq_true_eq, decide_eq_true_eq]
    omega
  simp only [integerOf, Bool.false_eq_true, if_false, hrange, if_true]

/-- Digits that `integer` does not take for those of another base. -/
theorem integer_of_decimalDigits {c : Char} {s ds rest : List Char} {n : Nat}
    (hbase : ∀ b t, b ≠ '\n' → c :: s ≠ '0' :: b :: t) (hsign : sign (c :: s) = (false, c :: s))
    (h : decimalDigits (c :: s) = some (ds, rest))
    (hn : integerOf false (ofDigits 10 ds) = some (n : Int)) :
    integer (c :: s) = some ((n : Int), rest) := by
  unfold integer
  split
  · next e => exact absurd e (hbase _ _ (by decide))
  · next e => exact absurd e (hbase _ _ (by decide))
  · next e => exact absurd e (hbase _ _ (by decide))
  · rw [hsign]
    exact Option.bind_eq_some_iff.2 ⟨(ds, rest), h, Option.bind_eq_some_iff.2 ⟨n, hn, rfl⟩⟩

/-- **A number of 64 bits is read as an integer**, up to the end of its line. -/
theorem numeral_decimal {n : Nat} (hn : n < 9223372036854775808) (rest : List Char) :
    numeral (decimal n ++ '\n' :: rest) = some (.integer n, '\n' :: rest) := by
  have hdate := dateTime_of_digits (fun d hd => isDigit_of_mem_decimal (n := n) hd) rest
  have hdigits := decimalDigits_decimal n rest
  obtain ⟨c, s, hs, hc, hbase⟩ : ∃ c s, decimal n ++ '\n' :: rest = c :: s ∧
      c.isDigit = true ∧ ∀ b t, b ≠ '\n' → c :: s ≠ '0' :: b :: t := by
    rcases decimal_cases n with h | ⟨d, ds, h, hzero, hd⟩
    · refine ⟨'0', '\n' :: rest, by rw [h]; rfl, rfl, fun b t hb e => ?_⟩
      cases e
      exact hb rfl
    · exact ⟨d, ds ++ '\n' :: rest, by rw [h]; rfl, hd, fun b t _ e =>
        hzero (List.cons.inj e).1⟩
  -- `numeral` tries dates and floating-point numbers before integers
  rw [hs] at hdate hdigits ⊢
  have hsign := sign_of_digit hc s
  have hvalue : integerOf false (ofDigits 10 (decimal n)) = some (n : Int) := by
    rw [ofDigits_decimal]
    exact integerOf_natCast hn
  rw [numeral, hdate]
  dsimp only
  rw [finiteFloat_of_decimalDigits hsign hdigits, namedFloat_of_digit hc,
    integer_of_decimalDigits hbase hsign hdigits hvalue]
  rfl

/-! ### Values -/

/-- **`text` is that of the value `v`**: it starts with no blank, and `v` is read off it up to the
end of its line. -/
structure IsText (text : List Char) (v : Value) : Prop where
  start : ∀ c ∈ text.head?, isBlank c = false
  read : ∀ rest, value maxDepth (text ++ '\n' :: rest) = some (v, '\n' :: rest)

theorem IsText.skipBlanks {text : List Char} {v : Value} (h : IsText text v) (rest : List Char) :
    skipBlanks (text ++ '\n' :: rest) = text ++ '\n' :: rest := by
  cases text with
  | nil => rfl
  | cons c text => exact List.dropWhile_cons_of_neg (by simp [h.start c rfl])

theorem value_eq {s : List Char} {r : Option (Value × List Char)} (depth : Nat)
    (h : ∀ item, valueWith item s = r) : value depth s = r := by
  cases depth with
  | zero => exact h none
  | succ depth => exact h (some (value depth))

theorem isText_string (s : String) : IsText (stringText s) (.string s) := by
  obtain ⟨c, tail, htext, hc⟩ : ∃ c tail, stringText s = c :: tail ∧ (c = '"' ∨ c = '\'') := by
    obtain ⟨hf, -⟩ := choose_spec s.toList
    rw [stringText, StringForm.write]
    generalize StringForm.choose s.toList = f at hf ⊢
    simp only [StringForm.all, List.mem_cons, List.not_mem_nil, or_false] at hf
    rcases hf with rfl | rfl | rfl | rfl
    · exact ⟨_, _, rfl, .inl rfl⟩
    · exact ⟨_, _, rfl, .inr rfl⟩
    · exact ⟨_, _, rfl, .inl rfl⟩
    · exact ⟨_, _, rfl, .inr rfl⟩
  refine ⟨fun d hd => ?_, fun rest => value_eq _ fun item => ?_⟩
  · rw [htext] at hd
    cases hd
    rcases hc with rfl | rfl <;> rfl
  · have hstring : string (stringText s ++ '\n' :: rest) = some (s, '\n' :: rest) :=
      string_stringText s (by simp)
    rw [htext] at hstring ⊢
    rw [List.cons_append] at hstring ⊢
    rw [valueWith]
    dsimp only
    rw [if_pos hc, hstring]
    rfl

theorem isText_boolean (b : Bool) : IsText (booleanText b) (.boolean b) := by
  cases b with
  | true => exact ⟨fun c hc => by cases hc; rfl, fun rest => value_eq _ fun item => rfl⟩
  | false => exact ⟨fun c hc => by cases hc; rfl, fun rest => value_eq _ fun item => rfl⟩

theorem isText_integer {n : Nat} (hn : n < 9223372036854775808) :
    IsText (decimal n) (.integer n) := by
  obtain ⟨c, ds, hdecimal⟩ := List.exists_cons_of_ne_nil (Json.decimal_ne_nil n)
  have hc : c.isDigit = true := isDigit_of_mem_decimal (n := n) (hdecimal ▸ List.mem_cons_self)
  have hne {d : Char} (hd : d.isDigit = false) : c ≠ d := by
    rintro rfl
    rw [hc] at hd
    cases hd
  refine ⟨fun d hd => ?_, fun rest => value_eq _ fun item => ?_⟩
  · rw [hdecimal] at hd
    cases hd
    simp [isBlank, hne (d := ' ') rfl, hne (d := '\t') rfl]
  · have hnumeral := numeral_decimal hn rest
    rw [hdecimal] at hnumeral ⊢
    rw [List.cons_append] at hnumeral ⊢
    rw [valueWith]
    dsimp only
    -- a digit opens neither a string nor a list nor a table, and is no letter of a boolean
    rw [if_neg (not_or.2 ⟨hne rfl, hne rfl⟩), if_neg (hne rfl), if_neg (hne rfl)]
    split
    · next e => exact absurd (List.cons.inj e).1 (hne rfl)
    · next e => exact absurd (List.cons.inj e).1 (hne rfl)
    · exact hnumeral

/-! ### Lines -/

/-- `key` is written without marks. -/
structure IsBareKey (key : String) : Prop where
  nonempty : key.toList ≠ []
  bare : ∀ c ∈ key.toList, isBare c = true

instance (key : String) : Decidable (IsBareKey key) :=
  decidable_of_iff (key.toList ≠ [] ∧ key.toList.all isBare = true)
    ⟨fun h => ⟨h.1, List.all_eq_true.1 h.2⟩, fun h => ⟨h.nonempty, List.all_eq_true.2 h.bare⟩⟩

theorem ne_of_isBare {c d : Char} (hc : isBare c = true) (hd : isBare d = false) : c ≠ d := by
  rintro rfl
  rw [hc] at hd
  cases hd

theorem skipBlanks_of_isBare {c : Char} (hc : isBare c = true) (s : List Char) :
    skipBlanks (c :: s) = c :: s :=
  List.dropWhile_cons_of_neg <| by
    simp [isBlank, ne_of_isBare hc (d := ' ') rfl, ne_of_isBare hc (d := '\t') rfl]

theorem key_of_isBareKey {k : String} (hk : IsBareKey k) (s : List Char) :
    key (k.toList ++ ' ' :: '=' :: s) = some ([k], '=' :: s) := by
  have htake : (k.toList ++ ' ' :: '=' :: s).takeWhile isBare = k.toList := by
    rw [List.takeWhile_append_of_pos hk.bare]
    exact List.append_nil _
  have hdrop : (k.toList ++ ' ' :: '=' :: s).drop k.toList.length = ' ' :: '=' :: s := by simp
  obtain ⟨c, cs, hcs⟩ := List.exists_cons_of_ne_nil hk.nonempty
  have hc : isBare c = true := hk.bare c (hcs ▸ List.mem_cons_self)
  have hskip : skipBlanks (k.toList ++ ' ' :: '=' :: s) = k.toList ++ ' ' :: '=' :: s := by
    rw [hcs]
    exact skipBlanks_of_isBare hc _
  -- the first character is no quote, so the key is read as a bare one
  have hpart : keyPart (k.toList ++ ' ' :: '=' :: s) = some (k, ' ' :: '=' :: s) := by
    unfold keyPart
    split
    · next e =>
      rw [hcs] at e
      exact absurd (List.cons.inj e).1 (ne_of_isBare hc rfl)
    · next e =>
      rw [hcs] at e
      exact absurd (List.cons.inj e).1 (ne_of_isBare hc rfl)
    · rw [htake]
      split
      · next e => exact absurd e hk.nonempty
      · rw [hdrop, String.ofList_toList]
  show keyWith (78 + 1) _ = _
  rw [keyWith, hskip, hpart]
  rfl

theorem assignment_line {key : String} (hkey : IsBareKey key) {text : List Char} {v : Value}
    (h : IsText text v) (rest : List Char) :
    assignment (value maxDepth) (line key text ++ rest) = some (([key], v), '\n' :: rest) := by
  have hline : line key text ++ rest =
      key.toList ++ ' ' :: '=' :: ' ' :: (text ++ '\n' :: rest) := by
    simp [line]
  have hskip : skipBlanks (' ' :: (text ++ '\n' :: rest)) = text ++ '\n' :: rest :=
    h.skipBlanks rest
  rw [hline]
  exact Option.bind_eq_some_iff.2 ⟨_, key_of_isBareKey hkey _,
    Option.bind_eq_some_iff.2 ⟨_, rfl, Option.bind_eq_some_iff.2
      ⟨_, by rw [hskip]; exact h.read rest, rfl⟩⟩⟩

theorem assign_key (key : String) (v : Value) (ms : Members) :
    (⟨ms, []⟩ : Document).assign [key] v = (ms.add? key v).map fun ms => ⟨ms, []⟩ := rfl

/-- A line adds `key` and `v` to the members `ms` before it. -/
theorem lines_line {key : String} (hkey : IsBareKey key) {text : List Char} {v : Value}
    (h : IsText text v) (fuel : Nat) {ms ms' : Members} (hms : ms.add? key v = some ms')
    (rest : List Char) :
    lines (fuel + 1) ⟨ms, []⟩ (line key text ++ rest) = lines fuel ⟨ms', []⟩ rest := by
  have hassignment := assignment_line hkey h rest
  have hassign : (⟨ms, []⟩ : Document).assign [key] v = some ⟨ms', []⟩ := by
    rw [assign_key, hms]
    rfl
  have hend : lineEnd ('\n' :: rest) = some rest := rfl
  obtain ⟨c, cs, hcs⟩ := List.exists_cons_of_ne_nil hkey.nonempty
  have hc : isBare c = true := hkey.bare c (hcs ▸ List.mem_cons_self)
  obtain ⟨tail, htail⟩ : ∃ tail, line key text ++ rest = c :: tail := by
    rw [line, hcs]
    exact ⟨_, rfl⟩
  -- the line starts with its key: it is no comment, no header and not empty
  have hplain : ¬ (c = '#' ∨ c = '\n' ∨ c = '\r') := by
    simp [ne_of_isBare hc (d := '#') rfl, ne_of_isBare hc (d := '\n') rfl,
      ne_of_isBare hc (d := '\r') rfl]
  have hheader : c ≠ '[' := ne_of_isBare hc rfl
  rw [htail] at hassignment ⊢
  rw [lines, skipBlanks_of_isBare hc]
  dsimp only
  rw [if_neg hplain, if_neg hheader, hassignment]
  simp only [Option.bind_eq_bind, Option.bind_some, hassign, hend]

/-! ### Documents -/

namespace Members

theorem get?_eq_none_iff {key : String} {ms : Members} :
    ms.get? key = none ↔ ∀ m ∈ ms, m.1 ≠ key := by
  induction ms with
  | nil => simp [get?]
  | cons m ms ih =>
    obtain ⟨k, v⟩ := m
    by_cases hk : k = key <;> simp [get?, hk, ih]

theorem put_of_get?_eq_none {key : String} {v : Value} {ms : Members} (h : ms.get? key = none) :
    ms.put key v = ms ++ [(key, v)] := by
  induction ms with
  | nil => rfl
  | cons m ms ih =>
    obtain ⟨k, w⟩ := m
    have hk : k ≠ key := get?_eq_none_iff.1 h (k, w) List.mem_cons_self
    rw [get?, if_neg hk] at h
    rw [put, if_neg hk, ih h, List.cons_append]

theorem add?_of_get?_eq_none {key : String} {v : Value} {ms : Members} (h : ms.get? key = none) :
    ms.add? key v = some (ms ++ [(key, v)]) := by
  rw [add?, h]
  exact congrArg some (put_of_get?_eq_none h)

end Members

/-- **A text is a document of lines**, each with a key of its own and the text of a value. -/
inductive IsLines : List Char → Members → Prop where
  | nil : IsLines [] []
  | cons (key : String) {text : List Char} {v : Value} {s : List Char} {ms : Members}
      (hkey : IsBareKey key) (h : IsText text v) (hnew : ms.get? key = none) :
      IsLines s ms → IsLines (line key text ++ s) ((key, v) :: ms)

theorem IsLines.length_le {s : List Char} {ms : Members} (h : IsLines s ms) :
    ms.length ≤ s.length := by
  induction h with
  | nil => exact Nat.le_refl 0
  | @cons key text v s ms hkey _ _ _ ih =>
    have hpos : 1 ≤ (line key text).length := by
      simp only [line, List.length_append, List.length_cons]
      omega
    rw [List.length_cons, List.length_append]
    omega

/-- The lines of a document add its members `ms` behind those `before` them. -/
theorem lines_of_isLines {s : List Char} {ms : Members} (h : IsLines s ms) {before : Members}
    (hbefore : ∀ m ∈ ms, before.get? m.1 = none) {fuel : Nat} (hfuel : ms.length < fuel) :
    lines fuel ⟨before, []⟩ s = some ⟨before ++ ms, []⟩ := by
  induction h generalizing before fuel with
  | nil =>
    obtain ⟨fuel, rfl⟩ := Nat.exists_eq_add_of_lt hfuel
    rw [List.append_nil]
    rfl
  | @cons key text v s ms hkey htext hnew _ ih =>
    obtain ⟨fuel, rfl⟩ : ∃ n, fuel = n + 1 := ⟨fuel - 1, by omega⟩
    have hadd := Members.add?_of_get?_eq_none (v := v)
      (hbefore (key, v) List.mem_cons_self)
    -- the keys that follow are new also beside the one that is added now
    have hlater : ∀ m ∈ ms, Members.get? m.1 (before ++ [(key, v)]) = none := by
      intro m hm
      refine Members.get?_eq_none_iff.2 fun m' hm' => ?_
      rcases List.mem_append.1 hm' with hm' | hm'
      · exact Members.get?_eq_none_iff.1 (hbefore m (List.mem_cons_of_mem _ hm)) m' hm'
      · rw [List.mem_singleton.1 hm']
        exact (Members.get?_eq_none_iff.1 hnew m hm).symm
    rw [lines_line hkey htext fuel hadd, ih hlater (by simpa using hfuel), List.append_assoc]
    rfl

/-- **A document of lines is read back.** -/
theorem parse_of_isLines {s : List Char} {ms : Members} (h : IsLines s ms) :
    parse (.ofList s) = some ms := by
  have hmark : ∀ t, s ≠ '\ufeff' :: t := by
    rintro t rfl
    generalize hs : '\ufeff' :: t = s at h
    cases h with
    | nil => cases hs
    | @cons key text v s ms hkey =>
      obtain ⟨c, cs, hcs⟩ := List.exists_cons_of_ne_nil hkey.nonempty
      rw [line, hcs] at hs
      exact ne_of_isBare (hkey.bare c (hcs ▸ List.mem_cons_self)) (d := '\ufeff') rfl
        (List.cons.inj hs).1.symm
  have hlength := h.length_le
  rw [parse, String.toList_ofList]
  split
  · next t => exact absurd rfl (hmark t)
  · rw [Document.empty, lines_of_isLines h (fun m _ => rfl) (by omega)]
    rfl

end StreamRecords.Toml
