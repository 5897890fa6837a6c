import StreamRecords.Proofs.Json.ReaderText

/-!
The compact text of a value is one line: whatever its strings hold, no character of it is a control
character, and so no byte of it is.
-/

namespace StreamRecords.Json

open Text

/-- No character of `cs` is a control character. -/
def NoControl (cs : List Char) : Prop := ∀ c ∈ cs, 0x20 ≤ c.toNat

theorem noControl_nil : NoControl [] := fun _ h => nomatch h

theorem NoControl.append {cs ds : List Char} (hcs : NoControl cs) (hds : NoControl ds) :
    NoControl (cs ++ ds) := by
  intro c hc
  rcases List.mem_append.1 hc with hc | hc
  · exact hcs c hc
  · exact hds c hc

theorem NoControl.cons {c : Char} {cs : List Char} (hc : 0x20 ≤ c.toNat) (hcs : NoControl cs) :
    NoControl (c :: cs) := by
  intro d hd
  rcases List.mem_cons.1 hd with rfl | hd
  · exact hc
  · exact hcs d hd

theorem noControl_singleton {c : Char} (hc : 0x20 ≤ c.toNat) : NoControl [c] :=
  noControl_nil.cons hc

theorem noControl_replicate (n : Nat) : NoControl (List.replicate n '0') := by
  intro c hc
  rw [List.eq_of_mem_replicate hc]
  decide

theorem NoControl.of_sublist {cs ds : List Char} (hds : NoControl ds) (h : cs.Sublist ds) :
    NoControl cs := fun c hc => hds c (h.mem hc)

/-! ### Numbers -/

theorem noControl_decimal (n : Nat) : NoControl (decimal n) := fun _ hc =>
  Nat.le_trans (by decide) (isDigit_of_mem_decimal hc).1

theorem noControl_decimalInt (n : Int) : NoControl (decimalInt n) := by
  rw [decimalInt]
  split
  · exact (noControl_decimal _).cons (by decide)
  · exact noControl_decimal _

theorem noControl_positional {digits : List Char} (h : NoControl digits) (point : Int) :
    NoControl (floatLayout.positional digits point) := by
  rw [FloatLayout.positional]
  split
  · exact (((noControl_replicate _).append h).cons (by decide)).cons (by decide)
  · split
    · exact (h.append (noControl_replicate _)).append
        ((noControl_singleton (by decide)).cons (by decide))
    · exact (h.of_sublist (List.take_sublist _ _)).append
        ((h.of_sublist (List.drop_sublist _ _)).cons (by decide))

theorem noControl_scientific {digits : List Char} (h : NoControl digits) (e : Int) :
    NoControl (floatLayout.scientific digits e) := by
  have hfraction : NoControl (if digits.length ≤ 1 then [] else '.' :: digits.drop 1) := by
    split
    · exact noControl_nil
    · exact (h.of_sublist (List.drop_sublist _ _)).cons (by decide)
  have hplus : NoControl (if 0 ≤ e then floatLayout.plus else []) := by
    split
    · exact noControl_singleton (by decide)
    · exact noControl_nil
  exact ((((h.of_sublist (List.take_sublist _ _)).append hfraction).append
    (noControl_singleton (by decide))).append hplus).append (noControl_decimalInt e)

theorem noControl_magnitude (x : Decimal.Magnitude) : NoControl (floatLayout.magnitude x) := by
  rw [FloatLayout.magnitude]
  split
  · exact ((noControl_singleton (by decide)).cons (by decide)).cons (by decide)
  · dsimp only
    split
    · exact noControl_positional (noControl_decimal _) _
    · exact noControl_scientific (noControl_decimal _) _

theorem noControl_floatText (x : Float) : NoControl (floatText x) := by
  rw [floatText]
  split
  · refine NoControl.append ?_ (noControl_magnitude _)
    split
    · exact noControl_nil
    · exact noControl_singleton (by decide)
  · simp [NoControl]

theorem Number.noControl_text (n : Number) : NoControl n.text := by
  cases n with
  | int n _ => exact noControl_decimalInt n
  | float x => exact noControl_floatText x

/-! ### Strings -/

theorem toNat_digitChar_ge : ∀ n < 16, 0x20 ≤ (Nat.digitChar n).toNat := by decide

theorem noControl_escapeChar (c : Char) : NoControl (escapeChar c) := by
  have hletter (d : Char) (hd : 0x20 ≤ d.toNat) : NoControl ['\\', d] :=
    (noControl_singleton hd).cons (by decide)
  -- seven characters have letters of their own; the last case but one escapes a control character
  unfold escapeChar
  split
  · exact hletter _ (by decide)
  split
  · exact hletter _ (by decide)
  split
  · exact hletter _ (by decide)
  split
  · exact hletter _ (by decide)
  split
  · exact hletter _ (by decide)
  split
  · exact hletter _ (by decide)
  split
  · exact hletter _ (by decide)
  split
  · next h =>
    have hhigh := toNat_digitChar_ge (c.toNat / 16) (by omega)
    have hlow := toNat_digitChar_ge (c.toNat % 16) (by omega)
    exact (hletter 'u' (by decide)).append
      ((((noControl_singleton hlow).cons hhigh).cons (by decide)).cons (by decide))
  · next h => exact noControl_singleton (by omega)

theorem noControl_stringText (s : String) : NoControl (stringText s) := by
  refine NoControl.cons (by decide) (NoControl.append ?_ (noControl_singleton (by decide)))
  intro c hc
  obtain ⟨d, -, hc⟩ := List.mem_flatMap.1 hc
  exact noControl_escapeChar d c hc

/-! ### Values -/

theorem noControl_itemsText {items : List Value} (h : ∀ v ∈ items, NoControl v.text) :
    NoControl (Value.itemsText items) := by
  induction items with
  | nil => exact noControl_nil
  | cons v items ih =>
    have hv := h v List.mem_cons_self
    have ih := ih fun w hw => h w (List.mem_cons_of_mem v hw)
    cases items with
    | nil => exact hv
    | cons w items => exact hv.append (ih.cons (by decide))

theorem noControl_membersText {members : List (String × Value)}
    (h : ∀ m ∈ members, NoControl m.2.text) : NoControl (Value.membersText members) := by
  induction members with
  | nil => exact noControl_nil
  | cons m members ih =>
    have hm : NoControl (stringText m.1 ++ ':' :: m.2.text) :=
      (noControl_stringText m.1).append ((h m List.mem_cons_self).cons (by decide))
    have ih := ih fun w hw => h w (List.mem_cons_of_mem m hw)
    cases members with
    | nil => exact hm
    | cons w members => exact hm.append (ih.cons (by decide))

/-- **No character of the compact text of a value is a control character.** -/
theorem noControl_text (v : Value) : NoControl v.text := by
  induction v using Value.induction with
  | null => simp [NoControl, Value.text]
  | bool b => cases b <;> simp [NoControl, Value.text]
  | number n => exact n.noControl_text
  | string s => exact noControl_stringText s
  | list items ih =>
    exact ((noControl_itemsText ih).cons (by decide)).append (noControl_singleton (by decide))
  | object members ih =>
    exact ((noControl_membersText ih).cons (by decide)).append (noControl_singleton (by decide))

/-! ### Bytes -/

theorem NoControl.le_of_mem_encode {cs : List Char} (h : NoControl cs) {b : UInt8}
    (hb : b ∈ Utf8.encode cs) : 0x20 ≤ b.toNat := by
  obtain ⟨c, hc, hb⟩ := List.mem_flatMap.1 hb
  by_cases hascii : c.toNat ≤ 0x7F
  · rw [Utf8.utf8EncodeChar_ascii hascii, List.mem_singleton] at hb
    rw [hb, Utf8.toNat_ofNat (by omega)]
    exact h c hc
  · exact Nat.le_trans (by decide) (Utf8.le_of_mem_utf8EncodeChar (by omega) hb)

/-- **The compact text of a value is one line.** -/
theorem newline_not_mem_bytes (v : Value) : 0x0A ∉ v.bytes := fun h =>
  absurd ((noControl_text v).le_of_mem_encode h) (by decide)

end StreamRecords.Json
