import StreamRecords.Proofs.Encoding
import StreamRecords.Proofs.Json.RoundTrip
import StreamRecords.Proofs.Text.Blank
import StreamRecords.Repository.Entity
import StreamRecords.Samples

/-!
Entities and their data. What the codec makes of data that are the text of a value is what the
format makes of the value, so an entity comes back from its data if its format takes it back from
its value.
-/

namespace StreamRecords

open Json

/-! ### Blanks and digits -/

namespace Text

theorem isBlank_of_isDigit {c : Char} (h : Hex.isDigit c = true) : isBlank c = false := by
  rw [Hex.isDigit, Hex.digitValue?_eq] at h
  simp only [isBlank, blankRanges, List.any_cons, List.any_nil]
  grind

end Text

/-! ### The texts of data -/

/-- The text `s` spells `e`: it is the hexadecimal text of its bytes up to the case of the letters,
with blanks around it or not. -/
def Encoding.IsSpelledBy (e : Encoding) (s : String) : Prop :=
  ∃ before digits after : List Char, s.toList = before ++ (digits ++ after) ∧
    (∀ c ∈ before, Text.isBlank c = true) ∧ (∀ c ∈ after, Text.isBlank c = true) ∧
    digits.map Char.toLower = e.text.toList

namespace Codec

variable {α : Type}

theorem deserialize_of_isSpelledBy (format : Format α) {data : Encoding} {s : String}
    (h : data.IsSpelledBy s) : deserialize format s = deserializeEncoding format data := by
  obtain ⟨before, digits, after, hs, hbefore, hafter, hd⟩ := h
  rw [Encoding.toList_text] at hd
  have hdigit := Hex.isDigit_of_map_toLower hd
  have htrim : Text.trim s = .ofList digits := by
    rw [Text.trim, hs, Text.trimChars_append hbefore hafter,
      Text.trimChars_of_noBlank fun c hc => Text.isBlank_of_isDigit (hdigit c hc)]
  have hdecode : Hex.decode (.ofList digits) = .ok data.bytes :=
    Hex.decode_of_map_toLower (by rwa [String.toList_ofList])
  rw [deserialize, htrim]
  by_cases hempty : String.ofList digits = ""
  · have hnil : digits = [] := by
      rw [← String.toList_ofList (l := digits), hempty]
      rfl
    have hlen : 0 = 2 * data.bytes.length := by
      rw [← Hex.length_encode, ← hd, hnil]
      rfl
    have hbytes : data.bytes = [] := List.eq_nil_of_length_eq_zero (by omega)
    rw [if_pos hempty, deserializeEncoding, if_pos (by rw [Encoding.isEmpty, hbytes]; rfl)]
  · rw [if_neg hempty, hexDecode, hdecode]
    rfl

/-! ### The data of a value -/

theorem serialize_of_toValue {format : Format α} {a : α} {v : Value}
    (h : format.toValue a = .ok v) : serialize format a = .ok ⟨v.bytes⟩ := by
  rw [serialize, Format.write, h]
  rfl

theorem exists_of_serialize {format : Format α} {a : α} {data : Encoding}
    (h : serialize format a = .ok data) : ∃ v, format.toValue a = .ok v ∧ data = ⟨v.bytes⟩ := by
  rw [serialize, Format.write] at h
  cases hv : format.toValue a with
  | error e => rw [hv] at h; cases h
  | ok v =>
    rw [hv] at h
    exact ⟨v, rfl, (Except.ok.inj h).symm⟩

theorem write_of_serialize {format : Format α} {a : α} {data : Encoding}
    (h : serialize format a = .ok data) : format.write a = .ok data.bytes := by
  obtain ⟨v, hv, rfl⟩ := exists_of_serialize h
  rw [Format.write, hv]
  rfl

@[simp] theorem isEmpty_bytes (v : Value) : Encoding.isEmpty ⟨v.bytes⟩ = false := by
  have := length_bytes_pos v
  rw [Encoding.isEmpty]
  cases e : v.bytes with
  | nil => rw [e] at this; exact absurd this (by decide)
  | cons b bs => rfl

theorem isEmpty_of_serialize {format : Format α} {a : α} {data : Encoding}
    (h : serialize format a = .ok data) : data.isEmpty = false := by
  obtain ⟨v, -, rfl⟩ := exists_of_serialize h
  exact isEmpty_bytes v

theorem deserializeEncoding_bytes (format : Format α) {v : Value} (h : v.HasOnlyInts) :
    deserializeEncoding format ⟨v.bytes⟩ =
      match format.upTo maxDepth v with
      | .ok a => .ok (some a)
      | .error e => .error (.json e.message) := by
  have hdecode : Utf8.decode v.bytes = .ok v.text := Utf8.decode_encode v.text
  rw [deserializeEncoding, isEmpty_bytes v, if_neg (by decide)]
  cases hread : format.upTo maxDepth v <;>
    simp only [hdecode, format.parse_bytes h, hread]

/-! ### Documents -/

theorem deserializeEncoding_document {v : Value} (h : v.HasOnlyInts) (hd : v.IsDocument) :
    deserializeEncoding .value ⟨v.bytes⟩ =
      if v.depth ≤ maxDepth then .ok (some v) else .error (.json Fault.tooDeep.message) := by
  rw [deserializeEncoding_bytes .value h, Format.upTo, Value.upTo, toDocument_of_isDocument hd]
  by_cases hv : v.depth ≤ maxDepth
  · rw [if_pos hv, if_pos hv]
  · rw [if_neg hv, if_neg hv]

theorem deserializeEncoding_of_returns {format : Format α} {a : α} {v : Value}
    (h : format.Returns maxDepth a v) :
    serialize format a = .ok ⟨v.bytes⟩ ∧
      deserializeEncoding format ⟨v.bytes⟩ = .ok (some a) := by
  refine ⟨serialize_of_toValue h.written, ?_⟩
  rw [deserializeEncoding_bytes format h.ints, h.read]

end Codec

/-! ### Orders -/

namespace Samples.Order

def quantityValue (o : Order) : Value :=
  .number (.int o.quantity.toNat ⟨by omega, by have := o.quantity.toNat_lt; omega⟩)

def noteValue (o : Order) : Value := o.note.elim .null .string

/-- An order as it is written. -/
def toValue (o : Order) : Value :=
  .object [("id", .string o.id), ("qty", o.quantityValue), ("note", o.noteValue),
    ("tags", .list (o.tags.map .string))]

theorem returns_quantity (o : Order) (depth : Nat) :
    Format.word32.Returns depth o.quantity o.quantityValue := by
  refine Format.Returns.iso (returns_int depth _) ?_
  rw [Int.toNat_natCast, UInt32.ofNat_toNat]

theorem returns_note (o : Order) (depth : Nat) :
    (Format.option .text).Returns depth o.note o.noteValue := by
  rw [noteValue]
  cases o.note with
  | none => exact returns_none _ depth
  | some note => exact (returns_text depth note).some (by simp)

/-- Every order comes back from what is written for it. -/
theorem returns (o : Order) : format.Returns maxDepth o o.toValue := by
  have htags : (Format.list .text).Returns 126 o.tags (.list (o.tags.map .string)) :=
    returns_list fun tag _ => returns_text 125 tag
  have h₁ := (return_nil 126).cons (.required "tags") htags rfl (by simp)
  have h₂ := h₁.cons (.optional "note") (o.returns_note 126) rfl
    (by simp [Field.required, Field.optional])
  have h₃ := h₂.cons (.required "qty") (o.returns_quantity 126) rfl
    (by simp [Field.required, Field.optional])
  have h₄ := h₃.cons (.required "id") (returns_text 126 o.id) rfl
    (by simp [Field.required, Field.optional])
  refine Format.Returns.iso ?_ rfl
  exact h₄.record "Order"

end Samples.Order

/-! ### Round trips -/

/-- **Documents and orders come back from their data**, which are hexadecimal digits in lowercase.
A document comes back from the data or from any text that spells them if it is nested no deeper
than 127 levels, and if it is deeper this is what is reported; an order always comes back. -/
theorem Codec.deserialize_serialize :
    (∀ v : Value, v.HasOnlyInts → v.IsDocument →
      ∃ data, serialize .value v = .ok data ∧
        data.text ≠ "" ∧ data.text.length % 2 = 0 ∧
        (∀ c ∈ data.text.toList, Hex.IsLowercaseDigit c) ∧
        deserializeEncoding .value data =
          (if v.depth ≤ 127 then .ok (some v) else .error (.json Fault.tooDeep.message)) ∧
        ∀ s, data.IsSpelledBy s → deserialize .value s =
          if v.depth ≤ 127 then .ok (some v) else .error (.json Fault.tooDeep.message)) ∧
    ∀ o : Samples.Order, ∃ data, serialize Samples.Order.format o = .ok data ∧
      deserializeEncoding Samples.Order.format data = .ok (some o) ∧
      ∀ s, data.IsSpelledBy s → deserialize Samples.Order.format s = .ok (some o) := by
  refine ⟨fun v h hd => ?_, fun o => ?_⟩
  · have hread := deserializeEncoding_document h hd
    refine ⟨⟨v.bytes⟩, serialize_of_toValue rfl, Encoding.text_ne_empty (isEmpty_bytes v),
      Encoding.length_text_mod_two _, Encoding.isLowercaseDigit_text _, hread, fun s hs => ?_⟩
    rw [deserialize_of_isSpelledBy .value hs]
    exact hread
  · obtain ⟨hwrite, hread⟩ := deserializeEncoding_of_returns o.returns
    refine ⟨_, hwrite, hread, fun s hs => ?_⟩
    rw [deserialize_of_isSpelledBy _ hs]
    exact hread

theorem Codec.deserialize_serialize_nested :
    let v : Value := .object
      [("\"\n", .list [.null, .number (.int (-9223372036854775808) (by decide))]),
        ("é", .bool true)]
    v.HasOnlyInts ∧ v.IsDocument ∧
      ∃ data, serialize .value v = .ok data ∧ deserializeEncoding .value data = .ok (some v) := by
  intro v
  have h : v.HasOnlyInts := ⟨⟨trivial, trivial, trivial⟩, trivial, trivial⟩
  have hd : v.IsDocument :=
    ⟨Dict.isSorted_of_names ["\"\n", "é"] rfl (by decide), ⟨trivial, trivial, trivial⟩, trivial,
      trivial⟩
  obtain ⟨data, hwrite, -, -, -, hread, -⟩ := Codec.deserialize_serialize.1 v h hd
  exact ⟨h, hd, data, hwrite, hread⟩

end StreamRecords
