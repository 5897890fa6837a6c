import StreamRecords.Json.Format
import StreamRecords.Proofs.Json.FormatText
import StreamRecords.Proofs.Json.Value

/-!
What is written by a format and read back. A format is put together from others, and each way to do
so keeps the values that come back.
-/

namespace StreamRecords.Json

variable {α β σ : Type}

/-- **The value `a` comes back**: `v` is written for it, and it is read from `v` within `depth`. -/
structure Format.Returns (format : Format α) (depth : Nat) (a : α) (v : Value) : Prop where
  written : format.toValue a = .ok v
  ints : v.HasOnlyInts
  read : format.upTo depth v = .ok a

/-- The fields `a` of a record come back from the `members` that are written for them. -/
structure Fields.Return (fields : Fields α σ) (depth : Nat) (a : α)
    (members : List (String × Value)) : Prop where
  written : fields.toMembers a = .ok members
  ints : ∀ m ∈ members, m.2.HasOnlyInts
  read : members.foldlM (fields.memberUpTo depth) fields.noSlots >>= fields.finish = .ok a

/-! ### Simple formats -/

theorem returns_string (wanted : String) (depth : Nat) (s : String) :
    (Format.string wanted).Returns depth s (.string s) := ⟨rfl, trivial, rfl⟩

theorem returns_text (depth : Nat) (s : String) : Format.text.Returns depth s (.string s) :=
  returns_string _ depth s

theorem returns_int {range : IntRange} (depth : Nat) (n : range.Member) :
    (Format.int range).Returns depth n (IntRange.toValue n) := ⟨rfl, trivial, dif_pos n.property⟩

theorem returns_value {depth : Nat} {v : Value} (h : v.HasOnlyInts) (hd : v.IsDocument)
    (hv : v.depth ≤ depth) : Format.value.Returns depth v v := by
  refine ⟨rfl, h, ?_⟩
  show v.upTo depth = _
  rw [Value.upTo, if_pos hv, toDocument_of_isDocument hd]

/-! ### Documents and their compact texts -/

theorem Value.parse_compact {v : Value} (h : v.HasOnlyInts) :
    Value.parse (Text.bytes v.compact) = v.upTo maxDepth := by
  rw [Text.bytes, Value.compact, String.toList_ofList]
  exact Value.parse_bytes h

/-- The compact text of `v` spells the document with its members. -/
theorem Value.eq_of_parse_compact {v doc : Value} (h : v.HasOnlyInts)
    (hparse : Value.parse (Text.bytes v.compact) = .ok doc) : doc = v.toDocument := by
  rw [Value.parse_compact h, Value.upTo] at hparse
  split at hparse
  · exact (Except.ok.inj hparse).symm
  · cases hparse

/-- Documents that can be read are known by their compact texts. -/
theorem Value.eq_of_compact_eq {v w : Value} (hv : v.HasOnlyInts) (hw : w.HasOnlyInts)
    (hdv : v.IsDocument) (hdw : w.IsDocument) (hdepth : v.depth ≤ maxDepth)
    (h : v.compact = w.compact) : v = w := by
  have hparse : Value.parse (Text.bytes w.compact) = .ok v := by
    rw [← h, Value.parse_compact hv, Value.upTo, if_pos hdepth, toDocument_of_isDocument hdv]
  exact (Value.eq_of_parse_compact hw hparse).trans (toDocument_of_isDocument hdw)

/-! ### Formats made of others -/

theorem Format.Returns.iso {format : Format α} {decode : α → β} {encode : β → α} {depth : Nat}
    {b : β} {v : Value} (h : format.Returns depth (encode b) v) (hb : decode (encode b) = b) :
    (format.iso decode encode).Returns depth b v := by
  refine ⟨?_, h.ints, ?_⟩
  · exact h.written
  · show (format.upTo depth v >>= fun a => refuse (.ok (decode a))) = _
    rw [h.read]
    exact congrArg Except.ok hb

theorem returns_none (format : Format α) (depth : Nat) :
    format.option.Returns depth none .null := ⟨rfl, trivial, rfl⟩

theorem Format.Returns.some {format : Format α} {depth : Nat} {a : α} {v : Value}
    (h : format.Returns depth a v) (hv : v ≠ .null) : format.option.Returns depth (some a) v := by
  refine ⟨h.written, h.ints, ?_⟩
  rw [upTo_option hv, h.read]
  rfl

theorem mapM_eq_ok {ε : Type} {f : α → Except ε β} {g : α → β} {as : List α}
    (h : ∀ a ∈ as, f a = .ok (g a)) : as.mapM f = .ok (as.map g) := by
  induction as with
  | nil => rfl
  | cons a as ih =>
    rw [List.mapM_cons, h a List.mem_cons_self, ih fun b hb => h b (List.mem_cons_of_mem a hb)]
    rfl

theorem returns_list {format : Format α} {depth : Nat} {as : List α} {f : α → Value}
    (h : ∀ a ∈ as, format.Returns depth a (f a)) :
    format.list.Returns (depth + 1) as (.list (as.map f)) := by
  refine ⟨?_, (itemsHaveOnlyInts_iff _).2 fun v hv => ?_, ?_⟩
  · show (as.mapM format.toValue).map Value.list = _
    rw [mapM_eq_ok fun a ha => (h a ha).written]
    rfl
  · obtain ⟨a, ha, rfl⟩ := List.mem_map.1 hv
    exact (h a ha).ints
  · show (as.map f).mapM (format.upTo depth) = _
    rw [List.mapM_map]
    exact (mapM_eq_ok fun a ha => (h a ha).read).trans (congrArg Except.ok (List.map_id' as))

theorem Fields.Return.record {fields : Fields α σ} {depth : Nat} {a : α}
    {members : List (String × Value)} (h : fields.Return depth a members) (name : String) :
    (Format.record name fields).Returns (depth + 1) a (.object members) := by
  refine ⟨?_, (membersHaveOnlyInts_iff _).2 h.ints, h.read⟩
  show (fields.toMembers a).map Value.object = _
  rw [h.written]
  rfl

/-! ### Fields -/

theorem return_nil (depth : Nat) : Fields.nil.Return depth () [] :=
  ⟨rfl, fun _ hm => absurd hm List.not_mem_nil, rfl⟩

/-- `members` with other names leave the slot of `field` as it is. -/
theorem foldlM_memberUpTo_of_ne {field : Field α} {format : Format α} {rest : Fields β σ}
    {depth : Nat} {members : List (String × Value)} (h : ∀ m ∈ members, m.1 ≠ field.name)
    (slot : Option α) (slots : σ) :
    members.foldlM ((Fields.cons field format rest).memberUpTo depth) (slot, slots) =
      (members.foldlM (rest.memberUpTo depth) slots).map (slot, ·) := by
  induction members generalizing slots with
  | nil => rfl
  | cons m members ih =>
    rw [List.foldlM_cons, List.foldlM_cons, memberUpTo_cons, if_neg (h m List.mem_cons_self)]
    cases rest.memberUpTo depth slots m with
    | error e => rfl
    | ok slots => exact ih (fun n hn => h n (List.mem_cons_of_mem m hn)) slots

theorem Fields.finish_cons {field : Field α} {format : Format α} {rest : Fields β σ}
    {slot : Option α} {a : α} (h : (slot <|> field.absence.inObject?) = some a)
    (r : Except Fault σ) :
    ((r.map (slot, ·)) >>= (Fields.cons field format rest).finish) =
      (r >>= rest.finish).map (a, ·) := by
  cases r with
  | error e => rfl
  | ok slots =>
    show (Fields.cons field format rest).finish (slot, slots) = (rest.finish slots).map (a, ·)
    cases slot with
    | some b =>
      cases Option.some.inj h
      rw [Fields.finish]
      cases rest.finish slots <;> rfl
    | none =>
      have h : field.absence.inObject? = some a := h
      simp only [Fields.finish, h]
      cases rest.finish slots <;> rfl

/-- A `field` that is written comes back, if the others do and none has its name. -/
theorem Fields.Return.cons {format : Format α} {rest : Fields β σ} {depth : Nat} {a : α} {b : β}
    {v : Value} {members : List (String × Value)} (h : rest.Return depth b members)
    (field : Field α) (ha : format.Returns depth a v)
    (hshown : field.hidden a = false) (hname : ∀ m ∈ members, m.1 ≠ field.name) :
    (Fields.cons field format rest).Return depth (a, b) ((field.name, v) :: members) := by
  refine ⟨?_, fun m hm => ?_, ?_⟩
  · rw [Fields.toMembers, hshown, if_neg (by decide), ha.written, h.written]
    rfl
  · rcases List.mem_cons.1 hm with rfl | hm
    · exact ha.ints
    · exact h.ints m hm
  · rw [List.foldlM_cons, Fields.noSlots, memberUpTo_cons, if_pos rfl]
    show (((format.upTo depth v).map fun a => (some a, rest.noSlots)) >>= _) >>= _ = _
    rw [ha.read]
    show members.foldlM _ (some a, rest.noSlots) >>= _ = _
    rw [foldlM_memberUpTo_of_ne hname, Fields.finish_cons rfl, h.read]
    rfl

end StreamRecords.Json
