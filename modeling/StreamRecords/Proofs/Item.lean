import StreamRecords.Ledger.Answer
import StreamRecords.Proofs.Codec
import StreamRecords.Proofs.Json.CheckedText
import StreamRecords.Proofs.Json.RoundTrip

/-!
Items on the wire. An item crosses the wire with its time cut to the second, and all else of it
unchanged: its members are written in the order of its fields, and taken from the document that is
read.
-/

namespace StreamRecords

open Json Time

/-! ### Items of documents -/

/-- An item as it comes over the wire, where its time is a number of seconds. -/
def Item.floored (i : Item) : Item := { i with time := i.time.map Instant.floor }

/-- The number of seconds `n` is read exactly if it is one of the calendar. -/
theorem ofValue_seconds {n : Int} (exact : IsExact n) :
    (timestampFormat.ofValue (.number (.int n exact))).toOption =
      if legal : IsLegal n then some (.ofSeconds n legal) else none := by
  have hrange : timestampRange.least ≤ n ∧ n ≤ timestampRange.greatest :=
    ⟨exact.1, Int.le_of_lt_add_one exact.2⟩
  have hread : timestampRange.ofNumber (.int n exact) = .ok ⟨n, hrange⟩ := dif_pos hrange
  show (timestampRange.ofNumber (.int n exact) >>= fun m => refuse (instantOfTimestamp m)).toOption
    = _
  rw [hread]
  show (refuse (instantOfTimestamp ⟨n, hrange⟩)).toOption = _
  by_cases legal : IsLegal n
  · have hlegal : instantOfTimestamp ⟨n, hrange⟩ = .ok (.ofSeconds n legal) := dif_pos legal
    rw [hlegal, dif_pos legal]
    rfl
  · have hlegal : instantOfTimestamp ⟨n, hrange⟩ = .error _ := dif_neg legal
    rw [hlegal, dif_neg legal]
    rfl

@[simp] theorem ofValue_timestamp (t : Instant) :
    (Format.option timestampFormat).ofValue (IntRange.toValue (timestampOfInstant t)) =
      .ok (some t.floor) := by
  have hread : timestampFormat.ofValue (IntRange.toValue (timestampOfInstant t)) =
      .ok t.floor := by
    rw [← toOption_eq_some_iff]
    exact (ofValue_seconds (timestampOfInstant t).isExact).trans (dif_pos t.legal)
  show (timestampFormat.ofValue (IntRange.toValue (timestampOfInstant t))).map some = _
  rw [hread]
  rfl

@[simp]
theorem ofValue_encoding (e : Encoding) : encodingFormat.ofValue (.string e.text) = .ok e := by
  rw [encodingFormat_eq, ofValue_checked, Encoding.parse_text]
  rfl

section

variable (txid key : Option String) (time : Option (Option Instant)) (data : Option Encoding)

theorem ofMember_txid (s : String) :
    itemFields.ofMember (none, key, time, data, ()) ("txid", .string s) =
      .ok (some s, key, time, data, ()) :=
  Fields.ofMember_of_eq rfl rfl _

theorem ofMember_key (s : String) :
    itemFields.ofMember (txid, none, time, data, ()) ("key", .string s) =
      .ok (txid, some s, time, data, ()) := by
  rw [itemFields, Fields.ofMember_of_ne (by decide), Fields.ofMember_of_eq (by decide) rfl]
  rfl

theorem ofMember_blocktime (t : Instant) :
    itemFields.ofMember (txid, key, none, data, ())
      ("blocktime", IntRange.toValue (timestampOfInstant t)) =
      .ok (txid, key, some (some t.floor), data, ()) := by
  rw [itemFields, Fields.ofMember_of_ne (by decide), Fields.ofMember_of_ne (by decide),
    Fields.ofMember_of_eq (by decide) (ofValue_timestamp t)]
  rfl

theorem ofMember_data (e : Encoding) :
    itemFields.ofMember (txid, key, time, none, ()) ("data", .string e.text) =
      .ok (txid, key, time, some e, ()) := by
  rw [itemFields, Fields.ofMember_of_ne (by decide), Fields.ofMember_of_ne (by decide),
    Fields.ofMember_of_ne (by decide), Fields.ofMember_of_eq (by decide) (ofValue_encoding e)]
  rfl

end

@[simp] theorem ofValue_document (i : Item) : itemFormat.ofValue i.document = .ok i.floored := by
  obtain ⟨txid, key, time, data⟩ := i
  have hmembers (slot : Option (Option Instant)) :
      [("data", .string data.text), ("key", .string key), ("txid", .string txid)].foldlM
        itemFields.ofMember (none, none, slot, none, ()) =
        .ok (some txid, some key, slot, some data, ()) := by
    rw [foldlM_cons_of_ok (ofMember_data none none slot data),
      foldlM_cons_of_ok (ofMember_key none slot (some data) key),
      foldlM_cons_of_ok (ofMember_txid (some key) slot (some data) txid)]
    rfl
  -- the time is all that a document may lack, and it stands first in the order of the names, so the
  -- other three members are read alike behind it or without it
  have hread {members : List (String × Value)} {time : Option (Option Instant)}
      (h : members.foldlM itemFields.ofMember (none, none, none, none, ()) =
        .ok (some txid, some key, time, some data, ())) :
      itemFormat.ofValue (.object members) = .ok ⟨txid, key, time.getD none, data⟩ := by
    show (members.foldlM itemFields.ofMember (none, none, none, none, ()) >>=
      itemFields.finish) >>= _ = _
    rw [h]
    cases time <;> rfl
  cases time with
  | none => exact hread (hmembers none)
  | some t =>
    have htime := foldlM_cons_of_ok (ofMember_blocktime none none none t)
      [("data", .string data.text), ("key", .string key), ("txid", .string txid)]
    rw [hmembers] at htime
    exact hread htime

theorem document_spec (i : Item) :
    i.document.HasOnlyInts ∧ i.document.IsDocument ∧ i.document.depth = 1 := by
  obtain ⟨txid, key, time, data⟩ := i
  cases time with
  | none =>
    exact ⟨⟨trivial, trivial, trivial, trivial⟩,
      ⟨Dict.isSorted_of_names ["data", "key", "txid"] rfl (by decide), trivial, trivial, trivial,
        trivial⟩, rfl⟩
  | some t =>
    exact ⟨⟨trivial, trivial, trivial, trivial, trivial⟩,
      ⟨Dict.isSorted_of_names ["blocktime", "data", "key", "txid"] rfl (by decide),
        trivial, trivial, trivial, trivial, trivial⟩, rfl⟩

@[simp] theorem ofValue_listed (items : List Item) :
    (Format.list itemFormat).ofValue (Answer.listed items).document =
      .ok (items.map Item.floored) := by
  rw [Answer.document, Format.ofValue]
  show (items.map Item.document).mapM itemFormat.ofValue = _
  rw [List.mapM_map]
  exact mapM_eq_ok fun i _ => ofValue_document i

/-! ### Items as they are written -/

/-- An item as `itemFormat` writes it. -/
def Item.written (i : Item) : Value :=
  let time : List (String × Value) :=
    match i.time with
    | some t => [("blocktime", IntRange.toValue (timestampOfInstant t))]
    | none => []
  .object ([("txid", .string i.txid), ("key", .string i.key)] ++ time ++
    [("data", .string i.data.text)])

@[simp] theorem toValue_item (i : Item) : itemFormat.toValue i = .ok i.written := by
  obtain ⟨txid, key, time, data⟩ := i
  cases time <;> rfl

/-- The members of `i.written` are those of `i.document`, whose order is that of their names. -/
@[simp] theorem toDocument_written (i : Item) : i.written.toDocument = i.document := by
  obtain ⟨txid, key, time, data⟩ := i
  cases time <;> rfl

theorem written_spec (i : Item) : i.written.HasOnlyInts ∧ i.written.depth = 1 := by
  obtain ⟨txid, key, time, data⟩ := i
  cases time with
  | none => exact ⟨⟨trivial, trivial, trivial, trivial⟩, rfl⟩
  | some t => exact ⟨⟨trivial, trivial, trivial, trivial, trivial⟩, rfl⟩

def writtenItems (items : List Item) : Value := .list (items.map Item.written)

@[simp] theorem toValue_items (items : List Item) :
    (Format.list itemFormat).toValue items = .ok (writtenItems items) := by
  show (items.mapM itemFormat.toValue).map Value.list = _
  rw [mapM_eq_ok fun i _ => toValue_item i]
  rfl

@[simp] theorem toDocument_writtenItems (items : List Item) :
    (writtenItems items).toDocument = (Answer.listed items).document := by
  rw [writtenItems, Value.toDocument, toDocumentItems_eq_map, List.map_map, Answer.document]
  exact congrArg Value.list (List.map_congr_left fun i _ => toDocument_written i)

theorem writtenItems_spec (items : List Item) :
    (writtenItems items).HasOnlyInts ∧ (writtenItems items).depth ≤ 2 := by
  refine ⟨(itemsHaveOnlyInts_iff _).2 ?_, Nat.succ_le_succ (depthItems_le_iff.2 ?_)⟩
  · intro v hv
    obtain ⟨i, -, rfl⟩ := List.mem_map.1 hv
    exact (written_spec i).1
  · intro v hv
    obtain ⟨i, -, rfl⟩ := List.mem_map.1 hv
    exact Nat.le_of_eq (written_spec i).2

end StreamRecords
