import StreamRecords.Json.ValueReader
import StreamRecords.Proofs.Json.ReaderText

/-!
Values as they are written. The text of a value is read back as the document with its members if it
is nested no deeper than is allowed, and is refused for its depth otherwise.
-/

namespace StreamRecords.Json

/-- What reading the text of a value gives when it may be nested no deeper than `depth`. -/
def Value.upTo (depth : Nat) (v : Value) : Except Fault Value :=
  if v.depth ≤ depth then .ok v.toDocument else .error .tooDeep

theorem mapM_upTo (depth : Nat) (items : List Value) :
    items.mapM (Value.upTo depth) =
      if Value.depthItems items ≤ depth then .ok (Value.toDocumentItems items)
      else .error .tooDeep := by
  induction items with
  | nil => rfl
  | cons v items ih =>
    rw [List.mapM_cons, ih, Value.upTo, Value.depthItems]
    by_cases hv : v.depth ≤ depth
    · by_cases hi : Value.depthItems items ≤ depth
      · rw [if_pos hv, if_pos hi, if_pos (by omega)]
        rfl
      · rw [if_pos hv, if_neg hi, if_neg (by omega)]
        rfl
    · have hm : ¬ max v.depth (Value.depthItems items) ≤ depth := by omega
      rw [if_neg hv, if_neg hm]
      rfl

/-- Takes the member `m` into an object of which nothing may be nested deeper than `depth`. -/
def Value.insertUpTo (depth : Nat) (ms : List (String × Value)) (m : String × Value) :
    Except Fault (List (String × Value)) :=
  (m.2.upTo depth).map fun v => Dict.insert m.1 v ms

theorem foldlM_insertUpTo (depth : Nat) (members start : List (String × Value)) :
    members.foldlM (Value.insertUpTo depth) start =
      if Value.depthMembers members ≤ depth then
        .ok ((Value.toDocumentMembers members).foldl (fun d (k, a) => Dict.insert k a d) start)
      else .error .tooDeep := by
  induction members generalizing start with
  | nil => rfl
  | cons m members ih =>
    obtain ⟨k, v⟩ := m
    rw [List.foldlM_cons, Value.insertUpTo, Value.upTo, Value.depthMembers]
    by_cases hv : v.depth ≤ depth
    · rw [if_pos hv]
      show List.foldlM _ (Dict.insert k v.toDocument start) members = _
      rw [ih]
      by_cases hm : Value.depthMembers members ≤ depth
      · rw [if_pos hm, if_pos (by omega)]
        rfl
      · rw [if_neg hm, if_neg (by omega)]
    · rw [if_neg hv, if_neg (by omega)]
      rfl

theorem documentMember_memberTail {read : Reader Value} {m : String × Value} {depth : Nat}
    (h : ReadsAs read m.2 (m.2.upTo depth)) :
    ReadsMemberAs (documentMember read) (Value.insertUpTo depth) m := by
  intro ms rest hrest
  rw [documentMember, stringTail_memberTail]
  show (read (m.2.bytes ++ rest) >>= fun p => pure (Dict.insert m.1 p.1 ms, p.2)) = _
  rw [h rest hrest, Value.insertUpTo]
  cases m.2.upTo depth <;> rfl

/-! ### Reading back, by the kind of the value -/

/-- **The text of `v` is read back** as its document, at whatever depth it stands. -/
def Value.ReadsBack (v : Value) : Prop := ∀ depth, ReadsAs (value depth) v (v.upTo depth)

/-- `ReadsBack` of a value that holds nothing, for which no reader of items and members matters. -/
theorem readsBack_of_valueWith {v : Value} (hdepth : v.depth = 0)
    (h : ∀ inner, ReadsAs (valueWith inner) v (.ok v.toDocument)) : v.ReadsBack := by
  intro depth
  obtain ⟨inner, hinner⟩ := value_eq_valueWith depth
  rw [hinner, Value.upTo, if_pos (by omega)]
  exact h inner

theorem readsBack_null : Value.null.ReadsBack :=
  readsBack_of_valueWith rfl fun _ _ _ => valueWith_letterN rfl

theorem readsBack_bool (b : Bool) : (Value.bool b).ReadsBack := by
  refine readsBack_of_valueWith rfl fun _ _ _ => ?_
  cases b
  · exact valueWith_letterF rfl
  · exact valueWith_letterT rfl

theorem readsBack_int {n : Int} (hn : IsExact n) : (Value.number (.int n hn)).ReadsBack := by
  refine readsBack_of_valueWith rfl fun _ rest hrest => ?_
  have hint : (Value.number (.int n hn)).HasOnlyInts := trivial
  have hlead : lead (skipSpace ((Value.number (.int n hn)).bytes ++ rest)) ∈ [.minus, .digit] := by
    rw [skipSpace_bytes hint, lead_bytes hint, Value.lead]
    split <;> simp
  rw [valueWith_number hlead, skipSpace_bytes hint]
  show (number (Utf8.encode (Text.decimalInt n) ++ rest)).map _ = _
  rw [number_decimalInt hn hrest.endsNumeral]
  rfl

theorem readsBack_string (t : String) : (Value.string t).ReadsBack := by
  refine readsBack_of_valueWith rfl fun _ rest _ => ?_
  rw [bytes_string, valueWith_quote rfl]
  show (stringTail (Utf8.encode (t.toList.flatMap escapeChar) ++ 0x22 :: rest)).map _ = _
  rw [stringTail_chars]
  rfl

theorem readsBack_list {items : List Value} (h : ∀ v ∈ items, v.HasOnlyInts)
    (hitems : ∀ v ∈ items, v.ReadsBack) : (Value.list items).ReadsBack := by
  intro depth rest _
  rw [bytes_list, Value.upTo, Value.depth]
  cases depth with
  | zero => exact valueWith_tooDeep (.head _)
  | succ depth =>
    rw [value, valueWith_openList rfl]
    show (listTail (value depth) (Utf8.encode (Value.itemsText items) ++ 0x5D :: rest)).map _ = _
    rw [listTail_itemsText h fun v hv => hitems v hv depth, mapM_upTo]
    by_cases hd : Value.depthItems items ≤ depth
    · rw [if_pos hd, if_pos (by omega)]
      rfl
    · rw [if_neg hd, if_neg (by omega)]
      rfl

theorem readsBack_object {members : List (String × Value)}
    (hmembers : ∀ m ∈ members, m.2.ReadsBack) : (Value.object members).ReadsBack := by
  intro depth rest _
  rw [bytes_object, Value.upTo, Value.depth]
  cases depth with
  | zero => exact valueWith_tooDeep (.tail _ (.head _))
  | succ depth =>
    rw [value, valueWith_openObject rfl]
    show (objectTail (documentMember (value depth)) []
      (Utf8.encode (Value.membersText members) ++ 0x7D :: rest)).map _ = _
    rw [objectTail_membersText fun m hm => documentMember_memberTail (hmembers m hm depth),
      foldlM_insertUpTo]
    by_cases hd : Value.depthMembers members ≤ depth
    · rw [if_pos hd, if_pos (by omega)]
      rfl
    · rw [if_neg hd, if_neg (by omega)]
      rfl

/-- **A value that is written is read back as a document**, unless it is nested too deep: then this
is what is reported, whatever follows. -/
theorem value_bytes {v : Value} (h : v.HasOnlyInts) : v.ReadsBack := by
  induction v using Value.induction with
  | null => exact readsBack_null
  | bool b => exact readsBack_bool b
  | number n =>
    cases n with
    | float x => exact absurd h (fun h => h)
    | int n hn => exact readsBack_int hn
  | string t => exact readsBack_string t
  | list items ih =>
    have hint := (itemsHaveOnlyInts_iff items).1 h
    exact readsBack_list hint fun v hv => ih v hv (hint v hv)
  | object members ih =>
    have hint := (membersHaveOnlyInts_iff members).1 h
    exact readsBack_object fun m hm => ih m hm (hint m hm)

end StreamRecords.Json
