import StreamRecords.Json.Format.Read
import StreamRecords.Proofs.Json.SkipText
import StreamRecords.Proofs.Json.ValueText

/-!
Formats and the text of values. What a format reads from the text of a value is told by the value
alone, by recursion on the format: `Format.upTo`.
-/

namespace StreamRecords.Json

/-! ### What a format makes of a value -/

/-- One level of nesting is used up for `inner`, if one is left. -/
def within {α : Type} (depth : Nat) (inner : Nat → Except Fault α) : Except Fault α :=
  match depth with
  | 0 => .error .tooDeep
  | depth + 1 => inner depth

mutual

/-- **What `format` reads from the text of `v`** when it may be nested no deeper than `depth`. -/
def Format.upTo : {α : Type} → Format α → Nat → Value → Except Fault α
  | _, .unit, _, v =>
    match v with
    | .null => .ok ()
    | _ => .error (.wrongType v.found "unit")
  | _, .bool, _, v =>
    match v with
    | .bool b => .ok b
    | _ => .error (.wrongType v.found "a boolean")
  | _, .int range, _, v =>
    match v with
    | .number n => range.ofNumber n
    | _ => .error (.wrongType v.found range.name)
  | _, .string wanted, _, v =>
    match v with
    | .string s => .ok s
    | _ => .error (.wrongType v.found wanted)
  | _, .value, depth, v => v.upTo depth
  | _, .option format, depth, v =>
    match v with
    | .null => .ok none
    | _ => (format.upTo depth v).map some
  | _, .list format, depth, v =>
    match v with
    | .list items => within depth fun depth => items.mapM (format.upTo depth)
    | _ => .error (.wrongType v.found "a sequence")
  | _, .dict format, depth, v =>
    match v with
    | .object members => within depth fun depth =>
      members.foldlM (fun d m => (format.upTo depth m.2).map fun a => Dict.insert m.1 a d) []
    | _ => .error (.wrongType v.found "a map")
  | _, .record name fields, depth, v =>
    match v with
    | .list items => within depth fun depth => do
      let (a, rest) ← fields.itemsUpTo depth (recordWanted name fields.count) 0 items
      if rest.isEmpty then return a else throw .trailingText
    | .object members => within depth fun depth => do
      let slots ← members.foldlM (fields.memberUpTo depth) fields.noSlots
      fields.finish slots
    | _ => .error (.wrongType v.found s!"struct {name}")
  | _, .via format decode _, depth, v => do
    let a ← format.upTo depth v
    refuse (decode a)

/-- Takes the member `m` into the slot of the field with its name, if there is one. -/
def Fields.memberUpTo : {α σ : Type} → Fields α σ → Nat → σ → String × Value → Except Fault σ
  | _, _, .nil, _, slots, _ => .ok slots
  | _, _, .cons field format rest, depth, (slot, slots), m =>
    if m.1 = field.name then
      match slot with
      | some _ => .error (.duplicateField m.1)
      | none => (format.upTo depth m.2).map fun a => (some a, slots)
    else (rest.memberUpTo depth slots m).map fun slots => (slot, slots)

/-- The fields from `items`, of which the first has the number `index`, with the items that are left
over. -/
def Fields.itemsUpTo :
    {α σ : Type} → Fields α σ → Nat → String → Nat → List Value → Except Fault (α × List Value)
  | _, _, .nil, _, _, _, items => .ok ((), items)
  | _, _, .cons field format rest, depth, wanted, index, items => do
    match items with
    | [] =>
      match field.absence.inList? with
      | none => throw (.wrongLength index wanted)
      | some a =>
        let (b, items) ← rest.itemsUpTo depth wanted (index + 1) []
        return ((a, b), items)
    | v :: items =>
      let a ← format.upTo depth v
      let (b, items) ← rest.itemsUpTo depth wanted (index + 1) items
      return ((a, b), items)

end

/-! ### Values of another type -/

theorem mismatch_bytes {v : Value} (h : v.HasOnlyInts) (wanted : String) {rest : Bytes}
    (hrest : EndsValue rest) : mismatch wanted (v.bytes ++ rest) = .wrongType v.found wanted := by
  unfold mismatch
  match v, h with
  | .null, _ => rfl
  | .bool true, _ => rfl
  | .bool false, _ => rfl
  -- the fault says which number it is, so the number is read after all
  | .number (.int n hn), h =>
    have hnum : number ((Value.number (.int n hn)).bytes ++ rest) = .ok (.int n hn, rest) :=
      number_decimalInt hn hrest.endsNumeral
    rw [lead_bytes h, hnum, Value.lead]
    by_cases hneg : n < 0
    · rw [if_pos hneg]
      rfl
    · rw [if_neg hneg]
      rfl
  | .string t, h =>
    have htail : stringTail ((Value.string t).bytes ++ rest).tail = .ok (t, rest) := by
      rw [bytes_string]
      exact stringTail_chars t rest
    rw [lead_bytes h, htail]
    rfl
  | .list items, _ => rfl
  | .object members, _ => rfl

/-! ### Reading by a format -/

/-- The text of `items` in the middle of a list: a comma goes before each that is not the `first`
one. -/
def nextItems (first : Bool) (items : List Value) : Bytes :=
  if first then Utf8.encode (Value.itemsText items) else laterItems items

theorem nextItem_nil (first : Bool) (rest : Bytes) :
    nextItem first (nextItems first [] ++ 0x5D :: rest) = .ok (.closed rest) := by
  cases first <;> rfl

theorem nextItem_cons (first : Bool) {v : Value} (h : v.HasOnlyInts) (items : List Value)
    (rest : Bytes) :
    nextItem first (nextItems first (v :: items) ++ 0x5D :: rest) =
      .ok (.another (v.bytes ++ (nextItems false items ++ 0x5D :: rest))) := by
  cases first with
  | true =>
    rw [nextItems, if_pos rfl, encode_itemsText, List.append_assoc, nextItem_bytes h]
    rfl
  | false =>
    have e : laterItems (v :: items) ++ 0x5D :: rest =
        0x2C :: (v.bytes ++ (laterItems items ++ 0x5D :: rest)) := by
      simp [laterItems]
    rw [nextItems, if_neg (by decide), e, nextItem_comma h]
    rfl

theorem closeList_nil (first : Bool) (rest : Bytes) :
    closeList (nextItems first [] ++ 0x5D :: rest) = .ok rest := by
  cases first <;> rfl

theorem closeList_cons (first : Bool) {v : Value} (h : v.HasOnlyInts) (items : List Value)
    (rest : Bytes) :
    closeList (nextItems first (v :: items) ++ 0x5D :: rest) = .error .trailingText := by
  cases first with
  | true =>
    rw [nextItems, if_pos rfl, encode_itemsText, List.append_assoc]
    unfold closeList
    simp only [skipSpace_bytes h, lead_bytes h]
    rcases v.lead_cases with e | e | e | e | e | e | e | e <;> rw [e]
  | false =>
    have e : laterItems (v :: items) ++ 0x5D :: rest =
        0x2C :: (v.bytes ++ (laterItems items ++ 0x5D :: rest)) := by
      simp [laterItems]
    have hc : skipSpace (0x2C :: (v.bytes ++ (laterItems items ++ 0x5D :: rest))) =
        0x2C :: (v.bytes ++ (laterItems items ++ 0x5D :: rest)) := rfl
    have hl : lead (0x2C :: (v.bytes ++ (laterItems items ++ 0x5D :: rest))) = .comma := rfl
    rw [nextItems, if_neg (by decide), e]
    unfold closeList
    simp only [hc, hl, List.tail_cons, skipSpace_bytes h, lead_bytes h]
    rcases v.lead_cases with e | e | e | e | e | e | e | e <;> rw [e]

theorem Value.lead_number (n : Number) :
    (Value.number n).lead = .minus ∨ (Value.number n).lead = .digit := by
  cases n with
  | int n _ =>
    rw [Value.lead]
    split
    · exact .inl rfl
    · exact .inr rfl
  | float x => exact .inr rfl

theorem read_unit {v : Value} (h : v.HasOnlyInts) (depth : Nat) :
    ReadsAs (Format.unit.read depth) v (Format.unit.upTo depth v) := by
  intro rest hrest
  simp only [Format.read, skipSpace_bytes h, lead_bytes h, mismatch_bytes h _ hrest]
  cases v with
  | bool b => cases b <;> rfl
  | number n => rcases Value.lead_number n with e | e <;> rw [e] <;> rfl
  | _ => rfl

theorem read_bool {v : Value} (h : v.HasOnlyInts) (depth : Nat) :
    ReadsAs (Format.bool.read depth) v (Format.bool.upTo depth v) := by
  intro rest hrest
  simp only [Format.read, skipSpace_bytes h, lead_bytes h, mismatch_bytes h _ hrest]
  cases v with
  | bool b => cases b <;> rfl
  | number n => rcases Value.lead_number n with e | e <;> rw [e] <;> rfl
  | _ => rfl

theorem read_int (range : IntRange) {v : Value} (h : v.HasOnlyInts) (depth : Nat) :
    ReadsAs ((Format.int range).read depth) v ((Format.int range).upTo depth v) := by
  intro rest hrest
  simp only [Format.read, skipSpace_bytes h, lead_bytes h, mismatch_bytes h _ hrest]
  cases v with
  | bool b => cases b <;> rfl
  | number n =>
    have hnum : number ((Value.number n).bytes ++ rest) = .ok (n, rest) := by
      cases n with
      | float x => exact absurd h (fun h => h)
      | int n hn => exact number_decimalInt hn hrest.endsNumeral
    rcases Value.lead_number n with e | e
    all_goals
      simp only [e, hnum]
      show (range.ofNumber n >>= fun a => pure (a, rest)) =
        (range.ofNumber n).map fun a => (a, rest)
      cases range.ofNumber n <;> rfl
  | _ => rfl

theorem read_string (wanted : String) {v : Value} (h : v.HasOnlyInts) (depth : Nat) :
    ReadsAs ((Format.string wanted).read depth) v ((Format.string wanted).upTo depth v) := by
  intro rest hrest
  simp only [Format.read, skipSpace_bytes h, lead_bytes h, mismatch_bytes h _ hrest]
  cases v with
  | bool b => cases b <;> rfl
  | number n => rcases Value.lead_number n with e | e <;> rw [e] <;> rfl
  | string t =>
    rw [bytes_string]
    exact stringTail_chars t rest
  | _ => rfl

theorem upTo_option {α : Type} {format : Format α} {v : Value} (h : v ≠ .null) (depth : Nat) :
    format.option.upTo depth v = (format.upTo depth v).map some := by
  cases v with
  | null => exact absurd rfl h
  | _ => rfl

theorem read_option {α : Type} {format : Format α} {v : Value} (h : v.HasOnlyInts) (depth : Nat)
    (ih : ReadsAs (format.read depth) v (format.upTo depth v)) :
    ReadsAs (format.option.read depth) v (format.option.upTo depth v) := by
  intro rest hrest
  by_cases hv : v = .null
  · subst hv
    rfl
  · have hread : format.option.read depth (v.bytes ++ rest) =
        (format.read depth (v.bytes ++ rest)).map fun p => (some p.1, p.2) := by
      simp only [Format.read, skipSpace_bytes h, lead_bytes h]
      cases v with
      | null => exact absurd rfl hv
      | bool b => cases b <;> rfl
      | number n => rcases Value.lead_number n with e | e <;> rw [e]
      | _ => rfl
    rw [hread, ih rest hrest, upTo_option hv]
    cases format.upTo depth v <;> rfl

theorem read_list {α : Type} {format : Format α} {v : Value} (h : v.HasOnlyInts) (depth : Nat)
    (ih : ∀ (w : Value) (depth : Nat), w.HasOnlyInts →
      ReadsAs (format.read depth) w (format.upTo depth w)) :
    ReadsAs (format.list.read depth) v (format.list.upTo depth v) := by
  intro rest hrest
  simp only [Format.read, skipSpace_bytes h, lead_bytes h, mismatch_bytes h _ hrest]
  cases v with
  | bool b => cases b <;> rfl
  | number n => rcases Value.lead_number n with e | e <;> rw [e] <;> rfl
  | list items =>
    have hint := (itemsHaveOnlyInts_iff items).1 h
    rw [bytes_list]
    cases depth with
    | zero => rfl
    | succ depth => exact listTail_itemsText hint (fun w hw => ih w depth (hint w hw)) rest
  | _ => rfl

theorem read_dict {α : Type} {format : Format α} {v : Value} (h : v.HasOnlyInts) (depth : Nat)
    (ih : ∀ (w : Value) (depth : Nat), w.HasOnlyInts →
      ReadsAs (format.read depth) w (format.upTo depth w)) :
    ReadsAs (format.dict.read depth) v (format.dict.upTo depth v) := by
  intro rest hrest
  simp only [Format.read, skipSpace_bytes h, lead_bytes h, mismatch_bytes h _ hrest]
  cases v with
  | bool b => cases b <;> rfl
  | number n => rcases Value.lead_number n with e | e <;> rw [e] <;> rfl
  | object members =>
    have hint := (membersHaveOnlyInts_iff members).1 h
    rw [bytes_object]
    cases depth with
    | zero => rfl
    | succ depth =>
      refine objectTail_membersText (fun m hm d rest hrest => ?_) [] rest
      rw [stringTail_memberTail]
      show (format.read depth (m.2.bytes ++ rest) >>= fun p =>
        pure (Dict.insert m.1 p.1 d, p.2)) = _
      rw [ih m.2 depth (hint m hm) rest hrest]
      cases format.upTo depth m.2 <;> rfl
  | _ => rfl

/-- `fields` are read from the text of `items` as `itemsUpTo` tells, and nothing may be left behind
them. -/
def ReadsItemsAs {α σ : Type} (fields : Fields α σ) (items : List Value) : Prop :=
  ∀ (depth : Nat) (wanted : String) (index : Nat) (first : Bool) (rest : Bytes),
    (do
      let (a, s) ← fields.readItems depth wanted index first (nextItems first items ++ 0x5D :: rest)
      let s ← closeList s
      return (a, s)) = (do
      let (a, left) ← fields.itemsUpTo depth wanted index items
      if left.isEmpty then return (a, rest) else throw .trailingText)

theorem read_record_list {α σ : Type} {name : String} {fields : Fields α σ} {items : List Value}
    (hitems : ReadsItemsAs fields items) (depth : Nat) :
    ReadsAs ((Format.record name fields).read depth) (.list items)
      ((Format.record name fields).upTo depth (.list items)) := by
  intro rest _
  rw [Format.read_record, bytes_list]
  cases depth with
  | zero => rfl
  | succ depth =>
    refine (hitems depth (recordWanted name fields.count) 0 true rest).trans ?_
    show _ = Except.map _ (fields.itemsUpTo depth (recordWanted name fields.count) 0 items >>= _)
    cases fields.itemsUpTo depth (recordWanted name fields.count) 0 items with
    | error e => rfl
    | ok p =>
      obtain ⟨a, left⟩ := p
      cases left <;> rfl

theorem read_record_object {α σ : Type} {name : String} {fields : Fields α σ}
    {members : List (String × Value)} (hmembers : ∀ m ∈ members, ∀ depth,
      ReadsMemberAs (fields.takeMember depth) (fields.memberUpTo depth) m) (depth : Nat) :
    ReadsAs ((Format.record name fields).read depth) (.object members)
      ((Format.record name fields).upTo depth (.object members)) := by
  intro rest _
  rw [Format.read_record, bytes_object]
  cases depth with
  | zero => rfl
  | succ depth =>
    have hms := objectTail_membersText (fun m hm => hmembers m hm depth) fields.noSlots rest
    refine (congrArg (· >>= _) hms).trans ?_
    show _ = Except.map _ (members.foldlM (fields.memberUpTo depth) fields.noSlots >>= _)
    cases members.foldlM (fields.memberUpTo depth) fields.noSlots with
    | error e => rfl
    | ok slots =>
      show (fields.finish slots >>= fun a => pure (a, rest)) = Except.map _ (fields.finish slots)
      cases fields.finish slots <;> rfl

theorem read_record {α σ : Type} {name : String} {fields : Fields α σ} {v : Value}
    (h : v.HasOnlyInts) (depth : Nat)
    (hmember : ∀ (m : String × Value) (depth : Nat), m.2.HasOnlyInts →
      ReadsMemberAs (fields.takeMember depth) (fields.memberUpTo depth) m)
    (hitems : ∀ items : List Value, (∀ w ∈ items, w.HasOnlyInts) → ReadsItemsAs fields items) :
    ReadsAs ((Format.record name fields).read depth) v
      ((Format.record name fields).upTo depth v) := by
  intro rest hrest
  cases v with
  | list items =>
    exact read_record_list (hitems items ((itemsHaveOnlyInts_iff items).1 h)) depth rest hrest
  | object members =>
    have hint := (membersHaveOnlyInts_iff members).1 h
    exact read_record_object (fun m hm depth => hmember m depth (hint m hm)) depth rest hrest
  -- neither a list nor an object: the first byte of the text gives it away
  | bool b =>
    simp only [Format.read_record, skipSpace_bytes h, lead_bytes h, mismatch_bytes h _ hrest]
    cases b <;> rfl
  | number n =>
    simp only [Format.read_record, skipSpace_bytes h, lead_bytes h, mismatch_bytes h _ hrest]
    rcases Value.lead_number n with e | e <;> rw [e] <;> rfl
  | null | string =>
    simp only [Format.read_record, skipSpace_bytes h, lead_bytes h, mismatch_bytes h _ hrest]
    rfl

theorem takeMember_memberTail {α σ : Type} (fields : Fields α σ) (depth : Nat) (slots : σ)
    (m : String × Value) (rest : Bytes) :
    fields.takeMember depth slots (memberTail m ++ rest) =
      match fields.readMember depth m.1 with
      | none => (skip (m.2.bytes ++ rest)).map (slots, ·)
      | some read => read slots (0x3A :: (m.2.bytes ++ rest)) := by
  rw [Fields.takeMember, stringTail_memberTail]
  cases h : fields.readMember depth m.1 with
  | none =>
    show (match fields.readMember depth m.1 with
      | none => _
      | some read => _ : Except Fault (σ × Bytes)) = _
    rw [h]
    show (skip (m.2.bytes ++ rest) >>= fun s => pure (slots, s)) = _
    cases skip (m.2.bytes ++ rest) <;> rfl
  | some read =>
    show (match fields.readMember depth m.1 with
      | none => _
      | some read => _ : Except Fault (σ × Bytes)) = _
    rw [h]

theorem takeMember_nil (depth : Nat) {m : String × Value} (h : m.2.HasOnlyInts) :
    ReadsMemberAs (Fields.nil.takeMember depth) (Fields.nil.memberUpTo depth) m := by
  intro slots rest hrest
  rw [takeMember_memberTail, Fields.readMember, skip_bytes h hrest]
  rfl

theorem memberUpTo_cons {α β σ : Type} (field : Field α) (format : Format α) (fields : Fields β σ)
    (depth : Nat) (slot : Option α) (slots : σ) (m : String × Value) :
    (Fields.cons field format fields).memberUpTo depth (slot, slots) m =
      if m.1 = field.name then
        match slot with
        | some _ => .error (.duplicateField m.1)
        | none => (format.upTo depth m.2).map fun a => (some a, slots)
      else (fields.memberUpTo depth slots m).map fun slots => (slot, slots) := by
  cases slot <;> rfl

theorem takeMember_cons {α β σ : Type} {field : Field α} {format : Format α} {fields : Fields β σ}
    (depth : Nat) {m : String × Value}
    (hformat : ReadsAs (format.read depth) m.2 (format.upTo depth m.2))
    (hfields : ReadsMemberAs (fields.takeMember depth) (fields.memberUpTo depth) m) :
    ReadsMemberAs ((Fields.cons field format fields).takeMember depth)
      ((Fields.cons field format fields).memberUpTo depth) m := by
  intro (slot, slots) rest hrest
  rw [takeMember_memberTail, Fields.readMember, memberUpTo_cons]
  by_cases hname : m.1 = field.name
  · rw [if_pos hname, if_pos hname]
    cases slot with
    | some a => rfl
    | none =>
      show (format.read depth (m.2.bytes ++ rest) >>= fun p => pure ((some p.1, slots), p.2)) = _
      rw [hformat rest hrest]
      cases format.upTo depth m.2 <;> rfl
  -- the other fields take the member from its text, name and all
  · rw [if_neg hname, if_neg hname]
    refine Eq.trans (b := (fields.takeMember depth slots (memberTail m ++ rest)).map
      fun p => ((slot, p.1), p.2)) ?_ ?_
    · rw [takeMember_memberTail]
      cases fields.readMember depth m.1 with
      | none =>
        show (skip (m.2.bytes ++ rest)).map _ = ((skip (m.2.bytes ++ rest)).map _).map _
        cases skip (m.2.bytes ++ rest) <;> rfl
      | some read => rfl
    · rw [hfields slots rest hrest]
      cases fields.memberUpTo depth slots m <;> rfl

theorem readItems_nil {items : List Value} (h : ∀ v ∈ items, v.HasOnlyInts) :
    ReadsItemsAs Fields.nil items := by
  intro depth wanted index first rest
  rw [Fields.readItems, Fields.itemsUpTo]
  cases items with
  | nil =>
    show (closeList (nextItems first [] ++ 0x5D :: rest) >>= fun s => pure ((), s)) = _
    rw [closeList_nil]
    rfl
  | cons v items =>
    show (closeList (nextItems first (v :: items) ++ 0x5D :: rest) >>= fun s => pure ((), s)) = _
    rw [closeList_cons first (h v List.mem_cons_self)]
    rfl

/-- The other `fields` are closed as they would be alone, with `a` in front of their values. -/
theorem ReadsItemsAs.behind {α β σ : Type} {fields : Fields β σ} {left : List Value}
    (h : ReadsItemsAs fields left) (a : α) (depth : Nat) (wanted : String) (index : Nat)
    (first : Bool) (rest : Bytes) :
    (do
      let (b, s) ← fields.readItems depth wanted index first
        (nextItems first left ++ 0x5D :: rest)
      return ((a, b), s)) >>= (fun (p : (α × β) × Bytes) => do
        let s ← closeList p.2
        return (p.1, s)) = (do
      let (b, left) ← fields.itemsUpTo depth wanted index left
      return ((a, b), left)) >>= fun (p : (α × β) × List Value) =>
        if p.2.isEmpty then return (p.1, rest) else throw .trailingText := by
  -- `a` makes no difference to how the list is closed
  have halone := congrArg (Except.map fun (p : β × Bytes) => ((a, p.1), p.2))
    (h depth wanted index first rest)
  refine Eq.trans ?_ (halone.trans ?_)
  · cases fields.readItems depth wanted index first (nextItems first left ++ 0x5D :: rest) with
    | error e => rfl
    | ok p =>
      show (closeList p.2 >>= fun s => pure ((a, p.1), s)) =
        Except.map _ (closeList p.2 >>= fun s => pure (p.1, s))
      cases closeList p.2 <;> rfl
  · cases fields.itemsUpTo depth wanted index left with
    | error e => rfl
    | ok p =>
      obtain ⟨b, left⟩ := p
      cases left <;> rfl

theorem readItems_cons {α β σ : Type} {field : Field α} {format : Format α} {fields : Fields β σ}
    {items : List Value} (h : ∀ v ∈ items, v.HasOnlyInts)
    (hformat : ∀ (v : Value) (depth : Nat), v.HasOnlyInts →
      ReadsAs (format.read depth) v (format.upTo depth v))
    (hfields : ∀ items : List Value, (∀ v ∈ items, v.HasOnlyInts) → ReadsItemsAs fields items) :
    ReadsItemsAs (Fields.cons field format fields) items := by
  intro depth wanted index first rest
  rw [Fields.readItems]
  -- at the end of the list the field is left out, and so are all fields behind it
  cases items with
  | nil =>
    rw [Fields.itemsUpTo]
    simp only [nextItem_nil]
    show (match field.absence.inList? with
      | none => throw (.wrongLength index wanted)
      | some a => do
        let (b, s) ← fields.readItems depth wanted (index + 1) first
          (nextItems first [] ++ 0x5D :: rest)
        pure ((a, b), s) : Except Fault ((α × β) × Bytes)) >>= _ = _
    cases field.absence.inList? with
    | none => rfl
    | some a => exact (hfields [] h).behind a depth wanted (index + 1) first rest
  | cons v items =>
    rw [Fields.itemsUpTo]
    simp only [nextItem_cons first (h v List.mem_cons_self)]
    show (format.read depth (v.bytes ++ (nextItems false items ++ 0x5D :: rest)) >>= fun p => do
      let (b, s) ← fields.readItems depth wanted (index + 1) false p.2
      pure ((p.1, b), s)) >>= _ = _
    have hread := hformat v depth (h v List.mem_cons_self)
      (nextItems false items ++ 0x5D :: rest) (endsValue_laterItems items rest)
    rw [hread]
    cases format.upTo depth v with
    | error e => rfl
    | ok a =>
      have hleft := hfields items fun w hw => h w (List.mem_cons_of_mem v hw)
      exact hleft.behind a depth wanted (index + 1) false rest

/-! ### The text of a value -/

mutual

/-- **Reading the text of `v` by `format`** gives what `upTo` tells, and leaves what follows. -/
theorem Format.read_bytes : {α : Type} → (format : Format α) → (v : Value) → (depth : Nat) →
    v.HasOnlyInts → ReadsAs (format.read depth) v (format.upTo depth v)
  | _, .unit, _, depth, h => read_unit h depth
  | _, .bool, _, depth, h => read_bool h depth
  | _, .int range, _, depth, h => read_int range h depth
  | _, .string wanted, _, depth, h => read_string wanted h depth
  | _, .value, _, depth, h => value_bytes h depth
  | _, .option format, v, depth, h => read_option h depth (format.read_bytes v depth h)
  | _, .list format, _, depth, h => read_list h depth format.read_bytes
  | _, .dict format, _, depth, h => read_dict h depth format.read_bytes
  | _, .record _ fields, _, depth, h =>
    read_record h depth fields.takeMember_bytes fields.readItems_bytes
  | _, .via format decode _, v, depth, h => by
    intro rest hrest
    have ih := format.read_bytes v depth h rest hrest
    show _ = (format.upTo depth v >>= fun a => refuse (decode a)).map fun a => (a, rest)
    rw [Format.read_via, ih]
    cases format.upTo depth v with
    | error e => rfl
    | ok a =>
      show (refuse (decode a) >>= fun b => pure (b, rest)) = Except.map _ (refuse (decode a))
      cases refuse (decode a) <;> rfl

theorem Fields.takeMember_bytes : {α σ : Type} → (fields : Fields α σ) → (m : String × Value) →
    (depth : Nat) → m.2.HasOnlyInts →
    ReadsMemberAs (fields.takeMember depth) (fields.memberUpTo depth) m
  | _, _, .nil, _, depth, h => takeMember_nil depth h
  | _, _, .cons _ format fields, m, depth, h =>
    takeMember_cons depth (format.read_bytes m.2 depth h) (fields.takeMember_bytes m depth h)

theorem Fields.readItems_bytes : {α σ : Type} → (fields : Fields α σ) → (items : List Value) →
    (∀ v ∈ items, v.HasOnlyInts) → ReadsItemsAs fields items
  | _, _, .nil, _, h => readItems_nil h
  | _, _, .cons _ format fields, _, h => readItems_cons h format.read_bytes fields.readItems_bytes

end

theorem whole_bytes {α : Type} {read : Reader α} {v : Value} {r : Except Fault α}
    (h : ReadsAs read v r) : whole read v.bytes = r := by
  have := h [] endsValue_nil
  rw [List.append_nil] at this
  rw [whole, this]
  cases r <;> rfl

@[simp] theorem Format.parse_bytes {α : Type} (format : Format α) {v : Value} (h : v.HasOnlyInts) :
    format.parse v.bytes = format.upTo maxDepth v :=
  whole_bytes (format.read_bytes v maxDepth h)

@[simp]
theorem Value.parse_bytes {v : Value} (h : v.HasOnlyInts) : Value.parse v.bytes = v.upTo maxDepth :=
  whole_bytes (value_bytes h maxDepth)

end StreamRecords.Json
