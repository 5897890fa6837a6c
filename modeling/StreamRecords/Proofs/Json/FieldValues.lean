import StreamRecords.Proofs.Except
import StreamRecords.Proofs.Json.FormatText

/-!
Records that differ only in what their fields hold. Where each field of one is read as a function of
the field of the other, so is the whole record, from an object or from a list.
-/

namespace StreamRecords.Json

variable {α β σ τ : Type}

/-! ### Readers of which one tells the other -/

def Reader.mapValue (f : α → β) (read : Reader α) : Reader β := fun s =>
  (read s).map fun p => (f p.1, p.2)

/-- `member'` makes of the state `f state` what `f` makes of the outcome of `member`. -/
def MemberFollows (f : σ → τ) (member : σ → Reader σ) (member' : τ → Reader τ) : Prop :=
  ∀ state, member' (f state) = (member state).mapValue f

theorem members_of_follows {f : σ → τ} {member : σ → Reader σ} {member' : τ → Reader τ}
    (h : MemberFollows f member member') (n : Nat) (first : Bool) (state : σ) :
    members member' n first (f state) = (members member n first state).mapValue f := by
  funext s
  induction n generalizing first state s with
  | zero => rfl
  | succ n ih =>
    rw [Reader.mapValue, members, members]
    cases nextMember first s with
    | error e => rfl
    | ok next =>
      cases next with
      | closed rest => rfl
      | another rest =>
        show (member' (f state) rest >>= fun p => members member' n false p.1 p.2) =
          Except.map _ (member state rest >>= fun p => members member n false p.1 p.2)
        rw [h state, Reader.mapValue]
        cases member state rest with
        | error e => rfl
        | ok p => exact ih false p.1 p.2

theorem objectTail_of_follows {f : σ → τ} {member : σ → Reader σ} {member' : τ → Reader τ}
    (h : MemberFollows f member member') (start : σ) :
    objectTail member' (f start) = (objectTail member start).mapValue f := by
  funext s
  exact congrFun (members_of_follows h _ true start) s

/-! ### Fields -/

/-- **The record of `fields'` is a function of that of `fields`**: what `fields'` keep in their
slots is `g` of what `fields` keep in theirs, and the values in the end are `f` of theirs. -/
structure Fields.Follows (fields : Fields α σ) (fields' : Fields β τ) (f : α → β) (g : σ → τ) :
    Prop where
  count : fields'.count = fields.count
  noSlots : fields'.noSlots = g fields.noSlots
  finish : ∀ slots, fields'.finish (g slots) = (fields.finish slots).map f
  member : ∀ depth, MemberFollows g (fields.takeMember depth) (fields'.takeMember depth)
  items : ∀ depth wanted index first,
    fields'.readItems depth wanted index first =
      (fields.readItems depth wanted index first).mapValue f

theorem Fields.Follows.nil : Fields.nil.Follows Fields.nil id id where
  count := rfl
  noSlots := rfl
  finish _ := rfl
  member depth state := by
    funext s
    show _ = Except.map _ _
    cases Fields.nil.takeMember depth state s <;> rfl
  items _ _ _ _ := rfl

/-- `field'` has the name of `field`, and what it reads and what it stands for when left out is `f`
of the same for `field`. -/
structure Field.Follows (field : Field α) (format : Format α) (field' : Field β)
    (format' : Format β) (f : α → β) : Prop where
  name : field'.name = field.name
  inObject : field'.absence.inObject? = field.absence.inObject?.map f
  inList : field'.absence.inList? = field.absence.inList?.map f
  read : ∀ depth, format'.read depth = (format.read depth).mapValue f

theorem Fields.takeMember_of_error {fields : Fields α σ} {depth : Nat} {slots : σ} {s : Bytes}
    {e : Fault} (hs : stringTail s = .error e) : fields.takeMember depth slots s = .error e := by
  rw [Fields.takeMember, hs]
  rfl

theorem Fields.takeMember_of_none {fields : Fields α σ} {depth : Nat} {slots : σ} {s rest : Bytes}
    {name : String} (hs : stringTail s = .ok (name, rest))
    (h : fields.readMember depth name = none) :
    fields.takeMember depth slots s = (colon rest >>= skip).map (slots, ·) := by
  simp only [Fields.takeMember, hs, h, bind, Except.bind]
  cases colon rest with
  | error e => rfl
  | ok s => cases skip s <;> rfl

theorem Fields.takeMember_of_some {fields : Fields α σ} {depth : Nat} {slots : σ} {s rest : Bytes}
    {name : String} {read : σ → Reader σ} (hs : stringTail s = .ok (name, rest))
    (h : fields.readMember depth name = some read) :
    fields.takeMember depth slots s = read slots rest := by
  simp only [Fields.takeMember, hs, h, bind, Except.bind]

/-- The member of the first field. -/
theorem Fields.takeMember_of_name_eq {field : Field α} {format : Format α} {fields : Fields β σ}
    {depth : Nat} {slot : Option α} {slots : σ} {s rest : Bytes} {name : String}
    (hs : stringTail s = .ok (name, rest)) (h : name = field.name) :
    (Fields.cons field format fields).takeMember depth (slot, slots) s =
      if slot.isSome then .error (.duplicateField name)
      else (colon rest >>= format.read depth).map fun p => ((some p.1, slots), p.2) := by
  rw [takeMember_of_some hs (by rw [Fields.readMember, if_pos h])]
  cases slot with
  | some a => rfl
  | none =>
    show (colon rest >>= fun s => format.read depth s >>= fun p => pure ((some p.1, slots), p.2)) =
      Except.map _ (colon rest >>= format.read depth)
    cases colon rest with
    | error e => rfl
    | ok s =>
      show (format.read depth s >>= fun p => pure ((some p.1, slots), p.2)) =
        (format.read depth s).map _
      cases format.read depth s <;> rfl

/-- A member whose name is not that of `field` is one of the other `fields`, or of none. -/
theorem Fields.takeMember_of_name_ne {field : Field α} {format : Format α} {fields : Fields β σ}
    {depth : Nat} {slot : Option α} {slots : σ} {s rest : Bytes} {name : String}
    (hs : stringTail s = .ok (name, rest)) (h : name ≠ field.name) :
    (Fields.cons field format fields).takeMember depth (slot, slots) s =
      (fields.takeMember depth slots s).map fun p => ((slot, p.1), p.2) := by
  cases hread : fields.readMember depth name with
  | none =>
    rw [takeMember_of_none hs (by rw [Fields.readMember, if_neg h, hread]; rfl),
      takeMember_of_none hs hread, Except.map_map]
  | some read =>
    rw [takeMember_of_some hs (by rw [Fields.readMember, if_neg h, hread]; rfl),
      takeMember_of_some hs hread]

section

variable {α' β' σ' τ' : Type} {field : Field α} {format : Format α} {field' : Field β}
  {format' : Format β} {f : α → β} {fields : Fields α' σ'} {fields' : Fields β' τ'} {g : α' → β'}
  {h : σ' → τ'}

theorem finish_of_follows (hfield : field.Follows format field' format' f)
    (hfields : fields.Follows fields' g h) (slot : Option α) (slots : σ') :
    (Fields.cons field' format' fields').finish (slot.map f, h slots) =
      ((Fields.cons field format fields).finish (slot, slots)).map fun p => (f p.1, g p.2) := by
  unfold Fields.finish
  rw [hfield.inObject, hfield.name, hfields.finish]
  cases slot with
  | some a => cases fields.finish slots <;> rfl
  | none =>
    cases field.absence.inObject? with
    | none => rfl
    | some a => cases fields.finish slots <;> rfl

/-- The record with one more field in front takes a member as `Follows` has it: it is that of the
first field, or one that the other fields take or pass over. -/
theorem takeMember_of_follows (hfield : field.Follows format field' format' f)
    (hfields : fields.Follows fields' g h) (depth : Nat) (slot : Option α) (slots : σ')
    (s : Bytes) :
    (Fields.cons field' format' fields').takeMember depth (slot.map f, h slots) s =
      ((Fields.cons field format fields).takeMember depth (slot, slots) s).map
        fun p => ((p.1.1.map f, h p.1.2), p.2) := by
  cases hs : stringTail s with
  | error e =>
    rw [Fields.takeMember_of_error hs, Fields.takeMember_of_error hs]
    rfl
  | ok p =>
    obtain ⟨name, rest⟩ := p
    -- `field'` has the same name, so both records send the member to the same field
    by_cases hname : name = field.name
    · rw [Fields.takeMember_of_name_eq hs hname,
        Fields.takeMember_of_name_eq hs (hname.trans hfield.name.symm)]
      cases slot with
      | some a => rfl
      | none =>
        show ((colon rest >>= format'.read depth).map _ : Except Fault _) =
          Except.map _ ((colon rest >>= format.read depth).map _)
        cases colon rest with
        | error e => rfl
        | ok s =>
          show (format'.read depth s).map _ = ((format.read depth s).map _).map _
          rw [hfield.read, Reader.mapValue]
          cases format.read depth s <;> rfl
    · rw [Fields.takeMember_of_name_ne hs hname,
        Fields.takeMember_of_name_ne hs fun e => hname (e.trans hfield.name), hfields.member,
        Reader.mapValue]
      cases fields.takeMember depth slots s <;> rfl

/-- The items of the other fields, behind a value `a` of the first one. -/
theorem readItems_behind (hfields : fields.Follows fields' g h) (depth : Nat) (wanted : String)
    (a : α) (index : Nat) (first : Bool) (s : Bytes) :
    (fields'.readItems depth wanted index first s >>= fun q => pure ((f a, q.1), q.2)) =
      (fields.readItems depth wanted index first s >>= fun q => pure ((a, q.1), q.2)).map
        fun p => ((f p.1.1, g p.1.2), p.2) := by
  rw [hfields.items, Reader.mapValue]
  cases fields.readItems depth wanted index first s <;> rfl

theorem readItems_of_follows (hfield : field.Follows format field' format' f)
    (hfields : fields.Follows fields' g h) (depth : Nat) (wanted : String) (index : Nat)
    (first : Bool) (s : Bytes) :
    (Fields.cons field' format' fields').readItems depth wanted index first s =
      ((Fields.cons field format fields).readItems depth wanted index first s).map
        fun p => ((f p.1.1, g p.1.2), p.2) := by
  simp only [Fields.readItems]
  cases nextItem first s with
  | error e => rfl
  | ok next =>
    cases next with
    | closed rest =>
      simp only [bind, Except.bind, hfield.inList]
      cases field.absence.inList? with
      | none => rfl
      | some a => exact readItems_behind hfields depth wanted a (index + 1) first s
    | another rest =>
      simp only [bind, Except.bind, hfield.read, Reader.mapValue]
      cases format.read depth rest with
      | error e => rfl
      | ok p => exact readItems_behind hfields depth wanted p.1 (index + 1) false p.2

theorem Fields.Follows.cons (hfield : field.Follows format field' format' f)
    (hfields : fields.Follows fields' g h) :
    (Fields.cons field format fields).Follows (Fields.cons field' format' fields')
      (fun p => (f p.1, g p.2)) (fun p => (p.1.map f, h p.2)) where
  count := by rw [Fields.count, Fields.count, hfields.count]
  noSlots := by rw [Fields.noSlots, Fields.noSlots, hfields.noSlots]; rfl
  finish := fun (slot, slots) => finish_of_follows hfield hfields slot slots
  member := fun depth (slot, slots) =>
    funext (takeMember_of_follows hfield hfields depth slot slots)
  items := fun depth wanted index first =>
    funext (readItems_of_follows hfield hfields depth wanted index first)

end

/-! ### Records -/

theorem mapValue_nested (f : α → β) {tail : Nat → Reader α} {tail' : Nat → Reader β}
    (h : ∀ depth, tail' depth = (tail depth).mapValue f) (depth : Nat) :
    nested depth tail' = (nested depth tail).mapValue f := by
  cases depth with
  | zero => rfl
  | succ depth => exact h depth

section

variable {fields : Fields α σ} {fields' : Fields β τ} {f : α → β} {g : σ → τ}

theorem Fields.Follows.readList (h : fields.Follows fields' f g) (name : String) (depth : Nat) :
    fields'.readList name depth = (fields.readList name depth).mapValue f := by
  funext s
  simp only [Fields.readList, h.items, h.count, Reader.mapValue]
  cases fields.readItems depth (recordWanted name fields.count) 0 true s with
  | error e => rfl
  | ok p =>
    show (closeList p.2 >>= fun s => pure (f p.1, s)) =
      Except.map _ (closeList p.2 >>= fun s => pure (p.1, s))
    cases closeList p.2 <;> rfl

theorem Fields.Follows.readObject (h : fields.Follows fields' f g) (depth : Nat) :
    fields'.readObject depth = (fields.readObject depth).mapValue f := by
  funext s
  simp only [Fields.readObject, h.noSlots, objectTail_of_follows (h.member depth), Reader.mapValue]
  cases objectTail (fields.takeMember depth) fields.noSlots s with
  | error e => rfl
  | ok p =>
    show (fields'.finish (g p.1) >>= fun a => pure (a, p.2)) =
      Except.map _ (fields.finish p.1 >>= fun a => pure (a, p.2))
    rw [h.finish]
    cases fields.finish p.1 <;> rfl

/-- **A record that follows another is read as a function of it**, from a list as from an object. -/
theorem Fields.Follows.read_record (h : fields.Follows fields' f g) (name : String) (depth : Nat) :
    (Format.record name fields').read depth =
      ((Format.record name fields).read depth).mapValue f := by
  funext s
  have hlist := congrFun (mapValue_nested f (h.readList name) depth) (skipSpace s).tail
  have hobject := congrFun (mapValue_nested f h.readObject depth) (skipSpace s).tail
  rw [Reader.mapValue] at hlist hobject ⊢
  rw [Format.read_record, Format.read_record]
  cases lead (skipSpace s) with
  | openList => exact hlist
  | openObject => exact hobject
  | _ => rfl

end

/-- What a whole `body` spells by `format'` is `f` of what it spells by `format`. -/
theorem parse_of_mapValue {format : Format α} {format' : Format β} {f : α → β}
    (h : format'.read maxDepth = (format.read maxDepth).mapValue f) (body : Bytes) :
    format'.parse body = (format.parse body).map f := by
  rw [Format.parse, Format.parse, whole, whole, h, Reader.mapValue]
  cases format.read maxDepth body with
  | error e => rfl
  | ok p =>
    show (if skipSpace p.2 = [] then .ok (f p.1) else .error .trailingText : Except Fault β) =
      Except.map f (if skipSpace p.2 = [] then .ok p.1 else .error .trailingText)
    split <;> rfl

end StreamRecords.Json
