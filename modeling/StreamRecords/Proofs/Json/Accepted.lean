import StreamRecords.Json.Format.Read
import StreamRecords.Proofs.Except
import StreamRecords.Proofs.Json.Value

/-!
What readers accept. Whatever the text, a value that is read is a document nested no deeper than is
allowed, and so is every value within what is read by a format.
-/

namespace StreamRecords.Json

/-! ### Lists and objects -/

section

variable {α σ : Type}

/-- Whatever `read` gives has the property `P`. -/
def Gives (read : Reader α) (P : α → Prop) : Prop := ∀ s a rest, read s = .ok (a, rest) → P a

theorem gives_items {item : Reader α} {P : α → Prop} (h : Gives item P) (n : Nat) (first : Bool) :
    Gives (items item n first) fun as => ∀ a ∈ as, P a := by
  induction n generalizing first with
  | zero =>
    intro s as rest hr
    cases hr
  | succ n ih =>
    intro s as rest hr
    obtain ⟨next, -, hr⟩ := exists_of_bind_eq_ok hr
    cases next with
    | closed s' =>
      cases hr
      exact fun a ha => absurd ha List.not_mem_nil
    | another s' =>
      obtain ⟨⟨a, s₁⟩, ha, hr⟩ := exists_of_bind_eq_ok hr
      obtain ⟨⟨later, s₂⟩, hlater, hr⟩ := exists_of_bind_eq_ok hr
      cases hr
      intro b hb
      rcases List.mem_cons.1 hb with rfl | hb
      · exact h _ _ _ ha
      · exact ih false _ _ _ hlater b hb

theorem gives_listTail {item : Reader α} {P : α → Prop} (h : Gives item P) :
    Gives (listTail item) fun as => ∀ a ∈ as, P a :=
  fun s => gives_items h (s.length + 1) true s

theorem gives_members {member : σ → Reader σ} {P : σ → Prop}
    (h : ∀ state, P state → Gives (member state) P) (n : Nat) (first : Bool) {state : σ}
    (hstate : P state) : Gives (members member n first state) P := by
  induction n generalizing first state with
  | zero =>
    intro s state' rest hr
    cases hr
  | succ n ih =>
    intro s state' rest hr
    obtain ⟨next, -, hr⟩ := exists_of_bind_eq_ok hr
    cases next with
    | closed s' =>
      cases hr
      exact hstate
    | another s' =>
      obtain ⟨⟨state₁, s₁⟩, hmember, hr⟩ := exists_of_bind_eq_ok hr
      exact ih false (h state hstate _ _ _ hmember) _ _ _ hr

theorem gives_objectTail {member : σ → Reader σ} {P : σ → Prop}
    (h : ∀ state, P state → Gives (member state) P) {start : σ} (hstart : P start) :
    Gives (objectTail member start) P :=
  fun s => gives_members h (s.length + 1) true hstart s

end

/-! ### Values -/

/-- `v` is a document nested no deeper than `depth`. -/
def Value.Fits (depth : Nat) (v : Value) : Prop := v.IsDocument ∧ v.depth ≤ depth

theorem Value.fits_list {depth : Nat} {items : List Value} (h : ∀ v ∈ items, v.Fits depth) :
    (Value.list items).Fits (depth + 1) :=
  ⟨(itemsAreDocuments_iff items).2 fun v hv => (h v hv).1,
    Nat.succ_le_succ (depthItems_le_iff.2 fun v hv => (h v hv).2)⟩

theorem Value.fits_object {depth : Nat} {members : List (String × Value)}
    (hs : Dict.IsSorted members) (h : ∀ m ∈ members, m.2.Fits depth) :
    (Value.object members).Fits (depth + 1) :=
  ⟨⟨hs, (membersAreDocuments_iff members).2 fun m hm => (h m hm).1⟩,
    Nat.succ_le_succ (depthMembers_le_iff.2 fun m hm => (h m hm).2)⟩

def MembersFit (depth : Nat) (ms : List (String × Value)) : Prop :=
  Dict.IsSorted ms ∧ ∀ m ∈ ms, m.2.Fits depth

theorem membersFit_nil (depth : Nat) : MembersFit depth [] :=
  ⟨List.Pairwise.nil, fun _ hm => absurd hm List.not_mem_nil⟩

theorem gives_documentMember {read : Reader Value} {depth : Nat} (h : Gives read (Value.Fits depth))
    {ms : List (String × Value)} (hms : MembersFit depth ms) :
    Gives (documentMember read ms) (MembersFit depth) := by
  intro s ms' rest hr
  obtain ⟨⟨name, s₁⟩, -, hr⟩ := exists_of_bind_eq_ok hr
  obtain ⟨s₂, -, hr⟩ := exists_of_bind_eq_ok hr
  obtain ⟨⟨v, s₃⟩, hv, hr⟩ := exists_of_bind_eq_ok hr
  cases hr
  refine ⟨hms.1.insert name v, fun m hm => ?_⟩
  rcases Dict.mem_insert hm with rfl | hm
  · exact h _ _ _ hv
  · exact hms.2 m hm

/-- **How a value is read**: `s` starts with a token that tells its kind, and ends with `rest`. -/
def Value.ReadFrom (inner : Option (Reader Value)) (s rest : Bytes) : Value → Prop
  | .null => lead s = .letterN ∧ nullTail s.tail = .ok rest
  | .bool true => lead s = .letterT ∧ trueTail s.tail = .ok rest
  | .bool false => lead s = .letterF ∧ falseTail s.tail = .ok rest
  | .number n => lead s ∈ [.minus, .digit] ∧ Json.number s = .ok (n, rest)
  | .string t => lead s = .quote ∧ stringTail s.tail = .ok (t, rest)
  | .list vs => lead s = .openList ∧ ∃ read ∈ inner, listTail read s.tail = .ok (vs, rest)
  | .object ms => lead s = .openObject ∧
      ∃ read ∈ inner, objectTail (documentMember read) [] s.tail = .ok (ms, rest)

theorem readFrom_of_valueWith {inner : Option (Reader Value)} {s rest : Bytes} {v : Value}
    (h : valueWith inner s = .ok (v, rest)) : v.ReadFrom inner (skipSpace s) rest := by
  -- one case for each first token, by its equation; a list or an object also wants a level left
  cases hlead : lead (skipSpace s) with
  | nothing =>
    rw [valueWith_nothing hlead] at h
    cases h
  | letterN =>
    rw [valueWith_letterN hlead] at h
    obtain ⟨s', hs, ⟨⟩⟩ := exists_of_map_eq_ok h
    exact ⟨hlead, hs⟩
  | letterT =>
    rw [valueWith_letterT hlead] at h
    obtain ⟨s', hs, ⟨⟩⟩ := exists_of_map_eq_ok h
    exact ⟨hlead, hs⟩
  | letterF =>
    rw [valueWith_letterF hlead] at h
    obtain ⟨s', hs, ⟨⟩⟩ := exists_of_map_eq_ok h
    exact ⟨hlead, hs⟩
  | minus | digit =>
    have hmem : lead (skipSpace s) ∈ [.minus, .digit] := by simp [hlead]
    rw [valueWith_number hmem] at h
    obtain ⟨p, hp, ⟨⟩⟩ := exists_of_map_eq_ok h
    exact ⟨hmem, hp⟩
  | quote =>
    rw [valueWith_quote hlead] at h
    obtain ⟨p, hp, ⟨⟩⟩ := exists_of_map_eq_ok h
    exact ⟨hlead, hp⟩
  | openList =>
    cases inner with
    | none =>
      rw [valueWith_tooDeep (by simp [hlead])] at h
      cases h
    | some read =>
      rw [valueWith_openList hlead] at h
      obtain ⟨p, hp, ⟨⟩⟩ := exists_of_map_eq_ok h
      exact ⟨hlead, read, rfl, hp⟩
  | openObject =>
    cases inner with
    | none =>
      rw [valueWith_tooDeep (by simp [hlead])] at h
      cases h
    | some read =>
      rw [valueWith_openObject hlead] at h
      obtain ⟨p, hp, ⟨⟩⟩ := exists_of_map_eq_ok h
      exact ⟨hlead, read, rfl, hp⟩
  | comma | colon | closeList | closeObject | other =>
    rw [valueWith_other (by simp [hlead])] at h
    cases h

/-- What `valueWith inner` gives is a list or an object of what `inner` gives, or it holds nothing.
-/
theorem gives_valueWith {inner : Option (Reader Value)} {P : Value → Prop}
    (hplain : ∀ v : Value, v.IsDocument → v.depth = 0 → P v)
    (hlist : ∀ read ∈ inner, Gives (listTail read) fun vs => P (.list vs))
    (hobject : ∀ read ∈ inner,
      Gives (objectTail (documentMember read) []) fun ms => P (.object ms)) :
    Gives (valueWith inner) P := by
  intro s v rest hr
  have hfrom := readFrom_of_valueWith hr
  cases v with
  | null | bool | number | string => exact hplain _ trivial rfl
  | list vs =>
    obtain ⟨-, read, hread, hvs⟩ := hfrom
    exact hlist read hread _ _ _ hvs
  | object ms =>
    obtain ⟨-, read, hread, hms⟩ := hfrom
    exact hobject read hread _ _ _ hms

/-- **A value that is read is a document** nested no deeper than is allowed. -/
theorem gives_value (depth : Nat) : Gives (value depth) (Value.Fits depth) := by
  induction depth with
  | zero =>
    exact gives_valueWith (fun v hv hd => ⟨hv, Nat.le_of_eq hd⟩) (fun read h => by cases h)
      fun read h => by cases h
  | succ depth ih =>
    refine gives_valueWith (fun v hv hd => ⟨hv, by omega⟩) ?_ ?_
    · rintro read ⟨⟩ s vs rest hr
      exact Value.fits_list (gives_listTail ih _ _ _ hr)
    · rintro read ⟨⟩ s ms rest hr
      have hms : MembersFit depth ms :=
        gives_objectTail (fun ms hms => gives_documentMember ih hms) (membersFit_nil depth) _ _ _ hr
      exact Value.fits_object hms.1 hms.2

/-! ### Formats -/

mutual

/-- **The value `a` of `format` fits** if every JSON value within it is a document and, together
with the lists and objects around it, is nested no deeper than `depth`. -/
def Format.Fits : {α : Type} → Format α → Nat → α → Prop
  | _, .unit, _, _ | _, .bool, _, _ | _, .int _, _, _ | _, .string _, _, _ => True
  | _, .value, depth, v => v.Fits depth
  | _, .option format, depth, a => ∀ b ∈ a, format.Fits depth b
  | _, .list format, depth, as => 0 < depth ∧ ∀ a ∈ as, format.Fits (depth - 1) a
  | _, .dict format, depth, d => 0 < depth ∧ ∀ p ∈ d, format.Fits (depth - 1) p.2
  | _, .record _ fields, depth, a => 0 < depth ∧ fields.Fit (depth - 1) a
  | _, .via format decode _, depth, b => ∃ a, format.Fits depth a ∧ decode a = .ok b

/-- Each field fits, or stands for what is left out: then nothing was read for it. -/
def Fields.Fit : {α σ : Type} → Fields α σ → Nat → α → Prop
  | _, _, .nil, _, _ => True
  | _, _, .cons field format rest, depth, (a, b) =>
    (field.absence.inObject? = some a ∨ format.Fits depth a) ∧ rest.Fit depth b

end

/-- `Fit` while some of the slots may still be empty. -/
def Fields.SlotsFit : {α σ : Type} → Fields α σ → Nat → σ → Prop
  | _, _, .nil, _, _ => True
  | _, _, .cons _ format rest, depth, (slot, slots) =>
    (∀ a ∈ slot, format.Fits depth a) ∧ rest.SlotsFit depth slots

theorem Fields.slotsFit_noSlots : {α σ : Type} → (fields : Fields α σ) → (depth : Nat) →
    fields.SlotsFit depth fields.noSlots
  | _, _, .nil, _ => trivial
  | _, _, .cons _ _ rest, depth => ⟨fun _ h => (by cases h), rest.slotsFit_noSlots depth⟩

theorem Fields.fit_of_finish : {α σ : Type} → (fields : Fields α σ) → {depth : Nat} → {slots : σ} →
    fields.SlotsFit depth slots → {a : α} → fields.finish slots = .ok a → fields.Fit depth a
  | _, _, .nil, _, _, _, _, _ => trivial
  | _, _, .cons field format rest, depth, (slot, slots), hfit, (a, b), h => by
    obtain ⟨hslot, hslots⟩ := hfit
    -- an empty slot is filled with what the field stands for when it is left out
    cases slot with
    | some c =>
      rw [Fields.finish] at h
      obtain ⟨a', ⟨⟩, h⟩ := exists_of_bind_eq_ok h
      obtain ⟨b', hb, h⟩ := exists_of_bind_eq_ok h
      cases h
      exact ⟨.inr (hslot a rfl), rest.fit_of_finish hslots hb⟩
    | none =>
      cases hfield : field.absence.inObject? with
      | none =>
        simp only [Fields.finish, hfield] at h
        cases h
      | some c =>
        simp only [Fields.finish, hfield] at h
        obtain ⟨a', ⟨⟩, h⟩ := exists_of_bind_eq_ok h
        obtain ⟨b', hb, h⟩ := exists_of_bind_eq_ok h
        cases h
        exact ⟨.inl hfield, rest.fit_of_finish hslots hb⟩

/-- What may be left out at the end of a list may be left out of an object, so `Fit` need not tell
the two apart. -/
theorem Absence.inObject?_of_inList? {α : Type} {absence : Absence α} {a : α}
    (h : absence.inList? = some a) : absence.inObject? = some a := by
  cases absence with
  | default b => exact h
  | _ => cases h

theorem exists_of_nested_eq_ok {α : Type} {tail : Nat → Reader α} {depth : Nat} {s rest : Bytes}
    {a : α} (h : nested depth tail s = .ok (a, rest)) :
    0 < depth ∧ tail (depth - 1) s = .ok (a, rest) := by
  cases depth with
  | zero => cases h
  | succ inner => exact ⟨Nat.succ_pos inner, h⟩

theorem eq_ok_of_refuse_eq_ok {α : Type} {x : Except String α} {a : α} (h : refuse x = .ok a) :
    x = .ok a := by
  cases x with
  | error e => cases h
  | ok b => exact congrArg _ (Except.ok.inj h)

/-- `takeMember` keeps slots that fit, if what each field reads does. -/
theorem gives_takeMember {α σ : Type} {fields : Fields α σ} {depth : Nat}
    (h : ∀ name read, fields.readMember depth name = some read → ∀ slots,
      fields.SlotsFit depth slots → Gives (read slots) (fields.SlotsFit depth))
    {slots : σ} (hslots : fields.SlotsFit depth slots) :
    Gives (fields.takeMember depth slots) (fields.SlotsFit depth) := by
  intro s slots' rest hr
  obtain ⟨⟨name, s₁⟩, -, hr⟩ := exists_of_bind_eq_ok hr
  dsimp only at hr
  cases hmember : fields.readMember depth name with
  | none =>
    rw [hmember] at hr
    obtain ⟨s₂, -, hr⟩ := exists_of_bind_eq_ok hr
    obtain ⟨s₃, -, hr⟩ := exists_of_bind_eq_ok hr
    cases hr
    exact hslots
  | some read =>
    rw [hmember] at hr
    exact h name read hmember slots hslots _ _ _ hr

section

variable {α β σ : Type} {format : Format α} {depth : Nat}

theorem gives_readOption (h : Gives (format.read depth) (format.Fits depth)) :
    Gives ((Format.option format).read depth) ((Format.option format).Fits depth) := by
  intro s a rest hr
  rw [Format.read] at hr
  dsimp only at hr
  split at hr
  · obtain ⟨p, -, ⟨⟩⟩ := exists_of_map_eq_ok hr
    intro b hb
    cases hb
  · obtain ⟨⟨b, s'⟩, hb, ⟨⟩⟩ := exists_of_map_eq_ok hr
    rintro c ⟨⟩
    exact h _ _ _ hb

theorem gives_readList (h : Gives (format.read (depth - 1)) (format.Fits (depth - 1))) :
    Gives ((Format.list format).read depth) ((Format.list format).Fits depth) := by
  intro s as rest hr
  rw [Format.read] at hr
  dsimp only at hr
  split at hr
  · obtain ⟨hdepth, hr⟩ := exists_of_nested_eq_ok hr
    exact ⟨hdepth, gives_listTail h _ _ _ hr⟩
  · cases hr

theorem gives_readDict (h : Gives (format.read (depth - 1)) (format.Fits (depth - 1))) :
    Gives ((Format.dict format).read depth) ((Format.dict format).Fits depth) := by
  intro s d rest hr
  rw [Format.read] at hr
  dsimp only at hr
  split at hr
  · obtain ⟨hdepth, hr⟩ := exists_of_nested_eq_ok hr
    refine ⟨hdepth, gives_objectTail (P := fun d => ∀ p ∈ d, format.Fits (depth - 1) p.2)
      (fun d hd s d' rest hr => ?_) (fun p hp => absurd hp List.not_mem_nil) _ _ _ hr⟩
    -- a member replaces the one of its name, so all others were there before
    obtain ⟨⟨name, s₁⟩, -, hr⟩ := exists_of_bind_eq_ok hr
    obtain ⟨s₂, -, hr⟩ := exists_of_bind_eq_ok hr
    obtain ⟨⟨a, s₃⟩, ha, ⟨⟩⟩ := exists_of_bind_eq_ok hr
    intro p hp
    rcases Dict.mem_insert hp with rfl | hp
    · exact h _ _ _ ha
    · exact hd p hp
  · cases hr

/-- The reader of a member keeps slots that fit, if the reader of its field does. -/
theorem gives_readRecord {name : String} {fields : Fields α σ}
    (hitems : ∀ wanted index first,
      Gives (fields.readItems (depth - 1) wanted index first) (fields.Fit (depth - 1)))
    (hmember : ∀ name read, fields.readMember (depth - 1) name = some read → ∀ slots,
      fields.SlotsFit (depth - 1) slots → Gives (read slots) (fields.SlotsFit (depth - 1))) :
    Gives ((Format.record name fields).read depth) ((Format.record name fields).Fits depth) := by
  intro s a rest hr
  rw [Format.read_record] at hr
  split at hr
  · obtain ⟨hdepth, hr⟩ := exists_of_nested_eq_ok hr
    obtain ⟨⟨b, s₁⟩, hb, hr⟩ := exists_of_bind_eq_ok hr
    obtain ⟨s₂, -, ⟨⟩⟩ := exists_of_bind_eq_ok hr
    exact ⟨hdepth, hitems _ _ _ _ _ _ hb⟩
  · obtain ⟨hdepth, hr⟩ := exists_of_nested_eq_ok hr
    obtain ⟨⟨slots, s₁⟩, hslots, hr⟩ := exists_of_bind_eq_ok hr
    obtain ⟨b, hb, ⟨⟩⟩ := exists_of_bind_eq_ok hr
    refine ⟨hdepth, fields.fit_of_finish ?_ hb⟩
    exact gives_objectTail (fun slots hs => gives_takeMember hmember hs)
      (fields.slotsFit_noSlots (depth - 1)) _ _ _ hslots
  · cases hr

theorem gives_readVia {decode : α → Except String β} {encode : β → Except String α}
    (h : Gives (format.read depth) (format.Fits depth)) :
    Gives ((format.via decode encode).read depth) ((format.via decode encode).Fits depth) := by
  intro s b rest hr
  rw [Format.read_via] at hr
  obtain ⟨⟨a, s'⟩, ha, hr⟩ := exists_of_bind_eq_ok hr
  obtain ⟨b', hb, ⟨⟩⟩ := exists_of_bind_eq_ok hr
  exact ⟨a, h _ _ _ ha, eq_ok_of_refuse_eq_ok hb⟩

end

mutual

/-- **What `format` reads within `depth` fits into it.** -/
theorem Format.gives_read : {α : Type} → (format : Format α) → (depth : Nat) →
    Gives (format.read depth) (format.Fits depth)
  | _, .unit, _ | _, .bool, _ | _, .int _, _ | _, .string _, _ => fun _ _ _ _ => trivial
  | _, .value, depth => gives_value depth
  | _, .option format, depth => gives_readOption (format.gives_read depth)
  | _, .list format, depth => gives_readList (format.gives_read (depth - 1))
  | _, .dict format, depth => gives_readDict (format.gives_read (depth - 1))
  | _, .record _ fields, depth =>
    gives_readRecord (fields.gives_readItems (depth - 1)) (fields.gives_readMember (depth - 1))
  | _, .via format _ _, depth => gives_readVia (format.gives_read depth)

theorem Fields.gives_readMember : {α σ : Type} → (fields : Fields α σ) → (depth : Nat) →
    ∀ name read, fields.readMember depth name = some read → ∀ slots,
      fields.SlotsFit depth slots → Gives (read slots) (fields.SlotsFit depth)
  | _, _, .nil, _ => fun _ _ h => by cases h
  | _, _, .cons field format rest, depth => by
    rintro name read hread ⟨slot, slots⟩ ⟨hslot, hslots⟩ s ⟨slot', slots'⟩ s' hr
    rw [Fields.readMember] at hread
    by_cases hname : name = field.name
    · rw [if_pos hname] at hread
      cases hread
      -- a member that comes twice is an error, so a slot holds what was read once
      cases slot with
      | some a => cases hr
      | none =>
        obtain ⟨s₁, -, hr⟩ := exists_of_bind_eq_ok hr
        obtain ⟨⟨a, s₂⟩, ha, hr⟩ := exists_of_bind_eq_ok hr
        cases hr
        refine ⟨?_, hslots⟩
        rintro b ⟨⟩
        exact format.gives_read depth _ _ _ ha
    · rw [if_neg hname] at hread
      obtain ⟨inner, hinner, rfl⟩ := Option.map_eq_some_iff.1 hread
      obtain ⟨⟨slots₁, s₁⟩, hslots₁, hp⟩ := exists_of_map_eq_ok hr
      cases hp
      exact ⟨hslot, rest.gives_readMember depth name inner hinner slots hslots _ _ _ hslots₁⟩

theorem Fields.gives_readItems : {α σ : Type} → (fields : Fields α σ) → (depth : Nat) →
    ∀ wanted index first, Gives (fields.readItems depth wanted index first) (fields.Fit depth)
  | _, _, .nil, _ => fun _ _ _ _ _ _ _ => trivial
  | _, _, .cons field format rest, depth => by
    rintro wanted index first s ⟨a, b⟩ s' hr
    rw [Fields.readItems] at hr
    obtain ⟨next, -, hr⟩ := exists_of_bind_eq_ok hr
    cases next with
    | closed s₁ =>
      -- the list is at its end, so this field and all later ones are left out
      dsimp only at hr
      cases hfield : field.absence.inList? with
      | none =>
        rw [hfield] at hr
        cases hr
      | some c =>
        rw [hfield] at hr
        obtain ⟨⟨b', s₂⟩, hb, hr⟩ := exists_of_bind_eq_ok hr
        cases hr
        exact ⟨.inl (Absence.inObject?_of_inList? hfield),
          rest.gives_readItems depth wanted (index + 1) first _ _ _ hb⟩
    | another s₁ =>
      obtain ⟨⟨a', s₂⟩, ha, hr⟩ := exists_of_bind_eq_ok hr
      obtain ⟨⟨b', s₃⟩, hb, hr⟩ := exists_of_bind_eq_ok hr
      cases hr
      exact ⟨.inr (format.gives_read depth _ _ _ ha),
        rest.gives_readItems depth wanted (index + 1) false _ _ _ hb⟩

end

theorem exists_of_whole_eq_ok {α : Type} {read : Reader α} {s : Bytes} {a : α}
    (h : whole read s = .ok a) : ∃ rest, read s = .ok (a, rest) := by
  obtain ⟨⟨b, rest⟩, hb, h⟩ := exists_of_bind_eq_ok h
  dsimp only at h
  split at h
  · cases h
    exact ⟨rest, hb⟩
  · cases h

/-- **What a text spells by a format fits** into the greatest depth that is read. -/
theorem Format.fits_of_parse {α : Type} {format : Format α} {s : Bytes} {a : α}
    (h : format.parse s = .ok a) : format.Fits maxDepth a := by
  obtain ⟨rest, hread⟩ := exists_of_whole_eq_ok h
  exact format.gives_read maxDepth _ _ _ hread

end StreamRecords.Json
