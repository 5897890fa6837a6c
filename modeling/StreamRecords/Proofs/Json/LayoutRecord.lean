import StreamRecords.Proofs.Json.FieldValues
import StreamRecords.Proofs.Json.LayoutSkip
import StreamRecords.Proofs.Json.LayoutValue

/-!
Records in all their layouts. What is read of a record is told by its members one by one; the order
of the members makes no difference, and neither do members of other names.
-/

namespace StreamRecords.Json

/-! ### Formats -/

/-- What `format` reads of a value depends on its tokens alone. -/
def Format.TakesLayouts {α : Type} (format : Format α) : Prop :=
  ∀ depth (t : Tree), Takes (format.read depth) t.tokens (reading (format.read depth) t.tokens)

theorem takesLayouts_of_exists {α : Type} {format : Format α}
    (h : ∀ depth (t : Tree), ∃ r, Takes (format.read depth) t.tokens r) :
    format.TakesLayouts := by
  intro depth t
  obtain ⟨r, hr⟩ := h depth t
  exact hr.reading

theorem Tree.eq_null_of_lead {t : Tree} (h : t.lead = .letterN) : t = .null := by
  match t, h with
  | .null, _ => rfl
  | .number n, h => rw [lead] at h; split at h <;> cases h

theorem Tree.eq_string_of_lead {t : Tree} (h : t.lead = .quote) : ∃ k, t = .string k := by
  match t, h with
  | .string k, _ => exact ⟨k, rfl⟩
  | .number n, h => rw [lead] at h; split at h <;> cases h

theorem Tree.eq_list_of_lead {t : Tree} (h : t.lead = .openList) : ∃ items, t = .list items := by
  match t, h with
  | .list items, _ => exact ⟨items, rfl⟩
  | .number n, h => rw [lead] at h; split at h <;> cases h

theorem takesLayouts_value : Format.value.TakesLayouts := value_takes

theorem takesLayouts_string (wanted : String) : (Format.string wanted).TakesLayouts := by
  refine takesLayouts_of_exists fun depth t => ?_
  by_cases ht : t.lead = .quote
  · obtain ⟨k, rfl⟩ := Tree.eq_string_of_lead ht
    refine ⟨k.value?, takes_of_token rfl fun s rest hs _ => ?_⟩
    have hread : (Format.string wanted).read depth s = stringTail (k.chars ++ 0x22 :: rest) := by
      unfold Format.read
      rw [hs, k.token_append]
      rfl
    rw [hread, k.stringTail_chars]
  · refine ⟨none, takes_none fun later s h => ?_⟩
    have hlead := lead_of_laid h
    rw [Format.read]
    cases e : lead (skipSpace s) with
    | quote => exact absurd (hlead.symm.trans e) ht
    | _ => simp only [e]; rfl

theorem Format.TakesLayouts.option {α : Type} {format : Format α} (h : format.TakesLayouts) :
    format.option.TakesLayouts := by
  refine takesLayouts_of_exists fun depth t => ?_
  by_cases ht : t.lead = .letterN
  · obtain rfl := Tree.eq_null_of_lead ht
    refine ⟨some none, takes_of_token rfl fun s rest hs _ => ?_⟩
    unfold Format.read
    rw [hs]
    rfl
  · refine ⟨(reading (format.read depth) t.tokens).map some, fun later s hlater hs => ?_⟩
    obtain ⟨rest, hrest, hread⟩ := h depth t later _ hlater (laid_skipSpace hs)
    have hlead := lead_of_laid hs
    have hsome : format.option.read depth s =
        (format.read depth (skipSpace s)).map fun p => (some p.1, p.2) := by
      rw [Format.read]
      cases e : lead (skipSpace s) with
      | letterN => exact absurd (hlead.symm.trans e) ht
      | _ => simp only [e]
    refine ⟨rest, hrest, ?_⟩
    rw [hsome, toOption_map, hread]
    cases reading (format.read depth) t.tokens <;> rfl

theorem Format.TakesLayouts.list {α : Type} {format : Format α} (h : format.TakesLayouts) :
    format.list.TakesLayouts := by
  refine takesLayouts_of_exists fun depth t => ?_
  -- what is no list is refused in every layout, by its first token
  by_cases ht : t.lead = .openList
  · obtain ⟨items, rfl⟩ := Tree.eq_list_of_lead ht
    have hopen {later : List Bytes} {s : Bytes} (hs : Laid ((Tree.list items).tokens ++ later) s) :
        ∃ rest, Laid (Tree.itemTokens items ++ [0x5D] :: later) rest ∧ format.list.read depth s =
          nested depth (fun depth => listTail (format.read depth)) rest := by
      obtain ⟨rest, hs, hrest⟩ := Tree.first_of_laid rfl hs
      rw [List.append_assoc] at hrest
      refine ⟨rest, hrest, ?_⟩
      simp only [Format.read, hs]
      rfl
    cases depth with
    | zero =>
      refine ⟨none, takes_none fun later s hs => ?_⟩
      obtain ⟨rest, -, hread⟩ := hopen hs
      rw [hread]
      rfl
    | succ depth =>
      refine ⟨items.mapM fun t => reading (format.read depth) t.tokens, fun later s _ hs => ?_⟩
      obtain ⟨rest, hrest, hread⟩ := hopen hs
      rw [hread]
      exact listTail_takes (fun t _ => h depth t) hrest
  · refine ⟨none, takes_none fun later s h => ?_⟩
    have hlead := lead_of_laid h
    rw [Format.read]
    cases e : lead (skipSpace s) with
    | openList => exact absurd (hlead.symm.trans e) ht
    | _ => simp only [e]; rfl

/-! ### Members -/

namespace Fields

/-- Each of the fields reads what depends on the tokens alone. -/
def TakeLayouts : {α σ : Type} → Fields α σ → Prop
  | _, _, .nil => True
  | _, _, .cons _ format rest => format.TakesLayouts ∧ rest.TakeLayouts

def names : {α σ : Type} → Fields α σ → List String
  | _, _, .nil => []
  | _, _, .cons field _ rest => field.name :: rest.names

/-- **What the member `name : t` adds to the slots of a record**: its value goes to the slot of the
field with its name, which must be empty, and nowhere if there is no such field. -/
def keep : {α σ : Type} → Fields α σ → Nat → String → Tree → σ → Option σ
  | _, _, .nil, _, _, _, slots => some slots
  | _, _, .cons field format rest, depth, name, t, (slot, slots) =>
    if name = field.name then
      if slot.isSome then none
      else (reading (format.read depth) t.tokens).map fun a => (some a, slots)
    else (rest.keep depth name t slots).map (slot, ·)

/-- `keep`, for a member whose name is yet to be read. -/
def keepMember {α σ : Type} (fields : Fields α σ) (depth : Nat) (slots : σ)
    (m : StringText × Tree) : Option σ :=
  m.1.value?.bind fun name => fields.keep depth name m.2 slots

theorem keep_cons {α β σ : Type} (field : Field α) (format : Format α) (rest : Fields β σ)
    (depth : Nat) (name : String) (t : Tree) (slot : Option α) (slots : σ) :
    (Fields.cons field format rest).keep depth name t (slot, slots) =
      if name = field.name then
        if slot.isSome then none
        else (reading (format.read depth) t.tokens).map fun a => (some a, slots)
      else (rest.keep depth name t slots).map (slot, ·) := rfl

/-- `takeMember` takes a member in any layout as `keep` tells, once its `name` is read. -/
theorem takeMember_keep : {α σ : Type} → (fields : Fields α σ) → fields.TakeLayouts →
    ∀ (depth : Nat) (name : String) (t : Tree) (slots : σ) {later : List Bytes} {text s : Bytes},
      stringTail text = .ok (name, s) → EndsTokens later →
      Laid ([0x3A] :: (t.tokens ++ later)) s →
      ∃ rest, Laid later rest ∧
        (fields.takeMember depth slots text).toOption =
          (fields.keep depth name t slots).map (·, rest)
  | _, _, .nil, _, depth, name, t, slots, later, text, s, hname, hlater, hs => by
    obtain ⟨rest, hcolon, hrest⟩ := colon_laid hs
    obtain ⟨rest', hrest', hskip⟩ := skip_laid t hlater hrest
    refine ⟨rest', hrest', ?_⟩
    rw [takeMember_of_none hname rfl, hcolon]
    show ((skip rest).map _).toOption = _
    rw [hskip]
    rfl
  | _, _, .cons field format fields, h, depth, name, t, (slot, slots), later, text, s, hname,
      hlater, hs => by
    obtain ⟨hformat, hfields⟩ := h
    rw [keep_cons]
    -- the first field is looked at by name, and the others by induction
    by_cases h : name = field.name
    · obtain ⟨rest, hcolon, hrest⟩ := colon_laid hs
      obtain ⟨rest', hrest', hread⟩ := hformat depth t later rest hlater hrest
      refine ⟨rest', hrest', ?_⟩
      rw [takeMember_of_name_eq hname h, if_pos h]
      cases slot with
      | some a => rfl
      | none =>
        show ((colon s >>= format.read depth).map _).toOption = Option.map _ (Option.map _ _)
        rw [hcolon]
        show ((format.read depth rest).map _).toOption = _
        rw [toOption_map, hread]
        cases reading (format.read depth) t.tokens <;> rfl
    · obtain ⟨rest, hrest, hread⟩ :=
        fields.takeMember_keep hfields depth name t slots hname hlater hs
      refine ⟨rest, hrest, ?_⟩
      rw [takeMember_of_name_ne hname h, if_neg h, toOption_map, hread]
      cases fields.keep depth name t slots <;> rfl

theorem takeMember_takes {α σ : Type} {fields : Fields α σ} (h : fields.TakeLayouts) (depth : Nat)
    (m : StringText × Tree) :
    TakesMember (fields.takeMember depth) (fields.keepMember depth) m := by
  intro slots later s hlater hs
  have hname := m.1.stringTail_chars s
  rw [keepMember]
  cases hvalue : m.1.value? with
  | none =>
    obtain ⟨_, rest, -, -, hrest⟩ := hs
    obtain ⟨rest', hrest'⟩ := hrest.exists_rest
    refine ⟨rest', hrest', ?_⟩
    rw [hvalue] at hname
    cases htext : stringTail (m.1.chars ++ 0x22 :: s) with
    | error e => rw [takeMember_of_error htext]; rfl
    | ok p => rw [htext] at hname; cases hname
  | some name =>
    rw [hvalue] at hname
    exact fields.takeMember_keep h depth name m.2 slots (toOption_eq_some_iff.1 hname) hlater hs

/-! ### The order of the members -/

theorem keep_of_name_eq {α β σ : Type} {field : Field α} {format : Format α} {rest : Fields β σ}
    {name : String} (h : name = field.name) (depth : Nat) (t : Tree) (slots : σ) :
    (Fields.cons field format rest).keep depth name t (none, slots) =
      (reading (format.read depth) t.tokens).map fun a => (some a, slots) := if_pos h

theorem keep_twice {α β σ : Type} {field : Field α} {format : Format α} {rest : Fields β σ}
    {name : String} (h : name = field.name) (depth : Nat) (t : Tree) (a : α) (slots : σ) :
    (Fields.cons field format rest).keep depth name t (some a, slots) = none := if_pos h

theorem keep_of_name_ne {α β σ : Type} {field : Field α} {format : Format α} {rest : Fields β σ}
    {name : String} (h : name ≠ field.name) (depth : Nat) (t : Tree) (slot : Option α)
    (slots : σ) :
    (Fields.cons field format rest).keep depth name t (slot, slots) =
      (rest.keep depth name t slots).map (slot, ·) := if_neg h

/-- `keep_comm` for a member of the first field and one of another. -/
theorem keep_comm_of_ne {α β σ : Type} {field : Field α} {format : Format α} {rest : Fields β σ}
    {name name' : String} (h : name = field.name) (h' : name' ≠ field.name) (depth : Nat)
    (t t' : Tree) (slots : Option α × σ) :
    ((Fields.cons field format rest).keep depth name t slots).bind
        ((Fields.cons field format rest).keep depth name' t') =
      ((Fields.cons field format rest).keep depth name' t' slots).bind
        ((Fields.cons field format rest).keep depth name t) := by
  obtain ⟨slot, slots⟩ := slots
  rw [keep_of_name_ne h']
  -- the first field fills its own slot, and the other member only those of the rest
  cases slot with
  | some a =>
    rw [keep_twice h]
    cases rest.keep depth name' t' slots with
    | none => rfl
    | some slots' => exact (keep_twice h depth t a slots').symm
  | none =>
    rw [keep_of_name_eq h]
    cases hkeep : rest.keep depth name' t' slots with
    | none =>
      cases reading (format.read depth) t.tokens with
      | none => rfl
      | some a =>
        show (Fields.cons field format rest).keep depth name' t' (some a, slots) = none
        rw [keep_of_name_ne h', hkeep]
        rfl
    | some slots' =>
      show _ = (Fields.cons field format rest).keep depth name t (none, slots')
      rw [keep_of_name_eq h]
      cases reading (format.read depth) t.tokens with
      | none => rfl
      | some a =>
        show (Fields.cons field format rest).keep depth name' t' (some a, slots) = _
        rw [keep_of_name_ne h', hkeep]
        rfl

/-- **Two members may come in either order**: both orders fill the same slots, and both fail if one
of them does. -/
theorem keep_comm : {α σ : Type} → (fields : Fields α σ) → ∀ (depth : Nat) (name name' : String)
    (t t' : Tree) (slots : σ),
    (fields.keep depth name t slots).bind (fields.keep depth name' t') =
      (fields.keep depth name' t' slots).bind (fields.keep depth name t)
  | _, _, .nil, _, _, _, _, _, _ => rfl
  | _, _, .cons field format fields, depth, name, name', t, t', (slot, slots) => by
    by_cases h : name = field.name
    · by_cases h' : name' = field.name
      · -- the second of the two finds the slot full
        cases slot with
        | some a =>
          rw [keep_twice h, keep_twice h']
          rfl
        | none =>
          rw [keep_of_name_eq h, keep_of_name_eq h']
          cases reading (format.read depth) t.tokens <;>
            cases reading (format.read depth) t'.tokens <;>
            simp [keep_twice h, keep_twice h']
      · exact keep_comm_of_ne h h' depth t t' (slot, slots)
    · by_cases h' : name' = field.name
      · exact (keep_comm_of_ne h' h depth t' t (slot, slots)).symm
      · have ih := fields.keep_comm depth name name' t t' slots
        have hmap (name name' : String) (t t' : Tree) (h : name ≠ field.name)
            (h' : name' ≠ field.name) :
            ((Fields.cons field format fields).keep depth name t (slot, slots)).bind
                ((Fields.cons field format fields).keep depth name' t') =
              ((fields.keep depth name t slots).bind (fields.keep depth name' t')).map
                (slot, ·) := by
          rw [keep_of_name_ne h]
          cases fields.keep depth name t slots with
          | none => rfl
          | some slots' => exact keep_of_name_ne h' depth t' slot slots'
        rw [hmap name name' t t' h h', hmap name' name t' t h' h, ih]

theorem keepMember_comm {α σ : Type} (fields : Fields α σ) (depth : Nat)
    (m m' : StringText × Tree) (slots : σ) :
    (fields.keepMember depth slots m).bind (fields.keepMember depth · m') =
      (fields.keepMember depth slots m').bind (fields.keepMember depth · m) := by
  unfold keepMember
  cases m.1.value? with
  | none =>
    cases m'.1.value? with
    | none => rfl
    | some name' => exact (Option.bind_fun_none (fields.keep depth name' m'.2 slots)).symm
  | some name =>
    cases m'.1.value? with
    | none => exact Option.bind_fun_none (fields.keep depth name m.2 slots)
    | some name' => exact fields.keep_comm depth name name' m.2 m'.2 slots

/-- A fold whose steps may be exchanged two by two has the same result in any order. -/
theorem foldlM_perm {α σ : Type} {f : σ → α → Option σ}
    (hf : ∀ state a b, (f state a).bind (f · b) = (f state b).bind (f · a)) {as bs : List α}
    (h : as.Perm bs) (state : σ) : as.foldlM f state = bs.foldlM f state := by
  induction h generalizing state with
  | nil => rfl
  | cons a _ ih => simp only [List.foldlM_cons, ih]
  | swap a b as =>
    have hassoc (a b : α) : (b :: a :: as).foldlM f state =
        ((f state b).bind (f · a)).bind fun state => as.foldlM f state := by
      rw [List.foldlM_cons, Option.bind_assoc]
      simp only [List.foldlM_cons]
      rfl
    rw [hassoc, hassoc, hf]
  | trans _ _ ih ih' => rw [ih, ih']

/-! ### Members of other names -/

theorem keep_of_not_mem_names : {α σ : Type} → (fields : Fields α σ) → ∀ (depth : Nat)
    {name : String} (t : Tree) (slots : σ), name ∉ fields.names →
    fields.keep depth name t slots = some slots
  | _, _, .nil, _, _, _, _, _ => rfl
  | _, _, .cons field format fields, depth, name, t, (slot, slots), h => by
    have hne : name ≠ field.name ∧ name ∉ fields.names := not_or.1 (mt List.mem_cons.2 h)
    rw [keep_of_name_ne hne.1, fields.keep_of_not_mem_names depth t slots hne.2]
    rfl

/-- `m` has a name, and it is that of none of the `fields`. -/
def IsForeign {α σ : Type} (fields : Fields α σ) (m : StringText × Tree) : Prop :=
  ∃ name, m.1.value? = some name ∧ name ∉ fields.names

theorem foldlM_foreign {α σ : Type} {fields : Fields α σ} {ms : List (StringText × Tree)}
    (h : ∀ m ∈ ms, fields.IsForeign m) (depth : Nat) (slots : σ) :
    ms.foldlM (fields.keepMember depth) slots = some slots := by
  induction ms with
  | nil => rfl
  | cons m ms ih =>
    obtain ⟨name, hname, hforeign⟩ := h m List.mem_cons_self
    rw [List.foldlM_cons, keepMember, hname]
    show (fields.keep depth name m.2 slots >>= fun slots => _) = _
    rw [fields.keep_of_not_mem_names depth m.2 slots hforeign]
    exact ih fun w hw => h w (List.mem_cons_of_mem m hw)

/-- **The order of the members makes no difference, and neither do members of no field**, such as
are `added`. -/
theorem foldlM_shuffled {α σ : Type} {fields : Fields α σ}
    {members added shuffled : List (StringText × Tree)} (hadded : ∀ m ∈ added, fields.IsForeign m)
    (h : shuffled.Perm (members ++ added)) (depth : Nat) (slots : σ) :
    shuffled.foldlM (fields.keepMember depth) slots =
      members.foldlM (fields.keepMember depth) slots := by
  rw [foldlM_perm (fun slots m m' => fields.keepMember_comm depth m m' slots) h,
    List.foldlM_append]
  cases members.foldlM (fields.keepMember depth) slots with
  | none => rfl
  | some slots' => exact foldlM_foreign hadded depth slots'

end Fields

/-! ### Records -/

section

variable {α σ : Type} {fields : Fields α σ}

/-- **A record is read from an object in whatever layout**: its members go to the slots by
`keepMember`, and `finish` makes of the slots what it can. -/
theorem record_takes (h : fields.TakeLayouts) (name : String) (depth : Nat)
    (ms : List (StringText × Tree)) :
    Takes ((Format.record name fields).read (depth + 1)) (Tree.object ms).tokens
      ((ms.foldlM (fields.keepMember depth) fields.noSlots).bind fun slots =>
        (fields.finish slots).toOption) := by
  intro later s _ hs
  obtain ⟨rest, hopen, hrest⟩ := Tree.first_of_laid rfl hs
  rw [List.append_assoc] at hrest
  -- behind the opening bracket `keepMember` tells what each member adds
  obtain ⟨rest', hrest', hread⟩ :=
    objectTail_takes (fun m _ => fields.takeMember_takes h depth m) fields.noSlots hrest
  refine ⟨rest', hrest', ?_⟩
  have hrecord : (Format.record name fields).read (depth + 1) s =
      fields.readObject depth rest := by
    simp only [Format.read_record, hopen]
    rfl
  rw [hrecord, Fields.readObject, toOption_bind, hread]
  cases ms.foldlM (fields.keepMember depth) fields.noSlots with
  | none => rfl
  | some slots =>
    show (fields.finish slots >>= fun a => pure (a, rest')).toOption =
      (fields.finish slots).toOption.map (·, rest')
    rw [toOption_bind]
    cases fields.finish slots <;> rfl

theorem parse_of_takes {format : Format α} {t : Tree} {r : Option α}
    (h : Takes (format.read maxDepth) t.tokens r) {body : Bytes} (hbody : Laid t.tokens body) :
    (format.parse body).toOption = r := by
  rw [← List.append_nil t.tokens] at hbody
  obtain ⟨rest, hrest, hread⟩ := h [] body endsTokens_nil hbody
  rw [Format.parse, whole, toOption_bind, hread]
  cases r with
  | none => rfl
  | some a =>
    show (if skipSpace rest = [] then .ok a else .error .trailingText : Except Fault α).toOption = _
    rw [if_pos (skipSpace_of_isBlank hrest)]
    rfl

/-- **A record is the same from an object laid out otherwise**, with its `members` in another order
and `added` ones of no field among them. -/
theorem parse_shuffled (h : fields.TakeLayouts) (name : String)
    {members added shuffled : List (StringText × Tree)} (hadded : ∀ m ∈ added, fields.IsForeign m)
    (hshuffled : shuffled.Perm (members ++ added)) {body body' : Bytes}
    (hbody : Laid (Tree.object members).tokens body)
    (hbody' : Laid (Tree.object shuffled).tokens body') :
    ((Format.record name fields).parse body').toOption =
      ((Format.record name fields).parse body).toOption := by
  rw [parse_of_takes (record_takes h name 126 shuffled) hbody',
    parse_of_takes (record_takes h name 126 members) hbody,
    Fields.foldlM_shuffled hadded hshuffled]

end

end StreamRecords.Json
