import StreamRecords.Json.Format.OfValue
import StreamRecords.Proofs.Json.Accepted
import StreamRecords.Proofs.Json.FieldValues

/-!
The members of a record as a text has them: each is missing or any value, null being one. Where each
field of a record is told by the value of its member, so is the whole record, from an object or from
a list: it is read exactly if these values are, and if each of them is one for its field. Of what is
refused nothing is said here, since a field that holds the wrong value is reported before a fault
behind it, which the values alone would show first.
-/

namespace StreamRecords.Json

variable {α β σ τ : Type}

/-! ### Nothing, and null -/

/-- The format of a member that may be missing. Any value is taken, null being one. -/
def Format.member : Format (Option Value) := Format.value.iso some (·.getD .null)

@[simp] theorem read_member (depth : Nat) :
    Format.member.read depth = (value depth).mapValue some := by
  funext s
  rw [Format.member, Format.iso, Format.read_via, Reader.mapValue]
  show (value depth s >>= _) = _
  cases value depth s <;> rfl

/-- What the first byte of `v` can show to `lead`. -/
def Value.leads : Value → List Lead
  | .null => [.letterN]
  | .bool _ => [.letterT, .letterF]
  | .number _ => [.minus, .digit]
  | .string _ => [.quote]
  | .list _ => [.openList]
  | .object _ => [.openObject]

theorem lead_mem_of_value {depth : Nat} {s rest : Bytes} {v : Value}
    (h : value depth s = .ok (v, rest)) : lead (skipSpace s) ∈ v.leads := by
  obtain ⟨inner, hinner⟩ := value_eq_valueWith depth
  rw [hinner] at h
  have hfrom := readFrom_of_valueWith h
  cases v with
  | bool b => cases b <;> simp [Value.leads, hfrom.1]
  | number n => exact hfrom.1
  | _ => exact List.mem_singleton.2 hfrom.1

theorem value_ne_null {depth : Nat} {s rest : Bytes} {v : Value}
    (h : value depth s = .ok (v, rest)) (hn : lead (skipSpace s) ≠ .letterN) : v ≠ .null := by
  rintro rfl
  exact hn (List.mem_singleton.1 (lead_mem_of_value h))

theorem value_of_letterN {s : Bytes} (h : lead (skipSpace s) = .letterN) (depth : Nat) :
    value depth s = (nullTail (skipSpace s).tail).map fun s => (.null, s) := by
  obtain ⟨inner, hinner⟩ := value_eq_valueWith depth
  rw [hinner, valueWith_letterN h]

theorem read_option_of_letterN {s : Bytes} (h : lead (skipSpace s) = .letterN) (format : Format α)
    (depth : Nat) : (Format.option format).read depth s =
      (nullTail (skipSpace s).tail).map fun s => (none, s) := by
  rw [Format.read]
  simp only [h]

theorem read_option_of_ne {s : Bytes} (h : lead (skipSpace s) ≠ .letterN) (format : Format α)
    (depth : Nat) : (Format.option format).read depth s =
      (format.read depth (skipSpace s)).map fun p => (some p.1, p.2) := by
  rw [Format.read]
  cases hlead : lead (skipSpace s) with
  | letterN => exact absurd hlead h
  | _ => simp only [hlead]

/-! ### Readers that check what another one reads -/

/-- The outcome `x` of a reader, if `f` takes the value that is read. -/
def checked (f : α → Option β) (x : Option (α × Bytes)) : Option (β × Bytes) :=
  x.bind fun p => (f p.1).map (·, p.2)

/-- A value may be checked by `f` before `k'` reads on, or by `g` together with what `k` reads
behind it. -/
theorem checked_bind {γ δ : Type} {f : α → Option β} {g : γ → Option δ}
    {k : α × Bytes → Option (γ × Bytes)} {k' : β × Bytes → Option (δ × Bytes)}
    (h : ∀ a rest, ((f a).bind fun b => k' (b, rest)) = checked g (k (a, rest)))
    (x : Option (α × Bytes)) : (checked f x).bind k' = checked g (x.bind k) := by
  cases x with
  | none => rfl
  | some p =>
    show ((f p.1).map (·, p.2)).bind k' = checked g (k p)
    rw [Option.bind_map]
    exact h p.1 p.2

/-- `member'` checks, member by member, what `g` checks of all members together. -/
def MemberChecks (g : σ → Option τ) (member : σ → Reader σ) (member' : τ → Reader τ) : Prop :=
  ∀ state s, ((g state).bind fun t => (member' t s).toOption) = checked g (member state s).toOption

theorem members_of_checks {g : σ → Option τ} {member : σ → Reader σ} {member' : τ → Reader τ}
    (h : MemberChecks g member member') (n : Nat) (first : Bool) :
    MemberChecks g (members member n first) (members member' n first) := by
  induction n generalizing first with
  | zero =>
    intro state s
    exact Option.bind_fun_none _
  | succ n ih =>
    intro state s
    simp only [members]
    cases nextMember first s with
    | error e => exact Option.bind_fun_none _
    | ok next =>
      cases next with
      | closed rest =>
        show ((g state).bind fun t => some (t, rest)) = (g state).map (·, rest)
        cases g state <;> rfl
      | another rest =>
        -- the check of the state may go before this member or behind all that follow
        show ((g state).bind fun t =>
            (member' t rest >>= fun p => members member' n false p.1 p.2).toOption) =
          checked g (member state rest >>= fun p => members member n false p.1 p.2).toOption
        simp only [toOption_bind]
        rw [← Option.bind_assoc, h state rest]
        exact checked_bind (fun state s => ih false state s) _

theorem objectTail_of_checks {g : σ → Option τ} {member : σ → Reader σ} {member' : τ → Reader τ}
    (h : MemberChecks g member member') : MemberChecks g (objectTail member) (objectTail member') :=
  fun state s => members_of_checks h _ true state s

/-! ### Fields that check what other ones read -/

/-- `field'` has the name of `field`, and it reads and stands for what passes the check `f` of
`field`. -/
structure Field.Checks (field : Field α) (format : Format α) (field' : Field β)
    (format' : Format β) (f : α → Option β) : Prop where
  name : field'.name = field.name
  inObject : field'.absence.inObject? = field.absence.inObject?.bind f
  inList : field'.absence.inList? = field.absence.inList?.bind f
  read : ∀ depth s, (format'.read depth s).toOption = checked f (format.read depth s).toOption

/-- **`fields'` check what `fields` read**, each at its place: by `f` once they are read, and by `g`
while they are in their slots. -/
structure Fields.Check (fields : Fields α σ) (fields' : Fields β τ) (f : α → Option β)
    (g : σ → Option τ) : Prop where
  noSlots : g fields.noSlots = some fields'.noSlots
  finish : ∀ slots, ((g slots).bind fun t => (fields'.finish t).toOption) =
    (fields.finish slots).toOption.bind f
  member : ∀ depth, MemberChecks g (fields.takeMember depth) (fields'.takeMember depth)
  items : ∀ depth wanted wanted' index first s,
    (fields'.readItems depth wanted' index first s).toOption =
      checked f (fields.readItems depth wanted index first s).toOption

theorem Fields.Check.nil : Fields.nil.Check Fields.nil some some where
  noSlots := rfl
  finish _ := rfl
  member depth state s := by
    show (Fields.nil.takeMember depth state s).toOption = checked _ _
    cases Fields.nil.takeMember depth state s <;> rfl
  items _ _ _ _ _ _ := rfl

def checkPair {α' β' : Type} (f : α → Option β) (g : α' → Option β') (p : α × α') :
    Option (β × β') :=
  (f p.1).bind fun b => (g p.2).map (b, ·)

@[simp] theorem checkPair_eq_some_iff {α' β' : Type} {f : α → Option β} {g : α' → Option β'} {a : α}
    {a' : α'} {b : β} {b' : β'} :
    checkPair f g (a, a') = some (b, b') ↔ f a = some b ∧ g a' = some b' := by
  simp only [checkPair, Option.bind_eq_some_iff, Option.map_eq_some_iff, Prod.mk.injEq]
  constructor
  · rintro ⟨_, ha, _, ha', rfl, rfl⟩
    exact ⟨ha, ha'⟩
  · rintro ⟨ha, ha'⟩
    exact ⟨b, ha, b', ha', rfl, rfl⟩

def checkSlot (f : α → Option β) : Option α → Option (Option β)
  | none => some none
  | some a => (f a).map some

theorem finish_cons_toOption {field : Field α} {format : Format α} {fields : Fields β σ}
    (slot : Option α) (slots : σ) :
    ((Fields.cons field format fields).finish (slot, slots)).toOption =
      (slot <|> field.absence.inObject?).bind fun a =>
        (fields.finish slots).toOption.map (a, ·) := by
  cases slot with
  | some a =>
    rw [Fields.finish]
    cases fields.finish slots <;> rfl
  | none =>
    cases h : field.absence.inObject? with
    | none =>
      simp only [Fields.finish, h]
      rfl
    | some a =>
      simp only [Fields.finish, h]
      cases fields.finish slots <;> rfl

section

variable {α' β' σ' τ' : Type} {field : Field α} {format : Format α} {field' : Field β}
  {format' : Format β} {f : α → Option β} {fields : Fields α' σ'} {fields' : Fields β' τ'}
  {g : α' → Option β'} {h : σ' → Option τ'}

theorem finish_of_checks (hfield : field.Checks format field' format' f)
    (hfields : fields.Check fields' g h) (slot : Option α) (slots : σ') :
    ((checkPair (checkSlot f) h (slot, slots)).bind fun t =>
        ((Fields.cons field' format' fields').finish t).toOption) =
      ((Fields.cons field format fields).finish (slot, slots)).toOption.bind (checkPair f g) := by
  have hfirst : ((checkSlot f slot).bind fun slot => slot <|> field'.absence.inObject?) =
      (slot <|> field.absence.inObject?).bind f := by
    rw [hfield.inObject]
    cases slot with
    | none => rfl
    | some a =>
      show ((f a).map some).bind _ = f a
      cases f a <;> rfl
  -- the checks of the first field and of the others do not meet, so they may change places
  calc (checkPair (checkSlot f) h (slot, slots)).bind _
    _ = ((checkSlot f slot).bind fun slot => slot <|> field'.absence.inObject?).bind fun b =>
          ((h slots).bind fun t => (fields'.finish t).toOption).map (b, ·) := by
      simp only [checkPair, finish_cons_toOption, Option.bind_assoc, Option.bind_map,
        Option.map_bind, Function.comp_def, Option.bind_comm (h slots)]
    _ = ((slot <|> field.absence.inObject?).bind f).bind fun b =>
          ((fields.finish slots).toOption.bind g).map (b, ·) := by rw [hfirst, hfields.finish]
    _ = _ := by
      simp only [checkPair, finish_cons_toOption, Option.bind_assoc, Option.bind_map,
        Option.map_bind, Function.comp_def, Option.bind_comm (fields.finish slots).toOption]

/-- `MemberChecks` for a member with the name of the first field. -/
theorem takeMember_of_checks_first (hfield : field.Checks format field' format' f)
    {s rest : Bytes} {name : String} (hs : stringTail s = .ok (name, rest))
    (hname : name = field.name) (depth : Nat) (slot : Option α) (slots : σ') :
    ((checkPair (checkSlot f) h (slot, slots)).bind fun t =>
        ((Fields.cons field' format' fields').takeMember depth t s).toOption) =
      checked (checkPair (checkSlot f) h)
        ((Fields.cons field format fields).takeMember depth (slot, slots) s).toOption := by
  have hname' : name = field'.name := hname.trans hfield.name.symm
  rw [Fields.takeMember_of_name_eq hs hname]
  -- a full slot is an error for both records, whatever the check says of what it holds
  cases slot with
  | some a =>
    show (((f a).map some).bind fun slot => (h slots).map (slot, ·)).bind _ = none
    cases f a with
    | none => rfl
    | some b =>
      cases h slots with
      | none => rfl
      | some t => exact congrArg Except.toOption (Fields.takeMember_of_name_eq hs hname')
  | none =>
    have htake (t : τ') : (Fields.cons field' format' fields').takeMember depth (none, t) s =
        (colon rest >>= format'.read depth).map fun p => ((some p.1, t), p.2) :=
      Fields.takeMember_of_name_eq hs hname'
    show ((h slots).map (none, ·)).bind _ =
      checked _ ((colon rest >>= format.read depth).map _).toOption
    simp only [Option.bind_map, Function.comp_def, htake, toOption_map]
    cases colon rest with
    | error e => exact Option.bind_fun_none _
    | ok s =>
      show ((h slots).bind fun t => (format'.read depth s).toOption.map _) =
        checked _ ((format.read depth s).toOption.map _)
      rw [hfield.read]
      cases format.read depth s with
      | error e => exact Option.bind_fun_none _
      | ok p =>
        show ((h slots).bind fun t => ((f p.1).map (·, p.2)).map _) =
          (((f p.1).map some).bind fun slot => (h slots).map (slot, ·)).map (·, p.2)
        cases f p.1 <;> cases h slots <;> rfl

/-- `MemberChecks` for a member that is not one of the first field. -/
theorem takeMember_of_checks_later (hfield : field.Checks format field' format' f)
    (hfields : fields.Check fields' g h) {s rest : Bytes} {name : String}
    (hs : stringTail s = .ok (name, rest)) (hname : name ≠ field.name) (depth : Nat)
    (slot : Option α) (slots : σ') :
    ((checkPair (checkSlot f) h (slot, slots)).bind fun t =>
        ((Fields.cons field' format' fields').takeMember depth t s).toOption) =
      checked (checkPair (checkSlot f) h)
        ((Fields.cons field format fields).takeMember depth (slot, slots) s).toOption := by
  have hname' : name ≠ field'.name := fun e => hname (e.trans hfield.name)
  have hrest (slot : Option β) : ((h slots).bind fun t =>
      (fields'.takeMember depth t s).toOption.map fun p => ((slot, p.1), p.2)) =
      (checked h (fields.takeMember depth slots s).toOption).map fun p => ((slot, p.1), p.2) := by
    rw [← hfields.member, Option.map_bind]
    rfl
  rw [Fields.takeMember_of_name_ne hs hname]
  simp only [checkPair, Option.bind_assoc, Option.bind_map, Function.comp_def,
    Fields.takeMember_of_name_ne hs hname', toOption_map, hrest]
  cases fields.takeMember depth slots s with
  | error e => exact Option.bind_fun_none _
  | ok p =>
    show ((checkSlot f slot).bind fun slot => ((h p.1).map (·, p.2)).map _) =
      ((checkSlot f slot).bind fun slot => (h p.1).map (slot, ·)).map (·, p.2)
    cases checkSlot f slot <;> cases h p.1 <;> rfl

theorem readItems_of_checks (hfield : field.Checks format field' format' f)
    (hfields : fields.Check fields' g h) (depth : Nat) (wanted wanted' : String) (index : Nat)
    (first : Bool) (s : Bytes) :
    ((Fields.cons field' format' fields').readItems depth wanted' index first s).toOption =
      checked (checkPair f g)
        ((Fields.cons field format fields).readItems depth wanted index first s).toOption := by
  -- what the other fields give is put behind the first one
  have close (index : Nat) (first : Bool) (a : α) (s : Bytes) :
      ((f a).bind fun b => (fields'.readItems depth wanted' index first s >>= fun q =>
        pure ((b, q.1), q.2)).toOption) =
        checked (checkPair f g) (fields.readItems depth wanted index first s >>= fun q =>
          pure ((a, q.1), q.2)).toOption := by
    simp only [toOption_bind, hfields.items depth wanted]
    cases fields.readItems depth wanted index first s with
    | error e => exact Option.bind_fun_none _
    | ok q =>
      show ((f a).bind fun b => ((g q.1).map (·, q.2)).bind fun q => some ((b, q.1), q.2)) =
        ((f a).bind fun b => (g q.1).map (b, ·)).map (·, q.2)
      cases f a <;> cases g q.1 <;> rfl
  simp only [Fields.readItems]
  cases nextItem first s with
  | error e => rfl
  | ok next =>
    cases next with
    | closed rest =>
      simp only [bind, Except.bind, hfield.inList]
      cases field.absence.inList? with
      | none => rfl
      | some a =>
        refine Eq.trans ?_ (close (index + 1) first a s)
        rw [Option.bind_some]
        cases f a <;> rfl
    | another rest =>
      show (format'.read depth rest >>= fun p =>
          fields'.readItems depth wanted' (index + 1) false p.2 >>= fun q =>
            pure ((p.1, q.1), q.2)).toOption =
        checked _ (format.read depth rest >>= fun p =>
          fields.readItems depth wanted (index + 1) false p.2 >>= fun q =>
            pure ((p.1, q.1), q.2)).toOption
      rw [toOption_bind, toOption_bind, hfield.read]
      exact checked_bind (close (index + 1) false) _

theorem Fields.Check.cons (hfield : field.Checks format field' format' f)
    (hfields : fields.Check fields' g h) :
    (Fields.cons field format fields).Check (Fields.cons field' format' fields')
      (checkPair f g) (checkPair (checkSlot f) h) where
  noSlots := by
    show (h fields.noSlots).map _ = _
    rw [hfields.noSlots]
    rfl
  finish := fun (slot, slots) => finish_of_checks hfield hfields slot slots
  member := by
    rintro depth ⟨slot, slots⟩ s
    cases hs : stringTail s with
    | error e =>
      simp only [Fields.takeMember_of_error hs]
      exact Option.bind_fun_none _
    | ok p =>
      by_cases hname : p.1 = field.name
      · exact takeMember_of_checks_first hfield hs hname depth slot slots
      · exact takeMember_of_checks_later hfield hfields hs hname depth slot slots
  items := readItems_of_checks hfield hfields

end

/-! ### Records that check what other ones read -/

theorem nested_of_checks {f : α → Option β} {tail : Nat → Reader α} {tail' : Nat → Reader β}
    (h : ∀ depth s, (tail' depth s).toOption = checked f (tail depth s).toOption) (depth : Nat)
    (s : Bytes) : (nested depth tail' s).toOption = checked f (nested depth tail s).toOption := by
  cases depth with
  | zero => rfl
  | succ depth => exact h depth s

section

variable {fields : Fields α σ} {fields' : Fields β τ} {f : α → Option β} {g : σ → Option τ}

theorem Fields.Check.readList (h : fields.Check fields' f g) (name name' : String) (depth : Nat)
    (s : Bytes) : (fields'.readList name' depth s).toOption =
      checked f (fields.readList name depth s).toOption := by
  simp only [Fields.readList]
  rw [toOption_bind, toOption_bind, h.items depth (recordWanted name fields.count)]
  refine checked_bind (fun a rest => ?_) _
  dsimp only
  cases closeList rest with
  | error e => exact Option.bind_fun_none _
  | ok s =>
    show ((f a).bind fun b => some (b, s)) = (f a).map (·, s)
    cases f a <;> rfl

theorem Fields.Check.readObject (h : fields.Check fields' f g) (depth : Nat) (s : Bytes) :
    (fields'.readObject depth s).toOption = checked f (fields.readObject depth s).toOption := by
  have htail := objectTail_of_checks (h.member depth) fields.noSlots s
  rw [h.noSlots, Option.bind_some] at htail
  simp only [Fields.readObject]
  rw [toOption_bind, toOption_bind, htail]
  refine checked_bind (fun slots rest => ?_) _
  simp only [toOption_bind]
  rw [← Option.bind_assoc, h.finish]
  cases fields.finish slots with
  | error e => rfl
  | ok a =>
    show ((f a).bind fun b => some (b, rest)) = (f a).map (·, rest)
    cases f a <;> rfl

/-- **A record of `fields'` gives what passes `f` of a record of `fields`**, from a list as from an
object. -/
theorem Fields.Check.read_record (h : fields.Check fields' f g) (name name' : String) (depth : Nat)
    (s : Bytes) : ((Format.record name' fields').read depth s).toOption =
      checked f ((Format.record name fields).read depth s).toOption := by
  have hlist := nested_of_checks (h.readList name name') depth (skipSpace s).tail
  have hobject := nested_of_checks h.readObject depth (skipSpace s).tail
  rw [Format.read_record, Format.read_record]
  cases lead (skipSpace s) with
  | openList => exact hlist
  | openObject => exact hobject
  | _ => rfl

end

/-- What a whole `body` spells by `format'` is what it spells by `format`, if `f` takes this. -/
theorem parse_of_checks {format : Format α} {format' : Format β} {f : α → Option β}
    (h : ∀ s, (format'.read maxDepth s).toOption = checked f (format.read maxDepth s).toOption)
    (body : Bytes) : (format'.parse body).toOption = (format.parse body).toOption.bind f := by
  rw [Format.parse, Format.parse, whole, whole, toOption_bind, toOption_bind, h]
  cases format.read maxDepth body with
  | error e => rfl
  | ok p =>
    show ((f p.1).map (·, p.2)).bind _ = Except.toOption
      (if skipSpace p.2 = [] then pure p.1 else throw .trailingText : Except Fault α) >>= f
    rw [Option.bind_map]
    by_cases hrest : skipSpace p.2 = []
    · simp only [if_pos hrest, Function.comp_def]
      show ((f p.1).bind fun b => some b) = f p.1
      cases f p.1 <;> rfl
    · simp only [if_neg hrest, Function.comp_def]
      exact Option.bind_fun_none _

/-! ### Fields that are told by the values of their members -/

/-- **What `format` reads is told by the value that stands there**: it is `ofValue` of it. -/
def Format.ReadsValue (format : Format α) : Prop := ∀ depth s,
  (format.read depth s).toOption =
    checked (fun v => (format.ofValue v).toOption) (Json.value depth s).toOption

theorem checked_eq_none {f : α → Option β} {x : Except Fault (α × Bytes)}
    (h : ∀ a rest, x = .ok (a, rest) → f a = none) : checked f x.toOption = none := by
  cases x with
  | error e => rfl
  | ok p =>
    show (f p.1).map (·, p.2) = none
    rw [h p.1 p.2 rfl]
    rfl

theorem readsValue_string (wanted : String) : (Format.string wanted).ReadsValue := by
  intro depth s
  by_cases hlead : lead (skipSpace s) = .quote
  · obtain ⟨inner, hinner⟩ := value_eq_valueWith depth
    rw [hinner, valueWith_quote hlead, Format.read]
    simp only [hlead]
    cases stringTail (skipSpace s).tail <;> rfl
  · have hread : ((Format.string wanted).read depth s).toOption = none := by
      rw [Format.read]
      cases h : lead (skipSpace s) with
      | quote => exact absurd h hlead
      | _ => simp only [h]; rfl
    rw [hread, checked_eq_none fun v rest hv => ?_]
    have hmem := lead_mem_of_value hv
    cases v with
    | string t => exact absurd (List.mem_singleton.1 hmem) hlead
    | _ => rfl

theorem readsValue_text : Format.text.ReadsValue := readsValue_string _

theorem readsValue_int (range : IntRange) : (Format.int range).ReadsValue := by
  intro depth s
  -- numbers are told by their first byte, and no other value starts with one of these
  by_cases hlead : lead (skipSpace s) ∈ [.minus, .digit]
  · obtain ⟨inner, hinner⟩ := value_eq_valueWith depth
    rw [hinner, valueWith_number hlead, Format.read]
    have hnumber : ((number (skipSpace s)) >>= fun p => range.ofNumber p.1 >>= fun n =>
        pure (n, p.2)).toOption = checked (fun v => ((Format.int range).ofValue v).toOption)
          ((number (skipSpace s)).map fun p => (.number p.1, p.2)).toOption := by
      cases number (skipSpace s) with
      | error e => rfl
      | ok p =>
        show (range.ofNumber p.1 >>= fun n => pure (n, p.2)).toOption =
          (range.ofNumber p.1).toOption.map (·, p.2)
        cases range.ofNumber p.1 <;> rfl
    rcases List.mem_cons.1 hlead with h | h
    · simp only [h]
      exact hnumber
    · simp only [List.mem_singleton.1 h]
      exact hnumber
  · have hread : ((Format.int range).read depth s).toOption = none := by
      rw [Format.read]
      cases h : lead (skipSpace s) with
      | minus | digit => exact absurd (by simp [h]) hlead
      | _ => simp only [h]; rfl
    rw [hread, checked_eq_none fun v rest hv => ?_]
    have hmem := lead_mem_of_value hv
    cases v with
    | number n => exact absurd hmem hlead
    | _ => rfl

theorem Format.ReadsValue.via {format : Format α} (h : format.ReadsValue)
    (decode : α → Except String β) (encode : β → Except String α) :
    (format.via decode encode).ReadsValue := by
  intro depth s
  rw [Format.read_via, toOption_bind, h]
  cases Json.value depth s with
  | error e => rfl
  | ok p =>
    show ((format.ofValue p.1).toOption.map (·, p.2)).bind _ =
      (format.ofValue p.1 >>= fun a => refuse (decode a)).toOption.map (·, p.2)
    cases format.ofValue p.1 with
    | error e => rfl
    | ok a =>
      show (refuse (decode a) >>= fun b => pure (b, p.2)).toOption =
        (refuse (decode a)).toOption.map (·, p.2)
      cases refuse (decode a) <;> rfl

theorem Format.ReadsValue.option {format : Format α} (h : format.ReadsValue) :
    format.option.ReadsValue := by
  intro depth s
  by_cases hlead : lead (skipSpace s) = .letterN
  · rw [value_of_letterN hlead, read_option_of_letterN hlead]
    cases nullTail (skipSpace s).tail <;> rfl
  · rw [read_option_of_ne hlead, toOption_map, h, value_skipSpace]
    cases hvalue : Json.value depth s with
    | error e => rfl
    | ok p =>
      obtain ⟨v, rest⟩ := p
      have hv : format.option.ofValue v = (format.ofValue v).map some := by
        rw [Format.ofValue]
        exact fun e => value_ne_null hvalue hlead e
      show ((format.ofValue v).toOption.map (·, rest)).map _ =
        (format.option.ofValue v).toOption.map (·, rest)
      rw [hv]
      cases format.ofValue v <;> rfl

/-- What `field` holds for the value of its member, if there is one. -/
def Field.given (field : Field α) (format : Format α) : Option Value → Option α
  | none => field.absence.inObject?
  | some v => (format.ofValue v).toOption

/-- A `field` that may be left out of a list as of an object checks what its member holds. -/
theorem Format.ReadsValue.checks {format : Format α} (h : format.ReadsValue) (field : Field α)
    (hlist : field.absence.inList? = field.absence.inObject?) :
    (Field.withDefault field.name none).Checks .member field format (field.given format) where
  name := rfl
  inObject := rfl
  inList := hlist
  read depth s := by
    rw [h, read_member, Reader.mapValue]
    cases Json.value depth s <;> rfl

end StreamRecords.Json
