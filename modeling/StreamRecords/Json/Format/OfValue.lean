import StreamRecords.Json.Format.Read

/-!
Taking the values of a format from a document that is read already. Nothing limits its depth, and a
list for a record must have just as many items as there are fields.
-/

namespace StreamRecords.Json

mutual

/-- **The value of a format that a document holds.** -/
def Format.ofValue : {α : Type} → Format α → Value → Except Fault α
  | _, .unit, v =>
    match v with
    | .null => .ok ()
    | _ => .error (.wrongType v.found "unit")
  | _, .bool, v =>
    match v with
    | .bool b => .ok b
    | _ => .error (.wrongType v.found "a boolean")
  | _, .int range, v =>
    match v with
    | .number n => range.ofNumber n
    | _ => .error (.wrongType v.found range.name)
  | _, .string wanted, v =>
    match v with
    | .string s => .ok s
    | _ => .error (.wrongType v.found wanted)
  | _, .value, v => .ok v
  | _, .option format, v =>
    match v with
    | .null => .ok none
    | _ => (format.ofValue v).map some
  | _, .list format, v =>
    match v with
    | .list items => items.mapM format.ofValue
    | _ => .error (.wrongType v.found "a sequence")
  | _, .dict format, v =>
    match v with
    | .object members => do
      let pairs ← members.mapM fun (name, v) => do
        let a ← format.ofValue v
        return (name, a)
      return Dict.ofList pairs
    | _ => .error (.wrongType v.found "a map")
  | _, .record name fields, v =>
    match v with
    | .list items => do
      let (a, rest) ← fields.ofItems (recordWanted name fields.count) 0 items
      if rest.isEmpty then return a
      else throw (.wrongLength items.length "fewer elements in array")
    | .object members => do
      let slots ← members.foldlM fields.ofMember fields.noSlots
      fields.finish slots
    | _ => .error (.wrongType v.found s!"struct {name}")
  | _, .via format decode _, v => do
    let a ← format.ofValue v
    refuse (decode a)

/-- Takes a member into the slot of the field with its name, if there is one. -/
def Fields.ofMember : {α σ : Type} → Fields α σ → σ → String × Value → Except Fault σ
  | _, _, .nil, slots, _ => .ok slots
  | _, _, .cons field format rest, (slot, slots), (name, v) =>
    if name = field.name then
      match slot with
      | some _ => .error (.duplicateField name)
      | none => (format.ofValue v).map fun a => (some a, slots)
    else (rest.ofMember slots (name, v)).map fun slots => (slot, slots)

/-- The fields from the items of a list, of which the first has the number `index`, with the items
left over. -/
def Fields.ofItems :
    {α σ : Type} → Fields α σ → String → Nat → List Value → Except Fault (α × List Value)
  | _, _, .nil, _, _, items => .ok ((), items)
  | _, _, .cons field format rest, wanted, index, items => do
    match items with
    | [] =>
      match field.absence.inList? with
      | none => throw (.wrongLength index wanted)
      | some a =>
        let (b, items) ← rest.ofItems wanted (index + 1) []
        return ((a, b), items)
    | v :: items =>
      let a ← format.ofValue v
      let (b, items) ← rest.ofItems wanted (index + 1) items
      return ((a, b), items)

end

end StreamRecords.Json
