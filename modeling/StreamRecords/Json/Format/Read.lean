import StreamRecords.Json.Format
import StreamRecords.Json.Skip
import StreamRecords.Json.ValueReader

/-!
Reading the values of a format from text, in one pass from left to right: the first fault of the
text, of form or of format, is the one that is reported.
-/

namespace StreamRecords.Json

/-- The fault of the text `s` whose value is of another type than the `wanted` one. The value is
read first if it is no list and no object, and its own faults come first. -/
def mismatch (wanted : String) (s : Bytes) : Fault :=
  let read (r : Except Fault Found) : Fault :=
    match r with
    | .ok found => .wrongType found wanted
    | .error e => e
  match lead s with
  | .nothing => .endInValue
  | .letterN => read ((nullTail s.tail).map fun _ => .null)
  | .letterT => read ((trueTail s.tail).map fun _ => .bool true)
  | .letterF => read ((falseTail s.tail).map fun _ => .bool false)
  | .minus | .digit => read ((number s).map fun (n, _) => .number n)
  | .quote => read ((stringTail s.tail).map fun (t, _) => .string t)
  | .openList => .wrongType .list wanted
  | .openObject => .wrongType .object wanted
  | _ => .expectedValue

/-- A number as an integer of `r`. -/
def IntRange.ofNumber (r : IntRange) : Number → Except Fault r.Member
  | .int n h =>
    if hr : r.least ≤ n ∧ n ≤ r.greatest then .ok ⟨n, hr⟩
    else .error (.wrongValue (.number (.int n h)) r.name)
  | .float x => .error (.wrongType (.number (.float x)) r.name)

def refuse {α : Type} : Except String α → Except Fault α
  | .ok a => .ok a
  | .error reason => .error (.refused reason)

/-- How a record of `name` with `count` fields is asked for. -/
def recordWanted (name : String) (count : Nat) : String :=
  let noun := if count = 1 then "element" else "elements"
  s!"struct {name} with {count} {noun}"

/-- A list or an object within a text that may be nested `depth` levels deeper. -/
def nested {α : Type} (depth : Nat) (tail : Nat → Reader α) : Reader α :=
  match depth with
  | 0 => fun _ => .error .tooDeep
  | depth + 1 => tail depth

/-- The fields that a record has once its object is read. -/
def Fields.finish : {α σ : Type} → Fields α σ → σ → Except Fault α
  | _, _, .nil, _ => .ok ()
  | _, _, .cons field _ rest, (slot, slots) => do
    let a ← match slot, field.absence.inObject? with
      | some a, _ => pure a
      | none, some a => pure a
      | none, none => throw (.missingField field.name)
    let b ← rest.finish slots
    return (a, b)

mutual

/-- The value of a format at the front of a text, nested no deeper than `depth`. -/
def Format.read : {α : Type} → Format α → Nat → Reader α
  | _, .unit, _ => fun s =>
    let s := skipSpace s
    match lead s with
    | .letterN => (nullTail s.tail).map fun s => ((), s)
    | _ => .error (mismatch "unit" s)
  | _, .bool, _ => fun s =>
    let s := skipSpace s
    match lead s with
    | .letterT => (trueTail s.tail).map fun s => (true, s)
    | .letterF => (falseTail s.tail).map fun s => (false, s)
    | _ => .error (mismatch "a boolean" s)
  | _, .int range, _ => fun s =>
    let s := skipSpace s
    match lead s with
    | .minus | .digit => do
      let (n, s) ← number s
      let n ← range.ofNumber n
      return (n, s)
    | _ => .error (mismatch range.name s)
  | _, .string wanted, _ => fun s =>
    let s := skipSpace s
    match lead s with
    | .quote => stringTail s.tail
    | _ => .error (mismatch wanted s)
  | _, .value, depth => Json.value depth
  | _, .option format, depth => fun s =>
    let s := skipSpace s
    match lead s with
    | .letterN => (nullTail s.tail).map fun s => (none, s)
    | _ => (format.read depth s).map fun (a, s) => (some a, s)
  | _, .list format, depth => fun s =>
    let s := skipSpace s
    match lead s with
    | .openList => nested depth (fun depth => listTail (format.read depth)) s.tail
    | _ => .error (mismatch "a sequence" s)
  | _, .dict format, depth => fun s =>
    let s := skipSpace s
    match lead s with
    | .openObject =>
      nested depth (fun depth => objectTail (fun d s => do
        let (name, s) ← stringTail s
        let s ← colon s
        let (a, s) ← format.read depth s
        return (Dict.insert name a d, s)) []) s.tail
    | _ => .error (mismatch "a map" s)
  | _, .record name fields, depth => fun s =>
    let s := skipSpace s
    match lead s with
    | .openList =>
      nested depth (fun depth s => do
        let (a, s) ← fields.readItems depth (recordWanted name fields.count) 0 true s
        let s ← closeList s
        return (a, s)) s.tail
    | .openObject =>
      nested depth (fun depth s => do
        let (slots, s) ← objectTail (fun slots s => do
          let (name, s) ← stringTail s
          match fields.readMember depth name with
          | none => do
            let s ← colon s
            let s ← skip s
            return (slots, s)
          | some read => read slots s) fields.noSlots s
        let a ← fields.finish slots
        return (a, s)) s.tail
    | _ => .error (mismatch s!"struct {name}" s)
  | _, .via format decode _, depth => fun s => do
    let (a, s) ← format.read depth s
    let b ← refuse (decode a)
    return (b, s)

/-- The field `name`, read after its name into its slot. There is none if no field has the name. -/
def Fields.readMember : {α σ : Type} → Fields α σ → Nat → String → Option (σ → Reader σ)
  | _, _, .nil, _, _ => none
  | _, _, .cons field format rest, depth, name =>
    if name = field.name then
      some fun (slot, slots) s =>
        match slot with
        | some _ => .error (.duplicateField name)
        | none => do
          let s ← colon s
          let (a, s) ← format.read depth s
          return ((some a, slots), s)
    else
      (rest.readMember depth name).map fun read (slot, slots) s =>
        (read slots s).map fun (slots, s) => ((slot, slots), s)

/-- The fields from a list, of which the first is its item number `index`. The closing bracket is
left. -/
def Fields.readItems : {α σ : Type} → Fields α σ → Nat → String → Nat → Bool → Reader α
  | _, _, .nil, _, _, _, _ => fun s => .ok ((), s)
  | _, _, .cons field format rest, depth, wanted, index, first => fun s => do
    match ← nextItem first s with
    | .closed _ =>
      match field.absence.inList? with
      | none => throw (.wrongLength index wanted)
      | some a =>
        let (b, s) ← rest.readItems depth wanted (index + 1) first s
        return ((a, b), s)
    | .another s =>
      let (a, s) ← format.read depth s
      let (b, s) ← rest.readItems depth wanted (index + 1) false s
      return ((a, b), s)

end

/-- The reader of one member that a record hands to `objectTail`. -/
def Fields.takeMember {α σ : Type} (fields : Fields α σ) (depth : Nat) (slots : σ) : Reader σ :=
  fun s => do
    let (name, s) ← stringTail s
    match fields.readMember depth name with
    | none => do
      let s ← colon s
      let s ← skip s
      return (slots, s)
    | some read => read slots s

/-- The record `name` of `fields` from a list, behind the opening bracket. -/
def Fields.readList {α σ : Type} (fields : Fields α σ) (name : String) (depth : Nat) : Reader α :=
  fun s => do
    let (a, s) ← fields.readItems depth (recordWanted name fields.count) 0 true s
    let s ← closeList s
    return (a, s)

/-- The record of `fields` from an object, behind the opening bracket. -/
def Fields.readObject {α σ : Type} (fields : Fields α σ) (depth : Nat) : Reader α := fun s => do
  let (slots, s) ← objectTail (fields.takeMember depth) fields.noSlots s
  let a ← fields.finish slots
  return (a, s)

theorem Format.read_record {α σ : Type} (name : String) (fields : Fields α σ) (depth : Nat)
    (s : Bytes) : (Format.record name fields).read depth s =
      match lead (skipSpace s) with
      | .openList => nested depth (fields.readList name) (skipSpace s).tail
      | .openObject => nested depth fields.readObject (skipSpace s).tail
      | _ => .error (mismatch s!"struct {name}" (skipSpace s)) := by
  rw [Format.read]
  rfl

theorem Format.read_via {α β : Type} (format : Format α) (decode : α → Except String β)
    (encode : β → Except String α) (depth : Nat) (s : Bytes) :
    (format.via decode encode).read depth s =
      format.read depth s >>= fun p => refuse (decode p.1) >>= fun b => pure (b, p.2) := by
  rw [Format.read]

/-- **The value of `format` that `s` spells.** -/
def Format.parse {α : Type} (format : Format α) (s : Bytes) : Except Fault α :=
  whole (format.read maxDepth) s

end StreamRecords.Json
