import StreamRecords.Json.Text

/-!
Formats: how the values of a type are spelled in JSON. One description serves for reading them from
text, for taking them from a document, and for writing them.
-/

namespace StreamRecords.Json

/-- A range of integers that numbers hold exactly, with the `name` it goes by. -/
structure IntRange where
  name : String
  least : Int
  greatest : Int
  exact : -9223372036854775808 ≤ least ∧ greatest < 18446744073709551616 := by decide

/-- An integer of the range `r`. -/
def IntRange.Member (r : IntRange) : Type := { n : Int // r.least ≤ n ∧ n ≤ r.greatest }

theorem IntRange.Member.isExact {r : IntRange} (n : r.Member) : IsExact n.val :=
  ⟨Int.le_trans r.exact.1 n.property.1, Int.lt_of_le_of_lt n.property.2 r.exact.2⟩

/-- What a field stands for when it is left out. -/
inductive Absence (α : Type) where
  /-- The field cannot be left out. -/
  | required
  /-- An object may leave the field out; a list may not. -/
  | implied (a : α)
  /-- The field may be left out of an object, and at the end of a list. -/
  | default (a : α)

/-- The value of a field that an object leaves out. -/
def Absence.inObject? {α : Type} : Absence α → Option α
  | .required => none
  | .implied a | .default a => some a

/-- The value of a field that a list leaves out at its end. -/
def Absence.inList? {α : Type} : Absence α → Option α
  | .required | .implied _ => none
  | .default a => some a

/-- A field of a record: its name, what it stands for when left out, and when it is not written. -/
structure Field (α : Type) where
  name : String
  absence : Absence α
  hidden : α → Bool

def Field.required {α : Type} (name : String) : Field α := ⟨name, .required, fun _ => false⟩

/-- A field that an object may leave out when it holds nothing, and that is always written. -/
def Field.optional {α : Type} (name : String) : Field (Option α) :=
  ⟨name, .implied none, fun _ => false⟩

/-- A field that may be left out for `a`, and that is always written. -/
def Field.withDefault {α : Type} (name : String) (a : α) : Field α :=
  ⟨name, .default a, fun _ => false⟩

mutual

/-- **A format**: how the values of a type are spelled in JSON. -/
inductive Format : Type → Type 1 where
  /-- Null alone. -/
  | unit : Format Unit
  | bool : Format Bool
  /-- An integer of a range. -/
  | int (range : IntRange) : Format range.Member
  /-- A string, asked for by the words `wanted`. -/
  | string (wanted : String) : Format String
  /-- Any value. -/
  | value : Format Value
  /-- Null for nothing. -/
  | option {α : Type} (format : Format α) : Format (Option α)
  | list {α : Type} (format : Format α) : Format (List α)
  /-- An object with members of one format, whatever their names. -/
  | dict {α : Type} (format : Format α) : Format (List (String × α))
  /-- An object with a member for each field, or a list of the fields in their order. -/
  | record {α σ : Type} (name : String) (fields : Fields α σ) : Format α
  /-- Another format for a type whose values are a part of those of the first, or are written like
  a part of them. Taking a value apart or writing it may be refused, for a reason. -/
  | via {α β : Type} (format : Format α) (decode : α → Except String β)
      (encode : β → Except String α) : Format β

/-- The fields of a record, in their order: the type of their values, and the type of the slots that
keep what is read so far, each empty or with the value of a field. -/
inductive Fields : Type → Type → Type 1 where
  | nil : Fields Unit Unit
  | cons {α β σ : Type} (field : Field α) (format : Format α) (rest : Fields β σ) :
      Fields (α × β) (Option α × σ)

end

def Fields.noSlots : {α σ : Type} → Fields α σ → σ
  | _, _, .nil => ()
  | _, _, .cons _ _ rest => (none, rest.noSlots)

def Fields.count : {α σ : Type} → Fields α σ → Nat
  | _, _, .nil => 0
  | _, _, .cons _ _ rest => rest.count + 1

namespace Format

/-- `format` for another type of the same values. -/
def iso {α β : Type} (format : Format α) (decode : α → β) (encode : β → α) : Format β :=
  format.via (fun a => .ok (decode a)) (fun b => .ok (encode b))

def text : Format String := .string "a string"

def byteRange : IntRange where
  name := "u8"
  least := 0
  greatest := 255

def word32Range : IntRange where
  name := "u32"
  least := 0
  greatest := 4294967295

def word64Range : IntRange where
  name := "u64"
  least := 0
  greatest := 18446744073709551615

def int64Range : IntRange where
  name := "i64"
  least := -9223372036854775808
  greatest := 9223372036854775807

def byte : Format UInt8 :=
  (Format.int byteRange).iso (fun n => .ofNat n.val.toNat)
    fun b => ⟨b.toNat, by simp only [byteRange]; have := b.toNat_lt; omega⟩

def word32 : Format UInt32 :=
  (Format.int word32Range).iso (fun n => .ofNat n.val.toNat)
    fun b => ⟨b.toNat, by simp only [word32Range]; have := b.toNat_lt; omega⟩

def word64 : Format UInt64 :=
  (Format.int word64Range).iso (fun n => .ofNat n.val.toNat)
    fun b => ⟨b.toNat, by simp only [word64Range]; have := b.toNat_lt; omega⟩

def int64 : Format Int64 :=
  (Format.int int64Range).iso (fun n => .ofInt n.val)
    fun b => ⟨b.toInt, by
      simp only [int64Range]; have := b.le_toInt; have := b.toInt_lt; omega⟩

end Format

/-! ### Writing -/

def IntRange.toValue {r : IntRange} (n : r.Member) : Value := .number (.int n.val n.isExact)

mutual

/-- **The value that is written for a value of a format**, unless writing it is refused. -/
def Format.toValue : {α : Type} → Format α → α → Except String Value
  | _, .unit, _ => .ok .null
  | _, .bool, b => .ok (.bool b)
  | _, .int _, n => .ok (IntRange.toValue n)
  | _, .string _, s => .ok (.string s)
  | _, .value, v => .ok v
  | _, .option format, a =>
    match a with
    | none => .ok .null
    | some a => format.toValue a
  | _, .list format, as => (as.mapM format.toValue).map .list
  | _, .dict format, d =>
    (d.mapM fun p => (format.toValue p.2).map fun v => (p.1, v)).map .object
  | _, .record _ fields, a => (fields.toMembers a).map .object
  | _, .via format _ encode, b => do
    let a ← encode b
    format.toValue a

/-- The members that are written for the fields of a record. -/
def Fields.toMembers : {α σ : Type} → Fields α σ → α → Except String (List (String × Value))
  | _, _, .nil, _ => .ok []
  | _, _, .cons field format rest, (a, b) =>
    if field.hidden a then rest.toMembers b
    else do
      let v ← format.toValue a
      let ms ← rest.toMembers b
      return (field.name, v) :: ms

end

/-- The bytes that are written for `a`. -/
def Format.write {α : Type} (format : Format α) (a : α) : Except String Bytes :=
  (format.toValue a).map Value.bytes

end StreamRecords.Json
