import StreamRecords.Dict

/-!
JSON values. An object is a list of members in the order in which they are written; a document has
them in increasing order of their names, each name once.
-/

namespace StreamRecords.Json

/-- The integers that a number holds exactly: those of 64 bits, with a sign or without. -/
def IsExact (n : Int) : Prop := -9223372036854775808 ≤ n ∧ n < 18446744073709551616

instance : DecidablePred IsExact := fun _ => inferInstanceAs (Decidable (_ ∧ _))

/-- **A JSON number**: an integer of 64 bits, or a floating-point number. -/
inductive Number where
  | int (n : Int) (exact : IsExact n)
  | float (x : Float)

/-- **A JSON value.** -/
inductive Value where
  | null
  | bool (b : Bool)
  | number (n : Number)
  | string (s : String)
  | list (items : List Value)
  | object (members : List (String × Value))

instance : Inhabited Value := ⟨.null⟩

namespace Number

def ofInt64 (n : Int64) : Number :=
  .int n.toInt ⟨n.le_toInt, by have := n.toInt_lt; omega⟩

def toInt64? : Number → Option Int64
  | .int n _ => if n < 9223372036854775808 then some (.ofInt n) else none
  | .float _ => none

def toNat? : Number → Option Nat
  | .int n _ => if 0 ≤ n then some n.toNat else none
  | .float _ => none

/-- Two numbers are the same: integers by value, floating-point numbers as such, and never one of
each. -/
def same : Number → Number → Bool
  | .int m _, .int n _ => m = n
  | .float x, .float y => x == y
  | _, _ => false

def IsInt : Number → Prop
  | .int .. => True
  | .float _ => False

end Number

namespace Value

/-- The member `name` of an object. A value that is no object has none. -/
def get? (name : String) : Value → Option Value
  | .object members => Dict.get? name members
  | _ => none

def asString? : Value → Option String
  | .string s => some s
  | _ => none

def asNumber? : Value → Option Number
  | .number n => some n
  | _ => none

def isNull : Value → Bool
  | .null => true
  | _ => false

def isObject : Value → Bool
  | .object _ => true
  | _ => false

mutual

/-- Two values are the same, their numbers compared by `Number.same`. -/
def same : Value → Value → Bool
  | .null, .null => true
  | .bool a, .bool b => a == b
  | .number m, .number n => m.same n
  | .string s, .string t => s == t
  | .list xs, .list ys => sameItems xs ys
  | .object xs, .object ys => sameMembers xs ys
  | _, _ => false

def sameItems : List Value → List Value → Bool
  | [], [] => true
  | x :: xs, y :: ys => x.same y && sameItems xs ys
  | _, _ => false

def sameMembers : List (String × Value) → List (String × Value) → Bool
  | [], [] => true
  | (k, x) :: xs, (l, y) :: ys => k == l && x.same y && sameMembers xs ys
  | _, _ => false

end

mutual

/-- **How deep a value is nested**: the most lists and objects around any of its parts. -/
def depth : Value → Nat
  | .list items => depthItems items + 1
  | .object members => depthMembers members + 1
  | _ => 0

def depthItems : List Value → Nat
  | [] => 0
  | v :: items => max v.depth (depthItems items)

def depthMembers : List (String × Value) → Nat
  | [] => 0
  | (_, v) :: members => max v.depth (depthMembers members)

end

mutual

/-- All numbers of a value are integers. -/
def HasOnlyInts : Value → Prop
  | .number n => n.IsInt
  | .list items => ItemsHaveOnlyInts items
  | .object members => MembersHaveOnlyInts members
  | _ => True

def ItemsHaveOnlyInts : List Value → Prop
  | [] => True
  | v :: items => v.HasOnlyInts ∧ ItemsHaveOnlyInts items

def MembersHaveOnlyInts : List (String × Value) → Prop
  | [] => True
  | (_, v) :: members => v.HasOnlyInts ∧ MembersHaveOnlyInts members

end

mutual

/-- **A value is a document**: the members of each of its objects are in increasing order of their
names. -/
def IsDocument : Value → Prop
  | .list items => ItemsAreDocuments items
  | .object members => Dict.IsSorted members ∧ MembersAreDocuments members
  | _ => True

def ItemsAreDocuments : List Value → Prop
  | [] => True
  | v :: items => v.IsDocument ∧ ItemsAreDocuments items

def MembersAreDocuments : List (String × Value) → Prop
  | [] => True
  | (_, v) :: members => v.IsDocument ∧ MembersAreDocuments members

end

mutual

/-- The document with the members of a value: in the order of their names, and of several with one
name the last. -/
def toDocument : Value → Value
  | .list items => .list (toDocumentItems items)
  | .object members => .object (Dict.ofList (toDocumentMembers members))
  | v => v

def toDocumentItems : List Value → List Value
  | [] => []
  | v :: items => v.toDocument :: toDocumentItems items

def toDocumentMembers : List (String × Value) → List (String × Value)
  | [] => []
  | (k, v) :: members => (k, v.toDocument) :: toDocumentMembers members

end

end Value
end StreamRecords.Json
