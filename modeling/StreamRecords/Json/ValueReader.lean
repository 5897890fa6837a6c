import StreamRecords.Json.Numeral
import StreamRecords.Json.StringReader

/-!
Reading any JSON value. What is read is a document: the members of each object come in the order of
their names, and of several with one name the last is kept. Lists and objects may be nested only so
deep.
-/

namespace StreamRecords.Json

def maxDepth : Nat := 127

/-- Takes a member into the object `ms`, after the first quote of its name. -/
def documentMember (read : Reader Value) (ms : List (String × Value)) :
    Reader (List (String × Value)) := fun s => do
  let (name, s) ← stringTail s
  let s ← colon s
  let (v, s) ← read s
  return (Dict.insert name v ms, s)

/-- A value whose items and members are read by `inner`, or which may have none. -/
def valueWith (inner : Option (Reader Value)) : Reader Value := fun s =>
  let s := skipSpace s
  match lead s with
  | .nothing => .error .endInValue
  | .letterN => (nullTail s.tail).map fun s => (.null, s)
  | .letterT => (trueTail s.tail).map fun s => (.bool true, s)
  | .letterF => (falseTail s.tail).map fun s => (.bool false, s)
  | .minus | .digit => (number s).map fun (n, s) => (.number n, s)
  | .quote => (stringTail s.tail).map fun (t, s) => (.string t, s)
  | .openList =>
    match inner with
    | none => .error .tooDeep
    | some read => (listTail read s.tail).map fun (vs, s) => (.list vs, s)
  | .openObject =>
    match inner with
    | none => .error .tooDeep
    | some read => (objectTail (documentMember read) [] s.tail).map fun (ms, s) => (.object ms, s)
  | _ => .error .expectedValue

/-! ### By the first token -/

section

variable {inner : Option (Reader Value)} {read : Reader Value} {s : Bytes}

@[simp] theorem valueWith_skipSpace : valueWith inner (skipSpace s) = valueWith inner s := by
  simp only [valueWith, skipSpace_skipSpace]

theorem valueWith_nothing (h : lead (skipSpace s) = .nothing) :
    valueWith inner s = .error .endInValue := by
  simp only [valueWith, h]

theorem valueWith_letterN (h : lead (skipSpace s) = .letterN) :
    valueWith inner s = (nullTail (skipSpace s).tail).map (.null, ·) := by
  simp only [valueWith, h]

theorem valueWith_letterT (h : lead (skipSpace s) = .letterT) :
    valueWith inner s = (trueTail (skipSpace s).tail).map (.bool true, ·) := by
  simp only [valueWith, h]

theorem valueWith_letterF (h : lead (skipSpace s) = .letterF) :
    valueWith inner s = (falseTail (skipSpace s).tail).map (.bool false, ·) := by
  simp only [valueWith, h]

theorem valueWith_number (h : lead (skipSpace s) ∈ [.minus, .digit]) :
    valueWith inner s = (number (skipSpace s)).map fun p => (.number p.1, p.2) := by
  simp only [List.mem_cons, List.not_mem_nil, or_false] at h
  rcases h with h | h <;> simp only [valueWith, h]

theorem valueWith_quote (h : lead (skipSpace s) = .quote) :
    valueWith inner s = (stringTail (skipSpace s).tail).map fun p => (.string p.1, p.2) := by
  simp only [valueWith, h]

theorem valueWith_openList (h : lead (skipSpace s) = .openList) :
    valueWith (some read) s =
      (listTail read (skipSpace s).tail).map fun p => (.list p.1, p.2) := by
  simp only [valueWith, h]

theorem valueWith_openObject (h : lead (skipSpace s) = .openObject) :
    valueWith (some read) s =
      (objectTail (documentMember read) [] (skipSpace s).tail).map fun p => (.object p.1, p.2) := by
  simp only [valueWith, h]

theorem valueWith_tooDeep (h : lead (skipSpace s) ∈ [.openList, .openObject]) :
    valueWith none s = .error .tooDeep := by
  simp only [List.mem_cons, List.not_mem_nil, or_false] at h
  rcases h with h | h <;> simp only [valueWith, h]

theorem valueWith_other
    (h : lead (skipSpace s) ∈ [.comma, .colon, .closeList, .closeObject, .other]) :
    valueWith inner s = .error .expectedValue := by
  simp only [List.mem_cons, List.not_mem_nil, or_false] at h
  rcases h with h | h | h | h | h <;> simp only [valueWith, h]

end

/-- The value at the front of a text, nested no deeper than `depth`. -/
def value : Nat → Reader Value
  | 0 => valueWith none
  | depth + 1 => valueWith (some (value depth))

theorem value_eq_valueWith (depth : Nat) : ∃ inner, value depth = valueWith inner := by
  cases depth with
  | zero => exact ⟨_, rfl⟩
  | succ depth => exact ⟨_, rfl⟩

@[simp]
theorem value_skipSpace (depth : Nat) (s : Bytes) : value depth (skipSpace s) = value depth s := by
  cases depth <;> exact valueWith_skipSpace

/-- **The document that a text spells.** -/
def Value.parse (s : Bytes) : Except Fault Value := whole (value maxDepth) s

end StreamRecords.Json
