import StreamRecords.Json.Numeral
import StreamRecords.Json.StringReader

/-!
Passing over a value that nobody wants. Its form must be right, but it may be nested to any depth,
its numbers may be of any size and its strings need not be UTF-8.
-/

namespace StreamRecords.Json

/-- Passes over the name of a member and the colon, after the quote or comma before it. -/
def skipName (s : Bytes) : Except Fault Bytes :=
  let s := skipSpace s
  match lead s with
  | .nothing => .error .endInObject
  | .quote => do
    let s ← skipStringTail s.tail
    colon s
  | _ => .error .nameNotString

mutual

/-- Passes over a value. Each round takes a byte, so as many as there are bytes are enough. -/
def skipValue : Nat → Bytes → Except Fault Bytes
  | 0, _ => .error .endInValue
  | n + 1, s =>
    let s := skipSpace s
    match lead s with
    | .nothing => .error .endInValue
    | .letterN => nullTail s.tail
    | .letterT => trueTail s.tail
    | .letterF => falseTail s.tail
    | .minus | .digit => skipNumber s
    | .quote => skipStringTail s.tail
    | .openList =>
      let s := skipSpace s.tail
      match lead s with
      | .nothing => .error .endInList
      | .closeList => .ok s.tail
      | _ => skipItems n s
    | .openObject =>
      let s := skipSpace s.tail
      match lead s with
      | .nothing => .error .endInObject
      | .closeObject => .ok s.tail
      | _ => skipMembers n s
    | _ => .error .expectedValue

/-- Passes over the items of a list, of which there is one at least, and the closing bracket. -/
def skipItems : Nat → Bytes → Except Fault Bytes
  | 0, _ => .error .endInList
  | n + 1, s => do
    let s ← skipValue n s
    let s := skipSpace s
    match lead s with
    | .nothing => throw .endInList
    | .closeList => return s.tail
    | .comma => skipItems n s.tail
    | _ => throw .expectedListEnd

/-- Passes over the members of an object, of which there is one at least, and the closing
bracket. -/
def skipMembers : Nat → Bytes → Except Fault Bytes
  | 0, _ => .error .endInObject
  | n + 1, s => do
    let s ← skipName s
    let s ← skipValue n s
    let s := skipSpace s
    match lead s with
    | .nothing => throw .endInObject
    | .closeObject => return s.tail
    | .comma => skipMembers n s.tail
    | _ => throw .expectedObjectEnd

end

section

variable {n : Nat} {s : Bytes}

theorem skipValue_letterN (h : lead (skipSpace s) = .letterN) :
    skipValue (n + 1) s = nullTail (skipSpace s).tail := by
  simp only [skipValue, h]

theorem skipValue_letterT (h : lead (skipSpace s) = .letterT) :
    skipValue (n + 1) s = trueTail (skipSpace s).tail := by
  simp only [skipValue, h]

theorem skipValue_letterF (h : lead (skipSpace s) = .letterF) :
    skipValue (n + 1) s = falseTail (skipSpace s).tail := by
  simp only [skipValue, h]

theorem skipValue_number (h : lead (skipSpace s) ∈ [.minus, .digit]) :
    skipValue (n + 1) s = skipNumber (skipSpace s) := by
  simp only [List.mem_cons, List.not_mem_nil, or_false] at h
  rcases h with h | h <;> simp only [skipValue, h]

theorem skipValue_quote (h : lead (skipSpace s) = .quote) :
    skipValue (n + 1) s = skipStringTail (skipSpace s).tail := by
  simp only [skipValue, h]

theorem skipValue_openList (h : lead (skipSpace s) = .openList) :
    skipValue (n + 1) s =
      match lead (skipSpace (skipSpace s).tail) with
      | .nothing => .error .endInList
      | .closeList => .ok (skipSpace (skipSpace s).tail).tail
      | _ => skipItems n (skipSpace (skipSpace s).tail) := by
  simp only [skipValue, h]

theorem skipValue_openObject (h : lead (skipSpace s) = .openObject) :
    skipValue (n + 1) s =
      match lead (skipSpace (skipSpace s).tail) with
      | .nothing => .error .endInObject
      | .closeObject => .ok (skipSpace (skipSpace s).tail).tail
      | _ => skipMembers n (skipSpace (skipSpace s).tail) := by
  simp only [skipValue, h]

end

/-- **Passes over the value at the front of a text.** -/
def skip (s : Bytes) : Except Fault Bytes := skipValue (2 * s.length + 1) s

end StreamRecords.Json
