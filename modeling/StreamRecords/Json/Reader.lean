import StreamRecords.Json.Fault

/-!
Readers of JSON text. A reader takes a value off the front of a byte string and leaves the rest.
What stands between the items of a list and the members of an object is read here, whatever the
items and members are.
-/

namespace StreamRecords.Json

/-- A reader of values of `α`: the value at the front of a byte string, with what follows it. -/
abbrev Reader (α : Type) := Bytes → Except Fault (α × Bytes)

/-! ### What a byte can start -/

/-- What the first byte of a text shows, outside of a string. -/
inductive Lead where
  /-- There is no byte. -/
  | nothing
  | quote
  | comma
  | colon
  | openList
  | closeList
  | openObject
  | closeObject
  | minus
  | digit
  | letterN
  | letterT
  | letterF
  | other
  deriving DecidableEq, Repr

def isDigit (b : UInt8) : Bool := 0x30 ≤ b && b ≤ 0x39

def Lead.ofByte (b : UInt8) : Lead :=
  if b = 0x22 then .quote
  else if b = 0x2C then .comma
  else if b = 0x3A then .colon
  else if b = 0x5B then .openList
  else if b = 0x5D then .closeList
  else if b = 0x7B then .openObject
  else if b = 0x7D then .closeObject
  else if b = 0x2D then .minus
  else if isDigit b then .digit
  else if b = 0x6E then .letterN
  else if b = 0x74 then .letterT
  else if b = 0x66 then .letterF
  else .other

/-- What the first byte of a text shows. -/
def lead : Bytes → Lead
  | [] => .nothing
  | b :: _ => .ofByte b

/-- `b` is white space: a space, a tab or an end of line. -/
def isSpace (b : UInt8) : Bool := b = 0x20 || b = 0x09 || b = 0x0A || b = 0x0D

/-- `s` without the white space at its start. -/
def skipSpace (s : Bytes) : Bytes := s.dropWhile isSpace

@[simp] theorem skipSpace_skipSpace (s : Bytes) : skipSpace (skipSpace s) = skipSpace s := by
  unfold skipSpace
  induction s with
  | nil => rfl
  | cons b s ih =>
    by_cases h : isSpace b = true
    · rw [List.dropWhile_cons_of_pos h, ih]
    · rw [List.dropWhile_cons_of_neg h, List.dropWhile_cons_of_neg h]

/-- Takes the bytes of a word, one by one. -/
def word : Bytes → Bytes → Except Fault Bytes
  | [], s => .ok s
  | _ :: _, [] => .error .endInValue
  | w :: ws, b :: s => if b = w then word ws s else .error .expectedWord

/-- The rest of `null`, after its first letter. -/
def nullTail (s : Bytes) : Except Fault Bytes := word [0x75, 0x6C, 0x6C] s

/-- The rest of `true`, after its first letter. -/
def trueTail (s : Bytes) : Except Fault Bytes := word [0x72, 0x75, 0x65] s

/-- The rest of `false`, after its first letter. -/
def falseTail (s : Bytes) : Except Fault Bytes := word [0x61, 0x6C, 0x73, 0x65] s

/-- Takes the colon between a name and its value. -/
def colon (s : Bytes) : Except Fault Bytes :=
  let s := skipSpace s
  match lead s with
  | .nothing => .error .endInObject
  | .colon => .ok s.tail
  | _ => .error .expectedColon

/-! ### Between items and members -/

/-- What comes next in a list or an object. -/
inductive Next where
  /-- The closing bracket, with what follows it. -/
  | closed (rest : Bytes)
  /-- Another item, at the front of `rest`; of a member, the name without its first quote. -/
  | another (rest : Bytes)

/-- What comes next in a list, before its first item if `first`. -/
def nextItem (first : Bool) (s : Bytes) : Except Fault Next :=
  let s := skipSpace s
  match lead s, first with
  | .nothing, _ => .error .endInList
  | .closeList, _ => .ok (.closed s.tail)
  | _, true => .ok (.another s)
  | .comma, false =>
    let s := skipSpace s.tail
    match lead s with
    | .closeList => .error .trailingComma
    | .nothing => .error .endInValue
    | _ => .ok (.another s)
  | _, false => .error .expectedListEnd

/-- What comes next in an object, before its first member if `first`. -/
def nextMember (first : Bool) (s : Bytes) : Except Fault Next :=
  let s := skipSpace s
  match lead s, first with
  | .nothing, _ => .error .endInObject
  | .closeObject, _ => .ok (.closed s.tail)
  | .quote, true => .ok (.another s.tail)
  | _, true => .error .nameNotString
  | .comma, false =>
    let s := skipSpace s.tail
    match lead s with
    | .quote => .ok (.another s.tail)
    | .closeObject => .error .trailingComma
    | .nothing => .error .endInValue
    | _ => .error .nameNotString
  | _, false => .error .expectedObjectEnd

/-- Takes the closing bracket of a list of which no more items are wanted. -/
def closeList (s : Bytes) : Except Fault Bytes :=
  let s := skipSpace s
  match lead s with
  | .nothing => .error .endInList
  | .closeList => .ok s.tail
  | .comma =>
    match lead (skipSpace s.tail) with
    | .closeList => .error .trailingComma
    | _ => .error .trailingText
  | _ => .error .trailingText

/-! ### Lists and objects -/

section

variable {α σ : Type}

/-- The items of a list up to its closing bracket, each read by `item`. An item takes at least one
byte, so as many rounds as there are bytes are enough. -/
def items (item : Reader α) : Nat → Bool → Reader (List α)
  | 0, _, _ => .error .endInList
  | n + 1, first, s => do
    match ← nextItem first s with
    | .closed rest => return ([], rest)
    | .another rest =>
      let (a, rest) ← item rest
      let (as, rest) ← items item n false rest
      return (a :: as, rest)

/-- **A list after its opening bracket.** -/
def listTail (item : Reader α) : Reader (List α) := fun s => items item (s.length + 1) true s

/-- The members of an object up to its closing bracket, each taken into the state so far by
`member`, which is given the text after the first quote of the name. -/
def members (member : σ → Reader σ) : Nat → Bool → σ → Reader σ
  | 0, _, _, _ => .error .endInObject
  | n + 1, first, state, s => do
    match ← nextMember first s with
    | .closed rest => return (state, rest)
    | .another rest =>
      let (state, rest) ← member state rest
      members member n false state rest

/-- **An object after its opening bracket**, with `start` as the state before its first member. -/
def objectTail (member : σ → Reader σ) (start : σ) : Reader σ := fun s =>
  members member (s.length + 1) true start s

/-- A whole text: what `read` reads, with nothing but white space after it. -/
def whole (read : Reader α) (s : Bytes) : Except Fault α := do
  let (a, rest) ← read s
  if skipSpace rest = [] then return a else throw .trailingText

end

end StreamRecords.Json
