import StreamRecords.Toml.Numeral

/-!
TOML values, which may hold others, and documents: lines with keys and values, under headers that
say which table they belong to.
-/

namespace StreamRecords.Toml

/-! ### Values -/

/-- The items of an array up to its closing `]`, as many at most as the number says. A comma may
follow the last one. -/
def arrayItems (item : Reader Value) : Nat → Reader (List Value)
  | 0, _ => none
  | fuel + 1, s => do
    match ← skipLines s with
    | ']' :: s => return ([], s)
    | s =>
      let (v, s) ← item s
      match ← skipLines s with
      | ']' :: s => return ([v], s)
      | ',' :: s =>
        let (vs, s) ← arrayItems item fuel s
        return (v :: vs, s)
      | _ => none

def assignment (item : Reader Value) : Reader (List String × Value) := fun s => do
  let (path, s) ← key s
  let s ← after '=' s
  let (v, s) ← item (skipBlanks s)
  return ((path, v), s)

/-- `ms` with a new member, whose key has the parts `path`. -/
def addMember (path : List String) (v : Value) (ms : Members) : Option Members :=
  match path.getLast? with
  | some last => ms.addDotted? path.dropLast last v
  | none => none

/-- The members of a table up to its closing `}`, as many at most as the number says. -/
def tableMembers (item : Reader Value) : Nat → Members → Reader Members
  | 0, _, _ => none
  | fuel + 1, ms, s => do
    let ((path, v), s) ← assignment item s
    let ms ← addMember path v ms
    match skipBlanks s with
    | '\x7d' :: s => return (ms, s)
    | ',' :: s => tableMembers item fuel ms s
    | _ => none

def tableTail (item : Reader Value) : Reader Members := fun s =>
  match skipBlanks s with
  | '\x7d' :: s => some ([], s)
  | s => tableMembers item s.length [] s

/-- A value whose items, if it has any, are read by `item`. -/
def valueWith (item : Option (Reader Value)) : Reader Value := fun s =>
  match s with
  | [] => none
  | c :: tail =>
    if c = '"' ∨ c = '\'' then (string s).map fun (t, s) => (.string t, s)
    else if c = '[' then do
      let (vs, s) ← arrayItems (← item) (tail.length + 1) tail
      return (.array vs, s)
    else if c = '\x7b' then do
      let (ms, s) ← tableTail (← item) tail
      return (.table .inline ms, s)
    else
      match s with
      | 't' :: 'r' :: 'u' :: 'e' :: s => some (.boolean true, s)
      | 'f' :: 'a' :: 'l' :: 's' :: 'e' :: s => some (.boolean false, s)
      | s => numeral s

/-- **A value** that is nested no deeper than `depth`. -/
def value : Nat → Reader Value
  | 0 => valueWith none
  | depth + 1 => valueWith (some (value depth))

/-! ### Documents -/

/-- **A document**, as far as it is read: its members, and the path of the last header. -/
structure Document where
  members : Members
  header : List String

namespace Document

def empty : Document := ⟨[], []⟩

/-- `d` with a key and a value in the table of its last header. -/
def assign (path : List String) (v : Value) (d : Document) : Option Document :=
  (Members.within false (fun _ ms => addMember path v ms) .header d.header d.members).map
    fun ms => { d with members := ms }

/-- `d` with a header that opens a table by `enter`. -/
def enter (enter : String → Members → Option Members) (path : List String) (d : Document) :
    Option Document :=
  match path.getLast? with
  | none => none
  | some last =>
    (Members.within false (fun _ ms => enter last ms) .header path.dropLast d.members).map
      fun ms => ⟨ms, path⟩

end Document

/-- The text after the header at the front of `s`, and `d` with it. -/
def header (s : List Char) (d : Document) : Option (Document × List Char) :=
  match s with
  | '[' :: '[' :: s => do
    let (path, s) ← key s
    let s ← after ']' (← after ']' s)
    let d ← d.enter Members.openRow? path
    return (d, s)
  | '[' :: s => do
    let (path, s) ← key s
    let s ← after ']' s
    let d ← d.enter Members.openTable? path
    return (d, s)
  | _ => none

/-- The document with so many more lines at most. -/
def lines : Nat → Document → List Char → Option Document
  | 0, _, _ => none
  | fuel + 1, d, s =>
    match skipBlanks s with
    | [] => some d
    | c :: tail =>
      let s := c :: tail
      if c = '#' ∨ c = '\n' ∨ c = '\r' then (lineEnd s).bind (lines fuel d)
      else if c = '[' then do
        let (d, s) ← header s d
        lines fuel d (← lineEnd s)
      else do
        let ((path, v), s) ← assignment (value maxDepth) s
        let d ← d.assign path v
        lines fuel d (← lineEnd s)

/-- **The members of the document `text`.** A mark of the byte order before it is passed over. -/
def parse (text : String) : Option Members :=
  let s := match text.toList with
    | '\ufeff' :: s => s
    | s => s
  (lines (s.length + 1) .empty s).map Document.members

end StreamRecords.Toml
