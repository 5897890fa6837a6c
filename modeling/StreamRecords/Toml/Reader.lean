import StreamRecords.Hex

/-!
Readers of TOML text: blanks, comments, line ends, strings and keys. A reader takes a value off the
front of a text and leaves the rest, or fails. A string has one of four forms: it stands between one
or three marks, with escapes or without.
-/

namespace StreamRecords.Toml

/-! ### Forms of strings -/

structure StringForm where
  /-- The mark before and after the text. -/
  mark : Char
  /-- Whether a backslash starts an escape. -/
  escapes : Bool
  /-- Whether there are three marks, and the text may have several lines. -/
  lines : Bool
  deriving DecidableEq, Repr

namespace StringForm

/-- One line with escapes. -/
def basic : StringForm := ⟨'"', true, false⟩

/-- One line without escapes. -/
def literal : StringForm := ⟨'\'', false, false⟩

/-- Lines with escapes. -/
def basicLines : StringForm := ⟨'"', true, true⟩

/-- Lines without escapes. -/
def literalLines : StringForm := ⟨'\'', false, true⟩

/-- The marks before and after a text. -/
def marks (f : StringForm) : List Char := List.replicate (if f.lines then 3 else 1) f.mark

/-- The most marks in a row that may stand within a text. -/
def freeMarks (f : StringForm) : Nat := if f.lines then 2 else 0

end StringForm

/-- `c` is a control character other than a tab. -/
def isControl (c : Char) : Bool := (c.toNat < 0x20 && c ≠ '\t') || c.toNat = 0x7F

/-! ### Readers -/

/-- A reader of values of `α`: the value at the front of a text, with what follows it. -/
abbrev Reader (α : Type) := List Char → Option (α × List Char)

/-! ### Between the values -/

def isBlank (c : Char) : Bool := c = ' ' || c = '\t'

def skipBlanks (s : List Char) : List Char := s.dropWhile isBlank

/-- The text after the end of a line, if there is one here. -/
def newline? : List Char → Option (List Char)
  | '\n' :: s => some s
  | '\r' :: '\n' :: s => some s
  | _ => none

/-- Passes over a comment up to the end of its line, if one starts here. -/
def skipComment : List Char → List Char
  | '#' :: s => s.dropWhile fun c => !isControl c
  | s => s

/-- The text after blanks, a comment and the end of the line, or the end of all. -/
def lineEnd (s : List Char) : Option (List Char) :=
  match skipComment (skipBlanks s) with
  | [] => some []
  | s => newline? s

/-- Passes over blanks, comments and ends of lines, `fuel` of them at most. A comment must end with
its line. -/
def skipLinesWith : Nat → List Char → Option (List Char)
  | 0, s => some s
  | fuel + 1, s =>
    match skipBlanks s with
    | '#' :: s => (newline? (skipComment ('#' :: s))).bind (skipLinesWith fuel)
    | s =>
      match newline? s with
      | some s => skipLinesWith fuel s
      | none => some s

def skipLines (s : List Char) : Option (List Char) := skipLinesWith s.length s

/-! ### Strings -/

/-- The number of the first `width` characters of `s`, as hexadecimal digits. -/
def hexNumber (width : Nat) (s : List Char) : Option Nat :=
  if s.length < width then none
  else (s.take width).foldlM (fun n c => (Hex.digitValue? c).map fun d => 16 * n + d) 0

/-- The character of a code point, which must not be half of a surrogate pair. -/
def codePoint? (n : Nat) : Option Char := if n.isValidChar then some (.ofNat n) else none

def letterEscape? (c : Char) : Option Char :=
  if c = 'b' then some '\x08'
  else if c = 't' then some '\t'
  else if c = 'n' then some '\n'
  else if c = 'f' then some '\x0c'
  else if c = 'r' then some '\r'
  else if c = '"' then some '"'
  else if c = '\\' then some '\\'
  else none

def skipWhite : List Char → List Char
  | [] => []
  | '\r' :: '\n' :: s => skipWhite s
  | c :: s => if isBlank c || c = '\n' then skipWhite s else c :: s

/-- The number of characters from the end of a line, with blanks before it, to the next character
that is neither. There is none if the line does not end at the front of `s`. -/
def lineBreak? (s : List Char) : Option Nat :=
  (newline? (skipBlanks s)).map fun rest => s.length - (skipWhite rest).length

/-- What the escape at the front of `s` stands for, after its backslash, with the number of
characters taken. Where `lines` are allowed, one may be broken up to the start of the text in a
later one. -/
def escape (lines : Bool) (s : List Char) : Option (List Char × Nat) :=
  match if lines then lineBreak? s else none with
  | some n => some ([], n)
  | none =>
    match s with
    | [] => none
    | c :: s =>
      match letterEscape? c with
      | some d => some ([d], 1)
      | none =>
        if c = 'u' then ((hexNumber 4 s).bind codePoint?).map fun d => ([d], 5)
        else if c = 'U' then ((hexNumber 8 s).bind codePoint?).map fun d => ([d], 9)
        else none

/-- The rest of a text after a mark `m` that closes it with two more. Up to two marks that follow
belong to the text. -/
def closing? (m : Char) : Reader (List Char)
  | a :: b :: s =>
    if a = m ∧ b = m then
      let extra := min 2 (s.takeWhile (· = m)).length
      some (List.replicate extra m, s.drop extra)
    else none
  | _ => none

/-- The text of a string of the form `f` up to its closing marks, after as many characters as are
taken already. -/
def textTail (f : StringForm) : Nat → Reader (List Char)
  | _, [] => none
  | skip + 1, _ :: s => textTail f skip s
  | 0, c :: s =>
    if c = f.mark then
      if f.lines then
        match closing? f.mark s with
        | some r => some r
        | none => (textTail f 0 s).map fun (cs, rest) => (c :: cs, rest)
      else some ([], s)
    else if f.escapes && c = '\\' then
      match escape f.lines s with
      | none => none
      | some (cs, n) => (textTail f n s).map fun (ds, rest) => (cs ++ ds, rest)
    else if f.lines && c = '\n' then (textTail f 0 s).map fun (cs, rest) => (c :: cs, rest)
    else if f.lines && c = '\r' && s.head? = some '\n' then textTail f 0 s
    else if isControl c then none
    else (textTail f 0 s).map fun (cs, rest) => (c :: cs, rest)

/-- The form of a string that starts with a mark, and the text after its opening marks. A line that
ends right after three of them is passed over. -/
def stringForm? : List Char → Option (StringForm × List Char)
  | '"' :: '"' :: '"' :: s => some (.basicLines, (newline? s).getD s)
  | '\'' :: '\'' :: '\'' :: s => some (.literalLines, (newline? s).getD s)
  | '"' :: s => some (.basic, s)
  | '\'' :: s => some (.literal, s)
  | _ => none

/-- **A string of any form.** -/
def string : Reader String := fun s => do
  let (f, s) ← stringForm? s
  let (cs, s) ← textTail f 0 s
  return (.ofList cs, s)

/-! ### Keys -/

/-- `c` may stand in a key without marks. -/
def isBare (c : Char) : Bool := c.isAlphanum || c = '-' || c = '_'

/-- One part of a key: a string of one line, or characters without marks. -/
def keyPart : Reader String
  | '"' :: s => (textTail .basic 0 s).map fun (cs, s) => (.ofList cs, s)
  | '\'' :: s => (textTail .literal 0 s).map fun (cs, s) => (.ofList cs, s)
  | s =>
    match s.takeWhile isBare with
    | [] => none
    | cs => some (.ofList cs, s.drop cs.length)

/-- A key of so many parts at most, with blanks around them. -/
def keyWith : Nat → Reader (List String)
  | 0, _ => none
  | fuel + 1, s => do
    let (part, s) ← keyPart (skipBlanks s)
    match skipBlanks s with
    | '.' :: s =>
      let (parts, s) ← keyWith fuel s
      return (part :: parts, s)
    | s => return ([part], s)

/-- The most parts of a key, and the deepest that arrays and tables may be nested. -/
def maxDepth : Nat := 79

/-- **A key.** -/
def key : Reader (List String) := keyWith maxDepth

end StreamRecords.Toml
