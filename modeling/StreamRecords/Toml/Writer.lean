import StreamRecords.Text.Decimal
import StreamRecords.Toml.Reader

/-!
Writing TOML strings, in the plainest of the four forms that can hold the text.
-/

namespace StreamRecords.Toml

/-- The longest run of `m` in a text, of which `run` come right before it. -/
def longestRun (m : Char) (run : Nat) : List Char → Nat
  | [] => run
  | c :: s => if c = m then longestRun m (run + 1) s else max run (longestRun m 0 s)

/-- `cs` needs escapes for its control characters. A line end needs none by itself. -/
def needsEscapes (cs : List Char) : Bool := cs.any fun c => isControl c && c ≠ '\n'

def hasLines (cs : List Char) : Bool := cs.contains '\n'

/-- The form `f` can hold `cs` without any escapes but those for tabs. -/
def StringForm.suits (f : StringForm) (cs : List Char) : Bool :=
  !needsEscapes cs && (f.lines || !hasLines cs) && !(f.escapes && cs.contains '\\')
    && longestRun f.mark 0 cs ≤ f.freeMarks

/-- **The form in which `cs` is written**: the first that suits it, or else one with escapes. -/
def StringForm.choose (cs : List Char) : StringForm :=
  match [StringForm.basic, .literal, .basicLines, .literalLines].find? (·.suits cs) with
  | some f => f
  | none => if hasLines cs then .basicLines else .basic

/-- The two last hexadecimal digits of `n`, a code point below 256, in uppercase. -/
def hexByte (n : Nat) : List Char :=
  [(Nat.digitChar (n / 16)).toUpper, (Nat.digitChar (n % 16)).toUpper]

/-- The character `c`, which is no mark, in a form with escapes. -/
def escapeChar (lines : Bool) (c : Char) : List Char :=
  if c = '\x08' then ['\\', 'b']
  else if c = '\t' then ['\\', 't']
  else if c = '\n' then if lines then ['\n'] else ['\\', 'n']
  else if c = '\x0c' then ['\\', 'f']
  else if c = '\r' then ['\\', 'r']
  else if c = '\\' then ['\\', '\\']
  else if isControl c then ['\\', 'u', '0', '0'] ++ hexByte c.toNat
  else [c]

/-- A text in a form with escapes, after `run` marks in a row. A mark is escaped where it would make
the row too long. -/
def escapeText (f : StringForm) (run : Nat) : List Char → List Char
  | [] => []
  | c :: s =>
    if c = f.mark then
      if run < f.freeMarks then c :: escapeText f (run + 1) s
      else '\\' :: c :: escapeText f 0 s
    else escapeChar f.lines c ++ escapeText f 0 s

/-- `cs` in the form `f`. One with lines starts on a line of its own. -/
def StringForm.write (f : StringForm) (cs : List Char) : List Char :=
  let start := if f.lines && hasLines cs then ['\n'] else []
  let body := if f.escapes then escapeText f 0 cs else cs
  f.marks ++ start ++ body ++ f.marks

def stringText (s : String) : List Char := (StringForm.choose s.toList).write s.toList

def booleanText (b : Bool) : List Char := if b then "true".toList else "false".toList

def line (key : String) (value : List Char) : List Char :=
  key.toList ++ " = ".toList ++ value ++ ['\n']

end StreamRecords.Toml
