/-!
UTF-8. `encode` writes characters as bytes; `decode` reads bytes as characters, and names the first
byte string that is no character: how long it is and where it starts.
-/

namespace StreamRecords

abbrev Bytes := List UInt8

namespace Utf8

/-- The bytes of the characters `cs`. -/
def encode (cs : List Char) : Bytes := cs.flatMap String.utf8EncodeChar

@[simp] theorem encode_nil : encode [] = [] := rfl

theorem encode_cons (c : Char) (cs : List Char) :
    encode (c :: cs) = String.utf8EncodeChar c ++ encode cs := rfl

@[simp] theorem encode_append (cs ds : List Char) : encode (cs ++ ds) = encode cs ++ encode ds := by
  simp [encode]

/-- Why a byte string is not UTF-8. -/
inductive Fault where
  /-- The `length` bytes from `index` start a character and cannot go on to one. -/
  | invalid (length index : Nat)
  /-- The bytes end inside the character that starts at `index`. -/
  | incomplete (index : Nat)
  deriving DecidableEq, Repr

def Fault.message : Fault → String
  | .invalid length index => s!"invalid utf-8 sequence of {length} bytes from index {index}"
  | .incomplete index => s!"incomplete utf-8 byte sequence from index {index}"

/-- `b` continues a character. -/
def isTail (b : UInt8) : Bool := 0x80 ≤ b && b ≤ 0xBF

/-- `b` may follow the first byte `a` of a character of three bytes: not for a character that two
bytes can hold, and not for a surrogate. -/
def second3 (a b : UInt8) : Bool :=
  (if a = 0xE0 then 0xA0 else 0x80) ≤ b && b ≤ (if a = 0xED then 0x9F else 0xBF)

/-- `b` may follow the first byte `a` of a character of four bytes: not for a character that three
bytes can hold, and not beyond the last code point. -/
def second4 (a b : UInt8) : Bool :=
  (if a = 0xF0 then 0x90 else 0x80) ≤ b && b ≤ (if a = 0xF4 then 0x8F else 0xBF)

def char2 (a b : UInt8) : Char :=
  .ofNat ((a.toNat - 0xC0) * 0x40 + (b.toNat - 0x80))

def char3 (a b c : UInt8) : Char :=
  .ofNat ((a.toNat - 0xE0) * 0x1000 + (b.toNat - 0x80) * 0x40 + (c.toNat - 0x80))

def char4 (a b c d : UInt8) : Char :=
  .ofNat ((a.toNat - 0xF0) * 0x40000 + (b.toNat - 0x80) * 0x1000 + (c.toNat - 0x80) * 0x40
    + (d.toNat - 0x80))

/-- The characters of a byte string whose first byte has the index `i`. -/
def decodeFrom (i : Nat) : Bytes → Except Fault (List Char)
  | [] => .ok []
  | a :: s =>
    if a < 0x80 then (decodeFrom (i + 1) s).map (.ofNat a.toNat :: ·)
    else if a < 0xC2 then .error (.invalid 1 i)
    else if a < 0xE0 then
      match s with
      | [] => .error (.incomplete i)
      | b :: s =>
        if isTail b then (decodeFrom (i + 2) s).map (char2 a b :: ·)
        else .error (.invalid 1 i)
    else if a < 0xF0 then
      match s with
      | [] => .error (.incomplete i)
      | [b] => if second3 a b then .error (.incomplete i) else .error (.invalid 1 i)
      | b :: c :: s =>
        if !second3 a b then .error (.invalid 1 i)
        else if !isTail c then .error (.invalid 2 i)
        else (decodeFrom (i + 3) s).map (char3 a b c :: ·)
    else if a < 0xF5 then
      match s with
      | [] => .error (.incomplete i)
      | [b] => if second4 a b then .error (.incomplete i) else .error (.invalid 1 i)
      | [b, c] =>
        if !second4 a b then .error (.invalid 1 i)
        else if isTail c then .error (.incomplete i) else .error (.invalid 2 i)
      | b :: c :: d :: s =>
        if !second4 a b then .error (.invalid 1 i)
        else if !isTail c then .error (.invalid 2 i)
        else if !isTail d then .error (.invalid 3 i)
        else (decodeFrom (i + 4) s).map (char4 a b c d :: ·)
    else .error (.invalid 1 i)

theorem decodeFrom_nil (i : Nat) : decodeFrom i [] = .ok [] := by
  rw [decodeFrom.eq_def]

/-- **The characters of `s`**, or the first reason that it has none. -/
def decode (s : Bytes) : Except Fault (List Char) := decodeFrom 0 s

end Utf8

namespace Text

def bytes (s : String) : Bytes := Utf8.encode s.toList

/-- The length of `s` in bytes. -/
def byteLength (s : String) : Nat := (bytes s).length

end Text
end StreamRecords
