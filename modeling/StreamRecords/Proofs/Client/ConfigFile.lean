import StreamRecords.Client.ConfigFile
import StreamRecords.Proofs.Toml.DocumentText

/-!
Settings are read back from the document that is written for them, whatever characters their texts
hold; valid or not, they come back as they were, and what is read is then validated.
-/

namespace StreamRecords.ClientConfig

open Toml

/-! ### Valid settings -/

/-- **Settings are valid**: no text is blank, and the port is not zero. -/
structure IsValid (c : ClientConfig) : Prop where
  host : Text.trim c.host ≠ ""
  port : c.port ≠ 0
  username : Text.trim c.username ≠ ""
  password : Text.trim c.password ≠ ""

@[simp] theorem flaw?_eq_none_iff {c : ClientConfig} : c.flaw? = none ↔ c.IsValid := by
  rw [flaw?]
  constructor
  · intro h
    split at h
    · cases h
    split at h
    · cases h
    split at h
    · cases h
    split at h
    · cases h
    · next hhost hport husername hpassword => exact ⟨hhost, hport, husername, hpassword⟩
  · intro h
    rw [if_neg h.host, if_neg h.port, if_neg h.username, if_neg h.password]

/-- What is validated is what is returned. -/
@[simp]
theorem validate_eq_ok_iff {c d : ClientConfig} : c.validate = .ok d ↔ c.IsValid ∧ d = c := by
  rw [validate, ← flaw?_eq_none_iff]
  cases c.flaw? with
  | some reason => simp
  | none => simp [eq_comm]

/-! ### The document of settings -/

/-- The time limit of `c` is none or an integer of TOML. -/
def HasWritableTimeout (c : ClientConfig) : Prop :=
  ∀ n, c.timeout = some n → n.toNat ≤ greatestInteger

/-- The line of the time limit of `c`, if there is one. -/
def timeoutLine (c : ClientConfig) : List Char :=
  c.timeout.elim [] fun n => line "timeout_secs" (Text.decimal n.toNat)

/-- The lines of the document of `c`. -/
def text (c : ClientConfig) : List Char :=
  line "host" (stringText c.host) ++ (line "port" (Text.decimal c.port.toNat) ++
    (line "username" (stringText c.username) ++ (line "password" (stringText c.password) ++
      (line "secure" (booleanText c.secure) ++ c.timeoutLine))))

/-- **There is a document of `c` exactly if its time limit can be written.** -/
theorem toToml_eq_ok_iff {c : ClientConfig} {s : String} :
    c.toToml = .ok s ↔ c.HasWritableTimeout ∧ s = .ofList c.text := by
  rw [toToml, HasWritableTimeout]
  cases hn : c.timeout with
  | none => simp [bind, Except.bind, pure, Except.pure, text, timeoutLine, hn, eq_comm]
  | some n =>
    by_cases hle : n.toNat ≤ greatestInteger
    · simp [bind, Except.bind, pure, Except.pure, text, timeoutLine, hn, hle, eq_comm]
    · simp [bind, Except.bind, throw, throwThe, MonadExceptOf.throw, hle]

/-- The member of the time limit of `c`, if there is one. -/
def timeoutMembers (c : ClientConfig) : Members :=
  c.timeout.elim [] fun n => [("timeout_secs", .integer n.toNat)]

/-- The members of the document of `c`. -/
def members (c : ClientConfig) : Members :=
  ("host", .string c.host) :: ("port", .integer c.port.toNat) ::
    ("username", .string c.username) :: ("password", .string c.password) ::
    ("secure", .boolean c.secure) :: c.timeoutMembers

theorem get?_timeoutMembers (c : ClientConfig) {key : String} (h : "timeout_secs" ≠ key) :
    Members.get? key c.timeoutMembers = none := by
  rw [timeoutMembers]
  cases c.timeout with
  | none => rfl
  | some n => exact if_neg h

theorem isLines_timeoutLine {c : ClientConfig} (ht : c.HasWritableTimeout) :
    IsLines c.timeoutLine c.timeoutMembers := by
  rw [timeoutLine, timeoutMembers]
  cases hn : c.timeout with
  | none => exact .nil
  | some n =>
    have hlt : n.toNat < 9223372036854775808 := Nat.lt_succ_of_le (ht n hn)
    have hline := IsLines.nil.cons "timeout_secs" (by decide) (isText_integer hlt) rfl
    rwa [List.append_nil] at hline

theorem isLines_text {c : ClientConfig} (ht : c.HasWritableTimeout) :
    IsLines c.text c.members := by
  have hnew (key : String) (h : "timeout_secs" ≠ key) := c.get?_timeoutMembers h
  have hport : c.port.toNat < 9223372036854775808 := by
    have := c.port.toNat_lt
    omega
  refine .cons "host" (by decide) (isText_string _) ?_ <|
    .cons "port" (by decide) (isText_integer hport) ?_ <|
    .cons "username" (by decide) (isText_string _) ?_ <|
    .cons "password" (by decide) (isText_string _) ?_ <|
    .cons "secure" (by decide) (isText_boolean _) ?_ <|
    isLines_timeoutLine ht
  all_goals simpa [Members.get?] using hnew _ (by decide)

/-- The settings of the document are those that it was written for. -/
theorem ofMembers_members {c : ClientConfig} (ht : c.HasWritableTimeout) :
    ofMembers c.members = some c := by
  have hhost : stringMember "host" c.members = some c.host := rfl
  have husername : stringMember "username" c.members = some c.username := rfl
  have hpassword : stringMember "password" c.members = some c.password := rfl
  have hsecure : booleanMember "secure" c.members = some c.secure := rfl
  have hport : integerMember "port" 65535 c.members = some c.port.toNat := by
    have hrange : (0 : Int) ≤ c.port.toNat ∧ (c.port.toNat : Int) ≤ 65535 := by
      have := c.port.toNat_lt
      omega
    exact if_pos hrange
  -- a timeout is left out if there is none, and it need not fit if there is one
  have htimeout : timeoutMember c.members = some c.timeout := by
    have hget : Members.get? "timeout_secs" c.members =
        c.timeout.map fun n => Value.integer n.toNat := by
      show Members.get? "timeout_secs" c.timeoutMembers = _
      rw [timeoutMembers]
      cases c.timeout <;> rfl
    rw [timeoutMember, integerMember, hget]
    cases hn : c.timeout with
    | none => rfl
    | some n =>
      have hle := ht n hn
      have hrange : (0 : Int) ≤ n.toNat ∧ (n.toNat : Int) ≤ greatestInteger := by omega
      show Option.map _ (if (0 : Int) ≤ n.toNat ∧ (n.toNat : Int) ≤ greatestInteger then
        some (n.toNat : Int).toNat else none) = _
      rw [if_pos hrange, Int.toNat_natCast]
      exact congrArg (fun m => some (some m)) UInt64.ofNat_toNat
  simp only [ofMembers, hhost, hport, husername, hpassword, hsecure, htimeout, Option.bind_eq_bind,
    Option.bind_some, Option.pure_def, UInt16.ofNat_toNat]

/-- Settings are read back from their document, valid or not. -/
theorem readToml_of_toToml {c : ClientConfig} {s : String} (h : c.toToml = .ok s) :
    readToml s = .ok c := by
  obtain ⟨ht, rfl⟩ := toToml_eq_ok_iff.1 h
  rw [readToml, parse_of_isLines (isLines_text ht), Option.bind_some, ofMembers_members ht]

/-- **Settings come back from their document**: what is read from it are exactly the settings `c`
that it was written for, if they are valid. There is such a document for every time limit that is
an integer of TOML. -/
theorem ofToml_toToml (c : ClientConfig) (hvalid : c.validate = .ok c) :
    (∀ s, c.toToml = .ok s → ofToml s = .ok c) ∧
      ((∃ s, c.toToml = .ok s) ↔ ∀ n, c.timeout = some n → n.toNat ≤ 9223372036854775807) := by
  refine ⟨fun s hs => ?_, ?_⟩
  · rw [ofToml, readToml_of_toToml hs]
    exact hvalid
  · constructor
    · rintro ⟨s, hs⟩
      exact (toToml_eq_ok_iff.1 hs).1
    · intro ht
      exact ⟨_, toToml_eq_ok_iff.2 ⟨ht, rfl⟩⟩

/-- A host with marks of both kinds and a backslash, a name of several lines that starts with one
and ends with marks, and a password of control characters. -/
theorem ofToml_toToml_marks :
    let c : ClientConfig :=
      ⟨"h\"'\\", 1, "\nu'''\"\"\"\n\"\"", "\x00\r\t\x7f é☕", true, none⟩
    c.validate = .ok c ∧ ∃ s, c.toToml = .ok s ∧ ofToml s = .ok c := by
  intro c
  have hvalid : c.validate = .ok c :=
    validate_eq_ok_iff.2 ⟨⟨by decide, by decide, by decide, by decide⟩, rfl⟩
  obtain ⟨hread, hwrite⟩ := ofToml_toToml c hvalid
  obtain ⟨s, hs⟩ := hwrite.2 fun n hn => by cases hn
  exact ⟨hvalid, s, hs, hread s hs⟩

end StreamRecords.ClientConfig
