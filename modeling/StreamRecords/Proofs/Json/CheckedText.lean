import StreamRecords.Item
import StreamRecords.Json.Format.OfValue
import StreamRecords.Proofs.Except
import StreamRecords.Proofs.Json.Accepted
import StreamRecords.Proofs.Json.RoundTrip

/-!
Formats of texts with a check. A value is a JSON string that passes the check of its type, and it is
written as its own text; the JSON adds nothing to what the check accepts, and takes nothing away.
-/

namespace StreamRecords.Json

/-! ### One layer at a time -/

section

variable {α β σ : Type} {field : Field α} {format : Format α} {rest : Fields β σ} {name : String}
  {v : Value}

theorem ofValue_via {decode : α → Except String β} {encode : β → Except String α} {a : α}
    (h : format.ofValue v = .ok a) :
    (format.via decode encode).ofValue v = refuse (decode a) := by
  rw [Format.ofValue, h]
  rfl

/-- A member goes into the slot of the `field` with its name. -/
theorem Fields.ofMember_of_eq {a : α} (hname : name = field.name) (h : format.ofValue v = .ok a)
    (slots : σ) :
    (Fields.cons field format rest).ofMember (none, slots) (name, v) = .ok (some a, slots) := by
  rw [Fields.ofMember, if_pos hname, h]
  rfl

/-- A member leaves the slot of a `field` with another name. -/
theorem Fields.ofMember_of_ne (hname : name ≠ field.name) (slot : Option α) (slots : σ) :
    (Fields.cons field format rest).ofMember (slot, slots) (name, v) =
      (rest.ofMember slots (name, v)).map fun slots => (slot, slots) :=
  if_neg hname

end

variable {α β : Type}

/-! ### Formats that convert what another one reads -/

section

variable {format : Format α} {decode : α → Except String β} {encode : β → Except String α}
  {body : Bytes}

theorem parse_eq_ok_iff {a : α} : format.parse body = .ok a ↔
    ∃ rest, format.read maxDepth body = .ok (a, rest) ∧ skipSpace rest = [] := by
  constructor
  · intro h
    obtain ⟨⟨b, rest⟩, hread, h⟩ := exists_of_bind_eq_ok h
    dsimp only at h
    split at h
    · next hrest =>
      cases h
      exact ⟨rest, hread, hrest⟩
    · cases h
  · rintro ⟨rest, hread, hrest⟩
    rw [Format.parse, whole, hread]
    exact if_pos hrest

theorem parse_via {a : α} (h : format.parse body = .ok a) :
    (format.via decode encode).parse body = refuse (decode a) := by
  obtain ⟨rest, hread, hrest⟩ := parse_eq_ok_iff.1 h
  rw [Format.parse, whole, Format.read_via, hread]
  show ((refuse (decode a) >>= fun b => pure (b, rest)) >>= _) = _
  cases refuse (decode a) with
  | error e => rfl
  | ok b => exact if_pos hrest

theorem exists_of_parse_via {b : β} (h : (format.via decode encode).parse body = .ok b) :
    ∃ a, format.parse body = .ok a ∧ decode a = .ok b := by
  obtain ⟨rest, hvia, hrest⟩ := parse_eq_ok_iff.1 h
  rw [Format.read_via] at hvia
  obtain ⟨⟨a, rest'⟩, hread, hvia⟩ := exists_of_bind_eq_ok hvia
  obtain ⟨c, hc, hvia⟩ := exists_of_bind_eq_ok hvia
  cases hvia
  exact ⟨a, parse_eq_ok_iff.2 ⟨_, hread, hrest⟩, eq_ok_of_refuse_eq_ok hc⟩

end

/-! ### Texts with a check -/

theorem parse_string (s : String) : Format.text.parse (Value.string s).bytes = .ok s :=
  (Format.text.parse_bytes (v := .string s) trivial).trans (returns_text maxDepth s).read

/-- **The format of texts that `parse` checks**, which `text` turns back. -/
def Format.checked (parse : String → Except InputError α) (text : α → String) : Format α :=
  Format.text.via (fun s => (parse s).mapError InputError.message) fun a => .ok (text a)

section

variable {parse : String → Except InputError α} {text : α → String}

/-- A JSON string `s` is read as `parse` takes `s`. -/
theorem parse_checked {body : Bytes} {s : String} (h : Format.text.parse body = .ok s) :
    (Format.checked parse text).parse body =
      (parse s).mapError fun e => .refused e.message := by
  rw [Format.checked, parse_via h]
  cases parse s <;> rfl

@[simp] theorem ofValue_checked (s : String) :
    (Format.checked parse text).ofValue (.string s) =
      (parse s).mapError fun e => .refused e.message := by
  rw [Format.checked, ofValue_via (a := s) rfl]
  cases parse s <;> rfl

/-- **What is read is what parses**: `body` is a JSON string of a text that `parse` takes. -/
theorem parse_checked_eq_ok_iff {body : Bytes} {a : α} :
    (Format.checked parse text).parse body = .ok a ↔
      ∃ s, Format.text.parse body = .ok s ∧ parse s = .ok a := by
  constructor
  · intro h
    obtain ⟨s, hs, ha⟩ := exists_of_parse_via h
    exact ⟨s, hs, mapError_eq_ok_iff.1 ha⟩
  · rintro ⟨s, hs, ha⟩
    rw [parse_checked hs, ha]
    rfl

/-- `a` comes back from its JSON if `parse` takes its own `text` as it. -/
theorem checked_comes_back {a : α} (h : parse (text a) = .ok a) :
    ∃ body, (Format.checked parse text).write a = .ok body ∧
      (Format.checked parse text).parse body = .ok a :=
  ⟨(Value.string (text a)).bytes, rfl, parse_checked_eq_ok_iff.2 ⟨text a, parse_string _, h⟩⟩

end

end StreamRecords.Json

namespace StreamRecords

open Json

theorem encodingFormat_eq : encodingFormat = .checked Encoding.parse Encoding.text := rfl

theorem streamNameFormat_eq : streamNameFormat = .checked StreamName.parse StreamName.text := rfl

theorem recordKeyFormat_eq : recordKeyFormat = .checked RecordKey.parse RecordKey.text := rfl

end StreamRecords
