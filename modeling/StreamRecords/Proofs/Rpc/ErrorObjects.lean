import StreamRecords.Proofs.Json.MemberValues
import StreamRecords.Proofs.Rpc.Wire

/-!
What an answer says, member by member. The envelope of an answer does not tell a member that is null
from one that is missing; here the members are told as the body has them, and what is made of an
answer is told by them.
-/

namespace StreamRecords

open Json

namespace Rpc

theorem present_of_ne_null {v : Value} (h : v ≠ .null) : present v = some v := by
  cases v with
  | null => exact absurd rfl h
  | _ => rfl

/-- `Format.option` reads null as it reads nothing, and `Format.member` keeps the two apart. -/
theorem read_option_value (depth : Nat) :
    (Format.option .value).read depth =
      (Format.member.read depth).mapValue fun v => v.bind present := by
  funext s
  rw [read_member, Reader.mapValue, Reader.mapValue]
  -- only null begins with the letter `n`
  by_cases hlead : lead (skipSpace s) = .letterN
  · rw [value_of_letterN hlead, read_option_of_letterN hlead]
    cases nullTail (skipSpace s).tail <;> rfl
  · have hoption : (Format.option .value).read depth s =
        (value depth s).map fun p => (some p.1, p.2) := by
      rw [← value_skipSpace depth s]
      exact read_option_of_ne hlead .value depth
    rw [hoption]
    cases hvalue : value depth s with
    | error e => rfl
    | ok p =>
      obtain ⟨v, rest⟩ := p
      have hv : present v = some v := present_of_ne_null (value_ne_null hvalue hlead)
      show Except.ok (some v, rest) = .ok (present v, rest)
      rw [hv]

/-! ### The members of an answer -/

namespace Response

/-- The fields of `members`. Null is kept apart from a member that is missing. -/
def memberFields :
    Fields (Option Value × Option Value × Option Value × Unit)
      (Option (Option Value) × Option (Option Value) × Option (Option Value) × Unit) :=
  .cons (.withDefault "id" none) .member <|
  .cons (.withDefault "error" none) .member <|
  .cons (.withDefault "result" none) .member .nil

/-- **The identifier, the error and the result in the body of an answer**: each is missing, or any
value. -/
def members : Format (Option Value × Option Value × Option Value × Unit) :=
  .record "IncomingResponse" memberFields

/-- `envelope` has the `members`, with null in the place of nothing. -/
theorem parse_envelope (body : Bytes) :
    envelope.parse body = (members.parse body).map fun m =>
      (m.1.bind present, m.2.1.bind present, m.2.2.1.bind present, ()) := by
  have hfield (name : String) :
      (Field.withDefault name (none : Option Value)).Follows .member
        (.withDefault name none) (.option .value) fun v => v.bind present :=
    ⟨rfl, rfl, rfl, read_option_value⟩
  have hfields : memberFields.Follows envelopeFields _ _ :=
    .cons (hfield "id") (.cons (hfield "error") (.cons (hfield "result") .nil))
  exact parse_of_mapValue (hfields.read_record "IncomingResponse" maxDepth) body

/-- `decode` as it goes by the members of the answer, one after the other. -/
theorem decode_of_members {α : Type} (format : Format α) {body : Bytes}
    {id error result : Option Value} (h : members.parse body = .ok (id, error, result, ())) :
    decode format body = (do
      let error ← (error.bind present).mapM ErrorInfo.ofValue
      let result ← (result.bind present).mapM fun v =>
        (format.ofValue v).mapError fun e => .deserialization e.message
      return ⟨idText (id.bind present), error, result⟩) := by
  rw [decode, parse_envelope, h]
  rfl

end Response

/-! ### Error objects -/

/-- **`v` is an error object** with `code` and `message`: an object whose member `code` is an
integer of 64 bits with a sign and whose member `message` is a string, among other members or not.
-/
structure IsErrorObject (v : Value) (code : Int) (message : String) : Prop where
  isObject : v.isObject = true
  hasCode : ∃ exact, v.get? "code" = some (.number (.int code exact))
  inRange : -9223372036854775808 ≤ code ∧ code < 9223372036854775808
  hasMessage : v.get? "message" = some (.string message)

theorem ErrorInfo.IsSpelled.isErrorObject {e : ErrorInfo} {v : Value} (h : e.IsSpelled v) :
    IsErrorObject v e.code.toInt e.message where
  isObject := by
    have hcode := h.code
    cases v with
    | object members => rfl
    | _ => cases hcode
  hasCode := ⟨_, h.code⟩
  inRange := ⟨e.code.le_toInt, e.code.toInt_lt⟩
  hasMessage := h.message

theorem IsErrorObject.isSpelled {v : Value} {code : Int} {message : String}
    (h : IsErrorObject v code message) : ErrorInfo.IsSpelled ⟨.ofInt code, message⟩ v := by
  obtain ⟨exact, hcode⟩ := h.hasCode
  have hint : (Int64.ofInt code).toInt = code := Int64.toInt_ofInt_of_le h.inRange.1 h.inRange.2
  refine ⟨?_, h.hasMessage⟩
  rw [hcode]
  simp only [Number.ofInt64, hint]

theorem ErrorInfo.exists_malformed_iff {v : Value} :
    (∃ reason, ErrorInfo.ofValue v = .error (.malformedError reason)) ↔
      ¬ ∃ code message, IsErrorObject v code message := by
  constructor
  · rintro ⟨reason, h⟩ ⟨code, message, hobject⟩
    rw [ErrorInfo.ofValue_eq_ok_iff.2 hobject.isSpelled] at h
    cases h
  · intro h
    cases hread : ErrorInfo.ofValue v with
    | ok e => exact absurd ⟨_, _, (ErrorInfo.ofValue_eq_ok_iff.1 hread).isErrorObject⟩ h
    | error e =>
      unfold ErrorInfo.ofValue at hread
      split at hread
      · split at hread
        · cases hread
          exact ⟨_, rfl⟩
        · split at hread <;> cases hread
          exact ⟨_, rfl⟩
      · cases hread
        exact ⟨_, rfl⟩

theorem ErrorInfo.exists_mapM_malformed_iff {error : Option Value} :
    (∃ reason, error.mapM ErrorInfo.ofValue = .error (.malformedError reason)) ↔
      ∃ v, error = some v ∧ ¬ ∃ code message, IsErrorObject v code message := by
  cases error with
  | none => exact iff_of_false nofun nofun
  | some v =>
    have hv : (∃ reason, (some v).mapM ErrorInfo.ofValue = .error (.malformedError reason)) ↔
        ∃ reason, ErrorInfo.ofValue v = .error (.malformedError reason) := by
      rw [Option.mapM_some]
      cases ErrorInfo.ofValue v <;> simp [Functor.map, Except.map]
    rw [hv, exists_malformed_iff]
    simp

/-! ### What is made of an answer -/

@[simp] theorem bind_present_eq_none_iff {v : Option Value} :
    v.bind present = none ↔ v = none ∨ v = some .null := by
  cases v with
  | none => simp
  | some v => cases v <;> simp [present]

@[simp] theorem bind_present_eq_some_iff {v : Option Value} {w : Value} :
    v.bind present = some w ↔ v = some w ∧ w ≠ .null := by
  cases v with
  | none => simp
  | some v => cases v <;> simp [present] <;> rintro rfl <;> simp

/-- `text` is that of an identifier: of a string its text, of none or null nothing, of another value
its compact text. -/
structure IsIdText (id : Option Value) (text : String) : Prop where
  absent : id = none ∨ id = some .null → text = ""
  string : ∀ s, id = some (.string s) → text = s
  other : ∀ v, id = some v → v ≠ .null → (∀ s, v ≠ .string s) → text = v.compact

theorem isIdText_idText (id : Option Value) : IsIdText id (idText (id.bind present)) where
  absent h := by
    rw [bind_present_eq_none_iff.2 h]
    rfl
  string s h := by
    rw [bind_present_eq_some_iff.2 ⟨h, Value.noConfusion⟩]
    rfl
  other v h hnull hstring := by
    rw [bind_present_eq_some_iff.2 ⟨h, hnull⟩]
    cases v with
    | null => exact absurd rfl hnull
    | string s => exact absurd rfl (hstring s)
    | _ => rfl

namespace Response

variable {α : Type}

/-- A result that is refused is refused by another error than `MalformedError`. -/
theorem result_ne_malformed (format : Format α) (result : Option Value) (reason : String) :
    (result.mapM fun v => (format.ofValue v).mapError fun e =>
      ProtocolError.deserialization e.message) ≠ .error (.malformedError reason) := by
  cases result with
  | none =>
    intro h
    cases h
  | some w =>
    rw [Option.mapM_some]
    cases format.ofValue w <;> intro h <;> cases h

/-- `MalformedError` comes of the member `error` alone, since it is read before `result`. -/
theorem exists_malformed_iff (format : Format α) {body : Bytes} {id error result : Option Value}
    (h : members.parse body = .ok (id, error, result, ())) :
    (∃ reason, decode format body = .error (.malformedError reason)) ↔
      ∃ v, error = some v ∧ v ≠ .null ∧ ¬ ∃ code message, IsErrorObject v code message := by
  have herror : (∃ reason, decode format body = .error (.malformedError reason)) ↔
      ∃ reason, (error.bind present).mapM ErrorInfo.ofValue = .error (.malformedError reason) := by
    refine exists_congr fun reason => ?_
    rw [decode_of_members format h, bind_eq_error_iff]
    constructor
    · rintro (herror | ⟨e, -, hrest⟩)
      · exact herror
      · obtain hresult | ⟨w, -, hdone⟩ := bind_eq_error_iff.1 hrest
        · exact absurd hresult (result_ne_malformed format _ reason)
        · cases hdone
    · exact .inl
  rw [herror, ErrorInfo.exists_mapM_malformed_iff]
  simp only [bind_present_eq_some_iff, and_assoc]

theorem error_of_decode (format : Format α) {body : Bytes} {id error result : Option Value}
    (h : members.parse body = .ok (id, error, result, ())) {response : Response α}
    (hd : decode format body = .ok response) :
    (error.bind present).mapM ErrorInfo.ofValue = .ok response.error ∧
      response.id = idText (id.bind present) := by
  rw [decode_of_members format h] at hd
  obtain ⟨e, he, hd⟩ := exists_of_bind_eq_ok hd
  obtain ⟨r, -, hd⟩ := exists_of_bind_eq_ok hd
  cases hd
  exact ⟨he, rfl⟩

/-- **Malformed errors are refused exactly, and identifiers are brought to one form.** The `body` of
an answer has an envelope if and only if it has `members`, each missing or any value. It is refused
for its error exactly if this is there, is not null, and is no error object, whatever the result;
and in an answer that is given, the error is absent exactly if the member is missing or null, else
it has the code and the message of the member, and the identifier is a text. -/
theorem malformed_errors_refused (format : Format α) (body : Bytes) :
    ((∃ e, envelope.parse body = .ok e) ↔ ∃ m, members.parse body = .ok m) ∧
      ∀ id error result, members.parse body = .ok (id, error, result, ()) →
        ((∃ reason, decode format body = .error (.malformedError reason)) ↔
          ∃ v, error = some v ∧ v ≠ .null ∧ ¬ ∃ code message, IsErrorObject v code message) ∧
        ∀ response, decode format body = .ok response →
          (response.error = none ↔ error = none ∨ error = some .null) ∧
          (∀ e, response.error = some e →
            ∃ v, error = some v ∧ IsErrorObject v e.code.toInt e.message) ∧
          IsIdText id response.id := by
  refine ⟨?_, fun id error result h => ⟨exists_malformed_iff format h, fun response hd => ?_⟩⟩
  · rw [parse_envelope]
    cases members.parse body <;> simp [Except.map]
  obtain ⟨herror, hid⟩ := error_of_decode format h hd
  have hidText := isIdText_idText id
  rw [← hid] at hidText
  rw [← bind_present_eq_none_iff]
  -- a member that is null counts as missing
  cases hpresent : error.bind present with
  | none =>
    rw [hpresent] at herror
    have hnone : response.error = none := (Except.ok.inj herror).symm
    refine ⟨by simp [hnone], fun e he => ?_, hidText⟩
    rw [hnone] at he
    cases he
  | some v =>
    rw [hpresent] at herror
    obtain ⟨e, he, hsome⟩ := exists_of_map_eq_ok herror
    refine ⟨by simp [← hsome], fun e' he' => ?_, hidText⟩
    obtain rfl : e = e' := Option.some.inj (hsome.trans he')
    exact ⟨v, (bind_present_eq_some_iff.1 hpresent).1,
      (ErrorInfo.ofValue_eq_ok_iff.1 he).isErrorObject⟩

theorem malformed_errors_refused_beside_bound :
    let error (code : Int) (exact : IsExact code) : Value :=
      .object [("code", .number (.int code exact)), ("message", .string "m")]
    let answer (error result : Value) : Value :=
      .object [("result", result), ("id", .number (.int 7 (by decide))), ("error", error)]
    (∃ reason, decode .text (answer (error 9223372036854775808 (by decide)) (.list [])).bytes =
      .error (.malformedError reason)) ∧
    ∃ response, decode .text (answer (error 9223372036854775807 (by decide)) .null).bytes =
        .ok response ∧
      response.id = "7" ∧ ∃ e, response.error = some e ∧ e.code.toInt = 9223372036854775807 := by
  intro error answer
  have hints (code : Int) (exact : IsExact code) (result : Value) (h : result.HasOnlyInts) :
      (answer (error code exact) result).HasOnlyInts :=
    ⟨h, trivial, ⟨trivial, trivial, trivial⟩, trivial⟩
  constructor
  · have hmembers := members.parse_bytes
      (hints 9223372036854775808 (by decide) (.list []) trivial)
    refine ((malformed_errors_refused .text _).2 _ _ _ (hmembers.trans rfl)).1.2
      ⟨_, rfl, Value.noConfusion, ?_⟩
    rintro ⟨code, message, h⟩
    obtain ⟨exact, hcode⟩ := h.hasCode
    have hrange := h.inRange.2
    cases hcode
    exact absurd hrange (by decide)
  · have hmembers := (members.parse_bytes
      (hints 9223372036854775807 (by decide) .null trivial)).trans rfl
    have hdecode := decode_of_members .text hmembers
    refine ⟨_, hdecode, ?_⟩
    obtain ⟨-, -, hid⟩ := ((malformed_errors_refused .text _).2 _ _ _ hmembers).2 _ hdecode
    exact ⟨hid.other _ rfl Value.noConfusion (fun s => Value.noConfusion), _, rfl, rfl⟩

end Response
end Rpc
end StreamRecords
