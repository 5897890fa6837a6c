import StreamRecords.Proofs.Codec
import StreamRecords.Proofs.Except
import StreamRecords.Rpc.Response

/-!
Requests and answers on the wire. An envelope is an object of known members, so what is read from it
is told by what each member holds.
-/

namespace StreamRecords.Rpc

open Json

/-! ### Requests -/

theorem Request.hasOnlyInts_toValue {r : Request} (h : ∀ v ∈ r.params, v.HasOnlyInts) :
    r.toValue.HasOnlyInts :=
  ⟨trivial, trivial, trivial, (itemsHaveOnlyInts_iff _).2 h, trivial⟩

theorem Request.upTo_params {params : List Value} (hd : ∀ v ∈ params, v.IsDocument) (depth : Nat) :
    (Format.option (.list .value)).upTo (depth + 1) (.list params) =
      if Value.depthItems params ≤ depth then .ok (some params) else .error .tooDeep := by
  have hdoc : Value.toDocumentItems params = params := by
    have := toDocument_of_isDocument (v := .list params) ((itemsAreDocuments_iff params).2 hd)
    rw [Value.toDocument] at this
    exact Value.list.inj this
  have hlist : (Format.list .value).upTo (depth + 1) (.list params) =
      params.mapM (Value.upTo depth) := by
    rw [Format.upTo]
    rfl
  have hne : Value.list params ≠ .null := by simp
  rw [upTo_option hne, hlist, mapM_upTo, hdoc]
  split <;> rfl

def Request.envelopeFields :
    Fields (Option Value × String × Option (List Value) × Unit)
      (Option (Option Value) × Option String × Option (Option (List Value)) × Unit) :=
  .cons (.withDefault "id" none) (.option .value) <|
  .cons (.required "method") .text <|
  .cons (.withDefault "params" none) (.option (.list .value)) .nil

theorem Request.upTo_envelope {r : Request} (hd : ∀ v ∈ r.params, v.IsDocument) :
    Request.envelope.upTo maxDepth r.toValue =
      if Value.depthItems r.params ≤ 125 then
        .ok (some (.string r.id.text), r.command.method, some r.params, ())
      else .error .tooDeep := by
  have hversion : envelopeFields.memberUpTo 126 (none, none, none, ())
      ("jsonrpc", .string version) = .ok (none, none, none, ()) := rfl
  have hid : envelopeFields.memberUpTo 126 (none, none, none, ()) ("id", .string r.id.text) =
      .ok (some (some (.string r.id.text)), none, none, ()) := rfl
  have hmethod : envelopeFields.memberUpTo 126 (some (some (.string r.id.text)), none, none, ())
      ("method", .string r.command.method) =
      .ok (some (some (.string r.id.text)), some r.command.method, none, ()) := rfl
  have hparams : envelopeFields.memberUpTo 126
      (some (some (.string r.id.text)), some r.command.method, none, ())
      ("params", .list r.params) =
        if Value.depthItems r.params ≤ 125 then
          .ok (some (some (.string r.id.text)), some r.command.method, some (some r.params), ())
        else .error .tooDeep := by
    have hupTo := upTo_params hd 125
    show Except.map _ (Except.map _ (Except.map _
      ((Format.option (.list .value)).upTo 126 (.list r.params)))) = _
    rw [hupTo]
    split <;> rfl
  -- the four members one by one; only the parameters can be too deep
  show ([("jsonrpc", .string version), ("id", .string r.id.text),
    ("method", .string r.command.method), ("params", .list r.params)].foldlM
    (envelopeFields.memberUpTo 126) (none, none, none, ()) >>= envelopeFields.finish) = _
  rw [List.foldlM_cons, hversion]
  show (List.foldlM _ _ _ >>= _) = _
  rw [List.foldlM_cons, hid]
  show (List.foldlM _ _ _ >>= _) = _
  rw [List.foldlM_cons, hmethod]
  show (List.foldlM _ _ _ >>= _) = _
  rw [List.foldlM_cons, hparams]
  split <;> rfl

@[simp] theorem Command.parse_method (c : Command) : Command.parse c.method = .ok c := by
  cases c <;> rfl

/-- **A request is read back from its body**, unless a parameter is nested too deep for the two
levels around it. -/
theorem Request.decode_encode {r : Request} (h : ∀ v ∈ r.params, v.HasOnlyInts)
    (hd : ∀ v ∈ r.params, v.IsDocument) :
    Request.decode r.encode =
      if Value.depthItems r.params ≤ 125 then .ok r
      else .error (.deserialization Fault.tooDeep.message) := by
  rw [Request.decode, Request.encode, Format.parse_bytes _ (hasOnlyInts_toValue h),
    upTo_envelope hd]
  split
  · show (Command.parse r.command.method >>= fun c => pure _) = _
    rw [Command.parse_method]
    rfl
  · rfl

/-- `decode_encode` for parameters that hold nothing. -/
theorem Request.decode_encode_of_plain {r : Request}
    (h : ∀ v ∈ r.params, v.HasOnlyInts ∧ v.IsDocument ∧ v.depth = 0) :
    Request.decode r.encode = .ok r := by
  have hdepth : Value.depthItems r.params ≤ 0 :=
    depthItems_le_iff.2 fun v hv => Nat.le_of_eq (h v hv).2.2
  rw [Request.decode_encode (fun v hv => (h v hv).1) fun v hv => (h v hv).2.1]
  exact if_pos (by omega)

/-- A request that is read is what its `envelope` holds. -/
theorem Request.exists_of_decode {body : Bytes} {r : Request} (h : Request.decode body = .ok r) :
    ∃ id method params, Request.envelope.parse body = .ok (id, method, params, ()) ∧
      Command.parse method = .ok r.command ∧ r.id.text = idText id ∧ r.params = params.getD [] := by
  obtain ⟨⟨id, method, params, _⟩, hparse, h⟩ := exists_of_bind_eq_ok h
  obtain ⟨command, hcommand, h⟩ := exists_of_bind_eq_ok h
  cases h
  exact ⟨id, method, params, mapError_eq_ok_iff.1 hparse, hcommand, rfl, rfl⟩

/-! ### Errors -/

/-- **`v` spells the error `e`**: it is an object with the integer as its code and the string as its
message, among other members or not. -/
structure ErrorInfo.IsSpelled (e : ErrorInfo) (v : Value) : Prop where
  code : v.get? "code" = some (.number (.ofInt64 e.code))
  message : v.get? "message" = some (.string e.message)

/-- `ofValue` reads an error from exactly the values that spell it. -/
theorem ErrorInfo.ofValue_eq_ok_iff {v : Value} {e : ErrorInfo} :
    ofValue v = .ok e ↔ e.IsSpelled v := by
  have hcode (code : Int64) : ((v.get? "code").bind Value.asNumber?).bind Number.toInt64? =
      some code ↔ v.get? "code" = some (.number (.ofInt64 code)) := by
    simp [Option.bind_eq_some_iff]
  have hmessage (s : String) : (v.get? "message").bind Value.asString? = some s ↔
      v.get? "message" = some (.string s) := by
    simp [Option.bind_eq_some_iff]
  cases v with
  | object members =>
    constructor
    · intro h
      unfold ofValue at h
      dsimp only at h
      -- the code is asked for first, and the message only if there is one
      split at h
      · cases h
      · next code hread =>
        split at h
        · cases h
        · next message hread' =>
          cases h
          exact ⟨(hcode _).1 hread, (hmessage _).1 hread'⟩
    · rintro ⟨hc, hm⟩
      unfold ofValue
      simp only [(hcode _).2 hc, (hmessage _).2 hm]
  | _ =>
    constructor
    · intro h
      cases h
    · rintro ⟨hc, -⟩
      cases hc

@[simp] theorem ErrorInfo.ofValue_toValue (e : ErrorInfo) : ErrorInfo.ofValue e.toValue = .ok e :=
  ofValue_eq_ok_iff.2 ⟨rfl, rfl⟩

theorem ErrorInfo.isDocument_toValue (e : ErrorInfo) : e.toValue.IsDocument :=
  ⟨Dict.isSorted_of_names ["code", "message"] rfl (by decide), trivial, trivial, trivial⟩

/-! ### Answers -/

/-- `v` can be a member of an answer: it can be written and, one level further down, read. -/
structure IsCarried (v : Value) : Prop where
  ints : v.HasOnlyInts
  depth : v.depth ≤ 126

theorem isCarried_null : IsCarried .null := ⟨trivial, Nat.zero_le _⟩

theorem isCarried_string (s : String) : IsCarried (.string s) := ⟨trivial, Nat.zero_le _⟩

theorem isCarried_error (e : ErrorInfo) : IsCarried e.toValue :=
  ⟨⟨trivial, trivial, trivial⟩, show 1 ≤ 126 by decide⟩

/-- What a member of an answer holds: null stands for nothing. -/
def present : Value → Option Value
  | .null => none
  | v => some v

theorem bind_present (v : Option Value) : v.bind present = v.filter fun v => !v.isNull := by
  cases v with
  | none => rfl
  | some v => cases v <;> rfl

theorem upTo_present {v : Value} (hv : IsCarried v) :
    (Format.option .value).upTo 126 v = .ok (present v.toDocument) := by
  by_cases h : v = .null
  · rw [h]
    rfl
  · rw [upTo_option h, Format.upTo, Value.upTo, if_pos hv.depth]
    cases v with
    | null => exact absurd rfl h
    | _ => rfl

def Response.envelopeFields :
    Fields (Option Value × Option Value × Option Value × Unit)
      (Option (Option Value) × Option (Option Value) × Option (Option Value) × Unit) :=
  .cons (.withDefault "id" none) (.option .value) <|
  .cons (.withDefault "error" none) (.option .value) <|
  .cons (.withDefault "result" none) (.option .value) .nil

theorem Response.upTo_envelope (id : String) {error result : Value} (he : IsCarried error)
    (hr : IsCarried result) :
    Response.envelope.upTo maxDepth
      (.object [("id", .string id), ("error", error), ("result", result)]) =
      .ok (some (.string id), present error.toDocument, present result.toDocument, ()) := by
  have hid : envelopeFields.memberUpTo 126 (none, none, none, ()) ("id", .string id) =
      .ok (some (some (.string id)), none, none, ()) := rfl
  have herror : envelopeFields.memberUpTo 126 (some (some (.string id)), none, none, ())
      ("error", error) =
      .ok (some (some (.string id)), some (present error.toDocument), none, ()) := by
    show Except.map _ (Except.map _ ((Format.option .value).upTo 126 error)) = _
    rw [upTo_present he]
    rfl
  have hresult : envelopeFields.memberUpTo 126
      (some (some (.string id)), some (present error.toDocument), none, ()) ("result", result) =
      .ok (some (some (.string id)), some (present error.toDocument),
        some (present result.toDocument), ()) := by
    show Except.map _ (Except.map _ (Except.map _ ((Format.option .value).upTo 126 result))) = _
    rw [upTo_present hr]
    rfl
  show ([("id", .string id), ("error", error), ("result", result)].foldlM
    (envelopeFields.memberUpTo 126) (none, none, none, ()) >>= envelopeFields.finish) = _
  rw [List.foldlM_cons, hid]
  show (List.foldlM _ _ _ >>= _) = _
  rw [List.foldlM_cons, herror]
  show (List.foldlM _ _ _ >>= _) = _
  rw [List.foldlM_cons, hresult]
  rfl

theorem Response.decode_object {α : Type} (format : Format α) (id : String) {error result : Value}
    (he : IsCarried error) (hr : IsCarried result) :
    Response.decode format
      (Value.object [("id", .string id), ("error", error), ("result", result)]).bytes = (do
        let error ← (present error.toDocument).mapM ErrorInfo.ofValue
        let result ← (present result.toDocument).mapM fun v =>
          (format.ofValue v).mapError fun e => .deserialization e.message
        return ⟨id, error, result⟩) := by
  have hints : Value.HasOnlyInts
      (.object [("id", .string id), ("error", error), ("result", result)]) :=
    ⟨trivial, he.ints, hr.ints, trivial⟩
  rw [Response.decode, Format.parse_bytes _ hints, upTo_envelope id he hr]
  rfl

/-- **An answer is read back**: what its own format has `written` for the result is taken by any
other `format` as a document. -/
theorem Response.decode_encode {α : Type} {written : Format α} {r : Response α} {v : Value}
    (hv : written.option.toValue r.result = .ok v) (hc : IsCarried v) :
    ∃ body, r.encode written = .ok body ∧
      ∀ {β : Type} (format : Format β), Response.decode format body =
        ((present v.toDocument).mapM fun v =>
          (format.ofValue v).mapError fun e => ProtocolError.deserialization e.message).map
            fun result => ⟨r.id, r.error, result⟩ := by
  obtain ⟨id, error, result⟩ := r
  refine ⟨(Value.object [("id", .string id), ("error", error.elim .null ErrorInfo.toValue),
    ("result", v)]).bytes, ?_, fun format => ?_⟩
  · unfold Response.encode
    rw [hv]
    rfl
  · have he : IsCarried (error.elim .null ErrorInfo.toValue) := by
      cases error with
      | none => exact isCarried_null
      | some e => exact isCarried_error e
    -- no error is written as null, and an error as an object that spells it
    have herror : (present (error.elim .null ErrorInfo.toValue).toDocument).mapM
        ErrorInfo.ofValue = .ok error := by
      cases error with
      | none => rfl
      | some e =>
        show (present e.toValue.toDocument).mapM ErrorInfo.ofValue = _
        rw [toDocument_of_isDocument e.isDocument_toValue]
        show (ErrorInfo.ofValue e.toValue).map some = _
        rw [ErrorInfo.ofValue_toValue]
        rfl
    rw [decode_object format id he hc, herror]
    rfl

/-- `decode_encode` of an answer whose result is any document. -/
theorem Response.decode_encode_document {r : Response Value} (h : ∀ v ∈ r.result, IsCarried v)
    (hd : ∀ v ∈ r.result, v.IsDocument) :
    ∃ body, r.encode .value = .ok body ∧
      ∀ {α : Type} (format : Format α), Response.decode format body =
        ((r.result.bind present).mapM fun v =>
          (format.ofValue v).mapError fun e => ProtocolError.deserialization e.message).map
            fun result => ⟨r.id, r.error, result⟩ := by
  obtain ⟨id, error, result⟩ := r
  cases result with
  | none => exact Response.decode_encode rfl isCarried_null
  | some v =>
    have hv : Format.value.option.toValue (some v) = .ok v := rfl
    obtain ⟨body, hbody, hdecode⟩ := Response.decode_encode (r := ⟨id, error, some v⟩) hv (h v rfl)
    rw [toDocument_of_isDocument (hd v rfl)] at hdecode
    exact ⟨body, hbody, hdecode⟩

end StreamRecords.Rpc
