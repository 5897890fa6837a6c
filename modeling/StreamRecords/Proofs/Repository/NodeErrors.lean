import StreamRecords.Proofs.Repository.Sent

/-!
Errors that a node reports. A save fails with the error that the reply to its publication reports,
whatever else the reply holds. The reply to a lookup may hold a result beside the error, and this is
read as a list of items first: if it is none, the lookup fails over it and the error is lost.
-/

namespace StreamRecords

open Json Rpc Dialogue

/-! ### Replies that report an error -/

/-- **`reply` reports the error `e`**: it is the envelope of an answer with a value in the place of
the error that spells `e`, and with `result` beside it or none. -/
def Reports (reply : Reply) (e : ErrorInfo) (result : Option Value) : Prop :=
  ∃ body id value, reply = .ok body ∧
    Response.envelope.parse body = .ok (id, some value, result, ()) ∧ e.IsSpelled value

variable {reply : Reply} {e : ErrorInfo} {result : Option Value}

theorem reports_object (id : String) (e : ErrorInfo) {v : Value} (hv : IsCarried v) :
    Reports (.ok (Value.object [("id", .string id), ("error", e.toValue), ("result", v)]).bytes) e
      (present v.toDocument) := by
  have he := isCarried_error e
  have hints : Value.HasOnlyInts
      (.object [("id", .string id), ("error", e.toValue), ("result", v)]) :=
    ⟨trivial, he.ints, hv.ints, trivial⟩
  have hparse := Response.upTo_envelope id he hv
  rw [← Format.parse_bytes _ hints, toDocument_of_isDocument e.isDocument_toValue] at hparse
  exact ⟨_, _, e.toValue, rfl, hparse, ErrorInfo.ofValue_eq_ok_iff.1 e.ofValue_toValue⟩

/-- What is made of a reply that reports `e`: its `result` is read before `e` is told. -/
theorem answer_of_reports {α : Type} (format : Format α) (h : Reports reply e result) :
    ∃ id, answer format reply =
      match result.mapM format.ofValue with
      | .ok result => .ok ⟨id, some e, result⟩
      | .error fault => .error (.protocol (.deserialization fault.message)) := by
  obtain ⟨body, id, value, rfl, hparse, hvalue⟩ := h
  refine ⟨idText id, ?_⟩
  have herror : (some value).mapM ErrorInfo.ofValue = .ok (some e) := by
    rw [Option.mapM_some, ErrorInfo.ofValue_eq_ok_iff.2 hvalue]
    rfl
  rw [answer_ok, Response.decode, hparse]
  show Except.mapError _ ((some value).mapM ErrorInfo.ofValue >>= _) = _
  rw [herror]
  cases result with
  | none => rfl
  | some v =>
    rw [Option.mapM_some, Option.mapM_some]
    cases format.ofValue v <;> rfl

/-- **Why a lookup fails whose reply reports `e`**: over `result`, if this is no list of items, and
with `e` only otherwise. -/
def lookupFailure (e : ErrorInfo) (result : Option Value) : RepositoryError :=
  match result.mapM (Format.list itemFormat).ofValue with
  | .ok _ => .retrieval e
  | .error fault => .client (.protocol (.deserialization fault.message))

theorem listedItems_of_reports (h : Reports reply e result) :
    listedItems reply = .error (lookupFailure e result) := by
  obtain ⟨id, hanswer⟩ := answer_of_reports (.list itemFormat) h
  rw [listedItems, lookupFailure, hanswer]
  cases result.mapM (Format.list itemFormat).ofValue <;> rfl

/-- A publication takes any `result`, so nothing hides `e` from it. -/
theorem published_of_reports {α : Type} (a : α) (h : Reports reply e result) :
    published a reply = .error (.write e) := by
  obtain ⟨id, hanswer⟩ := answer_of_reports .value h
  rw [published, hanswer]
  cases result <;> rfl

/-- Whatever is beside an error is a list of items. -/
def ListsItemsIfAny (result : Option Value) : Prop :=
  ∀ v ∈ result, ∃ items, (Format.list itemFormat).ofValue v = .ok items

theorem lookupFailure_of_listsItemsIfAny (h : ListsItemsIfAny result) :
    lookupFailure e result = .retrieval e := by
  cases result with
  | none => rfl
  | some v =>
    obtain ⟨items, hitems⟩ := h v rfl
    rw [lookupFailure, Option.mapM_some, hitems]
    rfl

theorem lookupFailure_of_not_listsItemsIfAny (h : ¬ ListsItemsIfAny result) :
    ∃ reason, lookupFailure e result = .client (.protocol (.deserialization reason)) := by
  cases result with
  | none => exact absurd (fun v hv => by cases hv) h
  | some v =>
    rw [lookupFailure, Option.mapM_some]
    cases hv : (Format.list itemFormat).ofValue v with
    | error fault => exact ⟨fault.message, rfl⟩
    | ok items => exact absurd (fun w hw => by cases hw; exact ⟨items, hv⟩) h

namespace Repository

/-! ### Operations -/

variable {α σ : Type} (r : Repository α) (setting : Setting σ) {t : Trace σ}

theorem find_of_reports {s : String} (hs : Text.trim s ≠ "")
    (h : Reports (setting.node t.state
      (listing r.stream.text (Text.trim s) (setting.ids t.drawn)).encode).1 e result) :
    ((r.find s).dialogue.run setting t).1 = .error (lookupFailure e result) := by
  rw [Attempt.value_run, run_quiet_find, RecordKey.parse_of_ne hs]
  dsimp only
  rw [run_quiet_lookup]
  show listedItems (setting.node t.state
    (listing r.stream.text (Text.trim s) (setting.ids t.drawn)).encode).1 >>= _ = _
  rw [listedItems_of_reports h]
  rfl

theorem exists?_of_reports {s : String} (hs : Text.trim s ≠ "")
    (h : Reports (setting.node t.state
      (listing r.stream.text (Text.trim s) (setting.ids t.drawn)).encode).1 e result) :
    ((r.exists? s).dialogue.run setting t).1 = .error (lookupFailure e result) := by
  rw [value_exists?, r.find_of_reports setting hs h]
  rfl

theorem save_of_lookup_reports {a : α} {key : RecordKey} (hkey : r.key? a = some key)
    (h : Reports (setting.node t.state
      (listing r.stream.text key.text (setting.ids t.drawn)).encode).1 e result) :
    ((r.save a).dialogue.run setting t).1 = .error (lookupFailure e result) := by
  obtain ⟨e', hlisted, hrun, -⟩ | ⟨data, id, hlisted, -⟩ := r.sent_save_of_some setting hkey t
  · rw [listedItems_of_reports h] at hlisted
    cases hlisted
    exact hrun
  · rw [listedItems_of_reports h] at hlisted
    cases hlisted

theorem save_of_publication_reports {a : α} {key : RecordKey} {bytes : Bytes}
    (hkey : r.key? a = some key) (hwrite : r.format.write a = .ok bytes) :
    let listed := setting.node t.state
      (listing r.stream.text key.text (setting.ids t.drawn)).encode
    ListsNothing listed.1 →
      Reports (setting.node listed.2
        (r.publication key ⟨bytes⟩ (setting.ids (t.drawn + 1))).encode).1 e result →
      ((r.save a).dialogue.run setting t).1 = .error (.write e) := by
  intro listed hnothing h
  have hlisted : listedItems listed.1 = .ok [] := (listedItems_eq_nil_iff _).2 hnothing
  have hdata : listedItems listed.1 >>= r.toPublish key a = .ok ⟨bytes⟩ :=
    (r.toPublish_eq_ok_iff key a _ ⟨bytes⟩).2 ⟨hlisted, hwrite⟩
  rw [Attempt.value_run, r.run_quiet_save setting hkey]
  show ((r.publishing key a (listedItems listed.1)).run setting _).1 = _
  rw [run_publishing, hdata]
  exact published_of_reports a h

/-- **An error that the node reports is what the operation fails with**, whatever else the reply
holds, but for one case: in the reply to the lookup, a `result` beside it that is no list of items
is what the operation fails over instead. -/
theorem node_errors_reported (t : Trace σ) :
    (∀ s e result, Text.trim s ≠ "" →
      Reports (setting.node t.state
        (listing r.stream.text (Text.trim s) (setting.ids t.drawn)).encode).1 e result →
      ((r.find s).dialogue.run setting t).1 = .error (lookupFailure e result) ∧
        ((r.exists? s).dialogue.run setting t).1 = .error (lookupFailure e result)) ∧
    (∀ a s, r.metadata.key a = some s → Text.trim s ≠ "" →
      let listed := setting.node t.state
        (listing r.stream.text (Text.trim s) (setting.ids t.drawn)).encode
      (∀ e result, Reports listed.1 e result →
        ((r.save a).dialogue.run setting t).1 = .error (lookupFailure e result)) ∧
      ∀ bytes e result, ListsNothing listed.1 → r.format.write a = .ok bytes →
        Reports (setting.node listed.2 (Request.encode ⟨setting.ids (t.drawn + 1), .publish,
          [.string r.stream.text, .string (Text.trim s),
            .string (.ofList (Hex.encode bytes))]⟩)).1 e result →
        ((r.save a).dialogue.run setting t).1 = .error (.write e)) ∧
    ∀ e result,
      (ListsItemsIfAny result → lookupFailure e result = .retrieval e) ∧
      (¬ ListsItemsIfAny result →
        ∃ reason, lookupFailure e result = .client (.protocol (.deserialization reason))) := by
  refine ⟨?_, ?_, ?_⟩
  · intro s e result hs h
    exact ⟨r.find_of_reports setting hs h, r.exists?_of_reports setting hs h⟩
  · intro a s hs hne listed
    have hkey := r.key?_eq_some hs hne
    refine ⟨fun e result h => r.save_of_lookup_reports setting hkey h, ?_⟩
    intro bytes e result hnothing hwrite h
    exact r.save_of_publication_reports setting hkey hwrite hnothing h
  · intro e result
    exact ⟨lookupFailure_of_listsItemsIfAny, lookupFailure_of_not_listsItemsIfAny⟩

/-- A busy node sends null beside its error, and is understood. -/
theorem node_errors_reported_busy :
    let r : Repository Samples.Note :=
      ⟨Samples.Note.format, ⟨⟨"notes", by decide, by decide⟩, fun n => some n.id⟩, .absent⟩
    let busy : ErrorInfo := ⟨-1, "busy"⟩
    let body := (Value.object [("id", .string "other"), ("error", busy.toValue),
      ("result", .null)]).bytes
    let setting : Setting Unit := ⟨fun _ _ => (.ok body, ()), fun _ => ⟨"id"⟩⟩
    Reports (.ok body) busy none ∧
      ((r.find " k ").dialogue.run setting (.start () 0)).1 = .error (.retrieval busy) := by
  intro r busy body setting
  have hreports : Reports (.ok body) busy none := reports_object "other" busy isCarried_null
  obtain ⟨hfind, -, hfailure⟩ := r.node_errors_reported setting (.start () 0)
  have hnone : ListsItemsIfAny none := fun v hv => by cases hv
  have hfound := (hfind " k " busy none (by decide) hreports).1
  rw [(hfailure busy none).1 hnone] at hfound
  exact ⟨hreports, hfound⟩

/-- What a busy node says is lost beside an object as the result. -/
theorem not_node_errors_reported_always :
    ¬ ∀ (r : Repository Samples.Note) (setting : Setting Unit) (t : Trace Unit) (s : String)
      (e : ErrorInfo) (result : Option Value), Text.trim s ≠ "" →
      Reports (setting.node t.state
        (listing r.stream.text (Text.trim s) (setting.ids t.drawn)).encode).1 e result →
      ((r.find s).dialogue.run setting t).1 = .error (.retrieval e) := by
  intro h
  let r : Repository Samples.Note :=
    ⟨Samples.Note.format, ⟨⟨"note", by decide, by decide⟩, fun n => some n.id⟩, .absent⟩
  let busy : ErrorInfo := ⟨-1, "busy"⟩
  let result : Value := .object [("a", .number (.int 1 (by decide)))]
  let body := (Value.object [("id", .string "id"), ("error", busy.toValue),
    ("result", result)]).bytes
  let setting : Setting Unit := ⟨fun _ _ => (.ok body, ()), fun _ => ⟨"id"⟩⟩
  have hresult : IsCarried result := ⟨⟨trivial, trivial⟩, show 1 ≤ 126 by decide⟩
  have hreports : Reports (.ok body) busy (some result) := reports_object "id" busy hresult
  have hretrieval := h r setting (.start () 0) "k" busy (some result) (by decide) hreports
  have hfound := r.find_of_reports setting (t := .start () 0) (s := "k") (by decide) hreports
  cases hfound.symm.trans hretrieval

end Repository
end StreamRecords
