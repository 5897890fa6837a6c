import StreamRecords.Ledger.Answer
import StreamRecords.Proofs.Item
import StreamRecords.Proofs.Ledger.Streams
import StreamRecords.Proofs.Repository.Steps
import StreamRecords.Proofs.Rpc.Wire

/-!
What a ledger does about a request, and how its reply is read.
-/

namespace StreamRecords

open Json Rpc Time

/-! ### Answers are carried by the wire -/

theorem isDocument_document (answer : Answer) : answer.document.IsDocument := by
  cases answer with
  | published txid => trivial
  | listed items =>
    refine (itemsAreDocuments_iff _).2 ?_
    intro v hv
    obtain ⟨i, -, rfl⟩ := List.mem_map.1 hv
    exact (document_spec i).2.1

theorem isCarried_document (answer : Answer) : IsCarried answer.document := by
  cases answer with
  | published txid => exact isCarried_string txid
  | listed items =>
    refine ⟨(itemsHaveOnlyInts_iff _).2 ?_, ?_⟩
    · intro v hv
      obtain ⟨i, -, rfl⟩ := List.mem_map.1 hv
      exact (document_spec i).1
    · have hdepth : Value.depthItems (items.map Item.document) ≤ 1 := by
        refine depthItems_le_iff.2 fun v hv => ?_
        obtain ⟨i, -, rfl⟩ := List.mem_map.1 hv
        exact Nat.le_of_eq (document_spec i).2.2
      show Value.depthItems (items.map Item.document) + 1 ≤ 126
      omega

namespace Ledger

/-! ### What a ledger does about a request -/

section

variable {l : Ledger} {r : Request} (now : Instant)

theorem append_of_some {stream : String} {items : List Item} (h : l.stream? stream = some items)
    (key : String) (data : Encoding) :
    l.append now stream key data =
      (some (txid (l.lastTx + 1)), l.grown now stream key data items) := by
  have h : { l with lastTx := l.lastTx + 1 }.stream? stream = some items := h
  simp only [append, h]
  rfl

theorem target_of_none {stream key : String} (hstream : r.stringParam? 0 = some stream)
    (hkey : r.stringParam? 1 = some key) (hitems : l.stream? stream = none) :
    l.target r = .error missingStream := by
  simp only [target, hstream, hkey, hitems]

theorem target_of_some {stream key : String} {items : List Item}
    (hstream : r.stringParam? 0 = some stream) (hkey : r.stringParam? 1 = some key)
    (hitems : l.stream? stream = some items) : l.target r = .ok (stream, key, items) := by
  simp only [target, hstream, hkey, hitems]

theorem of_target {stream key : String} {items : List Item}
    (h : l.target r = .ok (stream, key, items)) :
    r.stringParam? 0 = some stream ∧ r.stringParam? 1 = some key ∧
      l.stream? stream = some items := by
  unfold target at h
  split at h
  · cases h
  · next hstream =>
    split at h
    · cases h
    · next hkey =>
      split at h
      · cases h
      · next hitems =>
        cases h
        exact ⟨hstream, hkey, hitems⟩

theorem stream?_of_target {stream key : String} {items : List Item}
    (h : l.target r = .ok (stream, key, items)) : l.stream? stream = some items :=
  (of_target h).2.2

theorem handle_of_failure {e : ErrorInfo} (h : l.failures.get r.command = some e) :
    l.handle now r = (.error e, l.called r.command) := by
  simp only [handle, h]
  rfl

theorem handle_of_target_error {e : ErrorInfo} (h : l.failures.get r.command = none)
    (htarget : l.target r = .error e) : l.handle now r = (.error e, l.called r.command) := by
  have htarget : (l.called r.command).target r = .error e := htarget
  rw [called] at htarget
  simp only [handle, h, htarget]
  rfl

theorem handle_list_of_target {stream key : String} {items : List Item}
    (hc : r.command = .listItems) (h : l.failures.get r.command = none)
    (htarget : l.target r = .ok (stream, key, items)) :
    l.handle now r = (.ok (.listed ((items.filter (·.key = key)).take
      ((r.natParam? 3).getD defaultCount))), l.called r.command) := by
  have htarget : (l.called r.command).target r = .ok (stream, key, items) := htarget
  rw [called] at htarget
  simp only [handle, h, htarget]
  rw [hc]
  rfl

theorem handle_publish_of_target {stream key : String} {items : List Item} {data : Encoding}
    (hc : r.command = .publish) (h : l.failures.get r.command = none)
    (htarget : l.target r = .ok (stream, key, items)) (hitems : l.stream? stream = some items)
    (hdata : dataOf r = .ok data) :
    l.handle now r = (.ok (.published (txid (l.lastTx + 1))),
      (l.called r.command).grown now stream key data items) := by
  have htarget : (l.called r.command).target r = .ok (stream, key, items) := htarget
  have happend := append_of_some (l := l.called r.command) now hitems key data
  rw [called] at htarget happend
  simp only [handle, h, htarget]
  rw [hc] at happend ⊢
  simp only [hdata]
  rw [happend]
  rfl

theorem handle_of_data_error {stream key : String} {items : List Item} {e : ErrorInfo}
    (hc : r.command = .publish) (h : l.failures.get r.command = none)
    (htarget : l.target r = .ok (stream, key, items)) (hdata : dataOf r = .error e) :
    l.handle now r = (.error e, l.called r.command) := by
  have htarget : (l.called r.command).target r = .ok (stream, key, items) := htarget
  rw [called] at htarget
  simp only [handle, h, htarget]
  rw [hc]
  simp only [hdata]
  rfl

/-- **What a ledger does about the request `r`**: it fails, or lists items of a stream, or publishes
one. Nothing changes but the count of the command and, on publication, the stream. -/
inductive Handled (now : Instant) (r : Request) (l : Ledger) :
    Except ErrorInfo Answer × Ledger → Prop where
  | failed (e : ErrorInfo) : Handled now r l (.error e, l.called r.command)
  | listed {stream : String} {items : List Item} (key : String) (count : Nat)
      (hc : r.command = .listItems) (hitems : l.stream? stream = some items) :
      Handled now r l
        (.ok (.listed ((items.filter (·.key = key)).take count)), l.called r.command)
  | published {stream : String} {items : List Item} (key : String) (data : Encoding)
      (hc : r.command = .publish) (htarget : l.target r = .ok (stream, key, items))
      (hdata : dataOf r = .ok data) :
      Handled now r l (.ok (.published (txid (l.lastTx + 1))),
        (l.called r.command).grown now stream key data items)

theorem handled_handle (now : Instant) (r : Request) (l : Ledger) :
    Handled now r l (l.handle now r) := by
  -- the checks in the order in which they are made: the failure, the target, the data
  cases hf : l.failures.get r.command with
  | some e =>
    rw [handle_of_failure now hf]
    exact .failed e
  | none =>
    cases htarget : l.target r with
    | error e =>
      rw [handle_of_target_error now hf htarget]
      exact .failed e
    | ok target =>
      obtain ⟨stream, key, items⟩ := target
      have hitems := stream?_of_target htarget
      cases hc : r.command with
      | listItems =>
        rw [handle_list_of_target now hc hf htarget]
        exact .listed key _ hc hitems
      | publish =>
        cases hdata : dataOf r with
        | error e =>
          rw [handle_of_data_error now hc hf htarget hdata]
          exact .failed e
        | ok data =>
          rw [handle_publish_of_target now hc hf htarget hitems hdata]
          exact .published key data hc htarget hdata

/-! ### Exchanges with a ledger -/

variable {body : Bytes}

/-- What comes back over the wire is read by any `format` as the outcome of `handle`. -/
theorem post_of_decode (hbody : Request.decode body = .ok r) {outcome : Except ErrorInfo Answer}
    {l' : Ledger} (h : l.handle now r = (outcome, l')) :
    ∃ reply, l.post now body = (.ok reply, l') ∧
      ∀ {α : Type} (format : Format α), Response.decode format reply =
        (((responseTo r outcome).result.bind present).mapM fun v =>
          (format.ofValue v).mapError fun e => ProtocolError.deserialization e.message).map
            fun result => ⟨r.id.text, (responseTo r outcome).error, result⟩ := by
  -- a result is a document of few levels, so that it crosses the wire whatever the ledger holds
  have hdocument : ∀ v ∈ (responseTo r outcome).result, ∃ answer : Answer, v = answer.document := by
    intro v hv
    cases outcome with
    | error e => cases hv
    | ok answer =>
      cases hv
      exact ⟨answer, rfl⟩
  have hcarried : ∀ v ∈ (responseTo r outcome).result, IsCarried v := by
    intro v hv
    obtain ⟨answer, rfl⟩ := hdocument v hv
    exact isCarried_document answer
  have hsorted : ∀ v ∈ (responseTo r outcome).result, v.IsDocument := by
    intro v hv
    obtain ⟨answer, rfl⟩ := hdocument v hv
    exact isDocument_document answer
  have hid : (responseTo r outcome).id = r.id.text := by
    cases outcome <;> rfl
  obtain ⟨reply, hreply, hdecode⟩ := Response.decode_encode_document hcarried hsorted
  refine ⟨reply, ?_, fun format => ?_⟩
  · simp only [post, hbody, h, hreply]
    rfl
  · rw [hdecode, hid]

/-- `post_of_decode` for one who takes any JSON value as the result. -/
theorem post_of_request (hbody : Request.decode body = .ok r) :
    ∃ reply, l.post now body = (.ok reply, (l.handle now r).2) ∧
      Response.decode .value reply = .ok (responseTo r (l.handle now r).1) := by
  cases hhandle : l.handle now r with
  | mk outcome l' =>
    obtain ⟨reply, hpost, hdecode⟩ := post_of_decode now hbody hhandle
    refine ⟨reply, hpost, (hdecode .value).trans ?_⟩
    cases outcome with
    | error e => rfl
    | ok answer => cases answer <;> rfl

theorem post_of_error (hbody : Request.decode body = .ok r) {e : ErrorInfo} {l' : Ledger}
    (h : l.handle now r = (.error e, l')) :
    ∃ reply, l.post now body = (.ok reply, l') ∧
      ∀ {α : Type} (format : Format α),
        Response.decode format reply = .ok ⟨r.id.text, some e, none⟩ := by
  obtain ⟨reply, hpost, hdecode⟩ := post_of_decode now hbody h
  exact ⟨reply, hpost, fun format => hdecode format⟩

theorem post_of_listed (hbody : Request.decode body = .ok r) {items : List Item} {l' : Ledger}
    (h : l.handle now r = (.ok (.listed items), l')) :
    ∃ reply, l.post now body = (.ok reply, l') ∧ Response.decode (.list itemFormat) reply =
      .ok ⟨r.id.text, none, some (items.map Item.floored)⟩ := by
  obtain ⟨reply, hpost, hdecode⟩ := post_of_decode now hbody h
  refine ⟨reply, hpost, (hdecode _).trans ?_⟩
  show Except.map _ (Except.map some (((Format.list itemFormat).ofValue
    (Answer.listed items).document).mapError _)) = _
  rw [ofValue_listed]
  rfl

theorem post_of_published (hbody : Request.decode body = .ok r) {txid : String} {l' : Ledger}
    (h : l.handle now r = (.ok (.published txid), l')) :
    ∃ reply, l.post now body = (.ok reply, l') ∧
      Response.decode .value reply = .ok ⟨r.id.text, none, some (.string txid)⟩ := by
  obtain ⟨reply, hpost, hdecode⟩ := post_of_decode now hbody h
  exact ⟨reply, hpost, hdecode _⟩

end

end Ledger

end StreamRecords
