import StreamRecords.Proofs.Repository.Steps
import StreamRecords.Samples

/-!
What a repository sends to a node, whatever the node replies. A lookup is one body; a save is the
same body, and a second one only if the first reply lists nothing.
-/

namespace StreamRecords

open Json Rpc Dialogue

/-! ### Bodies -/

/-- The request for at most two items under `key`. -/
def listing (stream key : String) (id : RequestId) : Request :=
  ⟨id, .listItems,
    [.string stream, .string key, .bool false, .number (.int 2 (by decide))]⟩

@[simp] theorem decode_listing (stream key : String) (id : RequestId) :
    Request.decode (listing stream key id).encode = .ok (listing stream key id) :=
  Request.decode_encode_of_plain (by
    simp [listing, Value.HasOnlyInts, Number.IsInt, Value.IsDocument, Value.depth])

namespace Repository

variable {α σ : Type} (r : Repository α)

/-! ### Replies -/

/-- `reply` is an answer without an error, whose result is absent or empty. -/
def ListsNothing (reply : Reply) : Prop :=
  ∃ body response, reply = .ok body ∧ Response.decode (.list itemFormat) body = .ok response ∧
    response.error = none ∧ (response.result = none ∨ response.result = some [])

def ReportsNoError (reply : Reply) : Prop :=
  ∃ body response, reply = .ok body ∧ Response.decode .value body = .ok response ∧
    response.error = none

theorem listedItems_eq_nil_iff (reply : Reply) :
    listedItems reply = .ok [] ↔ ListsNothing reply := by
  rw [listedItems]
  constructor
  · intro h
    cases hanswer : answer (.list itemFormat) reply with
    | error e =>
      rw [hanswer] at h
      cases h
    | ok response =>
      obtain ⟨body, hbody, hdecode⟩ := answer_eq_ok_iff.1 hanswer
      obtain ⟨id, error, result⟩ := response
      rw [hanswer] at h
      cases error with
      | some e => cases h
      | none =>
        refine ⟨body, _, hbody, hdecode, rfl, ?_⟩
        cases result with
        | none => exact .inl rfl
        | some items => exact .inr (congrArg some (Except.ok.inj h))
  · rintro ⟨body, ⟨id, error, result⟩, hbody, hdecode, rfl, hresult⟩
    rw [answer_eq_ok_iff.2 ⟨body, hbody, hdecode⟩]
    rcases hresult with rfl | rfl <;> rfl

theorem published_eq_ok_iff (a b : α) (reply : Reply) :
    published a reply = .ok b ↔ b = a ∧ ReportsNoError reply := by
  rw [published]
  constructor
  · intro h
    cases hanswer : answer .value reply with
    | error e =>
      rw [hanswer] at h
      cases h
    | ok response =>
      obtain ⟨body, hbody, hdecode⟩ := answer_eq_ok_iff.1 hanswer
      obtain ⟨id, error, result⟩ := response
      rw [hanswer] at h
      cases error with
      | some e => cases h
      | none => exact ⟨(Except.ok.inj h).symm, body, _, hbody, hdecode, rfl⟩
  · rintro ⟨rfl, body, ⟨id, error, result⟩, hbody, hdecode, rfl⟩
    rw [answer_eq_ok_iff.2 ⟨body, hbody, hdecode⟩]

theorem toPublish_eq_ok_iff (key : RecordKey) (a : α) (listed : Except RepositoryError (List Item))
    (data : Encoding) :
    (listed >>= r.toPublish key a) = .ok data ↔
      listed = .ok [] ∧ r.format.write a = .ok data.bytes := by
  constructor
  · intro h
    cases listed with
    | error e => cases h
    | ok items =>
      -- any item under the key makes it a duplicate
      cases items with
      | cons item items => cases h
      | nil =>
        have h : (Codec.serialize r.format a).mapError RepositoryError.codec = .ok data := h
        rw [Codec.serialize] at h
        cases hw : r.format.write a with
        | error e =>
          rw [hw] at h
          cases h
        | ok bytes =>
          rw [hw] at h
          cases h
          exact ⟨rfl, rfl⟩
  · rintro ⟨rfl, hw⟩
    show (Codec.serialize r.format a).mapError RepositoryError.codec = .ok data
    rw [Codec.serialize, hw]
    rfl

/-! ### What is sent -/

variable (setting : Setting σ)

theorem sent_save_of_none {a : α} (h : r.key? a = none) (t : Trace σ) :
    ((r.save a).dialogue.run setting t).1 = .error (.missingKey r.stream.text) ∧
      ((r.save a).dialogue.run setting t).2.sent = t.sent := by
  rw [Attempt.value_run, Attempt.sent_run, r.quiet_save_of_none h]
  exact ⟨rfl, rfl⟩

/-- A save with a key sends a lookup, and then either fails or sends a publication. -/
theorem sent_save_of_some {a : α} {key : RecordKey} (h : r.key? a = some key) (t : Trace σ) :
    let first := (listing r.stream.text key.text (setting.ids t.drawn)).encode
    let listed := setting.node t.state first
    (∃ e, listedItems listed.1 >>= r.toPublish key a = .error e ∧
      ((r.save a).dialogue.run setting t).1 = .error e ∧
      ((r.save a).dialogue.run setting t).2.sent = t.sent ++ [first]) ∨
    ∃ data id, listedItems listed.1 >>= r.toPublish key a = .ok data ∧
      ((r.save a).dialogue.run setting t).1 =
        published a (setting.node listed.2 (r.publication key data id).encode).1 ∧
      ((r.save a).dialogue.run setting t).2.sent =
        t.sent ++ [first, (r.publication key data id).encode] := by
  intro first listed
  have hlisted : listedItems (setting.node t.quiet.state
      (Request.list (setting.ids t.quiet.drawn) r.stream key).encode).1 >>= r.toPublish key a =
      listedItems listed.1 >>= r.toPublish key a := rfl
  rw [Attempt.value_run, Attempt.sent_run, r.run_quiet_save setting h, run_publishing, hlisted]
  cases hdata : listedItems listed.1 >>= r.toPublish key a with
  | error e => exact .inl ⟨e, rfl, rfl, rfl⟩
  | ok data =>
    exact .inr ⟨data, setting.ids (t.drawn + 1), rfl, rfl, List.append_assoc t.sent [first] _⟩

theorem sent_find_of_blank {s : String} (h : Text.trim s = "") (t : Trace σ) :
    ((r.find s).dialogue.run setting t).2.sent = t.sent := by
  rw [Attempt.sent_run, run_quiet_find, RecordKey.parse_of_eq h]
  rfl

/-- A lookup that is not blank sends one body. -/
theorem sent_find {s : String} (h : Text.trim s ≠ "") (t : Trace σ) :
    ((r.find s).dialogue.run setting t).2.sent =
      t.sent ++ [(listing r.stream.text (Text.trim s) (setting.ids t.drawn)).encode] := by
  rw [Attempt.sent_run, run_quiet_find, RecordKey.parse_of_ne h]
  dsimp only
  rw [run_quiet_lookup]
  rfl

@[simp] theorem sent_exists? (s : String) (t : Trace σ) :
    ((r.exists? s).dialogue.run setting t).2.sent =
      ((r.find s).dialogue.run setting t).2.sent := by
  simp [Attempt.sent_run]

@[simp] theorem value_exists? (s : String) (t : Trace σ) :
    ((r.exists? s).dialogue.run setting t).1 =
      ((r.find s).dialogue.run setting t).1.map Option.isSome := by
  simp [Attempt.value_run]

/-- **What a repository sends, whatever the node is and replies.** A save without a key sends
nothing; with one, it sends a `listing`, and exactly if this lists nothing and the entity can be
written, the publication of its bytes under the same key; it succeeds exactly if the publication is
sent and answered without an error. A lookup sends a `listing`, or nothing if its key is blank. -/
theorem sent_by_operations (t : Trace σ) :
    (∀ a : α, (∀ s, r.metadata.key a = some s → Text.trim s = "") →
      ((r.save a).dialogue.run setting t).1 = .error (.missingKey r.stream.text) ∧
        ((r.save a).dialogue.run setting t).2.sent = t.sent) ∧
    (∀ (a : α) (s : String), r.metadata.key a = some s → Text.trim s ≠ "" →
      ∃ first later,
        ((r.save a).dialogue.run setting t).2.sent = t.sent ++ first :: later ∧
        (∃ id, Request.decode first = .ok (listing r.stream.text (Text.trim s) id)) ∧
        later.length ≤ 1 ∧
        (later ≠ [] ↔ ListsNothing (setting.node t.state first).1 ∧
          ∃ bytes, r.format.write a = .ok bytes) ∧
        (∀ second ∈ later, ∃ id bytes, r.format.write a = .ok bytes ∧
          Request.decode second = .ok ⟨id, .publish,
            [.string r.stream.text, .string (Text.trim s), .string (.ofList (Hex.encode bytes))]⟩) ∧
        ∀ b, ((r.save a).dialogue.run setting t).1 = .ok b ↔
          b = a ∧ ∃ second ∈ later,
            ReportsNoError (setting.node (setting.node t.state first).2 second).1) ∧
    (∀ s, Text.trim s = "" →
      ((r.find s).dialogue.run setting t).2.sent = t.sent ∧
        ((r.exists? s).dialogue.run setting t).2.sent = t.sent) ∧
    ∀ s, Text.trim s ≠ "" → ∃ body id,
      Request.decode body = .ok (listing r.stream.text (Text.trim s) id) ∧
        ((r.find s).dialogue.run setting t).2.sent = t.sent ++ [body] ∧
        ((r.exists? s).dialogue.run setting t).2.sent = t.sent ++ [body] := by
  refine ⟨?_, ?_, ?_, ?_⟩
  · intro a h
    exact r.sent_save_of_none setting (r.key?_eq_none h) t
  · intro a s hs h
    have hkey := r.key?_eq_some hs h
    -- the save ends behind its lookup, or it sends a publication too
    obtain ⟨e, hlisted, hrun, hsent⟩ | ⟨data, id, hlisted, hrun, hsent⟩ :=
      r.sent_save_of_some setting hkey t
    · refine ⟨_, [], hsent, ⟨_, decode_listing _ _ _⟩, Nat.zero_le _, ?_, ?_, ?_⟩
      · constructor
        · intro h
          exact absurd rfl h
        · rintro ⟨hnothing, bytes, hwrite⟩
          have hdata := (r.toPublish_eq_ok_iff ⟨_, Text.trim_trim s, h⟩ a _ ⟨bytes⟩).2
            ⟨(listedItems_eq_nil_iff _).2 hnothing, hwrite⟩
          cases hdata.symm.trans hlisted
      · intro second hsecond
        exact absurd hsecond List.not_mem_nil
      · intro b
        constructor
        · intro h
          cases h.symm.trans hrun
        · rintro ⟨-, second, hsecond, -⟩
          exact absurd hsecond List.not_mem_nil
    · obtain ⟨hnil, hwrite⟩ := (r.toPublish_eq_ok_iff _ a _ data).1 hlisted
      refine ⟨_, [_], hsent, ⟨_, decode_listing _ _ _⟩, Nat.le_refl _, ?_, ?_, ?_⟩
      · constructor
        · intro _
          exact ⟨(listedItems_eq_nil_iff _).1 hnil, data.bytes, hwrite⟩
        · intro _
          exact List.cons_ne_nil _ _
      · intro second hsecond
        rw [List.mem_singleton.1 hsecond]
        exact ⟨id, data.bytes, hwrite, r.decode_publication _ data id⟩
      · intro b
        rw [hrun, published_eq_ok_iff]
        refine and_congr_right fun _ => ?_
        constructor
        · intro h
          exact ⟨_, List.mem_singleton_self _, h⟩
        · rintro ⟨second, hsecond, h⟩
          rw [List.mem_singleton.1 hsecond] at h
          exact h
  · intro s h
    rw [sent_exists?]
    exact ⟨r.sent_find_of_blank setting h t, r.sent_find_of_blank setting h t⟩
  · intro s h
    refine ⟨_, _, decode_listing _ _ _, r.sent_find setting h t, ?_⟩
    rw [sent_exists?]
    exact r.sent_find setting h t

/-- A save of a note with a node out of reach sends the listing alone. -/
theorem sent_by_operations_out_of_reach :
    let r : Repository Samples.Note :=
      ⟨Samples.Note.format, ⟨⟨"notes", by decide, by decide⟩, fun n => some n.id⟩, .absent⟩
    let setting : Setting Unit := ⟨fun _ _ => (.error (.http "refused"), ()), fun _ => ⟨"id"⟩⟩
    ∃ first, ((r.save ⟨" a ", "text"⟩).dialogue.run setting (.start () 0)).2.sent = [first] ∧
      ∃ id, Request.decode first = .ok (listing "notes" "a" id) := by
  intro r setting
  have htrim : Text.trim " a " = "a" := by decide
  obtain ⟨first, later, hsent, hfirst, -, hlater, -⟩ :=
    (r.sent_by_operations setting (.start () 0)).2.1 ⟨" a ", "text"⟩ " a " rfl (by decide)
  have hnil : later = [] := by
    cases later with
    | nil => rfl
    | cons second later =>
      obtain ⟨⟨body, response, hbody, -⟩, -⟩ := hlater.1 (List.cons_ne_nil second later)
      cases hbody
  rw [hnil] at hsent
  rw [htrim] at hfirst
  exact ⟨first, hsent, hfirst⟩

end Repository
end StreamRecords
