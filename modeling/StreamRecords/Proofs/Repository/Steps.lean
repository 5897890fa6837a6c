import StreamRecords.Proofs.Dialogue
import StreamRecords.Proofs.Name
import StreamRecords.Proofs.Rpc.Wire
import StreamRecords.Repository.Basic

/-!
The operations of a repository, exchange by exchange: which request each sends, and what it makes of
each reply.
-/

namespace StreamRecords

open Json Rpc Dialogue

/-! ### What is made of replies -/

/-- The items that `reply` lists, or why it lists none. -/
def listedItems (reply : Reply) : Except RepositoryError (List Item) :=
  match answer (.list itemFormat) reply with
  | .error e => .error (.client e)
  | .ok response =>
    match response.error with
    | some e => .error (.retrieval e)
    | none => .ok (response.result.getD [])

/-- What `reply` says to the publication of `a`. -/
def published {α : Type} (a : α) (reply : Reply) : Except RepositoryError α :=
  match answer .value reply with
  | .error e => .error (.client e)
  | .ok response =>
    match response.error with
    | some e => .error (.write e)
    | none => .ok a

/-- Data that are written are not empty, so the request to publish them is made. -/
theorem Rpc.Request.publish_of_serialize {α : Type} {format : Format α} {a : α} {data : Encoding}
    (h : Codec.serialize format a = .ok data) (id : RequestId) (stream : StreamName)
    (key : RecordKey) : Request.publish id stream key data =
      .ok ⟨id, .publish, [.string stream.text, .string key.text, .string data.text]⟩ := by
  rw [publish, Codec.isEmpty_of_serialize h, if_neg (by decide)]

/-! ### Names and keys -/

namespace Repository

variable {α : Type} (r : Repository α)

theorem key?_eq_some {a : α} {s : String} (hs : r.metadata.key a = some s)
    (h : Text.trim s ≠ "") : r.key? a = some ⟨Text.trim s, Text.trim_trim s, h⟩ := by
  rw [key?, hs, Option.bind_some, RecordKey.parse_of_ne h]
  rfl

theorem key?_eq_none {a : α} (h : ∀ s, r.metadata.key a = some s → Text.trim s = "") :
    r.key? a = none := by
  rw [key?]
  cases hs : r.metadata.key a with
  | none => rfl
  | some s =>
    rw [Option.bind_some, RecordKey.parse_of_eq (h s hs)]
    rfl

/-- The two readings of a key, by `key?` and by `keyText?`, agree: what the second lets through is
tested again, with the same result. -/
theorem keyText?_of_key? (a : α) :
    match r.key? a with
    | none => r.keyText? a = none
    | some key => ∃ s, r.keyText? a = some s ∧ RecordKey.parse s = .ok key := by
  rw [keyText?]
  cases hs : r.metadata.key a with
  | none =>
    rw [r.key?_eq_none fun s h => by rw [hs] at h; cases h]
    rfl
  | some s =>
    by_cases h : Text.trim s = ""
    · rw [r.key?_eq_none fun s' h' => by rw [hs] at h'; cases h'; exact h]
      exact Option.filter_some_neg (by simp [h])
    · rw [r.key?_eq_some hs h]
      exact ⟨s, by simp [h], RecordKey.parse_of_ne h⟩

/-! ### What is made of items -/

/-- What a lookup makes of the items under `key`. -/
def foundIn (key : RecordKey) : List Item → Except RepositoryError (Option α)
  | [] => .ok none
  | [item] =>
    if item.data.isEmpty then
      match r.emptyData with
      | .absent => .ok none
      | .reject => .error (.emptyRecord r.stream.text key.text)
    else (Codec.deserializeEncoding r.format item.data).mapError .codec
  | items => .error (.incorrectResultSize 1 items.length)

/-- The data to publish for `a`, when `items` are under its key already. -/
def toPublish (key : RecordKey) (a : α) (items : List Item) : Except RepositoryError Encoding :=
  if items.isEmpty then (Codec.serialize r.format a).mapError .codec
  else .error (.duplicateKey r.stream.text key.text)

/-- The request to publish `data` under `key`. -/
def publication (key : RecordKey) (data : Encoding) (id : RequestId) : Request :=
  ⟨id, .publish, [.string r.stream.text, .string key.text, .string data.text]⟩

@[simp] theorem decode_publication (key : RecordKey) (data : Encoding) (id : RequestId) :
    Request.decode (r.publication key data id).encode = .ok (r.publication key data id) :=
  Request.decode_encode_of_plain (by
    simp [publication, Value.HasOnlyInts, Value.IsDocument, Value.depth])

/-- How a save of `a` goes on once it knows what is `listed` under its key. -/
def publishing (key : RecordKey) (a : α) (listed : Except RepositoryError (List Item)) :
    Dialogue (Except RepositoryError α) :=
  match listed >>= r.toPublish key a with
  | .error e => done (.error e)
  | .ok data => fresh fun id =>
    post (r.publication key data id).encode fun reply => done (published a reply)

/-! ### The exchanges of each operation -/

theorem quiet_fetchItems (key : RecordKey) :
    (r.fetchItems key).quiet = fresh fun id =>
      post (Request.list id r.stream key).encode fun reply => done (listedItems reply) := by
  refine congrArg fresh (funext fun id => ?_)
  refine (quiet_invoke_bind _ (Request.list id r.stream key) RepositoryError.client _).trans ?_
  refine congrArg (post _) (funext fun reply => ?_)
  rw [listedItems]
  cases answer (.list itemFormat) reply with
  | error e => rfl
  | ok response =>
    obtain ⟨id, error, result⟩ := response
    cases error <;> rfl

theorem quiet_lookup (key : RecordKey) :
    (r.lookup key).quiet = fresh fun id =>
      post (Request.list id r.stream key).encode fun reply =>
        done (listedItems reply >>= r.foundIn key) := by
  rw [lookup, Attempt.quiet_bind, quiet_fetchItems]
  refine congrArg fresh (funext fun id => congrArg (post _) (funext fun reply => ?_))
  show Dialogue.bind (done _) _ = _
  cases listedItems reply with
  | error e => rfl
  | ok items =>
    match items with
    | [] => rfl
    | [item] =>
      show Attempt.quiet (if item.data.isEmpty then _ else _) = done (r.foundIn key [item])
      rw [foundIn]
      split
      · cases r.emptyData <;> rfl
      · rfl
    | item :: next :: items => rfl

theorem quiet_find (s : String) :
    (r.find s).quiet =
      match RecordKey.parse s with
      | .error e => done (.error (.invalidInput e))
      | .ok key => (r.lookup key).quiet := by
  rw [find, Attempt.quiet_bind]
  show Dialogue.bind (done ((RecordKey.parse s).mapError RepositoryError.invalidInput)) _ = _
  cases RecordKey.parse s <;> rfl

theorem quiet_exists? (s : String) :
    (r.exists? s).quiet =
      match RecordKey.parse s with
      | .error e => done (.error (.invalidInput e))
      | .ok key => (r.lookup key).quiet.bind fun found => done (found.map Option.isSome) := by
  rw [exists?, Attempt.quiet_bind]
  show Dialogue.bind (done ((RecordKey.parse s).mapError RepositoryError.invalidInput)) _ = _
  cases RecordKey.parse s with
  | error e => rfl
  | ok key =>
    show Attempt.quiet (r.lookup key >>= _) = _
    rw [Attempt.quiet_bind]
    refine congrArg _ (funext fun found => ?_)
    cases found <;> rfl

theorem quiet_save_of_none {a : α} (h : r.key? a = none) :
    (r.save a).quiet = done (.error (.missingKey r.stream.text)) := by
  have htext := r.keyText?_of_key? a
  rw [h] at htext
  rw [save, htext]
  rfl

/-- **A save looks up its key, and publishes unless this finds anything.** -/
theorem quiet_save {a : α} {key : RecordKey} (h : r.key? a = some key) :
    (r.save a).quiet = fresh fun id =>
      post (Request.list id r.stream key).encode fun reply =>
        r.publishing key a (listedItems reply) := by
  have htext := r.keyText?_of_key? a
  rw [h] at htext
  obtain ⟨s, hs, hparse⟩ := htext
  rw [save, hs]
  dsimp only
  rw [parseKey, hparse]
  show Attempt.quiet (r.fetchItems key >>= _) = _
  rw [Attempt.quiet_bind, quiet_fetchItems]
  refine congrArg fresh (funext fun id => congrArg (post _) (funext fun reply => ?_))
  show Dialogue.bind (done _) _ = _
  cases listedItems reply with
  | error e => rfl
  | ok items =>
    show Attempt.quiet _ = match r.toPublish key a items with
      | .error e => done (.error e)
      | .ok data => _
    -- a key that is taken ends the save; a free one leads to the publication
    cases items with
    | cons item items => rfl
    | nil =>
      have hfree : r.toPublish key a [] = (Codec.serialize r.format a).mapError .codec := rfl
      have hempty : ¬ (!([] : List Item).isEmpty) = true := by decide
      rw [hfree, if_neg hempty, Attempt.quiet_bind]
      show Dialogue.bind (done ((Codec.serialize r.format a).mapError RepositoryError.codec)) _ = _
      cases hdata : Codec.serialize r.format a with
      | error e => rfl
      | ok data =>
        refine congrArg fresh (funext fun id => ?_)
        show Attempt.quiet (.ofExcept ((Request.publish id r.stream key data).mapError
          RepositoryError.protocol) >>= _) = _
        rw [Request.publish_of_serialize hdata]
        refine (quiet_invoke_bind _ (r.publication key data id) RepositoryError.client _).trans ?_
        refine congrArg (post _) (funext fun reply => ?_)
        rw [published]
        cases answer .value reply with
        | error e => rfl
        | ok response =>
          obtain ⟨id, error, result⟩ := response
          cases error <;> rfl

/-! ### Runs without notes -/

variable {σ : Type} (setting : Setting σ)

theorem run_quiet_lookup (key : RecordKey) (t : Trace σ) :
    (r.lookup key).quiet.run setting t =
      let body := (Request.list (setting.ids t.drawn) r.stream key).encode
      let listed := setting.node t.state body
      (listedItems listed.1 >>= r.foundIn key,
        { t with state := listed.2, drawn := t.drawn + 1, sent := t.sent ++ [body] }) := by
  rw [quiet_lookup]
  rfl

/-- `find` reads the key, and goes on by `lookup`. -/
theorem run_quiet_find (s : String) (t : Trace σ) :
    (r.find s).quiet.run setting t =
      match RecordKey.parse s with
      | .error e => (.error (.invalidInput e), t)
      | .ok key => (r.lookup key).quiet.run setting t := by
  rw [quiet_find]
  cases RecordKey.parse s <;> rfl

@[simp] theorem run_quiet_exists? (s : String) (t : Trace σ) :
    (r.exists? s).quiet.run setting t =
      (((r.find s).quiet.run setting t).1.map Option.isSome,
        ((r.find s).quiet.run setting t).2) := by
  rw [quiet_exists?, run_quiet_find]
  cases RecordKey.parse s with
  | error e => rfl
  | ok key => exact run_bind setting _ _ t

theorem run_publishing (key : RecordKey) (a : α) (listed : Except RepositoryError (List Item))
    (t : Trace σ) :
    (r.publishing key a listed).run setting t =
      match listed >>= r.toPublish key a with
      | .error e => (.error e, t)
      | .ok data =>
        let body := (r.publication key data (setting.ids t.drawn)).encode
        let answered := setting.node t.state body
        (published a answered.1,
          { t with state := answered.2, drawn := t.drawn + 1, sent := t.sent ++ [body] }) := by
  rw [publishing]
  cases listed >>= r.toPublish key a <;> rfl

theorem run_quiet_save {a : α} {key : RecordKey} (h : r.key? a = some key) (t : Trace σ) :
    (r.save a).quiet.run setting t =
      let body := (Request.list (setting.ids t.drawn) r.stream key).encode
      let listed := setting.node t.state body
      (r.publishing key a (listedItems listed.1)).run setting
        { t with state := listed.2, drawn := t.drawn + 1, sent := t.sent ++ [body] } := by
  rw [r.quiet_save h]
  rfl

end Repository
end StreamRecords
