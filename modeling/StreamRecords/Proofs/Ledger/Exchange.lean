import StreamRecords.Proofs.Ledger.Wire

/-!
The two exchanges that repositories make with a ledger: a listing changes nothing but a count, and a
publication puts one item behind the others of its stream, or fails and changes nothing but a count.
-/

namespace StreamRecords

open Json Rpc Time

namespace Ledger

/-! ### Listings -/

/-- What a ledger lists under `key` to one who asks for two items. -/
def listing (stream key : String) (l : Ledger) : Except ErrorInfo (List Item) :=
  match l.failures.listItems with
  | some error => .error error
  | none =>
    match l.stream? stream with
    | none => .error missingStream
    | some items => .ok ((items.filter (·.key = key)).take 2)

theorem handle_list (now : Instant) (id : RequestId) (stream : StreamName) (key : RecordKey)
    (l : Ledger) :
    l.handle now (Request.list id stream key) =
      ((l.listing stream.text key.text).map .listed, l.called .listItems) := by
  rw [listing]
  cases hf : l.failures.listItems with
  | some e => exact handle_of_failure now hf
  | none =>
    cases hs : l.stream? stream.text with
    | none => exact handle_of_target_error now hf (target_of_none rfl rfl hs)
    | some items =>
      exact handle_list_of_target now (r := Request.list id stream key) rfl hf
        (target_of_some rfl rfl hs)

/-- `listing`, as a repository learns of it. -/
def listed (stream key : String) (l : Ledger) : Except RepositoryError (List Item) :=
  ((l.listing stream key).map (List.map Item.floored)).mapError .retrieval

/-- **A listing is answered by `listing`**, and changes nothing but a count. -/
theorem node_list (clock : UInt64 → Instant) (id : RequestId) (stream : StreamName)
    (key : RecordKey) (l : Ledger) :
    ∃ reply, Ledger.node clock l (Request.list id stream key).encode =
        (reply, l.called .listItems) ∧
      listedItems reply = l.listed stream.text key.text := by
  have hbody : Request.decode (Request.list id stream key).encode =
      .ok (Request.list id stream key) := Request.decode_encode_of_plain (by
    simp [Request.list, Value.HasOnlyInts, Number.IsInt, Value.IsDocument, Value.depth])
  have hhandle := handle_list (clock l.lastTx) id stream key l
  rw [listed]
  -- an error and a listing travel in different members of the reply
  cases hl : l.listing stream.text key.text with
  | error e =>
    rw [hl] at hhandle
    obtain ⟨reply, hpost, hdecode⟩ := post_of_error (clock l.lastTx) hbody hhandle
    refine ⟨_, hpost, ?_⟩
    rw [listedItems, answer_ok, hdecode]
    rfl
  | ok items =>
    rw [hl] at hhandle
    obtain ⟨reply, hpost, hdecode⟩ := post_of_listed (clock l.lastTx) hbody hhandle
    refine ⟨_, hpost, ?_⟩
    rw [listedItems, answer_ok, hdecode]
    rfl

theorem listed_of_none {stream : String} {l : Ledger} (hfailures : l.failures = .all none)
    (h : l.stream? stream = none) (key : String) :
    l.listed stream key = .error (.retrieval missingStream) := by
  have hlist : l.failures.listItems = none := by rw [hfailures]; rfl
  rw [listed, listing, hlist, h]
  rfl

theorem listed_of_some {stream : String} {items : List Item} {l : Ledger}
    (hfailures : l.failures = .all none) (h : l.stream? stream = some items) (key : String) :
    l.listed stream key = .ok (((l.items stream key).take 2).map Item.floored) := by
  have hlist : l.failures.listItems = none := by rw [hfailures]; rfl
  rw [listed, listing, hlist, h, l.items_of_some h]
  rfl

/-! ### Publications -/

/-- Whether a ledger publishes `data`, and the ledger that it leaves. -/
def publishing (now : Instant) (stream key : String) (data : Encoding) (l : Ledger) :
    Except ErrorInfo Unit × Ledger :=
  match l.failures.publish with
  | some error => (.error error, l)
  | none =>
    match l.stream? stream with
    | none => (.error missingStream, l)
    | some items => (.ok (), l.grown now stream key data items)

theorem publishing_of_some {stream : String} {items : List Item} {l : Ledger}
    (hfailures : l.failures = .all none) (h : l.stream? stream = some items) (now : Instant)
    (key : String) (data : Encoding) :
    l.publishing now stream key data = (.ok (), l.grown now stream key data items) := by
  have hpublish : l.failures.publish = none := by rw [hfailures]; rfl
  rw [publishing, hpublish, h]

/-- **A publication is answered by `publishing`**, which also tells what it changes. -/
theorem node_publish {α : Type} (clock : UInt64 → Instant) (r : Repository α) (key : RecordKey)
    (data : Encoding) (id : RequestId) (a : α) (l : Ledger) :
    ∃ reply, Ledger.node clock l (r.publication key data id).encode =
        (reply, ((l.called .publish).publishing (clock l.lastTx) r.stream.text key.text data).2) ∧
      published a reply =
        match ((l.called .publish).publishing (clock l.lastTx) r.stream.text key.text data).1 with
        | .error e => .error (.write e)
        | .ok _ => .ok a := by
  have hbody := r.decode_publication key data id
  have hdata : dataOf (r.publication key data id) = .ok data := by
    have hparam : (r.publication key data id).stringParam? 2 = some data.text := rfl
    rw [dataOf, hparam]
    dsimp only
    rw [Encoding.parse_text]
    rfl
  -- no stream and a failure that is set look alike over the wire
  have herror {e : ErrorInfo} (h : l.handle (clock l.lastTx) (r.publication key data id) =
      (.error e, l.called .publish)) : ∃ reply,
      Ledger.node clock l (r.publication key data id).encode = (reply, l.called .publish) ∧
        published a reply = .error (.write e) := by
    obtain ⟨reply, hpost, hdecode⟩ := post_of_error (clock l.lastTx) hbody h
    refine ⟨_, hpost, ?_⟩
    rw [published, answer_ok, hdecode]
    rfl
  rw [publishing, failures_called, stream?_called]
  cases hf : l.failures.publish with
  | some e => exact herror (handle_of_failure _ hf)
  | none =>
    cases hs : l.stream? r.stream.text with
    | none => exact herror (handle_of_target_error _ hf (target_of_none rfl rfl hs))
    | some items =>
      have h := handle_publish_of_target (clock l.lastTx) (r := r.publication key data id) rfl hf
        (target_of_some rfl rfl hs) hs hdata
      obtain ⟨reply, hpost, hdecode⟩ := post_of_published (clock l.lastTx) hbody h
      refine ⟨_, hpost, ?_⟩
      rw [published, answer_ok, hdecode]
      rfl

end Ledger

/-! ### Operations on a ledger -/

namespace Repository

variable {α : Type} (r : Repository α) (clock : UInt64 → Instant) (ids : Nat → RequestId)

/-- How a save of `a` goes on, on a ledger, once what is `listed` under its key is known. -/
def publishOn (key : RecordKey) (a : α) (listed : Except RepositoryError (List Item)) (l : Ledger) :
    Except RepositoryError α × Ledger :=
  match listed >>= r.toPublish key a with
  | .error e => (.error e, l)
  | .ok data =>
    let (published, l) :=
      (l.called .publish).publishing (clock l.lastTx) r.stream.text key.text data
    ((published.map fun _ => a).mapError .write, l)

theorem lookup_on_ledger (key : RecordKey) (t : Trace Ledger) :
    let run := (r.lookup key).quiet.run ⟨Ledger.node clock, ids⟩ t
    run.1 = (t.state.listed r.stream.text key.text >>= r.foundIn key) ∧
      run.2.state = t.state.called .listItems := by
  obtain ⟨reply, hnode, hlisted⟩ := Ledger.node_list clock (ids t.drawn) r.stream key t.state
  rw [run_quiet_lookup]
  dsimp only
  rw [hnode, ← hlisted]
  exact ⟨rfl, rfl⟩

theorem publishing_on_ledger (key : RecordKey) (a : α)
    (listed : Except RepositoryError (List Item)) (t : Trace Ledger) :
    let run := (r.publishing key a listed).run ⟨Ledger.node clock, ids⟩ t
    run.1 = (r.publishOn clock key a listed t.state).1 ∧
      run.2.state = (r.publishOn clock key a listed t.state).2 := by
  rw [run_publishing, publishOn]
  cases listed >>= r.toPublish key a with
  | error e => exact ⟨rfl, rfl⟩
  | ok data =>
    obtain ⟨reply, hnode, hpublished⟩ :=
      Ledger.node_publish clock r key data (ids t.drawn) a t.state
    dsimp only
    rw [hnode]
    refine ⟨?_, rfl⟩
    dsimp only
    rw [hpublished]
    cases ((t.state.called .publish).publishing (clock t.state.lastTx) r.stream.text key.text
      data).1 <;> rfl

theorem save_on_ledger {a : α} {key : RecordKey} (h : r.key? a = some key) (t : Trace Ledger) :
    let run := (r.save a).quiet.run ⟨Ledger.node clock, ids⟩ t
    let saved := r.publishOn clock key a (t.state.listed r.stream.text key.text)
      (t.state.called .listItems)
    run.1 = saved.1 ∧ run.2.state = saved.2 := by
  obtain ⟨reply, hnode, hlisted⟩ := Ledger.node_list clock (ids t.drawn) r.stream key t.state
  rw [r.run_quiet_save _ h]
  dsimp only
  rw [hnode, ← hlisted]
  exact r.publishing_on_ledger clock ids key a (listedItems reply) _

end Repository
end StreamRecords
