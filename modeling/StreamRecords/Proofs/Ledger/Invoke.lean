import StreamRecords.Proofs.Dialogue
import StreamRecords.Proofs.Ledger.Run
import StreamRecords.Proofs.Rpc.RoundTrip

/-!
Requests sent to a ledger. The wire between them is transparent: a client learns what the ledger
does about the request itself, item by item, and the ledger is left as it leaves itself. Only a
request that is nested too deep does not reach it.
-/

namespace StreamRecords.Ledger

open Json Rpc Time

/-! ### Items of whole seconds -/

/-- The times of all items of `l` are whole seconds, so that they come over the wire as they are. -/
def HoldsSeconds (l : Ledger) : Prop :=
  ∀ stream items, l.stream? stream = some items → ∀ i ∈ items, ∀ t ∈ i.time, t.nanos = 0

theorem holdsSeconds_empty : empty.HoldsSeconds := by
  intro stream items h
  cases h

theorem Changed.holdsSeconds {l l' : Ledger} (h : Changed l l') (hl : l.HoldsSeconds) :
    l'.HoldsSeconds := by
  intro name items hname
  cases h with
  | kept h =>
    rw [h] at hname
    exact hl name items hname
  | created stream hnew h =>
    rw [h] at hname
    split at hname
    · cases hname
      intro i hi
      exact absurd hi List.not_mem_nil
    · exact hl name items hname
  | grown now stream key data stored hstored h =>
    rw [h] at hname
    split at hname
    · cases hname
      -- the new item is the last one, and its time is cut to the second when it is stored
      intro i hi t ht
      rcases List.mem_append.1 hi with hi | hi
      · exact hl stream stored hstored i hi t ht
      · rw [List.mem_singleton.1 hi] at ht
        cases ht
        rfl
    · exact hl name items hname

theorem IsReachable.holdsSeconds {l : Ledger} (h : l.IsReachable) : l.HoldsSeconds := by
  obtain ⟨steps, rfl⟩ := h
  exact run_induction (fun step _ l => (changed_apply step l).holdsSeconds) holdsSeconds_empty

/-! ### What a listing gives -/

/-- **A listing gives items that are stored**, in the order in which they are, or it fails. -/
theorem handle_listItems {r : Request} (hc : r.command = .listItems) (now : Instant) (l : Ledger) :
    ∃ listed : Except ErrorInfo (List Item), (l.handle now r).1 = listed.map .listed ∧
      ∀ items, listed = .ok items →
        ∃ stream stored, l.stream? stream = some stored ∧ items.Sublist stored := by
  have h := handled_handle now r l
  generalize l.handle now r = handled at h ⊢
  cases h with
  | failed e =>
    refine ⟨.error e, rfl, ?_⟩
    intro items h
    cases h
  | @listed stream stored key count _ hstored =>
    refine ⟨.ok ((stored.filter (·.key = key)).take count), rfl, ?_⟩
    intro items h
    cases h
    exact ⟨stream, stored, hstored, (List.take_sublist _ _).trans List.filter_sublist⟩
  | published key data hpublish _ _ =>
    rw [hc] at hpublish
    cases hpublish

/-! ### Requests over the wire -/

def responseWith (r : Request) : Except ErrorInfo (List Item) → Response (List Item)
  | .ok items => .success r.id.text items
  | .error e => .failure r.id.text e

section

variable {r : Request} {t : Trace Ledger} (clock : UInt64 → Instant) (ids : Nat → RequestId)

theorem invokeIn_node {α : Type} (format : Format α) :
    invokeIn ⟨Ledger.node clock, ids⟩ format r t =
      (answer format (t.state.post (clock t.state.lastTx) r.encode).1,
        (t.state.post (clock t.state.lastTx) r.encode).2) :=
  invokeIn_eq ⟨Ledger.node clock, ids⟩ format r t

theorem invokeIn_of_fault {e : ProtocolError} (h : Request.decode r.encode = .error e) {α : Type}
    (format : Format α) :
    invokeIn ⟨Ledger.node clock, ids⟩ format r t = (.error (.protocol e), t.state) := by
  rw [invokeIn_node, post_of_fault h]
  rfl

theorem invokeIn_value (h : Request.decode r.encode = .ok r) :
    invokeIn ⟨Ledger.node clock, ids⟩ .value r t =
      (.ok (responseTo r (t.state.handle (clock t.state.lastTx) r).1),
        (t.state.handle (clock t.state.lastTx) r).2) := by
  obtain ⟨reply, hpost, hdecode⟩ := post_of_request (l := t.state) (clock t.state.lastTx) h
  rw [invokeIn_node, hpost]
  show (answer .value (.ok reply), _) = _
  rw [answer_ok, hdecode]
  rfl

theorem invokeIn_listed (h : Request.decode r.encode = .ok r)
    {listed : Except ErrorInfo (List Item)}
    (hlisted : (t.state.handle (clock t.state.lastTx) r).1 = listed.map .listed)
    (hseconds : ∀ items, listed = .ok items → ∀ i ∈ items, ∀ t ∈ i.time, t.nanos = 0) :
    invokeIn ⟨Ledger.node clock, ids⟩ (.list itemFormat) r t =
      (.ok (responseWith r listed), (t.state.handle (clock t.state.lastTx) r).2) := by
  rw [invokeIn_node]
  cases hhandle : t.state.handle (clock t.state.lastTx) r with
  | mk outcome l' =>
    rw [hhandle] at hlisted
    -- items lose the part of a second on the wire, of which these have none
    cases listed with
    | error e =>
      cases hlisted
      obtain ⟨reply, hpost, hdecode⟩ := post_of_error (clock t.state.lastTx) h hhandle
      rw [hpost]
      show (answer _ (.ok reply), _) = _
      rw [answer_ok, hdecode]
      rfl
    | ok items =>
      cases hlisted
      obtain ⟨reply, hpost, hdecode⟩ := post_of_listed (clock t.state.lastTx) h hhandle
      rw [hpost]
      show (answer _ (.ok reply), _) = _
      rw [answer_ok, hdecode, map_floored_eq_self (hseconds items rfl)]
      rfl

end

def nested : Nat → Value
  | 0 => .null
  | n + 1 => .list [nested n]

theorem nested_spec (n : Nat) :
    (nested n).HasOnlyInts ∧ (nested n).IsDocument ∧ (nested n).depth = n := by
  induction n with
  | zero => exact ⟨trivial, trivial, rfl⟩
  | succ n ih =>
    obtain ⟨hints, hdocument, hdepth⟩ := ih
    refine ⟨⟨hints, trivial⟩, ⟨hdocument, trivial⟩, ?_⟩
    show max (nested n).depth 0 + 1 = n + 1
    rw [hdepth, Nat.max_zero]

/-- **The wire between a client and a ledger is transparent.** If no parameter of `r` is nested
deeper than 125 levels, the client learns what `handle` does about `r` itself, and the ledger is
left as that leaves it; a listing gives the stored items, as they are. If a parameter is nested
deeper, this is what the client learns, and nothing changes. -/
theorem invoked_on_ledger (clock : UInt64 → Instant) (ids : Nat → RequestId) (t : Trace Ledger)
    (ht : t.state.IsReachable) (r : Request)
    (hparams : ∀ v ∈ r.params, v.HasOnlyInts ∧ v.IsDocument) :
    let setting : Setting Ledger := ⟨Ledger.node clock, ids⟩
    let direct := t.state.handle (clock t.state.lastTx) r
    ((∀ v ∈ r.params, v.depth ≤ 125) →
      invokeIn setting .value r t = (.ok (responseTo r direct.1), direct.2) ∧
      (r.command = .listItems → ∃ listed : Except ErrorInfo (List Item),
        direct.1 = listed.map .listed ∧
        (∀ items, listed = .ok items → ∃ stream stored,
          t.state.stream? stream = some stored ∧ items.Sublist stored) ∧
        invokeIn setting (.list itemFormat) r t = (.ok (responseWith r listed), direct.2))) ∧
    ((∃ v ∈ r.params, 125 < v.depth) → ∀ {α : Type} (format : Format α),
      invokeIn setting format r t =
        (.error (.protocol (.deserialization Fault.tooDeep.message)), t.state)) := by
  intro setting direct
  have hdecode := Request.decode_encode (fun v hv => (hparams v hv).1) fun v hv => (hparams v hv).2
  constructor
  · intro hdepth
    have hbody : Request.decode r.encode = .ok r :=
      hdecode.trans (if_pos (depthItems_le_iff.2 hdepth))
    refine ⟨invokeIn_value clock ids hbody, fun hc => ?_⟩
    obtain ⟨listed, hlisted, hstored⟩ := handle_listItems hc (clock t.state.lastTx) t.state
    -- stored times are whole seconds in every state that can be reached
    have hseconds : ∀ items, listed = .ok items → ∀ i ∈ items, ∀ t ∈ i.time, t.nanos = 0 := by
      intro items h i hi
      obtain ⟨stream, stored, hstream, hsublist⟩ := hstored items h
      exact ht.holdsSeconds stream stored hstream i (hsublist.subset hi)
    exact ⟨listed, hlisted, hstored, invokeIn_listed clock ids hbody hlisted hseconds⟩
  · rintro ⟨v, hv, hdeep⟩ α format
    have hfault : ¬ Value.depthItems r.params ≤ 125 := by
      intro h
      have := depthItems_le_iff.1 h v hv
      omega
    exact invokeIn_of_fault clock ids (hdecode.trans (if_neg hfault)) format

theorem invoked_on_ledger_half_second :
    let half : Instant := ⟨-1, 500000000, by decide, .inl (by decide)⟩
    let whole : Instant := ⟨-1, 0, by decide, .inl (by decide)⟩
    let steps : List Step := [.createStream "s", .insertRaw half "s" "k" ⟨[0xAB]⟩]
    let t : Trace Ledger := .start (run steps empty) 0
    let setting : Setting Ledger := ⟨Ledger.node fun _ => half, fun _ => ⟨""⟩⟩
    let r : Request := ⟨⟨"7"⟩, .listItems, [.string "s", .string "k", nested 125]⟩
    let deep : Request := ⟨⟨"7"⟩, .listItems, [.string "s", .string "k", nested 126]⟩
    (∃ l', invokeIn setting (.list itemFormat) r t =
      (.ok (.success "7" [⟨txid 1, "k", some whole, ⟨[0xAB]⟩⟩]), l')) ∧
    invokeIn setting (.list itemFormat) deep t =
      (.error (.protocol (.deserialization Fault.tooDeep.message)), t.state) := by
  intro half whole steps t setting r deep
  have ht : t.state.IsReachable := ⟨steps, rfl⟩
  have hparams (n : Nat) : ∀ v ∈ [.string "s", .string "k", nested n],
      v.HasOnlyInts ∧ v.IsDocument := by
    obtain ⟨hints, hdocument, -⟩ := nested_spec n
    simp [Value.HasOnlyInts, Value.IsDocument, hints, hdocument]
  constructor
  · have hdepth : ∀ v ∈ r.params, v.depth ≤ 125 := by
      simp [r, (nested_spec 125).2.2, Value.depth]
    have h := invoked_on_ledger (fun _ => half) (fun _ => ⟨""⟩) t ht r (hparams 125)
    obtain ⟨listed, hlisted, -, hinvoked⟩ := (h.1 hdepth).2 rfl
    have hdirect : (t.state.handle half r).1 =
        .ok (.listed [⟨txid 1, "k", some whole, ⟨[0xAB]⟩⟩]) := rfl
    cases listed with
    | error e => cases hdirect.symm.trans hlisted
    | ok items =>
      cases hdirect.symm.trans hlisted
      exact ⟨_, hinvoked⟩
  · have hdeep : ∃ v ∈ deep.params, 125 < v.depth :=
      ⟨nested 126, by simp [deep], by rw [(nested_spec 126).2.2]; decide⟩
    exact (invoked_on_ledger _ _ t ht deep (hparams 126)).2 hdeep (.list itemFormat)

end StreamRecords.Ledger
