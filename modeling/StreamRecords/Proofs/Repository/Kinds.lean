import StreamRecords.Proofs.Ledger.Exchange
import StreamRecords.Proofs.Repository.SaveAll
import StreamRecords.Proofs.Repository.Sent

/-!
Kinds of failures. Whatever a node replies, what is made of the reply is no input error, so an input
error means that nothing was sent.
-/

namespace StreamRecords

open Json Rpc Time Dialogue

/-! ### Outcomes that are no input errors -/

theorem ErrorKind.remote_ne_input : ErrorKind.remote ≠ .input := by decide

theorem ErrorKind.integrity_ne_input : ErrorKind.integrity ≠ .input := by decide

theorem ErrorKind.decoding_ne_input : ErrorKind.decoding ≠ .input := by decide

section

variable {ε ε' α β : Type} {kind : ε → ErrorKind} {x : Except ε α}

/-- **The outcome `x` does not blame the input**: if it is an error, it is not of this `kind`. -/
def SparesInput (kind : ε → ErrorKind) (x : Except ε α) : Prop :=
  ∀ e, x = .error e → kind e ≠ .input

theorem sparesInput_ok (a : α) : SparesInput kind (.ok a) := by
  intro e h
  cases h

theorem sparesInput_error {e : ε} (h : kind e ≠ .input) :
    SparesInput kind (.error e : Except ε α) := by
  intro e' h'
  cases h'
  exact h

theorem sparesInput_map (h : SparesInput kind x) (f : α → β) : SparesInput kind (x.map f) := by
  cases x with
  | error e => exact sparesInput_error (h e rfl)
  | ok a => exact sparesInput_ok (f a)

theorem sparesInput_bind {f : α → Except ε β} (h : SparesInput kind x)
    (hf : ∀ a, SparesInput kind (f a)) : SparesInput kind (x >>= f) := by
  cases x with
  | error e => exact sparesInput_error (h e rfl)
  | ok a => exact hf a

theorem sparesInput_mapError {kind' : ε' → ErrorKind} {f : ε → ε'} (h : SparesInput kind x)
    (hf : ∀ e, kind e ≠ .input → kind' (f e) ≠ .input) : SparesInput kind' (x.mapError f) := by
  cases x with
  | error e => exact sparesInput_error (hf e (h e rfl))
  | ok a => exact sparesInput_ok a

/-- What `mapError` tells as an error of another kind may come from anything. -/
theorem sparesInput_mapError_of_forall {kind' : ε' → ErrorKind} {f : ε → ε'} (x : Except ε α)
    (hf : ∀ e, kind' (f e) ≠ .input) : SparesInput kind' (x.mapError f) := by
  cases x with
  | error e => exact sparesInput_error (hf e)
  | ok a => exact sparesInput_ok a

theorem sparesInput_mapM {f : α → Except ε β} (hf : ∀ a, SparesInput kind (f a)) (o : Option α) :
    SparesInput kind (o.mapM f) := by
  cases o with
  | none => exact sparesInput_ok none
  | some a =>
    rw [Option.mapM_some]
    exact sparesInput_map (hf a) some

end

/-! ### Replies -/

theorem ErrorInfo.sparesInput_ofValue (v : Value) :
    SparesInput ProtocolError.kind (ErrorInfo.ofValue v) := by
  intro e h
  unfold ErrorInfo.ofValue at h
  split at h
  · split at h
    · cases h
      exact ErrorKind.decoding_ne_input
    · split at h <;> cases h
      exact ErrorKind.decoding_ne_input
  · cases h
    exact ErrorKind.decoding_ne_input

theorem sparesInput_decode {α : Type} (format : Format α) (body : Bytes) :
    SparesInput ProtocolError.kind (Response.decode format body) := by
  refine sparesInput_bind (sparesInput_mapError_of_forall _ fun _ => ErrorKind.decoding_ne_input) ?_
  rintro ⟨id, error, result, -⟩
  refine sparesInput_bind (sparesInput_mapM ErrorInfo.sparesInput_ofValue error) fun error => ?_
  refine sparesInput_bind (sparesInput_mapM (fun v => ?_) result) fun result => sparesInput_ok _
  exact sparesInput_mapError_of_forall _ fun _ => ErrorKind.decoding_ne_input

section

variable {α : Type} {reply : Reply} (h : SparesInput ClientError.kind reply)

include h

theorem sparesInput_answer (format : Format α) :
    SparesInput ClientError.kind (answer format reply) :=
  sparesInput_bind h fun body => sparesInput_mapError (sparesInput_decode format body) fun _ => id

theorem sparesInput_listedItems : SparesInput RepositoryError.kind (listedItems reply) := by
  have hanswer := sparesInput_answer h (.list itemFormat)
  rw [listedItems]
  cases hreply : answer (.list itemFormat) reply with
  | error e => exact sparesInput_error (hanswer e hreply)
  | ok response =>
    obtain ⟨id, error, items⟩ := response
    cases error with
    | some e => exact sparesInput_error ErrorKind.remote_ne_input
    | none => exact sparesInput_ok (items.getD [])

theorem sparesInput_published (a : α) : SparesInput RepositoryError.kind (published a reply) := by
  have hanswer := sparesInput_answer h .value
  rw [published]
  cases hreply : answer .value reply with
  | error e => exact sparesInput_error (hanswer e hreply)
  | ok response =>
    obtain ⟨id, error, result⟩ := response
    cases error with
    | some e => exact sparesInput_error ErrorKind.remote_ne_input
    | none => exact sparesInput_ok a

end

/-- A node does not blame the input for a request that can be read. -/
def Node.Tolerates {σ : Type} (node : Node σ) : Prop :=
  ∀ s (q : Request), Request.decode q.encode = .ok q →
    SparesInput ClientError.kind (node s q.encode).1

theorem Ledger.tolerates (clock : UInt64 → Instant) : Node.Tolerates (Ledger.node clock) := by
  intro l q hq
  obtain ⟨reply, hpost, -⟩ := Ledger.post_of_request (l := l) (clock l.lastTx) hq
  rw [Ledger.node, hpost]
  exact sparesInput_ok reply

namespace Repository

/-! ### Operations -/

variable {α : Type} (r : Repository α)

theorem sparesInput_foundIn (key : RecordKey) (items : List Item) :
    SparesInput RepositoryError.kind (r.foundIn key items) := by
  rw [foundIn.eq_def]
  split
  · exact sparesInput_ok none
  · split
    · split
      · exact sparesInput_ok none
      · exact sparesInput_error ErrorKind.integrity_ne_input
    · exact sparesInput_mapError_of_forall _ fun _ => ErrorKind.decoding_ne_input
  · exact sparesInput_error ErrorKind.integrity_ne_input

theorem sparesInput_toPublish (key : RecordKey) (a : α) (items : List Item) :
    SparesInput RepositoryError.kind (r.toPublish key a items) := by
  rw [toPublish]
  split
  · exact sparesInput_mapError_of_forall _ fun _ => ErrorKind.decoding_ne_input
  · exact sparesInput_error ErrorKind.integrity_ne_input

section

variable {σ : Type} {setting : Setting σ} (h : setting.node.Tolerates)

include h

theorem sparesInput_find {s : String} (hs : Text.trim s ≠ "") (t : Trace σ) :
    SparesInput RepositoryError.kind ((r.find s).dialogue.run setting t).1 := by
  rw [Attempt.value_run, run_quiet_find, RecordKey.parse_of_ne hs]
  dsimp only
  rw [run_quiet_lookup]
  have hreply := h t.state (listing r.stream.text (Text.trim s) (setting.ids t.drawn))
    (decode_listing _ _ _)
  exact sparesInput_bind (sparesInput_listedItems hreply) (r.sparesInput_foundIn _)

theorem sparesInput_save (a : α) (t : Trace σ) :
    SparesInput RepositoryError.kind ((r.save a).dialogue.run setting t).1 := by
  cases hkey : r.key? a with
  | none =>
    rw [(r.sent_save_of_none setting hkey t).1]
    exact sparesInput_error ErrorKind.integrity_ne_input
  | some key =>
    have hreply := h t.state (listing r.stream.text key.text (setting.ids t.drawn))
      (decode_listing _ _ _)
    obtain ⟨e, hlisted, hrun, -⟩ | ⟨data, id, -, hrun, -⟩ := r.sent_save_of_some setting hkey t
    · have hdata :=
        sparesInput_bind (sparesInput_listedItems hreply) (r.sparesInput_toPublish key a)
      rw [hrun]
      exact sparesInput_error (hdata e hlisted)
    · rw [hrun]
      exact sparesInput_published (h _ _ (r.decode_publication key data id)) a

theorem sparesInput_saveAll (as : List α) (t : Trace σ) :
    SparesInput RepositoryError.kind ((r.saveAll as).dialogue.run setting t).1 := by
  induction as generalizing t with
  | nil => exact sparesInput_ok []
  | cons a as ih =>
    have ha := r.sparesInput_save h a t
    rw [run_saveAll_cons]
    cases hsaved : ((r.save a).dialogue.run setting t).1 with
    | error e => exact sparesInput_error (ha e hsaved)
    | ok b => exact sparesInput_map (ih _) (b :: ·)

end

/-- **A repository checks its input first**: a lookup that fails with an input error has sent
nothing, and a save never fails with one. -/
structure ChecksInputFirst {σ : Type} (setting : Setting σ) : Prop where
  find : ∀ s t e, ((r.find s).dialogue.run setting t).1 = .error e → e.kind = .input →
    ((r.find s).dialogue.run setting t).2.sent = t.sent
  exists? : ∀ s t e, ((r.exists? s).dialogue.run setting t).1 = .error e → e.kind = .input →
    ((r.exists? s).dialogue.run setting t).2.sent = t.sent
  save : ∀ a t e, ((r.save a).dialogue.run setting t).1 = .error e → e.kind ≠ .input
  saveAll : ∀ as t e, ((r.saveAll as).dialogue.run setting t).1 = .error e → e.kind ≠ .input

theorem checksInputFirst_of_tolerates {σ : Type} {setting : Setting σ}
    (h : setting.node.Tolerates) : r.ChecksInputFirst setting where
  find s t e he hkind := by
    by_cases hs : Text.trim s = ""
    · exact r.sent_find_of_blank setting hs t
    · exact absurd hkind (r.sparesInput_find h hs t e he)
  exists? s t e he hkind := by
    rw [sent_exists?]
    by_cases hs : Text.trim s = ""
    · exact r.sent_find_of_blank setting hs t
    · have hfind := sparesInput_map (r.sparesInput_find h hs t) Option.isSome
      rw [← value_exists?] at hfind
      exact absurd hkind (hfind e he)
  save a t := r.sparesInput_save h a t
  saveAll as t := r.sparesInput_saveAll h as t

/-- **Input errors never follow traffic**, neither with a node that replies with any bytes or is not
reached, nor with a ledger in any state. Of the checks that `save` makes after the first, two never
fail: the text of a key that is not blank is a key, and data that is written is not empty. -/
theorem input_errors_send_nothing :
    (∀ {σ : Type} (setting : Setting σ),
      (∀ s body e, (setting.node s body).1 = .error e → e.isTransport = true) →
      r.ChecksInputFirst setting) ∧
    (∀ clock ids, r.ChecksInputFirst ⟨Ledger.node clock, ids⟩) ∧
    (∀ a s, r.keyText? a = some s → ∃ key, RecordKey.parse s = .ok key) ∧
    ∀ a data, Codec.serialize r.format a = .ok data → ∀ id stream key,
      ∃ request, Request.publish id stream key data = .ok request := by
  refine ⟨?_, ?_, ?_, ?_⟩
  · intro σ setting h
    refine r.checksInputFirst_of_tolerates fun s q _ e he hkind => ?_
    -- the errors of a transport are of other kinds than the input
    have htransport := h s q.encode e he
    cases e with
    | invalidConfig reason => cases htransport
    | config detail => cases htransport
    | protocol error => cases htransport
    | _ => cases hkind
  · intro clock ids
    exact r.checksInputFirst_of_tolerates (Ledger.tolerates clock)
  · intro a s hs
    have hne : Text.trim s ≠ "" := by simpa using (Option.filter_eq_some_iff.1 hs).2
    exact ⟨_, RecordKey.parse_of_ne hne⟩
  · intro a data hdata id stream key
    exact ⟨_, Request.publish_of_serialize hdata id stream key⟩

/-- A lookup of blanks sends nothing, even to a node that is not reached. -/
theorem input_errors_send_nothing_blank_key :
    let r : Repository Samples.Note :=
      ⟨Samples.Note.format, ⟨⟨"notes", by decide, by decide⟩, fun n => some n.id⟩, .absent⟩
    let setting : Setting Unit := ⟨fun _ _ => (.error (.http "refused"), ()), fun _ => ⟨"id"⟩⟩
    let run := (r.find " \t").dialogue.run setting (.start () 0)
    (∃ e, run.1 = .error e ∧ e.kind = .input) ∧ run.2.sent = [] := by
  intro r setting
  have herror : ((r.find " \t").dialogue.run setting (.start () 0)).1 =
      .error (.invalidInput .blankKey) := by
    rw [Attempt.value_run, run_quiet_find, RecordKey.parse_of_eq (by decide)]
  have hfirst := r.input_errors_send_nothing.1 setting fun s body e he => by cases he; rfl
  exact ⟨⟨_, herror, rfl⟩, hfirst.find _ _ _ herror rfl⟩

end Repository
end StreamRecords
