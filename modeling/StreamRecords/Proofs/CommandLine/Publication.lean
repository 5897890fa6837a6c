import StreamRecords.Proofs.CommandLine.Outcome
import StreamRecords.Proofs.Json.Accepted
import StreamRecords.Proofs.Ledger.Isolation

/-!
What is published is found. The key that is shown of a published document is the one that it is
stored under, so that the other commands find it there, under every spelling of the stream and the
key, as long as the record is left alone.
-/

namespace StreamRecords

open Json Rpc Time

/-! ### What is saved is kept -/

namespace Repository

variable {α : Type} {l : Ledger}

/-- A save that succeeds leaves its data under the key of `a`, and nothing else. -/
theorem excerpt_of_saved (r : Repository α) {a b : α} (now : Instant)
    (h : r.saveOutcome a l = .ok b) : ∃ key data, Catalog.keyOf r.metadata a = some key ∧
      Codec.serialize r.format a = .ok data ∧
      (r.saveLeft now a l).excerpt r.stream.text key = ⟨.all none, true, [data]⟩ := by
  obtain ⟨rfl, hpublish, key, data, hkey, hdraft⟩ := r.saveOutcome_eq_ok_iff.1 h
  obtain ⟨hlist, hstream, hnone, hdata⟩ := r.draft_eq_ok_iff.1 hdraft
  obtain ⟨k, bytes, hk, hwrite, hleft⟩ :=
    (r.excerpt_saveLeft now b l r.stream.text key).2 b h
  cases hkey.symm.trans hk
  cases (Codec.write_of_serialize hdata).symm.trans hwrite
  have hfailures : l.failures = .all none :=
    congr (congrArg PerCommand.mk hlist) hpublish
  refine ⟨key, data, hkey, hdata, ?_⟩
  rw [hleft, if_pos rfl, Ledger.excerpt, hfailures, hstream, hnone]
  rfl

/-- `findOutcome` where nothing fails and there is the stream: it goes by all data under the key. -/
theorem findOutcome_of_excerpt (r : Repository α) {s : String} {data : List Encoding}
    (hs : Text.trim s ≠ "")
    (h : l.excerpt r.stream.text (Text.trim s) = ⟨.all none, true, data⟩) :
    r.findOutcome s l = r.verdict (Text.trim s) data := by
  obtain ⟨hfailures, hstream, hdata⟩ := Excerpt.mk.inj h
  rw [findOutcome, if_neg hs, hfailures, hstream, hdata]
  rfl

theorem saveOutcome_of_excerpt (r : Repository α) {a : α} {key : String} {first : Encoding}
    {data : List Encoding} (hkey : Catalog.keyOf r.metadata a = some key)
    (h : l.excerpt r.stream.text key = ⟨.all none, true, first :: data⟩) :
    r.saveOutcome a l = .error (.duplicateKey r.stream.text key) := by
  obtain ⟨hfailures, hstream, hdata⟩ := Excerpt.mk.inj h
  have hdraft : r.draft key a l = .error (.duplicateKey r.stream.text key) := by
    rw [draft, hfailures, hstream, hdata]
    rfl
  rw [saveOutcome, hkey]
  dsimp only
  rw [hdraft]

end Repository

namespace CommandLine

/-! ### What is printed -/

/-- An object with `members` on a line of its own. -/
def printed (members : List (String × Value)) : String := line (Value.object members).compact

/-- What is printed of a document that is published: its `key` and its `stream`. -/
def receipt (key stream : String) : String :=
  printed [("key", .string key), ("published", .bool true), ("stream", .string stream)]

/-- A key and a stream can be told from what is printed of them. -/
theorem receipt_inj {key stream key' stream' : String}
    (h : receipt key stream = receipt key' stream') : key = key' ∧ stream = stream' := by
  have hcompact := String.append_left_inj _ |>.1 h
  have hints (k s : String) : (Value.object [("key", .string k), ("published", .bool true),
      ("stream", .string s)]).HasOnlyInts := ⟨trivial, trivial, trivial, trivial⟩
  have hfits (k s : String) : (Value.object [("key", .string k), ("published", .bool true),
      ("stream", .string s)]).Fits maxDepth :=
    ⟨⟨Dict.isSorted_of_names ["key", "published", "stream"] rfl (by decide), trivial, trivial,
      trivial, trivial⟩, by simp [Value.depth, Value.depthMembers, maxDepth]⟩
  have hobjects := Value.eq_of_compact_eq (hints key stream) (hints key' stream')
    (hfits key stream).1 (hfits key' stream').1 (hfits key stream).2 hcompact
  simpa using hobjects

/-! ### Published documents -/

/-- **`doc` is there for the commands** under `key` in `stream`, however both are spelled: it is
found, it exists, and no document can be published there. -/
structure Shows (t : Trace Ledger) (stream key : String) (doc : Value) : Prop where
  found : ∀ clock ids styled s k, Text.trim s = stream → Text.trim k = key →
    (((Command.find s k).execute ⟨.json, styled⟩).ending ⟨Ledger.node clock, ids⟩ t).1 =
      .ok (printed [("key", .string key), ("record", doc), ("stream", .string stream)])
  present : ∀ clock ids styled s k, Text.trim s = stream → Text.trim k = key →
    (((Command.exists s k).execute ⟨.json, styled⟩).ending ⟨Ledger.node clock, ids⟩ t).1 =
      .ok (printed [("exists", .bool true), ("key", .string key), ("stream", .string stream)])
  taken : ∀ clock ids display s field document other, Text.trim s = stream →
    Value.parse (Text.bytes document) = .ok other → other.isObject = true →
    (Metadata.fieldText? field other).map Text.trim = some key →
    (((Command.publish s field document).execute display).ending ⟨Ledger.node clock, ids⟩ t).1 =
      .error (.during s!"publishing to stream {stream}" (.duplicateKey stream key))

/-- A lookup among documents gives the document of data. -/
theorem verdict_documents (stream : StreamName) (field : Option String) (key : String)
    {doc : Value} (hints : doc.HasOnlyInts) (hfits : doc.Fits maxDepth) :
    (documents stream field).verdict key [⟨doc.bytes⟩] = .ok (some doc) := by
  have hread := Codec.deserializeEncoding_document hints hfits.1
  rw [if_pos hfits.2] at hread
  rw [Repository.verdict, Codec.isEmpty_bytes doc, if_neg (by decide)]
  exact congrArg (Except.mapError RepositoryError.codec) hread

/-- Where `doc` is all that is stored under `key` and nothing fails, the commands show it. -/
theorem shows_of_excerpt {t : Trace Ledger} (stream : StreamName) (key : RecordKey) {doc : Value}
    (hints : doc.HasOnlyInts) (hfits : doc.Fits maxDepth)
    (h : t.state.excerpt stream.text key.text = ⟨.all none, true, [⟨doc.bytes⟩]⟩) :
    Shows t stream.text key.text doc := by
  have hfind (k : String) (hk : Text.trim k = key.text) :
      (documents stream none).findOutcome (Text.trim k) t.state = .ok (some doc) := by
    have htrim : Text.trim (Text.trim k) = key.text := (Text.trim_trim k).trans hk
    rw [(documents stream none).findOutcome_of_excerpt (htrim ▸ key.nonempty) (htrim ▸ h)]
    exact verdict_documents stream none _ hints hfits
  -- one case for each command; all three go by the excerpt alone
  constructor
  · intro clock ids styled s k hs hk
    rw [Command.ending_execute, Command.outcome, stream.parse_of_trim hs]
    dsimp only
    rw [hfind k hk, hk]
    rfl
  · intro clock ids styled s k hs hk
    rw [Command.ending_execute, Command.outcome, stream.parse_of_trim hs]
    dsimp only
    rw [hfind k hk, hk]
    rfl
  · intro clock ids display s field document other hs hparse hobject hkey
    have hother : parseDocument document = .ok other := by
      rw [parseDocument, hparse]
      exact if_pos hobject
    have hkeyOf : Catalog.keyOf (documents stream (some field)).metadata other = some key.text := by
      show ((Metadata.fieldText? field other).map Text.trim).filter _ = _
      rw [hkey]
      exact Option.filter_some_pos (by simpa using key.nonempty)
    rw [Command.ending_execute, Command.outcome, hother]
    dsimp only
    rw [stream.parse_of_trim hs]
    dsimp only
    rw [(documents stream (some field)).saveOutcome_of_excerpt hkeyOf h]
    rfl

/-- `doc` is shown once it is saved, as long as it is left alone. -/
theorem shows_of_saved {l : Ledger} {stream : StreamName} {key : RecordKey} {field : Option String}
    {doc : Value} (hints : doc.HasOnlyInts) (hfits : doc.Fits maxDepth)
    (hkey : Catalog.keyOf (documents stream field).metadata doc = some key.text)
    (hsaved : (documents stream field).saveOutcome doc l = .ok doc) (now : Instant)
    {later : List Ledger.Step}
    (hlater : ∀ step ∈ later, Ledger.Step.Spares stream.text key.text step) {t : Trace Ledger}
    (ht : t.state = Ledger.run later ((documents stream field).saveLeft now doc l)) :
    Shows t stream.text key.text doc := by
  obtain ⟨k, data, hk, hwritten, hexcerpt⟩ :=
    (documents stream field).excerpt_of_saved now hsaved
  cases hkey.symm.trans hk
  cases hwritten
  obtain ⟨hfailures, hstream, -⟩ := Excerpt.mk.inj hexcerpt
  refine shows_of_excerpt stream key hints hfits ?_
  rw [ht, Ledger.excerpt_run hlater hfailures hstream]
  exact hexcerpt

/-! ### Publications -/

theorem exists_of_parseDocument {s : String} {doc : Value} (h : parseDocument s = .ok doc) :
    Value.parse (Text.bytes s) = .ok doc ∧ doc.isObject = true := by
  unfold parseDocument at h
  split at h
  · cases h
  · next hparse =>
    split at h
    · next hobject =>
      cases h
      exact ⟨hparse, hobject⟩
    · cases h

/-- **What is published is found from then on.** If the command that publishes a document without
floating-point numbers succeeds, it prints a key and a stream, neither of them blank nor with blanks
at its ends. The stream has one more item, which has this key and the document as its data, and no
other stream has changed. From then on, as long as the record is left alone, the commands show the
document there. An integer of more than 64 bits is read as a floating-point number. -/
theorem publications_are_shown (clock : UInt64 → Instant) (ids : Nat → RequestId)
    (t : Trace Ledger) (styled : Bool) (stream field document : String)
    (hints : ∀ doc, Value.parse (Text.bytes document) = .ok doc → doc.HasOnlyInts) :
    let run := ((Command.publish stream field document).execute ⟨.json, styled⟩).ending
      ⟨Ledger.node clock, ids⟩ t
    (∀ text, run.1 = .ok text → ∃ key name, text = receipt key name) ∧
    ∀ key name, run.1 = .ok (receipt key name) →
      (Text.trim key = key ∧ key ≠ "") ∧ (Text.trim name = name ∧ name ≠ "") ∧
      ∃ doc, Value.parse (Text.bytes document) = .ok doc ∧ doc.IsDocument ∧
        (∀ written : Value, written.HasOnlyInts → document = written.compact →
          doc = written.toDocument) ∧
        (∃ items item, t.state.stream? name = some items ∧ item.key = key ∧
          item.data = ⟨doc.bytes⟩ ∧ ∀ other, run.2.stream? other =
            if name = other then some (items ++ [item]) else t.state.stream? other) ∧
        ∀ later, (∀ step ∈ later, Ledger.Step.Spares name key step) → ∀ t' : Trace Ledger,
          t'.state = Ledger.run later run.2 → Shows t' name key doc := by
  intro run
  -- from here on the run is the outcome of the command and the ledger that it leaves
  have hrun : run = _ := Command.ending_execute clock ids t ⟨.json, styled⟩ _
  clear_value run
  subst hrun
  refine ⟨fun text htext => ?_, fun key name hprinted => ?_⟩
  · obtain ⟨doc, name, key, -, -, -, -, rfl⟩ := Command.outcome_publish_eq_ok_iff.1 htext
    exact ⟨key.text, name.text, rfl⟩
  · obtain ⟨doc, name, key, hdoc, hname, hsaved, hkey, htext⟩ :=
      Command.outcome_publish_eq_ok_iff.1 hprinted
    obtain ⟨rfl, rfl⟩ := receipt_inj htext
    have hparse := (exists_of_parseDocument hdoc).1
    have hfits : Format.value.Fits maxDepth doc := Format.fits_of_parse hparse
    have hleft := Command.left_publish field hdoc hname (clock t.state.lastTx) t.state
    refine ⟨⟨key.trimmed, key.nonempty⟩, ⟨name.trimmed, name.nonempty⟩, doc, hparse, hfits.1,
      ?_, ?_, fun later hlater t' ht' => ?_⟩
    · rintro written hwritten rfl
      exact Value.eq_of_parse_compact hwritten hparse
    · obtain ⟨-, bytes, items, item, hbytes, hitem, hdata, hitems, hgrown⟩ :=
        ((documents name (some field)).leaves_saveLeft (clock t.state.lastTx) doc t.state).grown
          doc hsaved
      cases hbytes
      refine ⟨items, item, hitems, Option.some.inj (hitem.symm.trans hkey), hdata, ?_⟩
      rw [hleft]
      exact hgrown
    · rw [hleft] at ht'
      exact shows_of_saved (hints doc hparse) hfits hkey hsaved _ hlater ht'

/-- A document with a number for its key and two members of one name, of which the last counts; an
item whose key has a blank at its end is no other item under this key. -/
theorem publications_are_shown_numbered :
    let clock : UInt64 → Instant := fun _ => .ofSeconds 0 (by decide)
    let ids : Nat → RequestId := fun _ => ⟨"id"⟩
    let t : Trace Ledger := .start (.withStreams ["orders"]) 0
    let key : Value := .number (.int (-7) (by decide))
    let written : Value := .object [("id", key), ("a", .null), ("a", .string "x")]
    let later : List Ledger.Step :=
      [.insertRaw (clock 0) "orders" "-7 " .empty, .createStream "drafts"]
    ∃ left, ((Command.publish "orders\t" "id" written.compact).execute ⟨.json, true⟩).ending
        ⟨Ledger.node clock, ids⟩ t = (.ok (receipt "-7" "orders"), left) ∧
      Shows (.start (Ledger.run later left) 0) "orders" "-7"
        (.object [("a", .string "x"), ("id", key)]) := by
  intro clock ids t key written later
  let orders : StreamName := ⟨"orders", by decide, by decide⟩
  have hwritten : written.HasOnlyInts := ⟨trivial, trivial, trivial, trivial⟩
  have hparse : Value.parse (Text.bytes written.compact) =
      .ok (.object [("a", .string "x"), ("id", key)]) := Value.parse_compact hwritten
  have hints : ∀ doc, Value.parse (Text.bytes written.compact) = .ok doc → doc.HasOnlyInts := by
    intro doc hdoc
    cases hparse.symm.trans hdoc
    exact ⟨trivial, trivial, trivial⟩
  have hdoc : parseDocument written.compact = .ok (.object [("a", .string "x"), ("id", key)]) := by
    rw [parseDocument, hparse]
    rfl
  have hname : StreamName.parse "orders\t" = .ok orders := orders.parse_of_trim (by decide)
  have hsaved : (documents orders (some "id")).saveOutcome
      (.object [("a", .string "x"), ("id", key)]) t.state = .ok _ := rfl
  have houtcome : (Command.publish "orders\t" "id" written.compact).outcome ⟨.json, true⟩ t.state =
      .ok (receipt "-7" "orders") :=
    Command.outcome_publish_eq_ok_iff.2
      ⟨_, orders, ⟨"-7", by decide, by decide⟩, hdoc, hname, hsaved, by decide, rfl⟩
  have hprinted := Command.ending_execute clock ids t ⟨.json, true⟩
    (.publish "orders\t" "id" written.compact)
  rw [houtcome] at hprinted
  generalize Command.left _ _ _ = left at hprinted
  -- the inserted key ends with a blank, so it is another key to the ledger
  have hlater : ∀ step ∈ later, Ledger.Step.Spares "orders" "-7" step := by
    intro step hstep
    simp only [later, List.mem_cons, List.not_mem_nil, or_false] at hstep
    rcases hstep with rfl | rfl
    · refine ⟨fun h => ?_, fun _ _ h => by cases h⟩
      generalize hk : "-7 " = k at h
      cases h
      exact absurd hk (by decide)
    · exact ⟨fun h => (by cases h), fun _ _ h => by cases h⟩
  obtain ⟨-, -, doc, hread, -, -, -, hshows⟩ :=
    (publications_are_shown clock ids t true _ _ _ hints).2 _ _ (congrArg Prod.fst hprinted)
  cases hparse.symm.trans hread
  refine ⟨left, hprinted, hshows later hlater _ ?_⟩
  rw [hprinted]
  rfl

end CommandLine

end StreamRecords
