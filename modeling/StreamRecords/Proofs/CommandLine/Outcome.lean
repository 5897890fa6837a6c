import StreamRecords.CommandLine.Execute
import StreamRecords.Proofs.Repository.Outcome

/-!
What comes of commands on a ledger: what they print, or why they fail, and the ledger that they
leave.
-/

namespace StreamRecords

open Json Rpc Time

namespace CommandLine

/-! ### Commands -/

/-- **What a command prints** on the ledger `l`, or why it fails. -/
def Command.outcome (d : Display) (l : Ledger) : Command → Except Failure String
  | .find stream key =>
    match StreamName.parse stream with
    | .error e => .error (.ofInput e)
    | .ok stream =>
      (((documents stream none).findOutcome (Text.trim key) l).mapError
        (.during s!"looking up {Text.trim key} in stream {stream.text}")).map fun found =>
          line (recordText d stream (Text.trim key) found)
  | .exists stream key =>
    match StreamName.parse stream with
    | .error e => .error (.ofInput e)
    | .ok stream =>
      ((((documents stream none).findOutcome (Text.trim key) l).map Option.isSome).mapError
        (.during s!"looking up {Text.trim key} in stream {stream.text}")).map fun found =>
          line (presenceText d stream (Text.trim key) found)
  | .publish stream field document =>
    match parseDocument document with
    | .error e => .error e
    | .ok doc =>
      match StreamName.parse stream with
      | .error e => .error (.ofInput e)
      | .ok stream =>
        (((documents stream (some field)).saveOutcome doc l).mapError
          (.during s!"publishing to stream {stream.text}")).map fun _ =>
            line (publishedText d stream (Text.trim ((Metadata.fieldText? field doc).getD "")))

/-- What a command leaves of the ledger `l`. -/
def Command.left (now : Instant) (l : Ledger) : Command → Ledger
  | .find stream key | .exists stream key =>
    match StreamName.parse stream with
    | .error _ => l
    | .ok _ => l.lookedUp (Text.trim key)
  | .publish stream field document =>
    match parseDocument document with
    | .error _ => l
    | .ok doc =>
      match StreamName.parse stream with
      | .error _ => l
      | .ok stream => (documents stream (some field)).saveLeft now doc l

section

variable (clock : UInt64 → Instant) (ids : Nat → RequestId) (t : Trace Ledger) (d : Display)

/-- **What comes of the command `c` on any ledger.** -/
@[simp] theorem Command.ending_execute (c : Command) :
    (c.execute d).ending ⟨Ledger.node clock, ids⟩ t =
      (c.outcome d t.state, c.left (clock t.state.lastTx) t.state) := by
  cases c with
  | find stream key =>
    rw [Command.execute, parseStream, Attempt.ending_ofExcept_bind, Command.outcome, Command.left]
    cases StreamName.parse stream with
    | error e => rfl
    | ok stream =>
      show Attempt.ending _ (_ <$> lookUp stream (Text.trim key) Repository.find) t = _
      simp [lookUp]
  | «exists» stream key =>
    rw [Command.execute, parseStream, Attempt.ending_ofExcept_bind, Command.outcome, Command.left]
    cases StreamName.parse stream with
    | error e => rfl
    | ok stream =>
      show Attempt.ending _ (_ <$> lookUp stream (Text.trim key) Repository.exists?) t = _
      simp [lookUp]
  | publish stream field document =>
    rw [Command.execute, Attempt.ending_ofExcept_bind, Command.outcome, Command.left]
    cases parseDocument document with
    | error e => rfl
    | ok doc =>
      dsimp only
      rw [parseStream, Attempt.ending_ofExcept_bind]
      cases StreamName.parse stream with
      | error e => rfl
      | ok stream =>
        show Attempt.ending _
          (_ <$> ((documents stream (some field)).save doc).mapError _) t = _
        simp only [Attempt.ending_map, Attempt.ending_mapError, Repository.ending_save]
        rfl

end

/-! ### Publications -/

/-- A publication succeeds if it saves its document, and prints the key of this document and the
stream. -/
theorem Command.outcome_publish_eq_ok_iff {d : Display} {l : Ledger}
    {stream field document text : String} :
    (Command.publish stream field document).outcome d l = .ok text ↔
      ∃ doc name, ∃ key : RecordKey, parseDocument document = .ok doc ∧
        StreamName.parse stream = .ok name ∧
        (documents name (some field)).saveOutcome doc l = .ok doc ∧
        Catalog.keyOf (documents name (some field)).metadata doc = some key.text ∧
        text = line (publishedText d name key.text) := by
  -- the key that is printed is trimmed from the field again, and is that of the save
  have htrim {name : StreamName} {doc : Value} {key : String}
      (hkey : Catalog.keyOf (documents name (some field)).metadata doc = some key) :
      Text.trim ((Metadata.fieldText? field doc).getD "") = key ∧ key ≠ "" := by
    obtain ⟨hmap, hne⟩ := Option.filter_eq_some_iff.1 hkey
    obtain ⟨s, hs, rfl⟩ := Option.map_eq_some_iff.1 hmap
    have hs : Metadata.fieldText? field doc = some s := hs
    rw [hs]
    exact ⟨rfl, by simpa using hne⟩
  rw [Command.outcome]
  constructor
  · intro h
    split at h
    · cases h
    · next doc hdoc =>
      split at h
      · cases h
      · next name hname =>
        obtain ⟨saved, hsaved, rfl⟩ := exists_of_map_eq_ok h
        have hsaved := mapError_eq_ok_iff.1 hsaved
        obtain ⟨rfl, -, key, data, hkey, -⟩ := Repository.saveOutcome_eq_ok_iff _ |>.1 hsaved
        obtain ⟨rfl, hne⟩ := htrim hkey
        exact ⟨saved, name, ⟨_, Text.trim_trim _, hne⟩, hdoc, hname, hsaved, hkey, rfl⟩
  · rintro ⟨doc, name, key, hdoc, hname, hsaved, hkey, rfl⟩
    rw [hdoc]
    dsimp only
    rw [hname]
    dsimp only
    rw [hsaved, (htrim hkey).1]
    rfl

theorem Command.left_publish (field : String) {stream document : String} {doc : Value}
    {name : StreamName} (hdoc : parseDocument document = .ok doc)
    (hname : StreamName.parse stream = .ok name) (now : Instant) (l : Ledger) :
    (Command.publish stream field document).left now l =
      (documents name (some field)).saveLeft now doc l := by
  rw [Command.left, hdoc, hname]

end CommandLine

end StreamRecords
