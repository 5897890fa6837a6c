import StreamRecords.Proofs.Catalog.Refinement
import StreamRecords.Proofs.Codec
import StreamRecords.Proofs.Ledger.Exchange
import StreamRecords.Proofs.Ledger.Run

/-!
What comes of the operations of a repository on a ledger of any kind: one that fails commands, lacks
the stream, or holds any number of items under a key, with any data. Each outcome is told from all
that is stored under the key, although no more than two items are ever asked for.
-/

namespace StreamRecords

open Json Rpc Time

/-! ### All that is stored -/

namespace Ledger

def hasStream (name : String) (l : Ledger) : Bool := (l.stream? name).isSome

/-- The data of all items under `key`, oldest first. -/
def dataUnder (stream key : String) (l : Ledger) : List Encoding :=
  (l.items stream key).map Item.data

theorem hasStream_of_none {stream : String} {l : Ledger} (h : l.stream? stream = none) :
    l.hasStream stream = false := by
  rw [hasStream, h]
  rfl

theorem hasStream_of_some {stream : String} {items : List Item} {l : Ledger}
    (h : l.stream? stream = some items) : l.hasStream stream = true := by
  rw [hasStream, h]
  rfl

theorem dataUnder_of_some {stream : String} {items : List Item} {l : Ledger}
    (h : l.stream? stream = some items) (key : String) :
    l.dataUnder stream key = (items.filter (·.key = key)).map Item.data := by
  rw [dataUnder, l.items_of_some h]

/-- The ledger that a lookup of `s` leaves: with a listing counted, unless `s` is blank. -/
def lookedUp (s : String) (l : Ledger) : Ledger :=
  if Text.trim s = "" then l else l.called .listItems

end Ledger

namespace Repository

variable {α : Type} (r : Repository α)

/-! ### Lookups -/

/-- What a lookup makes of the data of all items under `key`. -/
def verdict (key : String) : List Encoding → Except RepositoryError (Option α)
  | [] => .ok none
  | [data] =>
    if data.isEmpty then
      match r.emptyData with
      | .absent => .ok none
      | .reject => .error (.emptyRecord r.stream.text key)
    else (Codec.deserializeEncoding r.format data).mapError .codec
  | _ :: _ :: _ => .error (.incorrectResultSize 1 2)

/-- **What a lookup finds on a ledger**: the first of these that applies. -/
def findOutcome (s : String) (l : Ledger) : Except RepositoryError (Option α) :=
  if Text.trim s = "" then .error (.invalidInput .blankKey)
  else
    match l.failures.listItems with
    | some e => .error (.retrieval e)
    | none =>
      if l.hasStream r.stream.text then
        r.verdict (Text.trim s) (l.dataUnder r.stream.text (Text.trim s))
      else .error (.retrieval Ledger.missingStream)

/-- `foundIn` sees two items at most and says the same of them as `verdict` of all. -/
theorem foundIn_take (key : RecordKey) (items : List Item) :
    r.foundIn key ((items.take 2).map Item.floored) = r.verdict key.text (items.map Item.data) := by
  match items with
  | [] => rfl
  | [item] => rfl
  | first :: second :: items => rfl

theorem listed_foundIn {s : String} (h : Text.trim s ≠ "") (l : Ledger) :
    l.listed r.stream.text (Text.trim s) >>= r.foundIn ⟨Text.trim s, Text.trim_trim s, h⟩ =
      r.findOutcome s l := by
  rw [findOutcome, if_neg h, Ledger.listed, Ledger.listing]
  cases l.failures.listItems with
  | some e => rfl
  | none =>
    cases hs : l.stream? r.stream.text with
    | none =>
      rw [Ledger.hasStream_of_none hs]
      rfl
    | some items =>
      rw [Ledger.hasStream_of_some hs, Ledger.dataUnder_of_some hs]
      exact r.foundIn_take _ _

section

variable (clock : UInt64 → Instant) (ids : Nat → RequestId) (t : Trace Ledger)

@[simp] theorem ending_find (s : String) :
    (r.find s).ending ⟨Ledger.node clock, ids⟩ t =
      (r.findOutcome s t.state, t.state.lookedUp s) := by
  rw [Attempt.ending_eq, run_quiet_find, Ledger.lookedUp]
  by_cases hs : Text.trim s = ""
  · rw [RecordKey.parse_of_eq hs, if_pos hs, findOutcome, if_pos hs]
    rfl
  · obtain ⟨hvalue, hstate⟩ :=
      r.lookup_on_ledger clock ids ⟨Text.trim s, Text.trim_trim s, hs⟩ t.quiet
    rw [RecordKey.parse_of_ne hs, if_neg hs, ← listed_foundIn]
    dsimp only
    rw [hvalue, hstate]
    rfl

@[simp] theorem ending_exists? (s : String) :
    (r.exists? s).ending ⟨Ledger.node clock, ids⟩ t =
      ((r.findOutcome s t.state).map Option.isSome, t.state.lookedUp s) := by
  have hfind := r.ending_find clock ids t s
  rw [Attempt.ending_eq] at hfind
  rw [Attempt.ending_eq, run_quiet_exists?]
  dsimp only
  rw [(Prod.mk.inj hfind).1, (Prod.mk.inj hfind).2]

/-- **What comes of a lookup of `s` on any ledger.** It is told from all items under the key,
however many there are; `exists?` tells whether `find` would give an entity. Nothing changes but the
count of listings, and not even that if `s` is blank. -/
theorem lookups_on_ledger (s : String) :
    (r.find s).ending ⟨Ledger.node clock, ids⟩ t =
      (r.findOutcome s t.state, t.state.lookedUp s) ∧
    (r.exists? s).ending ⟨Ledger.node clock, ids⟩ t =
      ((r.findOutcome s t.state).map Option.isSome, t.state.lookedUp s) :=
  ⟨r.ending_find clock ids t s, r.ending_exists? clock ids t s⟩

end

/-! ### Saves -/

/-- What a save of `a` has to publish under `key`, or why it publishes nothing: the first of these
that applies. -/
def draft (key : String) (a : α) (l : Ledger) : Except RepositoryError Encoding :=
  match l.failures.listItems with
  | some e => .error (.retrieval e)
  | none =>
    if l.hasStream r.stream.text then
      if l.dataUnder r.stream.text key = [] then (Codec.serialize r.format a).mapError .codec
      else .error (.duplicateKey r.stream.text key)
    else .error (.retrieval Ledger.missingStream)

/-- **What a save of `a` gives on a ledger**: the first of these that applies. -/
def saveOutcome (a : α) (l : Ledger) : Except RepositoryError α :=
  match Catalog.keyOf r.metadata a with
  | none => .error (.missingKey r.stream.text)
  | some key =>
    match r.draft key a l with
    | .error e => .error e
    | .ok _ =>
      match l.failures.publish with
      | some e => .error (.write e)
      | none => .ok a

/-- The ledger that a save of `a` leaves. -/
def saveLeft (now : Instant) (a : α) (l : Ledger) : Ledger :=
  match Catalog.keyOf r.metadata a with
  | none => l
  | some key =>
    match r.draft key a l with
    | .error _ => l.called .listItems
    | .ok data =>
      match l.failures.publish with
      | some _ => (l.called .listItems).called .publish
      | none => ((l.called .listItems).called .publish).grown now r.stream.text key data
          ((l.stream? r.stream.text).getD [])

/-- The first two items tell whether there are any. -/
theorem toPublish_take (key : RecordKey) (a : α) (items : List Item) :
    r.toPublish key a ((items.take 2).map Item.floored) =
      if items.map Item.data = [] then (Codec.serialize r.format a).mapError .codec
      else .error (.duplicateKey r.stream.text key.text) := by
  cases items with
  | nil => rfl
  | cons item items => exact (if_neg (List.cons_ne_nil item.data _)).symm

theorem listed_toPublish (key : RecordKey) (a : α) (l : Ledger) :
    l.listed r.stream.text key.text >>= r.toPublish key a = r.draft key.text a l := by
  rw [draft, Ledger.listed, Ledger.listing]
  cases l.failures.listItems with
  | some e => rfl
  | none =>
    cases hs : l.stream? r.stream.text with
    | none =>
      rw [Ledger.hasStream_of_none hs]
      rfl
    | some items =>
      rw [Ledger.hasStream_of_some hs, Ledger.dataUnder_of_some hs]
      exact r.toPublish_take key a _

theorem draft_eq_ok_iff {key : String} {a : α} {l : Ledger} {data : Encoding} :
    r.draft key a l = .ok data ↔ l.failures.listItems = none ∧ l.hasStream r.stream.text = true ∧
      l.dataUnder r.stream.text key = [] ∧ Codec.serialize r.format a = .ok data := by
  rw [draft]
  cases l.failures.listItems with
  | some e => simp
  | none =>
    cases l.hasStream r.stream.text with
    | false => simp
    | true =>
      by_cases hdata : l.dataUnder r.stream.text key = []
      · rw [if_pos rfl, if_pos hdata, mapError_eq_ok_iff]
        simp [hdata]
      · simp [hdata]

section

variable (clock : UInt64 → Instant) (ids : Nat → RequestId) (t : Trace Ledger)

theorem publishOn_draft (key : RecordKey) (a : α) (l : Ledger) :
    r.publishOn clock key a (l.listed r.stream.text key.text) (l.called .listItems) =
      match r.draft key.text a l with
      | .error e => (.error e, l.called .listItems)
      | .ok data =>
        match l.failures.publish with
        | some e => (.error (.write e), (l.called .listItems).called .publish)
        | none => (.ok a, ((l.called .listItems).called .publish).grown (clock l.lastTx)
            r.stream.text key.text data ((l.stream? r.stream.text).getD [])) := by
  rw [publishOn, listed_toPublish]
  cases hd : r.draft key.text a l with
  | error e => rfl
  | ok data =>
    obtain ⟨-, hstream, -⟩ := r.draft_eq_ok_iff.1 hd
    obtain ⟨items, hitems⟩ := Option.isSome_iff_exists.1 hstream
    simp only [Ledger.publishing, Ledger.failures_called, Ledger.stream?_called, hitems]
    cases l.failures.publish <;> rfl

@[simp] theorem ending_save (a : α) :
    (r.save a).ending ⟨Ledger.node clock, ids⟩ t =
      (r.saveOutcome a t.state, r.saveLeft (clock t.state.lastTx) a t.state) := by
  rw [Attempt.ending_eq, saveOutcome, saveLeft, ← key?_keyOf]
  cases hkey : r.key? a with
  | none =>
    rw [r.quiet_save_of_none hkey]
    rfl
  | some key =>
    obtain ⟨hvalue, hstate⟩ := r.save_on_ledger clock ids hkey t.quiet
    have hpublish := r.publishOn_draft clock key a t.state
    rw [hvalue.trans (congrArg Prod.fst hpublish), hstate.trans (congrArg Prod.snd hpublish)]
    dsimp only [Option.map_some]
    cases r.draft key.text a t.state with
    | error e => rfl
    | ok data => cases t.state.failures.publish <;> rfl

end

theorem saveOutcome_eq_ok_iff {a b : α} {l : Ledger} :
    r.saveOutcome a l = .ok b ↔ b = a ∧ l.failures.publish = none ∧
      ∃ key data, Catalog.keyOf r.metadata a = some key ∧ r.draft key a l = .ok data := by
  rw [saveOutcome]
  cases Catalog.keyOf r.metadata a with
  | none => simp
  | some key =>
    cases hd : r.draft key a l with
    | error e => simp [hd]
    | ok data =>
      cases l.failures.publish with
      | some e => simp [hd]
      | none => simp [hd, eq_comm]

/-! ### What a save changes -/

/-- Whether a save that ends so has asked which items are under its key. -/
def hasListed : Except RepositoryError α → Bool
  | .error (.missingKey _) => false
  | _ => true

/-- Whether a save that ends so has asked the ledger to publish. -/
def hasPublished : Except RepositoryError α → Bool
  | .ok _ | .error (.write _) => true
  | .error _ => false

/-- **What a save of `a` that ends with `outcome` changes on a ledger.** If it fails, no stream has
changed and no transaction was made; if it succeeds, one item is behind all others of the stream,
under the key of `a` and with the bytes of its JSON text as data. -/
structure Leaves (a : α) (l : Ledger) (outcome : Except RepositoryError α) (left : Ledger) :
    Prop where
  kept : ∀ e, outcome = .error e → left.streams = l.streams ∧ left.lastTx = l.lastTx
  grown : ∀ b, outcome = .ok b → left.lastTx = l.lastTx + 1 ∧ ∃ bytes items item,
    r.format.write a = .ok bytes ∧ Catalog.keyOf r.metadata a = some item.key ∧
      item.data = ⟨bytes⟩ ∧ l.stream? r.stream.text = some items ∧
      ∀ name, left.stream? name =
        if r.stream.text = name then some (items ++ [item]) else l.stream? name
  listings : left.callCount .listItems =
    l.callCount .listItems + if hasListed outcome then 1 else 0
  publications : left.callCount .publish =
    l.callCount .publish + if hasPublished outcome then 1 else 0
  failures : left.failures = l.failures

/-- A save that `draft` stops has listed, and has not published. -/
theorem listed_of_draft {key : String} {a : α} {l : Ledger} {e : RepositoryError}
    (h : r.draft key a l = .error e) :
    hasListed (.error e : Except RepositoryError α) = true ∧
      hasPublished (.error e : Except RepositoryError α) = false := by
  -- `draft` is asked behind the listing and before the publication, wherever it stops
  unfold draft at h
  split at h
  · cases h
    exact ⟨rfl, rfl⟩
  · split at h
    · split at h
      · cases hdata : Codec.serialize r.format a with
        | error reason =>
          rw [hdata] at h
          cases h
          exact ⟨rfl, rfl⟩
        | ok data =>
          rw [hdata] at h
          cases h
      · cases h
        exact ⟨rfl, rfl⟩
    · cases h
      exact ⟨rfl, rfl⟩

theorem leaves_saveLeft (now : Instant) (a : α) (l : Ledger) :
    r.Leaves a l (r.saveOutcome a l) (r.saveLeft now a l) := by
  rw [saveOutcome, saveLeft]
  cases hkey : Catalog.keyOf r.metadata a with
  | none => exact ⟨fun _ _ => ⟨rfl, rfl⟩, (fun _ h => nomatch h), rfl, rfl, rfl⟩
  | some key =>
    dsimp only
    -- the cases of `saveOutcome` and of `saveLeft` are the same, so both are told at once
    cases hd : r.draft key a l with
    | error e =>
      obtain ⟨hlisted, hpublished⟩ := r.listed_of_draft hd
      refine ⟨fun _ _ => ⟨rfl, rfl⟩, (fun _ h => nomatch h), ?_, ?_, rfl⟩
      · rw [hlisted]
        rfl
      · rw [hpublished]
        rfl
    | ok data =>
      dsimp only
      cases hf : l.failures.publish with
      | some e => exact ⟨fun _ _ => ⟨rfl, rfl⟩, (fun _ h => nomatch h), rfl, rfl, rfl⟩
      | none =>
        obtain ⟨-, hstream, -, hdata⟩ := r.draft_eq_ok_iff.1 hd
        obtain ⟨items, hitems⟩ := Option.isSome_iff_exists.1 hstream
        rw [hitems]
        have hgrown := ((l.called .listItems).called .publish).stream?_grown now r.stream.text key
          data items
        exact ⟨(fun _ h => nomatch h), fun _ _ => ⟨rfl, data.bytes, items,
          ⟨Ledger.txid (l.lastTx + 1), key, some now.floor, data⟩, Codec.write_of_serialize hdata,
          hkey, rfl, hitems, hgrown⟩, rfl, rfl, rfl⟩

/-- **What comes of a save of `a` on any ledger, and what it changes there.** `saveOutcome` tells it
from all items under the key of `a`, whatever their data; the changes are those that go with the
outcome, and no others. -/
theorem saves_on_ledger (clock : UInt64 → Instant) (ids : Nat → RequestId) (t : Trace Ledger)
    (a : α) :
    let saved := (r.save a).ending ⟨Ledger.node clock, ids⟩ t
    saved.1 = r.saveOutcome a t.state ∧ r.Leaves a t.state saved.1 saved.2 := by
  intro saved
  have hsaved : saved = _ := r.ending_save clock ids t a
  rw [hsaved]
  exact ⟨rfl, r.leaves_saveLeft (clock t.state.lastTx) a t.state⟩

/-- A record without data takes its key, even from an entity that cannot be written, and even if
nothing could be published. -/
example :
    let r : Repository Samples.Fragile :=
      ⟨Samples.Fragile.format, ⟨⟨"notes", by decide, by decide⟩, fun f => some f.id⟩, .absent⟩
    let l := ((Ledger.withStreams ["notes"]).append (.ofSeconds 0 (by decide)) "notes" "bad"
      .empty).2.failWith .publish ⟨-1, "down"⟩
    r.saveOutcome ⟨" bad\n"⟩ l = .error (.duplicateKey "notes" "bad") := by
  rfl

end Repository
end StreamRecords
