import StreamRecords.Proofs.Catalog.Basic
import StreamRecords.Proofs.Codec
import StreamRecords.Proofs.Ledger.Exchange

/-!
A ledger that is used one operation after the other behaves as a catalog. An entity of the catalog
is one item of the ledger, whose data are read back as the entity; a free key is one without items.
-/

namespace StreamRecords

open Json Rpc Time Dialogue

variable {α : Type}

/-! ### Entities that come back -/

/-- `a` is read back from its data. -/
def Codec.Restores (format : Format α) (a : α) : Prop :=
  ∃ data, serialize format a = .ok data ∧ deserializeEncoding format data = .ok (some a)

theorem Codec.restores_document {v : Value} (h : v.HasOnlyInts) (hd : v.IsDocument)
    (hdepth : v.depth ≤ 127) : Restores .value v :=
  ⟨⟨v.bytes⟩, deserializeEncoding_of_returns (returns_value h hd hdepth)⟩

theorem Codec.isEmpty_of_deserializeEncoding {format : Format α} {data : Encoding} {a : α}
    (h : deserializeEncoding format data = .ok (some a)) : data.isEmpty = false := by
  cases hempty : data.isEmpty with
  | false => rfl
  | true =>
    rw [deserializeEncoding, if_pos hempty] at h
    cases h

/-! ### Ledgers that stand for catalogs -/

/-- Items stand for what a catalog holds under their key: none for nothing, else the one whose data
are the entity. -/
def Holds (format : Format α) : Option α → List Item → Prop
  | none, items => items = []
  | some a, items => ∃ item, items = [item] ∧
      Codec.deserializeEncoding format item.data = .ok (some a)

/-- **The ledger `l` stands for the catalog `c`**: it fails no command, has the same streams, and
under each key has one item or none, as the catalog has an entity or none. -/
structure Represents (format : Format α) (c : Catalog α) (l : Ledger) : Prop where
  failures : l.failures = .all none
  streams : ∀ stream, (l.stream? stream).isSome ↔ stream ∈ c.streams
  items : ∀ stream key, Holds format (c.entity? stream key) (l.items stream key)

theorem Catalog.entity?_insert (stream key : String) (a : α) (c : Catalog α) (name k : String) :
    (c.insert stream key a).entity? name k =
      if (stream, key) = (name, k) then some a else c.entity? name k := by
  rw [entity?, insert, List.lookup_cons]
  by_cases h : (stream, key) = (name, k)
  · rw [if_pos h, h, beq_self_eq_true]
  · have hne : ((name, k) == (stream, key)) = false := beq_false_of_ne fun e => h e.symm
    rw [if_neg h, hne, entity?]

namespace Represents

variable {format : Format α} {c : Catalog α} {l : Ledger}

theorem withStreams (names : List String) :
    Represents format (Catalog.withStreams names) (Ledger.withStreams names) := by
  obtain ⟨hfailures, hstreams, hitems⟩ := Ledger.withStreams_spec names
  exact ⟨hfailures, hstreams, hitems⟩

theorem createStream (h : Represents format c l) (name : String) :
    Represents format (c.createStream name) (l.createStream name) := by
  refine ⟨(l.failures_createStream name).trans h.failures, ?_, ?_⟩
  · intro stream
    by_cases hname : name = stream
    · simp [Catalog.createStream, hname]
    · simp [Catalog.createStream, hname, Ne.symm hname, h.streams]
  · intro stream key
    rw [l.items_createStream]
    exact h.items stream key

theorem called (h : Represents format c l) (command : Command) :
    Represents format c (l.called command) := by
  refine ⟨(l.failures_called command).trans h.failures, ?_, ?_⟩
  · intro stream
    simpa using h.streams stream
  · intro stream key
    simpa using h.items stream key

theorem grown (h : Represents format c l) (now : Instant) {stream key : String} {data : Encoding}
    {items : List Item} {a : α} (hitems : l.stream? stream = some items)
    (hfree : c.entity? stream key = none)
    (hdata : Codec.deserializeEncoding format data = .ok (some a)) :
    Represents format (c.insert stream key a) (l.grown now stream key data items) := by
  refine ⟨(l.failures_grown now stream key data items).trans h.failures, ?_, ?_⟩
  · intro name
    rw [l.stream?_grown, Catalog.insert, ← h.streams]
    by_cases hname : stream = name
    · subst hname
      simp [hitems]
    · rw [if_neg hname]
  · intro name k
    rw [l.items_grown now key data hitems, Catalog.entity?_insert]
    have hitems := h.items name k
    -- the new item is the only one under its key, as the key was free
    by_cases hk : (stream, key) = (name, k)
    · cases hk
      rw [hfree] at hitems
      have hnil : l.items stream key = [] := hitems
      rw [if_pos rfl, if_pos rfl, hnil]
      exact ⟨_, rfl, hdata⟩
    · rw [if_neg hk, if_neg hk]
      exact hitems

/-! ### What is listed -/

theorem listed_of_not_mem (h : Represents format c l) {stream : String} (hs : stream ∉ c.streams)
    (key : String) : l.listed stream key = .error (.retrieval Ledger.missingStream) := by
  refine Ledger.listed_of_none h.failures ?_ key
  rw [← h.streams, Option.isSome_iff_ne_none] at hs
  exact Decidable.not_not.1 hs

theorem listed_of_mem (h : Represents format c l) {stream : String} (hs : stream ∈ c.streams)
    (key : String) : l.listed stream key = .ok ((l.items stream key).map Item.floored) := by
  obtain ⟨items, hitems⟩ := Option.isSome_iff_exists.1 ((h.streams stream).2 hs)
  -- a listing shows two items at most, and there is never more than one to show
  have hshort : (l.items stream key).length ≤ 2 := by
    have hholds := h.items stream key
    cases he : c.entity? stream key with
    | none =>
      rw [he] at hholds
      rw [show l.items stream key = [] from hholds]
      exact Nat.zero_le 2
    | some a =>
      rw [he] at hholds
      obtain ⟨item, hitem, -⟩ := hholds
      rw [hitem]
      exact Nat.le_succ 1
  rw [Ledger.listed_of_some h.failures hitems, List.take_of_length_le hshort]

end Represents

/-! ### One operation -/

section

variable {format : Format α} {c : Catalog α} (clock : UInt64 → Instant) (ids : Nat → RequestId)
  (r : Repository α) {t : Trace Ledger}

theorem listed_lookup (h : Represents r.format c t.state) (key : RecordKey) :
    t.state.listed r.stream.text key.text >>= r.foundIn key =
      c.lookup r.stream.text key.text := by
  by_cases hs : r.stream.text ∈ c.streams
  · rw [h.listed_of_mem hs, Catalog.lookup, if_pos hs]
    have hholds := h.items r.stream.text key.text
    cases he : c.entity? r.stream.text key.text with
    | none =>
      rw [he] at hholds
      rw [show t.state.items r.stream.text key.text = [] from hholds]
      rfl
    | some a =>
      rw [he] at hholds
      obtain ⟨item, hitem, hdata⟩ := hholds
      -- data that an entity is read from are not empty, so the policy for empty data has no part
      have hempty : ¬ item.floored.data.isEmpty = true := by
        rw [show item.floored.data.isEmpty = false from Codec.isEmpty_of_deserializeEncoding hdata]
        decide
      have hread : Codec.deserializeEncoding r.format item.floored.data = .ok (some a) := hdata
      rw [hitem]
      show r.foundIn key [item.floored] = _
      rw [Repository.foundIn, if_neg hempty, hread]
      rfl
  · rw [h.listed_of_not_mem hs, Catalog.lookup, if_neg hs]
    rfl

/-- **What comes of a run on a ledger is what a catalog gives**, and the ledger that it leaves
stands for the catalog that is left. -/
structure Matches {β : Type} (format : Format α) (given : β × Catalog α) (run : β × Trace Ledger) :
    Prop where
  value : run.1 = given.1
  state : Represents format given.2 run.2.state

theorem Matches.map {β γ : Type} {b : β} {run : β × Trace Ledger}
    (h : Matches format (b, c) run) (f : β → γ) : Matches format (f b, c) (f run.1, run.2) :=
  ⟨congrArg f h.value, h.state⟩

/-- A lookup of `key` finds what the catalog holds. -/
theorem matches_lookup (h : Represents r.format c t.state) (key : RecordKey) :
    Matches r.format (c.lookup r.stream.text key.text, c)
      ((r.lookup key).quiet.run ⟨Ledger.node clock, ids⟩ t) := by
  obtain ⟨hvalue, hstate⟩ := r.lookup_on_ledger clock ids key t
  refine ⟨?_, ?_⟩
  · rw [hvalue]
    exact listed_lookup r h key
  · rw [hstate]
    exact h.called .listItems

theorem matches_find (h : Represents r.format c t.state) (s : String) :
    Matches r.format (c.find r.stream.text s, c)
      ((r.find s).quiet.run ⟨Ledger.node clock, ids⟩ t) := by
  rw [Repository.run_quiet_find, Catalog.find]
  by_cases hs : Text.trim s = ""
  · rw [RecordKey.parse_of_eq hs, if_pos hs]
    exact ⟨rfl, h⟩
  · rw [RecordKey.parse_of_ne hs, if_neg hs]
    exact matches_lookup clock ids r h ⟨Text.trim s, Text.trim_trim s, hs⟩

theorem matches_exists? (h : Represents r.format c t.state) (s : String) :
    Matches r.format ((c.find r.stream.text s).map Option.isSome, c)
      ((r.exists? s).quiet.run ⟨Ledger.node clock, ids⟩ t) := by
  rw [Repository.run_quiet_exists?]
  exact (matches_find clock ids r h s).map (Except.map Option.isSome)

theorem key?_keyOf (a : α) : (r.key? a).map RecordKey.text = Catalog.keyOf r.metadata a := by
  rw [Catalog.keyOf]
  cases hs : r.metadata.key a with
  | none =>
    rw [r.key?_eq_none (fun s h => by rw [hs] at h; cases h)]
    rfl
  | some s =>
    by_cases htrim : Text.trim s = ""
    · rw [r.key?_eq_none (fun s' h => by rw [hs] at h; cases h; exact htrim)]
      show none = Option.filter _ (some (Text.trim s))
      rw [htrim]
      rfl
    · rw [r.key?_eq_some hs htrim]
      show some (Text.trim s) = Option.filter _ (some (Text.trim s))
      rw [Option.filter_some, if_pos (decide_eq_true htrim)]

/-- Where a key is free, a save publishes an entity that comes back; elsewhere it fails. -/
theorem publishOn_listed {l : Ledger} (h : Represents r.format c l) {a : α}
    (ha : Codec.Restores r.format a) (key : RecordKey) :
    let saved := r.publishOn clock key a (l.listed r.stream.text key.text) (l.called .listItems)
    saved.1 = (c.store r.stream.text key.text a).1 ∧
      Represents r.format (c.store r.stream.text key.text a).2 saved.2 := by
  rw [Catalog.store, Catalog.lookup]
  by_cases hs : r.stream.text ∈ c.streams
  · rw [h.listed_of_mem hs, if_pos hs]
    have hholds := h.items r.stream.text key.text
    cases he : c.entity? r.stream.text key.text with
    | some b =>
      rw [he] at hholds
      obtain ⟨item, hitem, -⟩ := hholds
      rw [hitem]
      exact ⟨rfl, h.called .listItems⟩
    | none =>
      rw [he] at hholds
      have hnil : l.items r.stream.text key.text = [] := hholds
      obtain ⟨data, hwrite, hread⟩ := ha
      obtain ⟨items, hitems⟩ := Option.isSome_iff_exists.1 ((h.streams r.stream.text).2 hs)
      -- both calls are counted before anything is published, and the counts represent nothing
      have hcalled := (h.called .listItems).called .publish
      have hpublish : (.ok [] >>= r.toPublish key a) = .ok data := by
        show (Codec.serialize r.format a).mapError _ = _
        rw [hwrite]
        rfl
      have hstream : ((l.called .listItems).called .publish).stream? r.stream.text =
          some items := by
        simpa using hitems
      rw [hnil, Repository.publishOn, List.map_nil, hpublish]
      dsimp only
      rw [Ledger.publishing_of_some hcalled.failures hstream]
      exact ⟨rfl, hcalled.grown _ hstream he hread⟩
  · rw [h.listed_of_not_mem hs, if_neg hs]
    exact ⟨rfl, h.called .listItems⟩

/-- A save of `a` does what the catalog does. -/
theorem matches_save (h : Represents r.format c t.state) {a : α} (ha : Codec.Restores r.format a) :
    Matches r.format (c.save r.metadata a)
      ((r.save a).quiet.run ⟨Ledger.node clock, ids⟩ t) := by
  have hkeyOf := key?_keyOf r a
  rw [Catalog.save, ← hkeyOf]
  cases hkey : r.key? a with
  | none =>
    rw [r.quiet_save_of_none hkey]
    exact ⟨rfl, h⟩
  | some key =>
    obtain ⟨hvalue, hstate⟩ := r.save_on_ledger clock ids hkey t
    obtain ⟨houtcome, hleft⟩ := publishOn_listed clock r h ha key
    refine ⟨?_, ?_⟩
    · rw [hvalue]
      exact houtcome
    · rw [hstate]
      exact hleft

/-! ### One action -/

/-- What the attempt `x` does without its notes it does with them. -/
theorem Matches.of_quiet {β : Type} {given : Except RepositoryError β × Catalog α}
    {x : Attempt RepositoryError β}
    (h : Matches format given (x.quiet.run ⟨Ledger.node clock, ids⟩ t.quiet)) :
    Matches format given (x.dialogue.run ⟨Ledger.node clock, ids⟩ t) := by
  obtain ⟨hvalue, hstate⟩ := h
  refine ⟨?_, ?_⟩
  · rw [Attempt.value_run]
    exact hvalue
  · rw [Attempt.state_run]
    exact hstate

theorem matches_saveAll (h : Represents r.format c t.state) {as : List α}
    (has : ∀ a ∈ as, Codec.Restores r.format a) :
    Matches r.format (c.saveAll r.metadata as)
      ((r.saveAll as).dialogue.run ⟨Ledger.node clock, ids⟩ t) := by
  induction as generalizing c t with
  | nil => exact ⟨rfl, h⟩
  | cons a as ih =>
    have hsave := Matches.of_quiet clock ids
      (matches_save clock ids r (t := t.quiet) h (has a List.mem_cons_self))
    rw [Catalog.saveAll, Repository.saveAll, Attempt.run_bind]
    generalize (r.save a).dialogue.run ⟨Ledger.node clock, ids⟩ t = run at hsave
    generalize c.save r.metadata a = given at hsave
    obtain ⟨saved, t'⟩ := run
    obtain ⟨given, c'⟩ := given
    obtain ⟨hvalue, hstate⟩ := hsave
    dsimp only at hvalue hstate
    subst hvalue
    cases saved with
    | error e => exact ⟨rfl, hstate⟩
    | ok a =>
      -- the rest goes on from the catalog and the ledger that the first save leaves
      have hrest := ih hstate fun a ha => has a (List.mem_cons_of_mem _ ha)
      dsimp only
      rw [bind_pure_comp, Attempt.run_map]
      exact hrest.map (Except.map (a :: ·))

/-- **An operation gives what the catalog gives.** -/
theorem matches_attempt (h : Represents r.format c t.state) {operation : Operation α}
    {emptyData : EmptyDataPolicy}
    (hentities : ∀ a ∈ (Action.perform r.metadata emptyData operation).entities,
      Codec.Restores r.format a) :
    Matches r.format (c.perform r.metadata operation)
      ((operation.attempt r).dialogue.run ⟨Ledger.node clock, ids⟩ t) := by
  cases operation with
  | «exists» s =>
    have hexists := Matches.of_quiet clock ids (matches_exists? clock ids r (t := t.quiet) h s)
    have hmap := hexists.map (Except.map (@Outcome.exists α))
    rw [Operation.attempt, Attempt.run_map, Catalog.perform]
    exact hmap
  | find s =>
    have hfind := Matches.of_quiet clock ids (matches_find clock ids r (t := t.quiet) h s)
    have hmap := hfind.map (Except.map Outcome.found)
    rw [Operation.attempt, Attempt.run_map, Catalog.perform]
    exact hmap
  | save a =>
    have hsave := Matches.of_quiet clock ids
      (matches_save clock ids r (t := t.quiet) h (hentities a List.mem_cons_self))
    have hmap := hsave.map (Except.map Outcome.saved)
    rw [Operation.attempt, Attempt.run_map, Catalog.perform]
    exact hmap
  | saveAll as =>
    have has : ∀ a ∈ as, Codec.Restores r.format a := hentities
    have hmap := (matches_saveAll clock ids r h has).map (Except.map Outcome.savedAll)
    rw [Operation.attempt, Attempt.run_map, Catalog.perform]
    exact hmap

end

/-! ### Many actions -/

section

variable (format : Format α) (clock : UInt64 → Instant) (ids : Nat → RequestId)

/-- What one action on a ledger that stands for a catalog gives is what it gives on the catalog. -/
theorem matches_action {c : Catalog α} {t : Trace Ledger} (h : Represents format c t.state)
    {action : Action α} (hentities : ∀ a ∈ action.entities, Codec.Restores format a) :
    Matches format (action.onCatalog c) (action.onLedger format ⟨Ledger.node clock, ids⟩ t) := by
  cases action with
  | create stream => exact ⟨rfl, h.createStream stream⟩
  | perform metadata emptyData operation =>
    exact (matches_attempt clock ids ⟨format, metadata, emptyData⟩ h hentities).map some

theorem Action.answers_cons {σ : Type}
    (on : σ → Action α → Option (Except RepositoryError (Outcome α)) × σ) (s : σ)
    (action : Action α) (actions : List (Action α)) :
    answers on s (action :: actions) = (on s action).1 :: answers on (on s action).2 actions := rfl

theorem answers_of_represents {c : Catalog α} {t : Trace Ledger} (h : Represents format c t.state)
    {actions : List (Action α)}
    (hentities : ∀ action ∈ actions, ∀ a ∈ action.entities, Codec.Restores format a) :
    Action.answers (Action.onLedger format ⟨Ledger.node clock, ids⟩) t actions =
      Action.answers Action.onCatalog c actions := by
  induction actions generalizing c t with
  | nil => rfl
  | cons action actions ih =>
    obtain ⟨hvalue, hstate⟩ :=
      matches_action format clock ids h (hentities action List.mem_cons_self)
    have hrest := ih hstate fun action ha => hentities action (List.mem_cons_of_mem _ ha)
    rw [Action.answers_cons, Action.answers_cons, hvalue, hrest]

/-- **Repositories that are used one after the other on a ledger answer as a catalog does**,
whichever streams they are bound to, whatever the clock and the identifiers of requests, if each
entity that they store is one that comes back from its data. Documents without fractions are such
entities if they are nested no deeper than 127 levels. -/
theorem answers_on_ledger :
    (∀ v : Value, v.HasOnlyInts → v.IsDocument → v.depth ≤ 127 → Codec.Restores .value v) ∧
    ∀ (α : Type) (format : Format α) (clock : UInt64 → Instant) (ids : Nat → RequestId)
      (streams : List String) (actions : List (Action α)),
      (∀ action ∈ actions, ∀ a ∈ action.entities, Codec.Restores format a) →
      Action.answers (Action.onLedger format ⟨Ledger.node clock, ids⟩)
          (.start (.withStreams streams) 0) actions =
        Action.answers Action.onCatalog (.withStreams streams) actions := by
  refine ⟨fun v => Codec.restores_document, ?_⟩
  intro α format clock ids streams actions hentities
  have h : Represents format (.withStreams streams)
      (Trace.start (Ledger.withStreams streams) 0).state := Represents.withStreams streams
  exact answers_of_represents format clock ids h hentities

/-- A document with blanks around its key is stored once its stream is created, and only once. -/
theorem answers_on_ledger_padded_key :
    let v : Value := .object [("id", .string " a ")]
    let notes : Metadata Value := .ofField ⟨"notes", by decide, by decide⟩ (some "id")
    let actions : List (Action Value) :=
      [.perform notes .absent (.save v), .create "notes", .perform notes .reject (.save v),
        .perform notes .absent (.find "a\t"), .perform notes .absent (.saveAll [v])]
    Action.answers (Action.onLedger .value
        ⟨Ledger.node fun _ => .ofSeconds 0 (by decide), fun _ => ⟨"id"⟩⟩)
        (.start (.withStreams []) 0) actions =
      [some (.error (.retrieval Ledger.missingStream)), none, some (.ok (.saved v)),
        some (.ok (.found (some v))), some (.error (.duplicateKey "notes" "a"))] := by
  intro v notes actions
  have hv : Codec.Restores .value v := answers_on_ledger.1 v ⟨trivial, trivial⟩
    ⟨Dict.isSorted_of_names ["id"] rfl (by decide), trivial, trivial⟩ (by decide)
  have hentities : ∀ action ∈ actions, ∀ a ∈ action.entities, Codec.Restores .value a := by
    intro action haction a ha
    simp only [actions, List.mem_cons, List.not_mem_nil, or_false] at haction
    rcases haction with rfl | rfl | rfl | rfl | rfl <;>
      simp only [Action.entities, List.mem_singleton, List.not_mem_nil] at ha <;>
      exact ha ▸ hv
  rw [answers_on_ledger.2 Value .value _ _ [] actions hentities]
  rfl

end

end StreamRecords
