import StreamRecords.Proofs.Repository.Outcome

/-!
Records are kept apart. What is found or stored under a key of a stream goes by an excerpt of the
ledger: what fails, whether there is the stream, and the data under the key. Whatever is aimed at
another stream or another key leaves this excerpt as it is, whether it is done through repositories
or by bodies that are posted.
-/

namespace StreamRecords

open Json Rpc Time

/-- **What the operations on a record go by**: the errors that commands are made to fail with,
whether there is the stream, and the data of all items under the key. -/
structure Excerpt where
  failures : PerCommand (Option ErrorInfo)
  hasStream : Bool
  data : List Encoding

def Excerpt.add (data : Encoding) (x : Excerpt) : Excerpt := { x with data := x.data ++ [data] }

namespace Ledger

/-! ### Excerpts of ledgers -/

def excerpt (stream key : String) (l : Ledger) : Excerpt :=
  ⟨l.failures, l.hasStream stream, l.dataUnder stream key⟩

variable {stream key : String} {l l' : Ledger}

theorem excerpt_eq_iff :
    l.excerpt stream key = l'.excerpt stream key ↔ l.failures = l'.failures ∧
      l.hasStream stream = l'.hasStream stream ∧
      l.dataUnder stream key = l'.dataUnder stream key := by
  simp [excerpt]

theorem excerpt_of_kept (hfailures : l'.failures = l.failures) (hstreams : l'.streams = l.streams) :
    l'.excerpt stream key = l.excerpt stream key := by
  simp only [excerpt, hasStream, dataUnder, Ledger.items, stream?, hfailures, hstreams]

/-- One more `item` adds to the data under its own key, and to no other. -/
theorem excerpt_of_grown {name : String} {items : List Item} {item : Item}
    (hfailures : l'.failures = l.failures) (hitems : l.stream? name = some items)
    (h : ∀ other, l'.stream? other =
      if name = other then some (items ++ [item]) else l.stream? other) :
    l'.excerpt stream key =
      if (name, item.key) = (stream, key) then (l.excerpt stream key).add item.data
      else l.excerpt stream key := by
  have hstream : l'.hasStream stream = l.hasStream stream := by
    rw [hasStream, hasStream, h]
    by_cases hname : name = stream
    · subst hname
      rw [if_pos rfl, hitems]
      rfl
    · rw [if_neg hname]
  have hdata := items_of_grown hitems h stream key
  rw [excerpt, hfailures, hstream, dataUnder, hdata]
  split
  · rw [List.map_append]
    rfl
  · rfl

@[simp] theorem excerpt_createStream (name : String) :
    (l.createStream name).excerpt stream key =
      { l.excerpt stream key with hasStream := l.hasStream stream || name = stream } := by
  have hstream : (l.createStream name).hasStream stream =
      (l.hasStream stream || decide (name = stream)) := by
    by_cases h : name = stream <;> simp [hasStream, h]
  simp [excerpt, hstream, dataUnder]

theorem excerpt_append (now : Instant) (name k : String) (data : Encoding) :
    (l.append now name k data).2.excerpt stream key =
      if l.hasStream name = true ∧ (name, k) = (stream, key) then
        (l.excerpt stream key).add data
      else l.excerpt stream key := by
  cases hs : l.stream? name with
  | none =>
    have hs' : { l with lastTx := l.lastTx + 1 }.stream? name = none := hs
    rw [hasStream_of_none hs, if_neg (by simp)]
    simp only [append, hs']
    rfl
  | some items =>
    have hgrown := l.stream?_grown now name k data items
    rw [hasStream_of_some hs, append_of_some now hs k data,
      excerpt_of_grown (l.failures_grown now name k data items) hs hgrown]
    simp

@[simp] theorem excerpt_lookedUp (s : String) :
    (l.lookedUp s).excerpt stream key = l.excerpt stream key := by
  unfold lookedUp
  split
  · rfl
  · rfl

/-! ### Steps that leave a record alone -/

/-- **A step stores an item under `key`**, or tries to, with data that can be stored. -/
inductive Step.StoresUnder (stream key : String) : Step → Prop where
  | insertRaw (now : Instant) (data : Encoding) :
      StoresUnder stream key (.insertRaw now stream key data)
  | post (now : Instant) {body : Bytes} {r : Request} {data : Encoding}
      (hbody : Request.decode body = .ok r) (hc : r.command = .publish)
      (hstream : r.stringParam? 0 = some stream) (hkey : r.stringParam? 1 = some key)
      (hdata : dataOf r = .ok data) : StoresUnder stream key (.post now body)

/-- **A step leaves the record alone**: it neither stores an item under `key` nor makes a command
fail. -/
structure Step.Spares (stream key : String) (step : Step) : Prop where
  stores : ¬ step.StoresUnder stream key
  fails : ∀ command error, step ≠ .failWith command error

/-- A request keeps the excerpt, unless it publishes under `key` data that can be stored. -/
theorem excerpt_handle (now : Instant) {r : Request}
    (h : ∀ data, r.command = .publish → r.stringParam? 0 = some stream →
      r.stringParam? 1 = some key → dataOf r ≠ .ok data) (l : Ledger) :
    (l.handle now r).2.excerpt stream key = l.excerpt stream key := by
  have hhandled := handled_handle now r l
  generalize l.handle now r = handled at hhandled ⊢
  cases hhandled with
  | failed e => exact excerpt_of_kept rfl rfl
  | listed k count hc hitems => exact excerpt_of_kept rfl rfl
  | @published name items k data hc htarget hdata =>
    obtain ⟨hname, hk, hitems⟩ := of_target htarget
    have hne : ¬ (name, k) = (stream, key) := by
      rintro ⟨⟩
      exact h data hc hname hk hdata
    have hfailures := (l.called r.command).failures_grown now name k data items
    have hgrown := (l.called r.command).stream?_grown now name k data items
    rw [excerpt_of_grown hfailures hitems hgrown, if_neg hne]
    rfl

/-- A step that spares the record keeps its excerpt, if there is the stream and nothing is made to
fail. -/
theorem excerpt_apply {step : Step} (h : step.Spares stream key)
    (hfailures : l.failures = .all none) (hstream : l.hasStream stream = true) :
    (step.apply l).excerpt stream key = l.excerpt stream key := by
  -- a sparing step touches another key, or sets what is already so
  cases step with
  | createStream name =>
    rw [Step.apply, excerpt_createStream, hstream, Bool.true_or, ← hstream]
    rfl
  | insertRaw now name k data =>
    have hne : ¬ (name, k) = (stream, key) := by
      rintro ⟨⟩
      exact h.stores (.insertRaw now data)
    rw [Step.apply, excerpt_append, if_neg fun h => hne h.2]
  | failWith command error => exact absurd rfl (h.fails command error)
  | clearFailures => exact excerpt_of_kept hfailures.symm rfl
  | post now body =>
    rw [Step.apply]
    cases hbody : Request.decode body with
    | error e => rw [post_of_fault hbody]
    | ok r =>
      rw [state_post hbody]
      exact excerpt_handle now
        (fun data hc hname hk hdata => h.stores (.post now hbody hc hname hk hdata)) l

/-- **A record that is spared stays as it is**, if there is the stream and nothing is made to fail
at the start. -/
theorem excerpt_run {steps : List Step} (h : ∀ step ∈ steps, step.Spares stream key)
    (hfailures : l.failures = .all none) (hstream : l.hasStream stream = true) :
    (run steps l).excerpt stream key = l.excerpt stream key := by
  refine run_induction (P := fun left => left.excerpt stream key = l.excerpt stream key)
    (fun step hstep left hleft => ?_) rfl
  obtain ⟨hf, hs, -⟩ := excerpt_eq_iff.1 hleft
  exact (excerpt_apply (h step hstep) (hf.trans hfailures) (hs.trans hstream)).trans hleft

end Ledger

/-! ### What repositories make of excerpts -/

namespace Repository

variable {α : Type} (r : Repository α) {l l' : Ledger}

theorem findOutcome_congr {s : String}
    (h : l.excerpt r.stream.text (Text.trim s) = l'.excerpt r.stream.text (Text.trim s)) :
    r.findOutcome s l = r.findOutcome s l' := by
  obtain ⟨hfailures, hstream, hdata⟩ := Ledger.excerpt_eq_iff.1 h
  rw [findOutcome, findOutcome, hfailures, hstream, hdata]

theorem saveOutcome_congr {a : α} (h : ∀ key, Catalog.keyOf r.metadata a = some key →
    l.excerpt r.stream.text key = l'.excerpt r.stream.text key) :
    r.saveOutcome a l = r.saveOutcome a l' := by
  rw [saveOutcome, saveOutcome]
  cases hkey : Catalog.keyOf r.metadata a with
  | none => rfl
  | some key =>
    obtain ⟨hfailures, hstream, hdata⟩ := Ledger.excerpt_eq_iff.1 (h key hkey)
    have hdraft : r.draft key a l = r.draft key a l' := by
      rw [draft, draft, hfailures, hstream, hdata]
    dsimp only
    rw [hdraft, hfailures]

/-- A save of `a` adds its data to the excerpt under its own key if it succeeds, and changes no
other excerpt. -/
theorem excerpt_saveLeft (now : Instant) (a : α) (l : Ledger) (stream key : String) :
    (∀ e, r.saveOutcome a l = .error e →
      (r.saveLeft now a l).excerpt stream key = l.excerpt stream key) ∧
    ∀ b, r.saveOutcome a l = .ok b → ∃ k bytes, Catalog.keyOf r.metadata a = some k ∧
      r.format.write a = .ok bytes ∧ (r.saveLeft now a l).excerpt stream key =
        if (r.stream.text, k) = (stream, key) then (l.excerpt stream key).add ⟨bytes⟩
        else l.excerpt stream key := by
  have hleaves := r.leaves_saveLeft now a l
  refine ⟨fun e h => ?_, fun b h => ?_⟩
  · exact Ledger.excerpt_of_kept hleaves.failures (hleaves.kept e h).1
  · obtain ⟨-, bytes, items, item, hwrite, hkey, hdata, hitems, hgrown⟩ := hleaves.grown b h
    refine ⟨item.key, bytes, hkey, hwrite, ?_⟩
    rw [Ledger.excerpt_of_grown hleaves.failures hitems hgrown, hdata]

end Repository

/-! ### Uses of a ledger -/

/-- **What is done with a ledger**: by its owner, or through repositories of entities of any
types. -/
inductive Use : Type 1 where
  | createStream (name : String)
  | failWith (command : Command) (error : ErrorInfo)
  | clearFailures
  | insertRaw (stream key : String) (data : Encoding)
  | find {α : Type} (r : Repository α) (key : String)
  | exists? {α : Type} (r : Repository α) (key : String)
  | save {α : Type} (r : Repository α) (entity : α)

namespace Use

abbrev Result : Type 1 := Σ α : Type, Except RepositoryError α

/-- The stream and the key that a use is aimed at, if it is aimed at one record. A repository trims
the key, and the owner takes it as it is. -/
def place : Use → Option (String × String)
  | createStream _ | failWith _ _ | clearFailures => none
  | insertRaw stream key _ => some (stream, key)
  | find r s | exists? r s => some (r.stream.text, Text.trim s)
  | save r a => (r.metadata.key a).map fun s => (r.stream.text, Text.trim s)

/-- Whether a use is an operation of a repository or an insertion that is not aimed at `place`. -/
def isElsewhere (place : String × String) : Use → Bool
  | createStream _ | failWith _ _ | clearFailures => false
  | u => u.place ≠ some place

variable (clock : UInt64 → Instant) (ids : Nat → RequestId)

def attempt {α : Type} (x : Attempt RepositoryError α) (t : Trace Ledger) :
    Option Result × Trace Ledger :=
  let run := x.dialogue.run ⟨Ledger.node clock, ids⟩ t
  (some ⟨α, run.1⟩, run.2)

/-- **Carries out a use of a ledger.** Only repositories answer. -/
def carryOut (t : Trace Ledger) : Use → Option Result × Trace Ledger
  | createStream name => (none, { t with state := t.state.createStream name })
  | failWith command error => (none, { t with state := t.state.failWith command error })
  | clearFailures => (none, { t with state := t.state.clearFailures })
  | insertRaw stream key data =>
    (none, { t with state := (t.state.append (clock t.state.lastTx) stream key data).2 })
  | find r s => attempt clock ids (r.find s) t
  | exists? r s => attempt clock ids (r.exists? s) t
  | save r a => attempt clock ids (r.save a) t

/-- **The answers to what is aimed at `place`**, along a run. -/
def answersAt (place : String × String) : Trace Ledger → List Use → List Result
  | _, [] => []
  | t, u :: uses =>
    let (answer, t) := u.carryOut clock ids t
    (if u.place = some place then answer.toList else []) ++ answersAt place t uses

/-! ### One use -/

@[simp] theorem answer_attempt {α : Type} (x : Attempt RepositoryError α) (t : Trace Ledger) :
    (attempt clock ids x t).1 = some ⟨α, (x.ending ⟨Ledger.node clock, ids⟩ t).1⟩ := rfl

@[simp] theorem state_attempt {α : Type} (x : Attempt RepositoryError α) (t : Trace Ledger) :
    (attempt clock ids x t).2.state = (x.ending ⟨Ledger.node clock, ids⟩ t).2 := rfl

theorem keyOf_place {α : Type} {r : Repository α} {a : α} {key : String}
    (h : Catalog.keyOf r.metadata a = some key) :
    (save r a).place = some (r.stream.text, key) := by
  rw [Catalog.keyOf, Option.filter_eq_some_iff] at h
  obtain ⟨s, hs, rfl⟩ := Option.map_eq_some_iff.1 h.1
  rw [place, hs]
  rfl

variable {stream key : String}

theorem place_of_isElsewhere {u : Use} {place : String × String}
    (h : u.isElsewhere place = true) : u.place ≠ some place := by
  cases u with
  | createStream | failWith | clearFailures => cases h
  | insertRaw | find | exists? | save => exact of_decide_eq_true h

theorem excerpt_carryOut_of_isElsewhere {u : Use} (h : u.isElsewhere (stream, key) = true)
    (t : Trace Ledger) :
    (u.carryOut clock ids t).2.state.excerpt stream key = t.state.excerpt stream key := by
  have hne := place_of_isElsewhere h
  cases u with
  | createStream | failWith | clearFailures => cases h
  | insertRaw name k data =>
    show Ledger.excerpt _ _ (t.state.append _ name k data).2 = _
    rw [Ledger.excerpt_append, if_neg fun h => hne (congrArg some h.2)]
  | find r s => simp [carryOut]
  | exists? r s => simp [carryOut]
  | save r a =>
    obtain ⟨hkept, hadded⟩ := r.excerpt_saveLeft (clock t.state.lastTx) a t.state stream key
    rw [carryOut, state_attempt, r.ending_save]
    cases ho : r.saveOutcome a t.state with
    | error e => exact hkept e ho
    | ok b =>
      obtain ⟨k, bytes, hkey, -, hleft⟩ := hadded b ho
      rw [keyOf_place hkey] at hne
      rw [hleft, if_neg fun h => hne (congrArg some h)]

section

variable {t t' : Trace Ledger} (clock' : UInt64 → Instant) (ids' : Nat → RequestId)

theorem saveOutcome_of_place {α : Type} {r : Repository α} {a : α}
    (hplace : (save r a).place = some (stream, key))
    (h : t.state.excerpt stream key = t'.state.excerpt stream key) :
    r.saveOutcome a t.state = r.saveOutcome a t'.state := by
  refine r.saveOutcome_congr fun k hkey => ?_
  obtain ⟨rfl, rfl⟩ := Prod.mk.inj (Option.some.inj ((keyOf_place hkey).symm.trans hplace))
  exact h

/-- The answer to what is aimed at a record is told by its excerpt, whatever the clock and the
identifiers are. -/
theorem answer_congr {u : Use} (hplace : u.place = some (stream, key))
    (h : t.state.excerpt stream key = t'.state.excerpt stream key) :
    (u.carryOut clock ids t).1 = (u.carryOut clock' ids' t').1 := by
  cases u with
  | createStream | failWith | clearFailures => cases hplace
  | insertRaw name k data => rfl
  | find r s =>
    obtain ⟨rfl, rfl⟩ := Prod.mk.inj (Option.some.inj hplace)
    simp [carryOut, r.findOutcome_congr h]
  | exists? r s =>
    obtain ⟨rfl, rfl⟩ := Prod.mk.inj (Option.some.inj hplace)
    simp [carryOut, r.findOutcome_congr h]
  | save r a =>
    simp [carryOut, saveOutcome_of_place hplace h]

/-- The excerpt that any use leaves is told by the excerpt before it. -/
theorem excerpt_congr (u : Use) (h : t.state.excerpt stream key = t'.state.excerpt stream key) :
    (u.carryOut clock ids t).2.state.excerpt stream key =
      (u.carryOut clock' ids' t').2.state.excerpt stream key := by
  -- what is aimed elsewhere changes neither excerpt; the rest does the same to both
  by_cases helse : u.isElsewhere (stream, key) = true
  · rw [excerpt_carryOut_of_isElsewhere clock ids helse, h,
      excerpt_carryOut_of_isElsewhere clock' ids' helse]
  obtain ⟨hfailures, hstream, hdata⟩ := Ledger.excerpt_eq_iff.1 h
  cases u with
  | createStream name =>
    show (t.state.createStream name).excerpt _ _ = (t'.state.createStream name).excerpt _ _
    simp [h, hstream]
  | failWith command error =>
    refine Ledger.excerpt_eq_iff.2 ⟨?_, hstream, hdata⟩
    exact congrArg (PerCommand.set · command (some error)) hfailures
  | clearFailures => exact Ledger.excerpt_eq_iff.2 ⟨rfl, hstream, hdata⟩
  | insertRaw name k data =>
    have hplace : (insertRaw name k data).place = some (stream, key) := by
      simpa [isElsewhere] using helse
    obtain ⟨rfl, rfl⟩ := Prod.mk.inj (Option.some.inj hplace)
    show (t.state.append _ name k data).2.excerpt _ _ =
      (t'.state.append _ name k data).2.excerpt _ _
    rw [Ledger.excerpt_append, Ledger.excerpt_append, h, hstream]
  | find r s => simp [carryOut, h]
  | exists? r s => simp [carryOut, h]
  | save r a =>
    have hplace : (save r a).place = some (stream, key) := by simpa [isElsewhere] using helse
    have houtcome := saveOutcome_of_place hplace h
    obtain ⟨hkept, hadded⟩ := r.excerpt_saveLeft (clock t.state.lastTx) a t.state stream key
    obtain ⟨hkept', hadded'⟩ := r.excerpt_saveLeft (clock' t'.state.lastTx) a t'.state stream key
    rw [carryOut, carryOut, state_attempt, state_attempt, r.ending_save, r.ending_save]
    cases ho : r.saveOutcome a t.state with
    | error e => rw [hkept e ho, hkept' e (houtcome ▸ ho), h]
    | ok b =>
      obtain ⟨k, bytes, hkey, hwrite, hleft⟩ := hadded b ho
      obtain ⟨k', bytes', hkey', hwrite', hleft'⟩ := hadded' b (houtcome ▸ ho)
      cases hkey.symm.trans hkey'
      cases hwrite.symm.trans hwrite'
      rw [hleft, hleft', h]

end

/-! ### Runs -/

/-- `answers_isolated` from two ledgers with the same excerpt. -/
theorem answersAt_filter (clock clock' : UInt64 → Instant) (ids ids' : Nat → RequestId)
    {deleted : Use → Bool} (hdeleted : ∀ u, deleted u = true → u.isElsewhere (stream, key) = true)
    (uses : List Use) {t t' : Trace Ledger}
    (h : t.state.excerpt stream key = t'.state.excerpt stream key) :
    answersAt clock ids (stream, key) t uses =
      answersAt clock' ids' (stream, key) t' (uses.filter fun u => !deleted u) := by
  -- the runs part where a use is left out, but their excerpts stay the same throughout
  induction uses generalizing t t' with
  | nil => rfl
  | cons u uses ih =>
    rw [answersAt]
    dsimp only
    by_cases hu : deleted u = true
    · have helse := hdeleted u hu
      have hleft := excerpt_carryOut_of_isElsewhere clock ids helse t
      rw [if_neg (place_of_isElsewhere helse), List.nil_append,
        List.filter_cons_of_neg (by simp [hu])]
      exact ih (hleft.trans h)
    · rw [List.filter_cons_of_pos (by simp [hu]), answersAt]
      dsimp only
      rw [ih (excerpt_congr clock ids clock' ids' u h)]
      by_cases hplace : u.place = some (stream, key)
      · rw [if_pos hplace, if_pos hplace, answer_congr clock ids clock' ids' hplace h]
      · rw [if_neg hplace, if_neg hplace]

/-- **Records are isolated.** Along `uses`, the answers of repositories to what is aimed at `stream`
and `key` are the same when any of the operations and insertions that are aimed elsewhere are
`deleted`, and all else is kept; neither the clock nor the identifiers of requests make a
difference. -/
theorem answers_isolated (stream key : String) (l : Ledger) (uses : List Use)
    (deleted : Use → Bool) (hdeleted : ∀ u, deleted u = true → u.isElsewhere (stream, key) = true)
    (clock clock' : UInt64 → Instant) (ids ids' : Nat → RequestId) (drawn drawn' : Nat) :
    answersAt clock ids (stream, key) (.start l drawn) uses =
      answersAt clock' ids' (stream, key) (.start l drawn') (uses.filter fun u => !deleted u) :=
  answersAt_filter clock clock' ids ids' hdeleted uses rfl

/-- An item whose key has a blank at its end is stored elsewhere, and so is one in another stream;
neither is in the way of the record under the key without the blank. -/
theorem answers_isolated_untrimmed_key :
    let now : UInt64 → Instant := fun _ => .ofSeconds 0 (by decide)
    let ids : Nat → RequestId := fun _ => ⟨"id"⟩
    let notes : Repository Samples.Note :=
      ⟨Samples.Note.format, ⟨⟨"notes", by decide, by decide⟩, fun n => some n.id⟩, .absent⟩
    let start : Trace Ledger := .start (.withStreams ["notes", "drafts"]) 0
    let aimed : List Use := [.save notes ⟨" a", "text"⟩, .failWith .publish ⟨-1, "down"⟩,
      .find notes "a\t", .save notes ⟨"a", "other"⟩]
    answersAt now ids ("notes", "a") start ([.insertRaw "notes" "a " .empty,
        .insertRaw "drafts" "a" .empty, .exists? notes "b"] ++ aimed) =
      answersAt now ids ("notes", "a") start aimed := by
  intro now ids notes start aimed
  exact answers_isolated "notes" "a" _ _ (isElsewhere ("notes", "a")) (fun _ h => h) now now ids ids
    0 0

end Use

end StreamRecords
