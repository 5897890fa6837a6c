import Mathlib.Data.List.Induction
import StreamRecords.Proofs.Repository.Outcome

/-!
Entities that are stored one after the other. On a ledger that has the stream and fails no command,
the longest run of entities at the start that can all be stored is stored, in its order; the next
entity decides how it ends, and those after it have no part in it.
-/

namespace StreamRecords.Repository

open Json Rpc Time Dialogue

variable {α : Type} (r : Repository α)

/-! ### One after the other -/

section

variable {σ : Type} (setting : Setting σ)

theorem run_saveAll_cons (a : α) (as : List α) (t : Trace σ) :
    let first := (r.save a).dialogue.run setting t
    let later := (r.saveAll as).dialogue.run setting first.2
    (r.saveAll (a :: as)).dialogue.run setting t =
      match first.1 with
      | .error e => (.error e, first.2)
      | .ok b => (later.1.map (b :: ·), later.2) := by
  dsimp only
  rw [saveAll, Attempt.run_bind]
  obtain ⟨saved, left⟩ := (r.save a).dialogue.run setting t
  cases saved with
  | error e => rfl
  | ok b =>
    dsimp only
    rw [bind_pure_comp, Attempt.run_map]

/-- **`bs` are stored after `as`**, unless one of `as` cannot be stored, after which nothing
happens. -/
theorem run_saveAll_append (as bs : List α) (t : Trace σ) :
    let first := (r.saveAll as).dialogue.run setting t
    let later := (r.saveAll bs).dialogue.run setting first.2
    (r.saveAll (as ++ bs)).dialogue.run setting t =
      match first.1 with
      | .error e => (.error e, first.2)
      | .ok stored => (later.1.map (stored ++ ·), later.2) := by
  -- induction on `as`: each save leaves another trace, so the statement is for all of them
  induction as generalizing t with
  | nil =>
    show (r.saveAll bs).dialogue.run setting t = (Except.map id _, _)
    rw [Except.map_id]
    rfl
  | cons a as ih =>
    rw [List.cons_append, run_saveAll_cons, run_saveAll_cons]
    cases ((r.save a).dialogue.run setting t).1 with
    | error e => rfl
    | ok b =>
      dsimp only
      rw [ih]
      cases ((r.saveAll as).dialogue.run setting ((r.save a).dialogue.run setting t).2).1 with
      | error e => rfl
      | ok stored => exact Prod.ext (Except.map_map _ (stored ++ ·) (b :: ·)) rfl

variable {before after stored : List α} {a b : α} {t : Trace σ} {e : RepositoryError}

/-- The first entity `a` that cannot be stored ends it, and those `after` it have no part in it. -/
theorem run_saveAll_of_error
    (hbefore : ((r.saveAll before).dialogue.run setting t).1 = .ok stored)
    (ha : ((r.save a).dialogue.run setting
      ((r.saveAll before).dialogue.run setting t).2).1 = .error e) :
    (r.saveAll (before ++ a :: after)).dialogue.run setting t =
      (.error e, ((r.save a).dialogue.run setting
        ((r.saveAll before).dialogue.run setting t).2).2) := by
  rw [run_saveAll_append, hbefore]
  dsimp only
  rw [run_saveAll_cons, ha]
  rfl

theorem run_saveAll_concat
    (hbefore : ((r.saveAll before).dialogue.run setting t).1 = .ok stored)
    (ha : ((r.save a).dialogue.run setting
      ((r.saveAll before).dialogue.run setting t).2).1 = .ok b) :
    (r.saveAll (before ++ [a])).dialogue.run setting t =
      (.ok (stored ++ [b]), ((r.save a).dialogue.run setting
        ((r.saveAll before).dialogue.run setting t).2).2) := by
  rw [run_saveAll_append, hbefore]
  dsimp only
  rw [run_saveAll_cons, ha]
  rfl

end

/-! ### What can be stored -/

/-- **What keeps `a` from being stored** where the keys `held` are taken: the first of these that
applies. -/
def obstacle (held : List String) (a : α) : Option RepositoryError :=
  match Catalog.keyOf r.metadata a with
  | none => some (.missingKey r.stream.text)
  | some key =>
    if key ∈ held then some (.duplicateKey r.stream.text key)
    else
      match Codec.serialize r.format a with
      | .error e => some (.codec e)
      | .ok _ => none

def keys (as : List α) : List String := as.filterMap (Catalog.keyOf r.metadata)

/-- The keys that are taken by `items` of the stream, and then by the entities `as` that are stored
behind them. -/
def held (items : List Item) (as : List α) : List String := items.map Item.key ++ r.keys as

/-- **The entities `as` can be stored behind `items`**, all of them: each has a key and can be
written, no two have the same key, and none has the key of an item. -/
structure Storable (items : List Item) (as : List α) : Prop where
  keyed : ∀ a ∈ as, ∃ key, Catalog.keyOf r.metadata a = some key
  written : ∀ a ∈ as, ∃ data, Codec.serialize r.format a = .ok data
  distinct : (r.keys as).Nodup
  free : ∀ key ∈ r.keys as, key ∉ items.map Item.key

theorem obstacle_eq_none_iff {held : List String} {a : α} :
    r.obstacle held a = none ↔ ∃ key data, Catalog.keyOf r.metadata a = some key ∧ key ∉ held ∧
      Codec.serialize r.format a = .ok data := by
  rw [obstacle]
  cases Catalog.keyOf r.metadata a with
  | none => simp
  | some key =>
    by_cases hkey : key ∈ held
    · simp [hkey]
    · cases Codec.serialize r.format a <;> simp [hkey]

theorem keys_concat {a : α} {key : String} (h : Catalog.keyOf r.metadata a = some key)
    (as : List α) : r.keys (as ++ [a]) = r.keys as ++ [key] := by
  rw [keys, List.filterMap_append, List.filterMap_cons_some h, List.filterMap_nil, keys]

theorem storable_nil (items : List Item) : r.Storable items [] :=
  ⟨by simp, by simp, List.nodup_nil, by simp [keys]⟩

/-- `Storable` one entity at a time: `a` can be stored behind `as` if nothing keeps it from it once
they are. -/
theorem storable_concat {items : List Item} {as : List α} {a : α} :
    r.Storable items (as ++ [a]) ↔
      r.Storable items as ∧ r.obstacle (r.held items as) a = none := by
  rw [obstacle_eq_none_iff]
  -- the new key is free of the items and of the keys before it, which is what `held` joins
  constructor
  · intro h
    obtain ⟨key, hkey⟩ := h.keyed a (by simp)
    obtain ⟨data, hdata⟩ := h.written a (by simp)
    have hdistinct := h.distinct
    have hfree := h.free
    rw [r.keys_concat hkey] at hdistinct hfree
    obtain ⟨hnodup, -, hnew⟩ := List.nodup_append.1 hdistinct
    refine ⟨⟨fun b hb => h.keyed b (by simp [hb]), fun b hb => h.written b (by simp [hb]), hnodup,
      fun k hk => hfree k (by simp [hk])⟩, key, data, hkey, ?_, hdata⟩
    intro hheld
    rcases List.mem_append.1 hheld with hitem | hearlier
    · exact hfree key (by simp) hitem
    · exact hnew key hearlier key (List.mem_singleton_self key) rfl
  · rintro ⟨h, key, data, hkey, hheld, hdata⟩
    have hitem : key ∉ items.map Item.key := fun hmem => hheld (List.mem_append_left _ hmem)
    have hearlier : key ∉ r.keys as := fun hmem => hheld (List.mem_append_right _ hmem)
    refine ⟨?_, ?_, ?_, ?_⟩
    · intro b hb
      rcases List.mem_append.1 hb with hb | hb
      · exact h.keyed b hb
      · exact ⟨key, List.mem_singleton.1 hb ▸ hkey⟩
    · intro b hb
      rcases List.mem_append.1 hb with hb | hb
      · exact h.written b hb
      · exact ⟨data, List.mem_singleton.1 hb ▸ hdata⟩
    · rw [r.keys_concat hkey, List.nodup_append]
      refine ⟨h.distinct, by simp, ?_⟩
      intro k hk k' hk' heq
      rw [heq, List.mem_singleton.1 hk'] at hk
      exact hearlier hk
    · intro k hk
      rw [r.keys_concat hkey] at hk
      rcases List.mem_append.1 hk with hk | hk
      · exact h.free k hk
      · exact List.mem_singleton.1 hk ▸ hitem

/-- **`a` is the first that cannot be stored**: those `before` it can be, and then `e` keeps `a`
from being stored. -/
structure StopsAt (items : List Item) (before : List α) (a : α) (e : RepositoryError) : Prop where
  storable : r.Storable items before
  obstacle : r.obstacle (r.held items before) a = some e

theorem exists_stopsAt_of_not_storable {items : List Item} {as : List α}
    (h : ¬ r.Storable items as) : ∃ before a after e, as = before ++ a :: after ∧
      r.StopsAt items before a e := by
  induction as using List.reverseRecOn with
  | nil => exact absurd (r.storable_nil items) h
  | append_singleton as a ih =>
    by_cases has : r.Storable items as
    · cases ho : r.obstacle (r.held items as) a with
      | none => exact absurd (r.storable_concat.2 ⟨has, ho⟩) h
      | some e => exact ⟨as, a, [], e, rfl, has, ho⟩
    · obtain ⟨before, b, after, e, rfl, hstops⟩ := ih has
      exact ⟨before, b, after ++ [a], e, by simp, hstops⟩

/-! ### On a ledger -/

def ofItem (i : Item) : Option String × Except CodecError Encoding := (some i.key, .ok i.data)

/-- The key and the data that the item of `a` will have. -/
def ofEntity (a : α) : Option String × Except CodecError Encoding :=
  (Catalog.keyOf r.metadata a, Codec.serialize r.format a)

/-- **The entities `as` have been stored** behind `items` of the stream, one item for each and in
their order, after so many `listings`, and nothing else has changed. -/
structure HasStored (items : List Item) (as : List α) (listings : Nat) (l left : Ledger) :
    Prop where
  stream : ∃ new, left.stream? r.stream.text = some (items ++ new) ∧
    new.map ofItem = as.map r.ofEntity
  others : ∀ name, name ≠ r.stream.text → left.stream? name = l.stream? name
  listings : left.callCount .listItems = l.callCount .listItems + listings
  publications : left.callCount .publish = l.callCount .publish + as.length
  failures : left.failures = l.failures

theorem map_key_of_map_ofItem {new : List Item} {as : List α}
    (h : new.map ofItem = as.map r.ofEntity) : new.map Item.key = r.keys as := by
  have hkeys := congrArg (List.filterMap Prod.fst) h
  rw [List.filterMap_map, List.filterMap_map, show Prod.fst ∘ ofItem = some ∘ Item.key from rfl,
    List.filterMap_eq_map] at hkeys
  exact hkeys

/-- Where nothing fails and there is the stream, `saveOutcome` goes by the keys of its items. -/
theorem saveOutcome_of_stream? {l : Ledger} {items : List Item} (hfailures : l.failures = .all none)
    (hitems : l.stream? r.stream.text = some items) (a : α) :
    r.saveOutcome a l = (r.obstacle (items.map Item.key) a).elim (.ok a) .error := by
  rw [saveOutcome, obstacle]
  cases Catalog.keyOf r.metadata a with
  | none => rfl
  | some key =>
    have hdata : l.dataUnder r.stream.text key = [] ↔ key ∉ items.map Item.key := by
      rw [Ledger.dataUnder_of_some hitems, List.map_eq_nil_iff, List.filter_eq_nil_iff]
      simp
    dsimp only
    rw [draft, hfailures, Ledger.hasStream_of_some hitems]
    by_cases hkey : key ∈ items.map Item.key
    · rw [if_pos hkey]
      simp [PerCommand.all, hdata, hkey]
    · rw [if_neg hkey]
      cases Codec.serialize r.format a <;> simp [PerCommand.all, hdata, hkey, Except.mapError]

/-- `HasStored` after one more entity that nothing keeps from being stored. -/
theorem hasStored_saveLeft {l left : Ledger} {items : List Item} {as : List α} {a : α}
    (h : r.HasStored items as as.length l left)
    (ha : r.saveOutcome a left = .ok a) (now : Instant) :
    r.HasStored items (as ++ [a]) (as ++ [a]).length l (r.saveLeft now a left) := by
  have hleaves := r.leaves_saveLeft now a left
  rw [ha] at hleaves
  obtain ⟨-, bytes, stored, item, hwrite, hkey, hdata, hstored, hgrown⟩ := hleaves.grown a rfl
  obtain ⟨new, hnew, hmap⟩ := h.stream
  cases hstored.symm.trans hnew
  have hitem : ofItem item = r.ofEntity a := by
    rw [ofItem, ofEntity, hkey, hdata, Codec.serialize, hwrite]
  refine ⟨⟨new ++ [item], ?_, ?_⟩, ?_, ?_, ?_, hleaves.failures.trans h.failures⟩
  · rw [hgrown, if_pos rfl, List.append_assoc]
  · rw [List.map_append, List.map_append, hmap, List.map_singleton, List.map_singleton, hitem]
  · intro name hname
    rw [hgrown, if_neg (Ne.symm hname), h.others name hname]
  · rw [hleaves.listings, h.listings, List.length_append]
    rfl
  · rw [hleaves.publications, h.publications, List.length_append]
    rfl

/-- What keeps an entity from being stored comes before its publication, and after its listing
unless it has no key. -/
theorem listed_of_obstacle {held : List String} {a : α} {e : RepositoryError}
    (h : r.obstacle held a = some e) :
    hasListed (.error e : Except RepositoryError α) =
        decide (Catalog.keyOf r.metadata a ≠ none) ∧
      hasPublished (.error e : Except RepositoryError α) = false := by
  rw [obstacle] at h
  cases hkey : Catalog.keyOf r.metadata a with
  | none =>
    rw [hkey] at h
    cases h
    exact ⟨rfl, rfl⟩
  | some key =>
    rw [hkey] at h
    dsimp only at h
    split at h
    · cases h
      exact ⟨rfl, rfl⟩
    · split at h
      · cases h
        exact ⟨rfl, rfl⟩
      · cases h

/-- `HasStored` after one more entity that something keeps from being stored. -/
theorem hasStored_of_obstacle {l left : Ledger} {items : List Item} {as : List α} {a : α}
    {held : List String} {e : RepositoryError} (h : r.HasStored items as as.length l left)
    (ho : r.obstacle held a = some e) (ha : r.saveOutcome a left = .error e) (now : Instant) :
    r.HasStored items as (as.length + if Catalog.keyOf r.metadata a = none then 0 else 1) l
      (r.saveLeft now a left) := by
  obtain ⟨hlisted, hpublished⟩ := r.listed_of_obstacle ho
  have hleaves := r.leaves_saveLeft now a left
  rw [ha] at hleaves
  have hkept (name : String) : (r.saveLeft now a left).stream? name = left.stream? name :=
    congrArg (Dict.get? name) (hleaves.kept e rfl).1
  refine ⟨?_, ?_, ?_, ?_, hleaves.failures.trans h.failures⟩
  · rw [hkept]
    exact h.stream
  · intro name hname
    rw [hkept, h.others name hname]
  · rw [hleaves.listings, hlisted, h.listings]
    by_cases hkey : Catalog.keyOf r.metadata a = none <;> simp [hkey, Nat.add_assoc]
  · rw [hleaves.publications, hpublished, h.publications]
    rfl

section

variable (clock : UInt64 → Instant) (ids : Nat → RequestId) {t : Trace Ledger} {items : List Item}

@[simp] theorem value_save (a : α) (t : Trace Ledger) :
    ((r.save a).dialogue.run ⟨Ledger.node clock, ids⟩ t).1 = r.saveOutcome a t.state :=
  congrArg Prod.fst (r.ending_save clock ids t a)

@[simp] theorem state_save (a : α) (t : Trace Ledger) :
    ((r.save a).dialogue.run ⟨Ledger.node clock, ids⟩ t).2.state =
      r.saveLeft (clock t.state.lastTx) a t.state :=
  congrArg Prod.snd (r.ending_save clock ids t a)

/-- Once `as` have been stored, `saveOutcome` goes by the keys that are held then. -/
theorem saveOutcome_of_hasStored {l left : Ledger} {as : List α} {listings : Nat}
    (h : r.HasStored items as listings l left) (hfailures : l.failures = .all none) (a : α) :
    r.saveOutcome a left = (r.obstacle (r.held items as) a).elim (.ok a) .error := by
  obtain ⟨new, hnew, hmap⟩ := h.stream
  rw [r.saveOutcome_of_stream? (h.failures.trans hfailures) hnew, List.map_append,
    r.map_key_of_map_ofItem hmap, held]

theorem run_saveAll_of_storable {as : List α} (h : r.Storable items as)
    (hfailures : t.state.failures = .all none)
    (hitems : t.state.stream? r.stream.text = some items) :
    ((r.saveAll as).dialogue.run ⟨Ledger.node clock, ids⟩ t).1 = .ok as ∧
      r.HasStored items as as.length t.state
        ((r.saveAll as).dialogue.run ⟨Ledger.node clock, ids⟩ t).2.state := by
  induction as using List.reverseRecOn with
  | nil =>
    refine ⟨rfl, ⟨[], ?_, rfl⟩, fun _ _ => rfl, rfl, rfl, rfl⟩
    show t.state.stream? r.stream.text = _
    rw [hitems, List.append_nil]
  | append_singleton as a ih =>
    obtain ⟨has, ho⟩ := r.storable_concat.1 h
    obtain ⟨hvalue, hstored⟩ := ih has
    have ha := r.saveOutcome_of_hasStored hstored hfailures a
    rw [ho] at ha
    rw [r.run_saveAll_concat _ hvalue ((r.value_save clock ids a _).trans ha)]
    refine ⟨rfl, ?_⟩
    rw [state_save]
    exact r.hasStored_saveLeft hstored ha _

/-- **Where `a` cannot be stored**, those `before` it are, and those `after` it have no part. -/
theorem run_saveAll_of_stopsAt {before : List α} {a : α} {e : RepositoryError}
    (h : r.StopsAt items before a e) (after : List α) (hfailures : t.state.failures = .all none)
    (hitems : t.state.stream? r.stream.text = some items) :
    let setting : Setting Ledger := ⟨Ledger.node clock, ids⟩
    let run := (r.saveAll (before ++ a :: after)).dialogue.run setting t
    let single := (r.save a).dialogue.run setting ((r.saveAll before).dialogue.run setting t).2
    single.1 = .error e ∧ run = (.error e, single.2) ∧
      r.HasStored items before
        (before.length + if Catalog.keyOf r.metadata a = none then 0 else 1) t.state
        run.2.state := by
  intro setting run single
  obtain ⟨hvalue, hstored⟩ := r.run_saveAll_of_storable clock ids h.storable hfailures hitems
  have ha := r.saveOutcome_of_hasStored hstored hfailures a
  rw [h.obstacle] at ha
  have hsingle : single.1 = .error e := (r.value_save clock ids a _).trans ha
  have hrun : run = (.error e, single.2) := r.run_saveAll_of_error setting hvalue hsingle
  refine ⟨hsingle, hrun, ?_⟩
  rw [hrun, state_save]
  exact r.hasStored_of_obstacle hstored h.obstacle ha _

/-- **The longest run of entities at the start that can be stored is stored**, on a ledger that has
the stream and fails no command. All of `as` are stored exactly if they are `Storable`. Otherwise
there is a first entity that cannot be stored: those before it are stored, it fails as a single save
of it would then, and those after it have no part in what happens. Nothing at all happens for no
entities. -/
theorem saves_in_order :
    (∀ t, (r.saveAll []).dialogue.run ⟨Ledger.node clock, ids⟩ t = (.ok [], t)) ∧
    ∀ (t : Trace Ledger) (items : List Item) (as : List α), t.state.failures = .all none →
      t.state.stream? r.stream.text = some items →
      let setting : Setting Ledger := ⟨Ledger.node clock, ids⟩
      let run := (r.saveAll as).dialogue.run setting t
      (run.1 = .ok as ↔ r.Storable items as) ∧
      (r.Storable items as → r.HasStored items as as.length t.state run.2.state) ∧
      (¬ r.Storable items as → ∃ before a after e, as = before ++ a :: after ∧
        r.StopsAt items before a e) ∧
      ∀ before a after e, as = before ++ a :: after → r.StopsAt items before a e →
        let single := (r.save a).dialogue.run setting ((r.saveAll before).dialogue.run setting t).2
        single.1 = .error e ∧ run = (.error e, single.2) ∧
          r.HasStored items before
            (before.length + if Catalog.keyOf r.metadata a = none then 0 else 1) t.state
            run.2.state := by
  refine ⟨fun _ => rfl, ?_⟩
  intro t items as hfailures hitems setting run
  have hstored (h : r.Storable items as) := r.run_saveAll_of_storable clock ids h hfailures hitems
  refine ⟨⟨fun hok => ?_, fun h => (hstored h).1⟩, fun h => (hstored h).2,
    r.exists_stopsAt_of_not_storable, ?_⟩
  -- what cannot be stored makes the run fail, so success tells that all can be
  · by_contra h
    obtain ⟨before, a, after, e, rfl, hstops⟩ := r.exists_stopsAt_of_not_storable h
    have hrun : run = _ := (r.run_saveAll_of_stopsAt clock ids hstops after hfailures hitems).2.1
    rw [hrun] at hok
    cases hok
  · rintro before a after e rfl hstops
    exact r.run_saveAll_of_stopsAt clock ids hstops after hfailures hitems

end

/-- The third of four records has the key of the first but for a blank, so the first two are stored
and the last, which cannot be written, is of no account. -/
theorem saves_in_order_padded_keys :
    let r : Repository Samples.Fragile :=
      ⟨Samples.Fragile.format, ⟨⟨"notes", by decide, by decide⟩, fun f => some f.id⟩, .absent⟩
    let clock : UInt64 → Instant := fun _ => .ofSeconds 0 (by decide)
    let ids : Nat → RequestId := fun _ => ⟨"id"⟩
    let t : Trace Ledger := .start (.withStreams ["notes"]) 0
    let fragile : List Samples.Fragile := [⟨"a"⟩, ⟨"b "⟩, ⟨"\ta"⟩, ⟨"bad"⟩]
    let run := (r.saveAll fragile).dialogue.run ⟨Ledger.node clock, ids⟩ t
    t.state.failures = .all none ∧ t.state.stream? r.stream.text = some [] ∧
      run.1 = .error (.duplicateKey "notes" "a") ∧
      ∃ new, run.2.state.stream? r.stream.text = some new ∧ new.map Item.key = ["a", "b"] := by
  intro r clock ids t fragile
  have hfailures : t.state.failures = .all none := rfl
  have hstream : t.state.stream? r.stream.text = some [] := rfl
  have hkeys : r.keys [⟨"a"⟩, ⟨"b "⟩] = ["a", "b"] := rfl
  have hstops : r.StopsAt [] [⟨"a"⟩, ⟨"b "⟩] ⟨"\ta"⟩ (.duplicateKey "notes" "a") := by
    refine ⟨⟨?_, ?_, ?_, ?_⟩, rfl⟩
    · simpa using ⟨⟨"a", rfl⟩, ⟨"b", rfl⟩⟩
    · simpa using ⟨⟨_, rfl⟩, ⟨_, rfl⟩⟩
    · rw [hkeys]
      decide
    · simp
  have hstopped := ((r.saves_in_order clock ids).2 t [] fragile hfailures hstream).2.2.2
  have hrun := hstopped [⟨"a"⟩, ⟨"b "⟩] ⟨"\ta"⟩ [⟨"bad"⟩] _ rfl hstops
  obtain ⟨new, hnew, hmap⟩ := hrun.2.2.stream
  refine ⟨hfailures, hstream, congrArg Prod.fst hrun.2.1, new, hnew, ?_⟩
  rw [r.map_key_of_map_ofItem hmap, hkeys]

end StreamRecords.Repository
