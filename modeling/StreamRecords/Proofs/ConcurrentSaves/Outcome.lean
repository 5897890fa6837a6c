import StreamRecords.Proofs.ConcurrentSaves.Interleaving
import StreamRecords.Samples

/-!
What comes of saves that run at the same time: which of them succeed, what they leave on the ledger,
and what the next lookup makes of it.
-/

namespace StreamRecords

open Json Rpc Time

variable {α : Type} {stream : StreamName}

/-- The save in the place `i`, if it has succeeded. -/
def succeededAt (saves : List (Save α stream)) (results : List (Option (Except RepositoryError α)))
    (i : Nat) : Option (Save α stream) :=
  match results[i]? with
  | some (some (.ok _)) => saves[i]?
  | _ => none

/-- **What is found under a key that was free**, by the saves that have published under it. -/
def Save.found {β : Type} (format : Format β) :
    List (Save α stream) → Except RepositoryError (Option β)
  | [] => .ok none
  | [save] => (Codec.deserializeEncoding format save.data).mapError .codec
  | _ => .error (.incorrectResultSize 1 2)

theorem Repository.foundIn_of_records {β : Type} (r : Repository β) (key : RecordKey)
    {items : List Item} {published : List (Save α stream)}
    (h : items.map Item.record = published.map Save.record) :
    r.foundIn key ((items.take 2).map Item.floored) = Save.found r.format published := by
  -- none, one or more: items and saves go together, since they have the same records
  cases items with
  | nil =>
    cases published with
    | nil => rfl
    | cons save published => cases h
  | cons item items =>
    cases published with
    | nil => cases h
    | cons save published =>
      obtain ⟨hrecord, hrest⟩ := List.cons.inj h
      cases items with
      | nil =>
        cases published with
        | cons next published => cases hrest
        | nil =>
          have hdata : item.data = save.data := congrArg Prod.snd hrecord
          have hempty : ¬ item.floored.data.isEmpty = true := by
            show ¬ item.data.isEmpty = true
            rw [hdata, Codec.isEmpty_of_serialize save.data_eq]
            decide
          show r.foundIn key [item.floored] = _
          rw [foundIn, if_neg hempty, Save.found, ← hdata]
          rfl
      | cons next items =>
        cases published with
        | nil => cases hrest
        | cons next' published => rfl

theorem Save.eq_saved_of_outcome (save : Save α stream) {stage : Stage} {a : α}
    (h : save.outcome stage = some (.ok a)) : stage = .saved := by
  cases stage with
  | saved => rfl
  | _ => cases h

namespace Follows

variable {old : List Item} {saves : List (Save α stream)} {b : Board α stream}
  {ds : List (Dialogue (Except RepositoryError α))} {l : Ledger}

theorem getElem?_results_eq_none (h : Follows old saves b ds l) {i : Nat} (hi : saves[i]? = none) :
    (ds.map Dialogue.value?)[i]? = none := by
  rw [List.getElem?_map, h.getElem?_eq_none hi]
  rfl

/-- The saves that have succeeded are those that have published. -/
theorem succeededAt_eq (h : Follows old saves b ds l) :
    succeededAt saves (ds.map Dialogue.value?) = Board.savedAt saves b := by
  funext i
  rw [succeededAt, Board.savedAt]
  cases hi : saves[i]? with
  | none =>
    rw [h.getElem?_results_eq_none hi, ite_self]
  | some save =>
    rw [h.getElem?_map_value? hi]
    cases b.stages i <;> rfl

/-- The items under a `key` that no old item has are what was published under it. -/
theorem records_of_free (h : Follows old saves b ds l) {key : String}
    (hfree : old.filter (·.key = key) = []) :
    (l.items stream.text key).map Item.record =
      (b.published.filter (·.key.text = key)).map Save.record := by
  obtain ⟨items, hs, hrecords⟩ := h.content
  have hfilter := congrArg (List.filter fun record => decide (record.1 = key)) hrecords
  rw [List.filter_map, List.filter_map] at hfilter
  rw [l.items_of_some hs, List.filter_append, hfree, List.nil_append]
  exact hfilter

theorem value_find {t : Trace Ledger} (h : Follows old saves b ds t.state)
    (clock : UInt64 → Instant) (ids : Nat → RequestId) {β : Type} (r : Repository β)
    (hr : r.stream = stream) {s : String} (hs : Text.trim s ≠ "")
    (hfree : old.filter (·.key = Text.trim s) = []) :
    ((r.find s).dialogue.run ⟨Ledger.node clock, ids⟩ t).1 =
      Save.found r.format (b.published.filter (·.key.text = Text.trim s)) := by
  obtain ⟨items, hitems, -⟩ := h.content
  have hrecords := h.records_of_free hfree
  have hlisted := Ledger.listed_of_some h.failures hitems (Text.trim s)
  rw [Attempt.value_run, Repository.run_quiet_find, RecordKey.parse_of_ne hs]
  dsimp only
  rw [(r.lookup_on_ledger clock ids _ t.quiet).1, hr]
  show (t.state.listed stream.text (Text.trim s) >>= _) = _
  rw [hlisted]
  exact r.foundIn_of_records _ hrecords

end Follows

/-! ### On a schedule -/

section

variable {saves : List (Save α stream)} {old : List Item} {schedule : List Nat} {i : Nat}
  {save : Save α stream}

/-- The save in the place `i` is refused exactly if its key is taken in its first turn. -/
theorem Save.outcome_stages_play (hi : saves[i]? = some save) {before : List Nat}
    (hbefore : i ∉ before) (after : List Nat) {ds : List (Dialogue (Except RepositoryError α))}
    {l : Ledger} (h : Follows old saves (Board.start.play old saves before) ds l) :
    save.outcome ((Board.start.play old saves (before ++ i :: after)).stages i) =
      if l.items stream.text save.key.text ≠ [] then
        some (.error (.duplicateKey stream.text save.key.text))
      else if i ∈ after then some (.ok save.entity) else none := by
  have hitems := h.items_eq_nil_iff save.key.text
  rw [Board.stages_play hi hbefore]
  cases htaken : (Board.start.play old saves before).isTaken old save.key.text with
  | true =>
    have hne : l.items stream.text save.key.text ≠ [] := by
      intro hnil
      cases htaken.symm.trans (hitems.1 hnil)
    rw [if_pos rfl, if_pos hne]
    rfl
  | false =>
    have hnil : ¬ l.items stream.text save.key.text ≠ [] := not_not_intro (hitems.2 htaken)
    rw [if_neg hnil, if_neg Bool.false_ne_true]
    split <;> rfl

/-- If `save` has come to its end under a key that was free, it has succeeded or another has. -/
theorem exists_saved (hfree : old.filter (·.key = save.key.text) = []) (hi : saves[i]? = some save)
    (hended : save.outcome ((Board.start.play old saves schedule).stages i) ≠ none) :
    ∃ (j : Nat) (winner : Save α stream), saves[j]? = some winner ∧
      winner.key.text = save.key.text ∧
      (Board.start.play old saves schedule).stages j = .saved := by
  cases hstage : (Board.start.play old saves schedule).stages i with
  | waiting | cleared =>
    rw [hstage] at hended
    exact absurd rfl hended
  | saved => exact ⟨i, save, hi, rfl, hstage⟩
  | refused =>
    -- its key is taken, and by no old item: a save has published under it
    have htaken := Board.isTaken_of_refused hi hstage
    have hold : old.any (·.key = save.key.text) = false := by
      rw [List.any_eq_false]
      exact List.filter_eq_nil_iff.1 hfree
    rw [Board.isTaken, hold, Bool.false_or, Board.published_play] at htaken
    obtain ⟨winner, hmem, hkey⟩ := List.any_eq_true.1 htaken
    obtain ⟨j, -, hj⟩ := List.mem_filterMap.1 hmem
    rw [Board.savedAt] at hj
    split at hj
    · next hsaved => exact ⟨j, winner, hj, of_decide_eq_true hkey, hsaved⟩
    · cases hj

variable {ds : List (Dialogue (Except RepositoryError α))} {l : Ledger}

/-- What was published are the saves that have succeeded, in the order of their second turns. -/
theorem Follows.published_eq (h : Follows old saves (Board.start.play old saves schedule) ds l) :
    (Board.start.play old saves schedule).published =
      (secondTurns schedule).filterMap (succeededAt saves (ds.map Dialogue.value?)) := by
  rw [Board.published_play, h.succeededAt_eq]

/-- Only a save that has had its second turn succeeds. -/
theorem Follows.mem_secondTurns_of_ok
    (h : Follows old saves (Board.start.play old saves schedule) ds l) {a : α}
    (hi : (ds.map Dialogue.value?)[i]? = some (some (.ok a))) : i ∈ secondTurns schedule := by
  cases hsave : saves[i]? with
  | none => cases (h.getElem?_results_eq_none hsave).symm.trans hi
  | some save =>
    have hlt : i < saves.length := (List.getElem?_eq_some_iff.1 hsave).1
    have houtcome := (h.getElem?_map_value? hsave).symm.trans hi
    exact Board.mem_secondTurns_of_saved hlt (save.eq_saved_of_outcome (Option.some.inj houtcome))

end

/-- **What comes of saves that run at the same time**, in any number, with any keys and on any
schedule of their exchanges. A save is refused exactly if its key is taken when it is looked up.
The stream grows by one item for each save that succeeds, in the order of their second exchanges.
Under a key that was free, one of its saves succeeds if all come to an end; a race of several shows
in the next lookup. -/
theorem concurrent_saves {α : Type} {stream : StreamName} (saves : List (Save α stream))
    (clock : UInt64 → Instant) (ids : Nat → RequestId) (t : Trace Ledger) (old : List Item)
    (hfailures : t.state.failures = .all none) (hold : t.state.stream? stream.text = some old)
    (schedule : List Nat) :
    let setting : Setting Ledger := ⟨Ledger.node clock, ids⟩
    let run := fun schedule => Dialogue.runTogether setting schedule (saves.map Save.dialogue) t
    let results := (run schedule).1
    let left := (run schedule).2
    let succeeded := (secondTurns schedule).filterMap (succeededAt saves results)
    (∀ (i : Nat) (save : Save α stream), saves[i]? = some save →
      (i ∉ schedule → results[i]? = some none) ∧
      ∀ before after, schedule = before ++ i :: after → i ∉ before → results[i]? = some
        (if (run before).2.state.items stream.text save.key.text ≠ [] then
          some (.error (.duplicateKey stream.text save.key.text))
        else if i ∈ after then some (.ok save.entity) else none)) ∧
    (∃ items, left.state.stream? stream.text = some (old ++ items) ∧
      items.map Item.record = succeeded.map Save.record) ∧
    (secondTurns schedule).Nodup ∧
    (∀ (i : Nat) (a : α), results[i]? = some (some (.ok a)) → i ∈ secondTurns schedule) ∧
    ∀ key, t.state.items stream.text key = [] →
      ((∀ result ∈ results, result ≠ none) → (∃ save ∈ saves, save.key.text = key) →
        ∃ (i : Nat) (save : Save α stream), saves[i]? = some save ∧ save.key.text = key ∧
          results[i]? = some (some (.ok save.entity))) ∧
      ∀ {β : Type} (r : Repository β) (s : String), r.stream = stream → Text.trim s = key →
        key ≠ "" → ((r.find s).dialogue.run setting left).1 =
          Save.found r.format (succeeded.filter (·.key.text = key)) := by
  intro setting run results left succeeded
  have hrun (schedule : List Nat) := Follows.runTogether saves clock ids hfailures hold schedule
  -- the board is played along `schedule`, and `Follows` carries what it says over to the run
  obtain ⟨ds, hresults, hfollows⟩ := hrun schedule
  have hresult {i : Nat} {save : Save α stream} (hi : saves[i]? = some save) : results[i]? =
      some (save.outcome ((Board.start.play old saves schedule).stages i)) := by
    show (run schedule).1[i]? = _
    rw [hresults]
    exact hfollows.getElem?_map_value? hi
  have hsucceeded : (Board.start.play old saves schedule).published = succeeded := by
    show _ = (secondTurns schedule).filterMap (succeededAt saves (run schedule).1)
    rw [hresults]
    exact hfollows.published_eq
  refine ⟨?_, ?_, nodup_secondTurnsAfter [] schedule, ?_, ?_⟩
  · intro i save hi
    refine ⟨?_, ?_⟩
    · intro hnot
      rw [hresult hi, Board.stages_play_of_not_mem hnot]
      rfl
    · intro before after hsplit hbefore
      -- whether the key is free is decided at the first turn, so the run is cut right before it
      obtain ⟨ds', -, hfollows'⟩ := hrun before
      rw [hresult hi, hsplit]
      exact congrArg some (Save.outcome_stages_play hi hbefore after hfollows')
  · obtain ⟨items, hs, hrecords⟩ := hfollows.content
    refine ⟨items, hs, ?_⟩
    rw [hrecords, hsucceeded]
  · intro i a hi
    have hi : (run schedule).1[i]? = some (some (.ok a)) := hi
    rw [hresults] at hi
    exact hfollows.mem_secondTurns_of_ok hi
  · intro key hfree
    rw [Ledger.items_of_some _ hold] at hfree
    refine ⟨?_, ?_⟩
    · rintro hended ⟨save, hmem, rfl⟩
      obtain ⟨i, hi⟩ := List.getElem?_of_mem hmem
      have hne := hended _ (List.mem_of_getElem? (hresult hi))
      obtain ⟨j, winner, hj, hkey, hstage⟩ := exists_saved hfree hi hne
      refine ⟨j, winner, hj, hkey, ?_⟩
      rw [hresult hj, hstage]
      rfl
    · rintro β r s hr rfl hne
      rw [hfollows.value_find clock ids r hr hne hfree, hsucceeded]

/-- Two saves that both look up one key before either publishes both succeed, and the next lookup of
the key fails. -/
theorem concurrent_saves_race :
    let notes : StreamName := ⟨"notes", by decide, by decide⟩
    let r : Repository Value := ⟨.value, .ofField notes (some "id"), .absent⟩
    let v : Value := .object [("id", .string "a")]
    let w : Value := .object [("id", .string " a ")]
    let setting : Setting Ledger :=
      ⟨Ledger.node fun _ => .ofSeconds 0 (by decide), fun _ => ⟨"id"⟩⟩
    let run := Dialogue.runTogether setting [0, 1, 0, 1] [(r.save v).dialogue, (r.save w).dialogue]
      (.start (.withStreams ["notes"]) 0)
    run.1[0]? = some (some (.ok v)) ∧ run.1[1]? = some (some (.ok w)) ∧
      ((r.find "a").dialogue.run setting run.2).1 = .error (.incorrectResultSize 1 2) := by
  have hrace {notes : StreamName} (first second : Save Value notes) (hfirst : first.key.text = "a")
      (hsecond : second.key.text = "a") (clock : UInt64 → Instant) (ids : Nat → RequestId)
      (t : Trace Ledger) (hfailures : t.state.failures = .all none)
      (hold : t.state.stream? notes.text = some []) (r : Repository Value)
      (hr : r.stream = notes) :
      let run := Dialogue.runTogether ⟨Ledger.node clock, ids⟩ [0, 1, 0, 1]
        ([first, second].map Save.dialogue) t
      run.1[0]? = some (some (.ok first.entity)) ∧ run.1[1]? = some (some (.ok second.entity)) ∧
        ((r.find "a").dialogue.run ⟨Ledger.node clock, ids⟩ run.2).1 =
          .error (.incorrectResultSize 1 2) := by
    intro run
    -- before a second turn nothing is published, so neither save sees the other
    have hfree (schedule : List Nat) (h : secondTurns schedule = []) :
        (Dialogue.runTogether ⟨Ledger.node clock, ids⟩ schedule ([first, second].map Save.dialogue)
          t).2.state.items notes.text "a" = [] := by
      obtain ⟨-, ⟨items, hs, hrecords⟩, -⟩ :=
        concurrent_saves [first, second] clock ids t [] hfailures hold schedule
      rw [h] at hrecords
      rw [Ledger.items_of_some _ hs, List.map_eq_nil_iff.1 hrecords]
      rfl
    obtain ⟨hresults, -, -, -, hfound⟩ :=
      concurrent_saves [first, second] clock ids t [] hfailures hold [0, 1, 0, 1]
    dsimp only at hresults hfound
    have h₀ : run.1[0]? = some (some (.ok first.entity)) := by
      rw [(hresults 0 first rfl).2 [] [1, 0, 1] rfl List.not_mem_nil, hfirst, hfree [] rfl]
      rfl
    have h₁ : run.1[1]? = some (some (.ok second.entity)) := by
      rw [(hresults 1 second rfl).2 [0] [0, 1] rfl (by decide), hsecond, hfree [0] rfl]
      rfl
    refine ⟨h₀, h₁, ?_⟩
    have hitems : t.state.items notes.text "a" = [] := by
      rw [Ledger.items_of_some _ hold]
      rfl
    have hturns : secondTurns [0, 1, 0, 1] = [0, 1] := by decide
    have hs₀ : succeededAt [first, second] run.1 0 = some first := by
      rw [succeededAt, h₀]
      rfl
    have hs₁ : succeededAt [first, second] run.1 1 = some second := by
      rw [succeededAt, h₁]
      rfl
    rw [(hfound "a" hitems).2 r "a" hr (by decide) (by decide), hturns,
      List.filterMap_cons_some hs₀, List.filterMap_cons_some hs₁, List.filterMap_nil]
    simp only [List.filter_cons, List.filter_nil, hfirst, hsecond, decide_true, if_true]
    rfl
  intro notes r v w setting run
  have hkey {a : Value} {s : String} (hs : r.metadata.key a = some s) (htrim : Text.trim s = "a") :
      r.key? a = some ⟨"a", by decide, by decide⟩ := by
    rw [r.key?_eq_some hs (by rw [htrim]; decide)]
    simp only [htrim]
  exact hrace
    ⟨r, v, ⟨"a", by decide, by decide⟩, ⟨v.bytes⟩, rfl, hkey (s := "a") rfl (by decide),
      Codec.serialize_of_toValue rfl⟩
    ⟨r, w, ⟨"a", by decide, by decide⟩, ⟨w.bytes⟩, rfl, hkey (s := " a ") rfl (by decide),
      Codec.serialize_of_toValue rfl⟩
    rfl rfl _ _ _ rfl rfl r rfl

end StreamRecords
