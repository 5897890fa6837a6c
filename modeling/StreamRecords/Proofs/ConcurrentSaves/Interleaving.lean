import StreamRecords.Proofs.ConcurrentSaves.Stages
import StreamRecords.Proofs.Ledger.Exchange

/-!
Saves that run at the same time on one ledger. Each exchange is a turn of a save, so a ledger and
the dialogues of saves follow a board whatever the schedule is.
-/

namespace StreamRecords

open Json Rpc Time Dialogue

variable {α : Type} {stream : StreamName}

/-! ### One save -/

namespace Save

def dialogue (save : Save α stream) : Dialogue (Except RepositoryError α) :=
  (save.repository.save save.entity).dialogue

/-- What `save` puts on a ledger. -/
def record (save : Save α stream) : String × Encoding := (save.key.text, save.data)

/-- `d` is what is left to be done in a stage of `save`. -/
def IsAt (save : Save α stream) : Stage → Dialogue (Except RepositoryError α) → Prop
  | .waiting, d => ∃ id, d = post (Request.list id stream save.key).encode fun reply =>
      save.repository.publishing save.key save.entity (listedItems reply)
  | .cleared, d => ∃ id,
      d = post (save.repository.publication save.key save.data id).encode fun reply =>
        done (published save.entity reply)
  | .refused, d => d = done (.error (.duplicateKey stream.text save.key.text))
  | .saved, d => d = done (.ok save.entity)

/-- What has come of `save` in each of its stages. -/
def outcome (save : Save α stream) : Stage → Option (Except RepositoryError α)
  | .waiting | .cleared => none
  | .refused => some (.error (.duplicateKey stream.text save.key.text))
  | .saved => some (.ok save.entity)

variable (save : Save α stream)

theorem value?_of_isAt {stage : Stage} {d : Dialogue (Except RepositoryError α)}
    (h : save.IsAt stage d) : d.value? = save.outcome stage := by
  cases stage with
  | waiting | cleared =>
    obtain ⟨id, rfl⟩ := h
    rfl
  | refused | saved => rw [show d = _ from h]; rfl

theorem isAt_advance (setting : Setting Ledger) (t : Trace Ledger) :
    save.IsAt .waiting (save.dialogue.quiet.advance setting t).1 := by
  have hquiet : save.dialogue.quiet = _ := save.repository.quiet_save save.key_eq
  rw [hquiet, save.stream_eq]
  exact ⟨setting.ids t.drawn, rfl⟩

section

variable {d : Dialogue (Except RepositoryError α)} {t : Trace Ledger} {items : List Item}
  (clock : UInt64 → Instant) (ids : Nat → RequestId)

/-- The first turn of `save` tells whether its key is taken, and changes nothing but a count. -/
theorem step_of_waiting (hd : save.IsAt .waiting d) (hfailures : t.state.failures = .all none)
    (hs : t.state.stream? stream.text = some items) :
    save.IsAt (if t.state.items stream.text save.key.text = [] then .cleared else .refused)
        (d.step ⟨Ledger.node clock, ids⟩ t).1 ∧
      (d.step ⟨Ledger.node clock, ids⟩ t).2.state = t.state.called .listItems := by
  obtain ⟨id, rfl⟩ := hd
  obtain ⟨reply, hnode, hlisted⟩ := Ledger.node_list clock id stream save.key t.state
  rw [Ledger.listed_of_some hfailures hs] at hlisted
  rw [step, exchange]
  dsimp only
  rw [hnode, hlisted]
  -- the listing is cut to two items, which still tells whether there are any
  cases hitems : t.state.items stream.text save.key.text with
  | nil =>
    have hdata : (.ok [] >>= save.repository.toPublish save.key save.entity) = .ok save.data := by
      show (Codec.serialize save.repository.format save.entity).mapError _ = _
      rw [save.data_eq]
      rfl
    rw [if_pos rfl, List.take_nil, List.map_nil, Repository.publishing, hdata]
    exact ⟨⟨ids t.drawn, rfl⟩, rfl⟩
  | cons item items =>
    have hrefused : save.repository.publishing save.key save.entity
        (.ok (((item :: items).take 2).map Item.floored)) =
          done (.error (.duplicateKey stream.text save.key.text)) := by
      rw [← congrArg StreamName.text save.stream_eq]
      rfl
    rw [if_neg (List.cons_ne_nil item items), hrefused]
    exact ⟨rfl, rfl⟩

/-- The second turn of `save` publishes its entity. -/
theorem step_of_cleared (hd : save.IsAt .cleared d) (hfailures : t.state.failures = .all none)
    (hs : t.state.stream? stream.text = some items) :
    save.IsAt .saved (d.step ⟨Ledger.node clock, ids⟩ t).1 ∧
      (d.step ⟨Ledger.node clock, ids⟩ t).2.state =
        (t.state.called .publish).grown (clock t.state.lastTx) stream.text save.key.text save.data
          items := by
  obtain ⟨id, rfl⟩ := hd
  obtain ⟨reply, hnode, hpublished⟩ :=
    Ledger.node_publish clock save.repository save.key save.data id save.entity t.state
  have hcalled : (t.state.called .publish).stream? stream.text = some items := by
    rw [Ledger.stream?_called, hs]
  rw [save.stream_eq, Ledger.publishing_of_some (l := t.state.called .publish) hfailures hcalled]
    at hnode hpublished
  rw [step, exchange]
  dsimp only
  rw [hnode, hpublished]
  exact ⟨rfl, rfl⟩

theorem step_of_ended (setting : Setting Ledger) {stage : Stage} (hd : save.IsAt stage d)
    (hstage : stage = .refused ∨ stage = .saved) : d.step setting t = (d, t) := by
  rcases hstage with rfl | rfl <;> rw [show d = done _ from hd] <;> rfl

end

end Save

/-! ### All saves -/

/-- What `item` keeps of a save. -/
def Item.record (item : Item) : String × Encoding := (item.key, item.data)

/-- **The ledger `l` and the dialogues `ds` of saves follow the board `b`**: the stream holds the
old items and what is published since, and each dialogue is as far as its stage says. -/
structure Follows (old : List Item) (saves : List (Save α stream)) (b : Board α stream)
    (ds : List (Dialogue (Except RepositoryError α))) (l : Ledger) : Prop where
  failures : l.failures = .all none
  content : ∃ items, l.stream? stream.text = some (old ++ items) ∧
    items.map Item.record = b.published.map Save.record
  length : ds.length = saves.length
  dialogues : ∀ (i : Nat) (save : Save α stream), saves[i]? = some save →
    ∃ d, ds[i]? = some d ∧ save.IsAt (b.stages i) d

namespace Follows

variable {old : List Item} {saves : List (Save α stream)} {b : Board α stream}
  {ds : List (Dialogue (Except RepositoryError α))} {l : Ledger}

/-- The stream holds no item under `key` exactly if the key is not taken. -/
theorem items_eq_nil_iff (h : Follows old saves b ds l) (key : String) :
    l.items stream.text key = [] ↔ b.isTaken old key = false := by
  obtain ⟨items, hs, hrecords⟩ := h.content
  have hany : items.any (·.key = key) = b.published.any (·.key.text = key) := by
    have hkeys := congrArg (List.any · fun record => decide (record.1 = key)) hrecords
    rw [List.any_map, List.any_map] at hkeys
    exact hkeys
  rw [l.items_of_some hs, Board.isTaken, ← hany, ← List.any_append, List.filter_eq_nil_iff,
    List.any_eq_false]

theorem getElem?_eq_none (h : Follows old saves b ds l) {i : Nat} (hi : saves[i]? = none) :
    ds[i]? = none := by
  rw [List.getElem?_eq_none_iff] at hi ⊢
  rw [h.length]
  exact hi

/-- The other saves stay where they are when the one in the place `i` moves to `stage`. -/
theorem dialogues_set (h : Follows old saves b ds l) {i : Nat} {save : Save α stream}
    (hi : saves[i]? = some save) {stage : Stage} {d : Dialogue (Except RepositoryError α)}
    (hd : save.IsAt stage d) : ∀ (j : Nat) (other : Save α stream), saves[j]? = some other →
      ∃ e, (ds.set i d)[j]? = some e ∧ other.IsAt ((b.move i stage).stages j) e := by
  intro j other hj
  by_cases hij : i = j
  · subst hij
    cases hi.symm.trans hj
    have hlt : i < ds.length := by
      rw [h.length]
      exact (List.getElem?_eq_some_iff.1 hi).1
    have hstage : (b.move i stage).stages i = stage := if_pos rfl
    rw [hstage]
    exact ⟨d, List.getElem?_set_self hlt, hd⟩
  · have hstage : (b.move i stage).stages j = b.stages j := if_neg (Ne.symm hij)
    rw [hstage, List.getElem?_set_ne hij]
    exact h.dialogues j other hj

variable {t : Trace Ledger} (clock : UInt64 → Instant) (ids : Nat → RequestId)

/-- **An exchange is a turn.** -/
theorem turn (h : Follows old saves b ds t.state) (i : Nat) :
    Follows old saves (b.turn old saves i) (stepAt ⟨Ledger.node clock, ids⟩ i ds t).1
      (stepAt ⟨Ledger.node clock, ids⟩ i ds t).2.state := by
  rw [stepAt]
  cases hi : saves[i]? with
  | none =>
    rw [h.getElem?_eq_none hi, Board.turn_of_none hi]
    exact h
  | some save =>
    obtain ⟨d, hd, hat⟩ := h.dialogues i save hi
    obtain ⟨items, hs, hrecords⟩ := h.content
    have hset (d' : Dialogue (Except RepositoryError α)) : (ds.set i d').length = saves.length := by
      rw [List.length_set]
      exact h.length
    rw [hd]
    dsimp only
    -- the stage of the save tells what its dialogue sends next, and each stage has one step lemma
    cases hb : b.stages i with
    | waiting =>
      rw [hb] at hat
      obtain ⟨hat', hstate⟩ := save.step_of_waiting clock ids hat h.failures hs
      -- the ledger decides by its items and the board by what is published; `Follows` ties them
      have hstage : (if t.state.items stream.text save.key.text = [] then Stage.cleared
          else .refused) = if b.isTaken old save.key.text then .refused else .cleared := by
        rw [ite_congr (propext (h.items_eq_nil_iff save.key.text)) (fun _ => rfl) (fun _ => rfl)]
        cases b.isTaken old save.key.text <;> rfl
      rw [hstage] at hat'
      rw [Board.turn_of_waiting hi hb, hstate]
      exact ⟨h.failures, ⟨items, hs, hrecords⟩, hset _, h.dialogues_set hi hat'⟩
    | cleared =>
      rw [hb] at hat
      obtain ⟨hat', hstate⟩ := save.step_of_cleared clock ids hat h.failures hs
      rw [Board.turn_of_cleared hi hb, hstate]
      refine ⟨h.failures, ?_, hset _, h.dialogues_set hi hat'⟩
      refine ⟨items ++ [⟨Ledger.txid (t.state.lastTx + 1), save.key.text,
        some (clock t.state.lastTx).floor, save.data⟩], ?_, ?_⟩
      · rw [Ledger.stream?_grown, if_pos rfl, List.append_assoc]
        rfl
      · rw [List.map_append, List.map_append, hrecords]
        rfl
    | refused | saved =>
      have hstep := save.step_of_ended (t := t) ⟨Ledger.node clock, ids⟩ hat (by simp [hb])
      obtain ⟨hlt, rfl⟩ := List.getElem?_eq_some_iff.1 hd
      rw [Board.turn_of_ended (by simp [hb]), hstep, List.set_getElem_self]
      exact h

theorem play (h : Follows old saves b ds t.state) (schedule : List Nat) :
    Follows old saves (b.play old saves schedule)
      (interleave ⟨Ledger.node clock, ids⟩ schedule ds t).1
      (interleave ⟨Ledger.node clock, ids⟩ schedule ds t).2.state := by
  induction schedule generalizing b ds t with
  | nil => exact h
  | cons i schedule ih => exact ih (h.turn clock ids i)

end Follows

/-! ### From the start -/

theorem Dialogue.state_advance {β σ : Type} (setting : Setting σ) (d : Dialogue β) (t : Trace σ) :
    (d.advance setting t).2.state = t.state := by
  induction d generalizing t with
  | done a => rfl
  | fresh next ih => exact ih _ _
  | note event next ih => exact ih _
  | post body next ih => rfl

theorem Dialogue.state_advanceAll {β σ : Type} (setting : Setting σ) (ds : List (Dialogue β))
    (t : Trace σ) : (advanceAll setting ds t).2.state = t.state := by
  induction ds generalizing t with
  | nil => rfl
  | cons d ds ih => exact (ih _).trans (state_advance setting d t)

theorem Dialogue.length_advanceAll {β σ : Type} (setting : Setting σ) (ds : List (Dialogue β))
    (t : Trace σ) : (advanceAll setting ds t).1.length = ds.length := by
  induction ds generalizing t with
  | nil => rfl
  | cons d ds ih => exact congrArg (· + 1) (ih _)

theorem Dialogue.getElem?_advanceAll {β σ : Type} (setting : Setting σ) {ds : List (Dialogue β)}
    {i : Nat} {d : Dialogue β} (h : ds[i]? = some d) (t : Trace σ) :
    ∃ t', (advanceAll setting ds t).1[i]? = some (d.advance setting t').1 := by
  induction ds generalizing i t with
  | nil => cases h
  | cons e ds ih =>
    cases i with
    | zero =>
      cases h
      exact ⟨t, rfl⟩
    | succ i => exact ih h (e.advance setting t).2

namespace Follows

variable {old : List Item} {t : Trace Ledger} (saves : List (Save α stream))

theorem start (setting : Setting Ledger) (hfailures : t.state.failures = .all none)
    (hold : t.state.stream? stream.text = some old) :
    Follows old saves .start (advanceAll setting (saves.map (·.dialogue.quiet)) t).1
      (advanceAll setting (saves.map (·.dialogue.quiet)) t).2.state := by
  rw [state_advanceAll]
  refine ⟨hfailures, ⟨[], ?_, rfl⟩, ?_, ?_⟩
  · rw [List.append_nil]
    exact hold
  · rw [length_advanceAll, List.length_map]
  · intro i save hi
    have hd : (saves.map (·.dialogue.quiet))[i]? = some save.dialogue.quiet := by
      rw [List.getElem?_map, hi]
      rfl
    obtain ⟨t', ht'⟩ := getElem?_advanceAll setting hd t
    exact ⟨_, ht', save.isAt_advance setting t'⟩

/-- **Saves that run together follow a board**: what has come of each is told by its stage. -/
theorem runTogether (clock : UInt64 → Instant) (ids : Nat → RequestId)
    (hfailures : t.state.failures = .all none) (hold : t.state.stream? stream.text = some old)
    (schedule : List Nat) :
    let run := Dialogue.runTogether ⟨Ledger.node clock, ids⟩ schedule (saves.map Save.dialogue) t
    let b := Board.start.play old saves schedule
    ∃ ds, run.1 = ds.map value? ∧ Follows old saves b ds run.2.state := by
  intro run b
  -- notes change nothing here, and without them the stage of a save tells what is left of it
  have hquiet := runTogether_quiet ⟨Ledger.node clock, ids⟩ schedule (saves.map Save.dialogue) t
  rw [List.map_map] at hquiet
  have hstart := Follows.start (t := t.quiet) saves ⟨Ledger.node clock, ids⟩ hfailures hold
  have hplay := hstart.play clock ids schedule
  generalize hds : advanceAll _ (saves.map (·.dialogue.quiet)) t.quiet = started at hplay
  have hrun : Dialogue.runTogether ⟨Ledger.node clock, ids⟩ schedule
      (saves.map (quiet ∘ Save.dialogue)) t.quiet =
        ((interleave ⟨Ledger.node clock, ids⟩ schedule started.1 started.2).1.map value?,
          (interleave ⟨Ledger.node clock, ids⟩ schedule started.1 started.2).2) := by
    rw [← hds]
    rfl
  rw [hrun] at hquiet
  obtain ⟨hvalues, hleft⟩ := Prod.mk.inj hquiet
  have hstate : run.2.state =
      (interleave ⟨Ledger.node clock, ids⟩ schedule started.1 started.2).2.state := by
    rw [hleft]
    rfl
  refine ⟨_, hvalues.symm, ?_⟩
  rw [hstate]
  exact hplay

variable {saves} in
/-- What has come of the save in the place `i` is told by its stage. -/
theorem getElem?_map_value? {b : Board α stream} {ds : List (Dialogue (Except RepositoryError α))}
    {l : Ledger} (h : Follows old saves b ds l) {i : Nat} {save : Save α stream}
    (hi : saves[i]? = some save) :
    (ds.map value?)[i]? = some (save.outcome (b.stages i)) := by
  obtain ⟨d, hd, hat⟩ := h.dialogues i save hi
  rw [List.getElem?_map, hd, Option.map_some, save.value?_of_isAt hat]

end Follows

end StreamRecords
