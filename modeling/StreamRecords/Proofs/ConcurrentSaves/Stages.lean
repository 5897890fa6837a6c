import StreamRecords.Repository.Basic

/-!
How far saves have come that run at the same time. A save has two turns: in its first it learns
whether its key is taken, and if it is not, it publishes its entity in the second, whatever the
others have done in between.
-/

namespace StreamRecords

/-- **A save that can publish**: an entity that has a key and can be written. -/
structure Save (α : Type) (stream : StreamName) where
  repository : Repository α
  entity : α
  key : RecordKey
  data : Encoding
  stream_eq : repository.stream = stream
  key_eq : repository.key? entity = some key
  data_eq : Codec.serialize repository.format entity = .ok data

/-- **How far a save has come.** -/
inductive Stage where
  /-- It has yet to look up its key. -/
  | waiting
  /-- Its key was free, and it has yet to publish. -/
  | cleared
  /-- Its key was taken. -/
  | refused
  /-- It has published. -/
  | saved
  deriving DecidableEq

/-- The stages of saves by their places, and those that have published, in the order in which they
did so. -/
structure Board (α : Type) (stream : StreamName) where
  stages : Nat → Stage
  published : List (Save α stream)

namespace Board

variable {α : Type} {stream : StreamName}

/-- No save has had a turn. -/
def start : Board α stream := ⟨fun _ => .waiting, []⟩

/-- `b` with the save in the place `i` in another stage. -/
def move (i : Nat) (stage : Stage) (b : Board α stream) : Board α stream :=
  { b with stages := fun j => if j = i then stage else b.stages j }

/-- `key` is taken, by an old item or by what is published since. -/
def isTaken (old : List Item) (key : String) (b : Board α stream) : Bool :=
  old.any (·.key = key) || b.published.any (·.key.text = key)

variable (old : List Item) (saves : List (Save α stream))

/-- **The turn of the save in the place `i`.** -/
def turn (b : Board α stream) (i : Nat) : Board α stream :=
  match saves[i]? with
  | none => b
  | some save =>
    match b.stages i with
    | .waiting => b.move i (if b.isTaken old save.key.text then .refused else .cleared)
    | .cleared => { b.move i .saved with published := b.published ++ [save] }
    | .refused | .saved => b

/-- Turns in the order of `schedule`. -/
def play (schedule : List Nat) (b : Board α stream) : Board α stream :=
  schedule.foldl (turn old saves) b

@[simp] theorem play_cons (i : Nat) (schedule : List Nat) (b : Board α stream) :
    b.play old saves (i :: schedule) = (b.turn old saves i).play old saves schedule := rfl

@[simp] theorem play_append (before after : List Nat) (b : Board α stream) :
    b.play old saves (before ++ after) = (b.play old saves before).play old saves after :=
  List.foldl_append

section

variable {old saves} {i : Nat} {save : Save α stream} {b : Board α stream}

theorem turn_of_none (h : saves[i]? = none) : b.turn old saves i = b := by
  rw [turn, h]

theorem turn_of_waiting (h : saves[i]? = some save) (hb : b.stages i = .waiting) :
    b.turn old saves i =
      b.move i (if b.isTaken old save.key.text then .refused else .cleared) := by
  rw [turn, h]
  dsimp only
  rw [hb]

theorem turn_of_cleared (h : saves[i]? = some save) (hb : b.stages i = .cleared) :
    b.turn old saves i = { b.move i .saved with published := b.published ++ [save] } := by
  rw [turn, h]
  dsimp only
  rw [hb]

/-- A save that has come to its end is not changed by more turns. -/
theorem turn_of_ended (hb : b.stages i = .refused ∨ b.stages i = .saved) :
    b.turn old saves i = b := by
  rw [turn]
  cases saves[i]? with
  | none => rfl
  | some save => rcases hb with hb | hb <;> dsimp only <;> rw [hb]

theorem stages_turn_of_ne {j : Nat} (h : j ≠ i) :
    (b.turn old saves i).stages j = b.stages j := by
  rw [turn]
  cases saves[i]? with
  | none => rfl
  | some save => cases hb : b.stages i <;> simp [move, h]

/-! ### Stages along a schedule -/

theorem stages_play_of_not_mem {schedule : List Nat} (h : i ∉ schedule) :
    (b.play old saves schedule).stages i = b.stages i := by
  induction schedule generalizing b with
  | nil => rfl
  | cons j schedule ih =>
    obtain ⟨hne, hnot⟩ := not_or.1 (fun hi => h (List.mem_cons.2 hi))
    rw [play_cons, ih hnot, stages_turn_of_ne hne]

theorem stages_play_of_ended (schedule : List Nat)
    (hb : b.stages i = .refused ∨ b.stages i = .saved) :
    (b.play old saves schedule).stages i = b.stages i := by
  induction schedule generalizing b with
  | nil => rfl
  | cons j schedule ih =>
    have hturn : (b.turn old saves j).stages i = b.stages i := by
      by_cases h : i = j
      · subst h
        rw [turn_of_ended hb]
      · exact stages_turn_of_ne h
    rw [← hturn] at hb ⊢
    rw [play_cons, ih hb]

theorem stages_play_of_cleared (schedule : List Nat) (h : saves[i]? = some save)
    (hb : b.stages i = .cleared) :
    (b.play old saves schedule).stages i = if i ∈ schedule then .saved else .cleared := by
  induction schedule generalizing b with
  | nil => exact hb
  | cons j schedule ih =>
    by_cases hij : i = j
    · subst hij
      have hturn : (b.turn old saves i).stages i = .saved := by
        rw [turn_of_cleared h hb]
        exact if_pos rfl
      rw [play_cons, stages_play_of_ended schedule (.inr hturn), hturn, if_pos List.mem_cons_self]
    · rw [play_cons, ih ((stages_turn_of_ne hij).trans hb)]
      simp [hij]

/-- A `key` that is taken stays taken. -/
theorem isTaken_play {key : String} (schedule : List Nat) (h : b.isTaken old key = true) :
    (b.play old saves schedule).isTaken old key = true := by
  induction schedule generalizing b with
  | nil => exact h
  | cons j schedule ih =>
    refine ih ?_
    rw [turn]
    cases saves[j]? with
    | none => exact h
    | some save =>
      cases b.stages j with
      | cleared =>
        rw [isTaken, Bool.or_eq_true] at h ⊢
        dsimp only
        rw [List.any_append, Bool.or_eq_true]
        exact h.imp_right .inl
      | _ => exact h

/-- **The save in the place `i` is refused exactly if its key is taken in its first turn**;
otherwise it publishes in its second. -/
theorem stages_play (h : saves[i]? = some save) {before : List Nat} (hbefore : i ∉ before)
    (after : List Nat) :
    (start.play old saves (before ++ i :: after)).stages i =
      if (start.play old saves before).isTaken old save.key.text then .refused
      else if i ∈ after then .saved else .cleared := by
  have hwaiting : (start.play old saves before).stages i = .waiting :=
    stages_play_of_not_mem hbefore
  rw [play_append, play_cons, turn_of_waiting h hwaiting]
  split
  · have hmove : ((start.play old saves before).move i .refused).stages i = .refused := if_pos rfl
    rw [stages_play_of_ended after (.inl hmove), hmove]
  · exact stages_play_of_cleared after h (if_pos rfl)

/-- The key of a save that is refused is taken ever after. -/
theorem isTaken_of_refused (h : saves[i]? = some save) {schedule : List Nat}
    (hrefused : (start.play old saves schedule).stages i = .refused) :
    (start.play old saves schedule).isTaken old save.key.text = true := by
  by_cases hi : i ∈ schedule
  · obtain ⟨before, after, rfl, hbefore⟩ := List.eq_append_cons_of_mem hi
    rw [stages_play h hbefore] at hrefused
    split at hrefused
    · next htaken =>
      rw [play_append]
      exact isTaken_play _ htaken
    · split at hrefused <;> cases hrefused
  · rw [stages_play_of_not_mem hi] at hrefused
    cases hrefused

end

end Board

/-- The stage of a save agrees with the number of turns that it has had. -/
def Stage.Agrees : Stage → Nat → Prop
  | .waiting, n => n = 0
  | .cleared, n => n = 1
  | .refused, n => 1 ≤ n
  | .saved, n => 2 ≤ n

/-! ### Second turns -/

/-- The places that have their second turn in a schedule, in its order, when those in `earlier` had
turns before. -/
def secondTurnsAfter (earlier : List Nat) : List Nat → List Nat
  | [] => []
  | i :: schedule =>
    if earlier.count i = 1 then i :: secondTurnsAfter (i :: earlier) schedule
    else secondTurnsAfter (i :: earlier) schedule

/-- **The places that have their second turn in `schedule`**, in its order. -/
def secondTurns (schedule : List Nat) : List Nat := secondTurnsAfter [] schedule

theorem mem_secondTurnsAfter {earlier schedule : List Nat} {i : Nat} :
    i ∈ secondTurnsAfter earlier schedule ↔
      earlier.count i ≤ 1 ∧ 2 ≤ earlier.count i + schedule.count i := by
  induction schedule generalizing earlier with
  | nil =>
    simp only [secondTurnsAfter, List.not_mem_nil, List.count_nil, false_iff]
    omega
  | cons j schedule ih =>
    rw [secondTurnsAfter]
    -- a turn of another save changes neither count of `i`
    by_cases hij : j = i
    · subst hij
      split
      · next h =>
        rw [List.count_cons_self]
        refine ⟨fun _ => ?_, fun _ => List.mem_cons_self⟩
        omega
      · next h =>
        rw [ih, List.count_cons_self, List.count_cons_self]
        omega
    · have hcount : (j :: schedule).count i = schedule.count i := List.count_cons_of_ne hij
      have hearlier : (j :: earlier).count i = earlier.count i := List.count_cons_of_ne hij
      split
      · rw [List.mem_cons, ih, hcount, hearlier]
        simp [Ne.symm hij]
      · rw [ih, hcount, hearlier]

theorem mem_secondTurns {schedule : List Nat} {i : Nat} :
    i ∈ secondTurns schedule ↔ 2 ≤ schedule.count i := by
  rw [secondTurns, mem_secondTurnsAfter]
  simp

/-- No place has two second turns. -/
theorem nodup_secondTurnsAfter (earlier schedule : List Nat) :
    (secondTurnsAfter earlier schedule).Nodup := by
  induction schedule generalizing earlier with
  | nil => exact List.nodup_nil
  | cons i schedule ih =>
    rw [secondTurnsAfter]
    split
    · next h =>
      refine List.nodup_cons.2 ⟨fun hi => ?_, ih _⟩
      have hcount := (mem_secondTurnsAfter.1 hi).1
      rw [List.count_cons_self] at hcount
      omega
    · exact ih _

namespace Board

variable {α : Type} {stream : StreamName} {old : List Item} {saves : List (Save α stream)}

/-- The stages of `b` agree with the numbers of `turns` that the saves have had. -/
def Counts (saves : List (Save α stream)) (turns : List Nat) (b : Board α stream) : Prop :=
  ∀ i < saves.length, (b.stages i).Agrees (turns.count i)

theorem counts_start (saves : List (Save α stream)) : Counts saves [] start := fun _ _ => rfl

theorem Counts.turn {turns : List Nat} {b : Board α stream} (h : Counts saves turns b) (i : Nat) :
    Counts saves (i :: turns) (b.turn old saves i) := by
  intro j hj
  -- only the save whose turn it is goes on, and only its turns get more
  by_cases hij : j = i
  · subst hij
    have hj' : saves[j]? = some saves[j] := List.getElem?_eq_getElem hj
    have hstage := h j hj
    rw [List.count_cons_self]
    cases hb : b.stages j with
    | waiting =>
      rw [hb] at hstage
      have hcount : turns.count j = 0 := hstage
      rw [turn_of_waiting hj' hb, hcount]
      show Stage.Agrees (if j = j then _ else _) _
      rw [if_pos rfl]
      split
      · exact Nat.le_refl 1
      · exact rfl
    | cleared =>
      rw [hb] at hstage
      have hcount : turns.count j = 1 := hstage
      rw [turn_of_cleared hj' hb, hcount]
      show Stage.Agrees (if j = j then _ else _) _
      rw [if_pos rfl]
      exact Nat.le_refl 2
    | refused =>
      rw [hb] at hstage
      have hcount : 1 ≤ turns.count j := hstage
      rw [turn_of_ended (.inl hb), hb]
      exact Nat.le_succ_of_le hcount
    | saved =>
      rw [hb] at hstage
      have hcount : 2 ≤ turns.count j := hstage
      rw [turn_of_ended (.inr hb), hb]
      exact Nat.le_succ_of_le hcount
  · have hcount : (i :: turns).count j = turns.count j := List.count_cons_of_ne (Ne.symm hij)
    rw [stages_turn_of_ne hij, hcount]
    exact h j hj

theorem Counts.play {turns : List Nat} {b : Board α stream} (h : Counts saves turns b)
    (schedule : List Nat) :
    Counts saves (schedule.reverse ++ turns) (b.play old saves schedule) := by
  induction schedule generalizing turns b with
  | nil => exact h
  | cons i schedule ih =>
    rw [List.reverse_cons, List.append_assoc]
    exact ih (h.turn i)

/-- A save that has published has had its second turn. -/
theorem mem_secondTurns_of_saved {schedule : List Nat} {i : Nat} (hi : i < saves.length)
    (h : (start.play old saves schedule).stages i = .saved) : i ∈ secondTurns schedule := by
  have hcounts : Counts saves (schedule.reverse ++ []) (start.play old saves schedule) :=
    (counts_start saves).play schedule
  have hcount := hcounts i hi
  rw [h, List.append_nil, List.count_reverse] at hcount
  exact mem_secondTurns.2 hcount

/-- The save in the place `i`, if it is among those that have published. -/
def savedAt (saves : List (Save α stream)) (b : Board α stream) (i : Nat) :
    Option (Save α stream) :=
  if b.stages i = .saved then saves[i]? else none

/-- The turn of the place `i` publishes nothing, or the save there if it is its second turn. -/
theorem published_turn {turns : List Nat} {b : Board α stream} (h : Counts saves turns b) (i : Nat)
    (schedule : List Nat) :
    (b.turn old saves i).published = b.published ++
      if turns.count i = 1 then
        (savedAt saves ((b.turn old saves i).play old saves schedule) i).toList
      else [] := by
  cases hi : saves[i]? with
  | none =>
    have hnone (b : Board α stream) : savedAt saves b i = none := by simp [savedAt, hi]
    rw [turn_of_none hi, hnone]
    simp
  | some save =>
    have hstage := h i (List.getElem?_eq_some_iff.1 hi).1
    cases hb : b.stages i with
    | waiting =>
      rw [hb] at hstage
      have hcount : turns.count i = 0 := hstage
      rw [if_neg (by omega), List.append_nil, turn_of_waiting hi hb]
      rfl
    | cleared =>
      rw [hb] at hstage
      have hcount : turns.count i = 1 := hstage
      have hturn : (b.turn old saves i).stages i = .saved := by
        rw [turn_of_cleared hi hb]
        exact if_pos rfl
      have hsaved :
          savedAt saves ((b.turn old saves i).play old saves schedule) i = some save := by
        rw [savedAt, stages_play_of_ended schedule (.inr hturn), if_pos hturn, hi]
      rw [if_pos hcount, hsaved, turn_of_cleared hi hb]
      rfl
    | refused =>
      -- this may be its second turn or a later one; nothing comes of either
      have hturn : b.turn old saves i = b := turn_of_ended (.inl hb)
      have hnone : savedAt saves (b.play old saves schedule) i = none := by
        rw [savedAt, stages_play_of_ended schedule (.inl hb), hb]
        rfl
      rw [hturn, hnone]
      simp
    | saved =>
      rw [hb] at hstage
      have hcount : 2 ≤ turns.count i := hstage
      rw [if_neg (by omega), List.append_nil, turn_of_ended (.inr hb)]

/-- What is published from some turn on is what is published in second turns. -/
theorem published_play_of_counts {turns : List Nat} {b : Board α stream}
    (h : Counts saves turns b) (schedule : List Nat) :
    (b.play old saves schedule).published = b.published ++
      (secondTurnsAfter turns schedule).filterMap (savedAt saves (b.play old saves schedule)) := by
  induction schedule generalizing turns b with
  | nil => exact (List.append_nil _).symm
  | cons i schedule ih =>
    rw [play_cons, ih (h.turn i), published_turn h i schedule, List.append_assoc, secondTurnsAfter]
    split
    · cases hsaved : savedAt saves ((b.turn old saves i).play old saves schedule) i <;>
        simp [hsaved]
    · rfl

/-- **What is published is published in second turns**, one entity for each save that comes so
far. -/
theorem published_play (schedule : List Nat) :
    (start.play old saves schedule).published =
      (secondTurns schedule).filterMap (savedAt saves (start.play old saves schedule)) :=
  published_play_of_counts (counts_start saves) schedule

end Board
end StreamRecords
