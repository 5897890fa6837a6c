import StreamRecords.Ledger.Basic

/-!
The streams of a ledger and their items under each key, after each of the ways in which a ledger
changes.
-/

namespace StreamRecords.Ledger

open Rpc Time

def called (command : Command) (l : Ledger) : Ledger :=
  { l with calls := l.calls.set command (l.calls.get command + 1) }

/-- The ledger with one more item behind `items`, which are those of `stream`. -/
def grown (now : Instant) (stream key : String) (data : Encoding) (items : List Item) (l : Ledger) :
    Ledger :=
  { l with
    streams := Dict.insert stream
      (items ++ [⟨txid (l.lastTx + 1), key, some now.floor, data⟩]) l.streams
    lastTx := l.lastTx + 1 }

variable (l : Ledger)

@[simp] theorem failures_called (command : Command) :
    (l.called command).failures = l.failures := rfl

@[simp] theorem stream?_called (command : Command) (stream : String) :
    (l.called command).stream? stream = l.stream? stream := rfl

@[simp] theorem items_called (command : Command) (stream key : String) :
    (l.called command).items stream key = l.items stream key := rfl

theorem items_of_some {stream : String} {items : List Item} (h : l.stream? stream = some items)
    (key : String) : l.items stream key = items.filter (·.key = key) := by
  rw [Ledger.items, h]
  rfl

/-! ### Publications -/

@[simp] theorem failures_grown (now : Instant) (stream key : String) (data : Encoding)
    (items : List Item) : (l.grown now stream key data items).failures = l.failures := rfl

@[simp]
theorem stream?_grown (now : Instant) (stream key : String) (data : Encoding) (items : List Item)
    (name : String) :
    (l.grown now stream key data items).stream? name =
      if stream = name then
        some (items ++ [⟨txid (l.lastTx + 1), key, some now.floor, data⟩])
      else l.stream? name :=
  Dict.get?_insert stream name _ l.streams

/-- The new item is the last one under its own key, and no other key has more items. -/
theorem items_of_grown {l l' : Ledger} {stream : String} {items : List Item} {item : Item}
    (hitems : l.stream? stream = some items)
    (h : ∀ name, l'.stream? name =
      if stream = name then some (items ++ [item]) else l.stream? name) (name key : String) :
    l'.items name key =
      if (stream, item.key) = (name, key) then l.items name key ++ [item]
      else l.items name key := by
  rw [Ledger.items, h]
  by_cases hname : stream = name
  · subst hname
    rw [if_pos rfl, items_of_some l hitems, Option.getD_some, List.filter_append]
    by_cases hkey : item.key = key
    · subst hkey
      rw [if_pos rfl]
      simp
    · have hne : ¬ (stream, item.key) = (stream, key) := fun e => hkey (Prod.mk.inj e).2
      rw [if_neg hne]
      simp [hkey]
  · have hne : ¬ (stream, item.key) = (name, key) := fun e => hname (Prod.mk.inj e).1
    rw [if_neg hname, if_neg hne, Ledger.items]

theorem items_grown (now : Instant) {stream : String} (key : String) (data : Encoding)
    {items : List Item} (h : l.stream? stream = some items) (name k : String) :
    (l.grown now stream key data items).items name k =
      if (stream, key) = (name, k) then
        l.items name k ++ [⟨txid (l.lastTx + 1), key, some now.floor, data⟩]
      else l.items name k :=
  items_of_grown h (l.stream?_grown now stream key data items) name k

/-! ### New streams -/

@[simp]
theorem failures_createStream (name : String) : (l.createStream name).failures = l.failures := by
  rw [createStream]
  cases l.stream? name <;> rfl

@[simp] theorem stream?_createStream (name stream : String) :
    (l.createStream name).stream? stream =
      if name = stream then some ((l.stream? stream).getD []) else l.stream? stream := by
  rw [createStream]
  by_cases h : name = stream
  · subst h
    rw [if_pos rfl]
    cases hs : l.stream? name with
    | some items => exact hs
    | none => exact (Dict.get?_insert name name [] l.streams).trans (if_pos rfl)
  · rw [if_neg h]
    cases l.stream? name with
    | some items => rfl
    | none => exact (Dict.get?_insert name stream [] l.streams).trans (if_neg h)

@[simp] theorem items_createStream (name stream key : String) :
    (l.createStream name).items stream key = l.items stream key := by
  by_cases h : name = stream <;> simp [Ledger.items, h]

theorem withStreams_spec (names : List String) :
    (withStreams names).failures = .all none ∧
    (∀ stream, ((withStreams names).stream? stream).isSome ↔ stream ∈ names) ∧
    ∀ stream key, (withStreams names).items stream key = [] := by
  -- for any ledger to start with, since each name is created on what the names before it left
  have hfold (l : Ledger) :
      (names.foldl (fun l name => l.createStream name) l).failures = l.failures ∧
      (∀ stream, ((names.foldl (fun l name => l.createStream name) l).stream? stream).isSome ↔
        stream ∈ names ∨ (l.stream? stream).isSome) ∧
      ∀ stream key, (names.foldl (fun l name => l.createStream name) l).items stream key =
        l.items stream key := by
    induction names generalizing l with
    | nil => exact ⟨rfl, fun stream => by simp, fun _ _ => rfl⟩
    | cons name names ih =>
      obtain ⟨hfailures, hstreams, hitems⟩ := ih (l.createStream name)
      refine ⟨hfailures.trans (l.failures_createStream name), ?_, ?_⟩
      · intro stream
        rw [List.foldl_cons, hstreams]
        by_cases h : name = stream
        · simp [h]
        · simp [h, Ne.symm h]
      · intro stream key
        simp [hitems]
  obtain ⟨hfailures, hstreams, hitems⟩ := hfold empty
  refine ⟨hfailures, fun stream => ?_, hitems⟩
  rw [withStreams, hstreams]
  simp [empty, stream?, Dict.get?]

end StreamRecords.Ledger
