/-!
Dictionaries: lists of pairs in increasing order of their names, each name once. A name put in
again takes the place of the old one.
-/

namespace StreamRecords.Dict

variable {α : Type}

/-- What a dictionary holds under `name`. -/
def get? (name : String) : List (String × α) → Option α
  | [] => none
  | (k, a) :: d => if k = name then some a else get? name d

/-- A dictionary with `a` under `name`. -/
def insert (name : String) (a : α) : List (String × α) → List (String × α)
  | [] => [(name, a)]
  | (k, b) :: d =>
    if name < k then (name, a) :: (k, b) :: d
    else if name = k then (name, a) :: d
    else (k, b) :: insert name a d

/-- The dictionary that arises when `pairs` are put in one by one. -/
def ofList (pairs : List (String × α)) : List (String × α) :=
  pairs.foldl (fun d (k, a) => insert k a d) []

/-- The names of `d` are in increasing order. -/
def IsSorted (d : List (String × α)) : Prop := (d.map Prod.fst).Pairwise (· < ·)

@[simp] theorem get?_insert (name k : String) (a : α) (d : List (String × α)) :
    get? k (insert name a d) = if name = k then some a else get? k d := by
  induction d with
  | nil => rfl
  | cons p d ih =>
    obtain ⟨x, b⟩ := p
    unfold insert
    split
    · rfl
    · split
      · next h =>
        subst h
        by_cases hk : name = k
        · simp [get?, hk]
        · simp [get?, hk]
      · next h =>
        rw [get?, ih, get?]
        split
        · next hx => simp [hx ▸ h]
        · rfl

theorem mem_insert {name : String} {a : α} {d : List (String × α)} {p : String × α}
    (h : p ∈ insert name a d) : p = (name, a) ∨ p ∈ d := by
  induction d with
  | nil => simpa [insert] using h
  | cons q d ih =>
    obtain ⟨x, b⟩ := q
    unfold insert at h
    split at h
    · simpa using h
    · split at h
      · rcases List.mem_cons.1 h with h | h
        · exact .inl h
        · exact .inr (List.mem_cons_of_mem _ h)
      · rcases List.mem_cons.1 h with h | h
        · exact .inr (h ▸ List.mem_cons_self)
        · rcases ih h with h | h
          · exact .inl h
          · exact .inr (List.mem_cons_of_mem _ h)

theorem IsSorted.insert {d : List (String × α)} (hd : IsSorted d) (name : String) (a : α) :
    IsSorted (insert name a d) := by
  induction d with
  | nil => simp [IsSorted, Dict.insert]
  | cons p d ih =>
    obtain ⟨x, b⟩ := p
    obtain ⟨hx, hd'⟩ := List.pairwise_cons.1 hd
    have hx : ∀ q ∈ d, x < q.1 := fun q hq => hx _ (List.mem_map_of_mem hq)
    unfold Dict.insert
    split
    · next h =>
      refine List.pairwise_cons.2 ⟨fun y hy => ?_, hd⟩
      rcases List.mem_cons.1 hy with hy | hy
      · exact hy ▸ h
      · obtain ⟨q, hq, rfl⟩ := List.mem_map.1 hy
        exact String.lt_trans h (hx q hq)
    · split
      · next h => exact h ▸ hd
      · next h₁ h₂ =>
        have hlt : x < name := by
          by_cases h : x < name
          · exact h
          · exact absurd (String.le_antisymm (String.not_lt.1 h) (String.not_lt.1 h₁)) h₂
        refine List.pairwise_cons.2 ⟨fun y hy => ?_, ih hd'⟩
        obtain ⟨q, hq, rfl⟩ := List.mem_map.1 hy
        rcases mem_insert hq with rfl | hq
        · exact hlt
        · exact hx q hq

end StreamRecords.Dict
