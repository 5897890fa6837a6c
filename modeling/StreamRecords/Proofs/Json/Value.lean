import StreamRecords.Dict
import StreamRecords.Json.Value

/-!
JSON values by what they hold: an induction principle, and the properties of all numbers or all
objects of a value as properties of its items and members.
-/

namespace StreamRecords.Dict

/-! ### Dictionaries -/

variable {α : Type}

/-- Whether `d` is in order is told by its names alone, so they can be written out and decided. -/
theorem isSorted_of_names (names : List String) {d : List (String × α)} (h : d.map Prod.fst = names)
    (hnames : names.Pairwise (· < ·)) : IsSorted d := by
  rw [IsSorted, h]
  exact hnames

theorem insert_of_forall_lt {name : String} (a : α) {d : List (String × α)}
    (h : ∀ p ∈ d, p.1 < name) : insert name a d = d ++ [(name, a)] := by
  induction d with
  | nil => rfl
  | cons p d ih =>
    have hlt : p.1 < name := h p List.mem_cons_self
    have hne : name ≠ p.1 := fun e => String.lt_irrefl _ (e ▸ hlt)
    rw [insert, if_neg (String.lt_asymm hlt), if_neg hne,
      ih fun q hq => h q (List.mem_cons_of_mem p hq)]
    rfl

theorem foldl_insert_of_isSorted {d e : List (String × α)} (h : IsSorted (d ++ e)) :
    e.foldl (fun d (k, a) => insert k a d) d = d ++ e := by
  induction e generalizing d with
  | nil => exact (List.append_nil d).symm
  | cons p e ih =>
    obtain ⟨k, a⟩ := p
    have hlt : ∀ q ∈ d, q.1 < k := by
      intro q hq
      unfold IsSorted at h
      rw [List.map_append, List.pairwise_append] at h
      exact h.2.2 _ (List.mem_map_of_mem hq) _ (List.mem_map_of_mem List.mem_cons_self)
    have h' : IsSorted ((d ++ [(k, a)]) ++ e) := by rwa [List.append_assoc]
    rw [List.foldl_cons]
    show e.foldl _ (insert k a d) = _
    rw [insert_of_forall_lt a hlt, ih h', List.append_assoc]
    rfl

/-- `ofList` leaves pairs that are in order as they are. -/
theorem ofList_of_isSorted {d : List (String × α)} (h : IsSorted d) : ofList d = d :=
  foldl_insert_of_isSorted (d := []) h

end StreamRecords.Dict

namespace StreamRecords.Json

/-! ### Induction over values -/

/-- A property of all values, by induction on what they hold. -/
@[elab_as_elim]
theorem Value.induction {P : Value → Prop} (null : P .null) (bool : ∀ b, P (.bool b))
    (number : ∀ n, P (.number n)) (string : ∀ s, P (.string s))
    (list : ∀ items, (∀ v ∈ items, P v) → P (.list items))
    (object : ∀ members, (∀ m ∈ members, P m.2) → P (.object members)) : ∀ v, P v
  | .null => null
  | .bool b => bool b
  | .number n => number n
  | .string s => string s
  | .list items => list items fun v hv =>
    have : sizeOf v < sizeOf items := List.sizeOf_lt_of_mem hv
    Value.induction null bool number string list object v
  | .object members => object members fun (k, v) hm =>
    have : sizeOf v < sizeOf members := by
      have := List.sizeOf_lt_of_mem hm
      rw [Prod.mk.sizeOf_spec] at this
      omega
    Value.induction null bool number string list object v

/-! ### Numbers -/

@[simp] theorem itemsHaveOnlyInts_iff (items : List Value) :
    Value.ItemsHaveOnlyInts items ↔ ∀ v ∈ items, v.HasOnlyInts := by
  induction items with
  | nil => simp [Value.ItemsHaveOnlyInts]
  | cons v items ih => simp [Value.ItemsHaveOnlyInts, ih]

@[simp] theorem membersHaveOnlyInts_iff (members : List (String × Value)) :
    Value.MembersHaveOnlyInts members ↔ ∀ m ∈ members, m.2.HasOnlyInts := by
  induction members with
  | nil => simp [Value.MembersHaveOnlyInts]
  | cons m members ih =>
    obtain ⟨k, v⟩ := m
    simp [Value.MembersHaveOnlyInts, ih]

@[simp] theorem Number.toInt64?_eq_some_iff {n : Number} {code : Int64} :
    n.toInt64? = some code ↔ n = .ofInt64 code := by
  constructor
  · intro h
    cases n with
    | float x => cases h
    | int n hn =>
      rw [toInt64?] at h
      split at h
      · next hlt =>
        have hcode : (Int64.ofInt n).toInt = n := Int64.toInt_ofInt_of_le hn.1 hlt
        cases h
        simp only [ofInt64, hcode]
      · cases h
  · rintro rfl
    have hlt : code.toInt < 9223372036854775808 := code.toInt_lt
    show (if code.toInt < 9223372036854775808 then _ else _) = _
    rw [if_pos hlt, Int64.ofInt_toInt]

@[simp] theorem Number.toNat?_eq_some_iff {n : Number} {k : Nat} :
    n.toNat? = some k ↔ ∃ exact, n = .int k exact := by
  constructor
  · intro h
    cases n with
    | float x => cases h
    | int n hn =>
      rw [toNat?] at h
      split at h
      · next hpos =>
        cases h
        have hk : (n.toNat : Int) = n := Int.toNat_of_nonneg hpos
        exact ⟨hk.symm ▸ hn, by simp only [hk]⟩
      · cases h
  · rintro ⟨hk, rfl⟩
    rw [toNat?, if_pos (Int.natCast_nonneg k), Int.toNat_natCast]

/-! ### Numbers and strings among the values -/

@[simp] theorem Value.asNumber?_eq_some_iff {v : Value} {n : Number} :
    v.asNumber? = some n ↔ v = .number n := by
  cases v <;> simp [asNumber?]

@[simp] theorem Value.asString?_eq_some_iff {v : Value} {s : String} :
    v.asString? = some s ↔ v = .string s := by
  cases v <;> simp [asString?]

/-! ### Documents -/

@[simp] theorem itemsAreDocuments_iff (items : List Value) :
    Value.ItemsAreDocuments items ↔ ∀ v ∈ items, v.IsDocument := by
  induction items with
  | nil => simp [Value.ItemsAreDocuments]
  | cons v items ih => simp [Value.ItemsAreDocuments, ih]

@[simp] theorem membersAreDocuments_iff (members : List (String × Value)) :
    Value.MembersAreDocuments members ↔ ∀ m ∈ members, m.2.IsDocument := by
  induction members with
  | nil => simp [Value.MembersAreDocuments]
  | cons m members ih =>
    obtain ⟨k, v⟩ := m
    simp [Value.MembersAreDocuments, ih]

@[simp] theorem toDocumentItems_eq_map (items : List Value) :
    Value.toDocumentItems items = items.map Value.toDocument := by
  induction items with
  | nil => rfl
  | cons v items ih => rw [Value.toDocumentItems, ih, List.map_cons]

@[simp] theorem toDocumentMembers_eq_map (members : List (String × Value)) :
    Value.toDocumentMembers members = members.map fun m => (m.1, m.2.toDocument) := by
  induction members with
  | nil => rfl
  | cons m members ih =>
    obtain ⟨k, v⟩ := m
    rw [Value.toDocumentMembers, ih, List.map_cons]

theorem toDocument_of_isDocument {v : Value} (h : v.IsDocument) : v.toDocument = v := by
  induction v using Value.induction with
  | null => rfl
  | bool b => rfl
  | number n => rfl
  | string s => rfl
  | list items ih =>
    have hi := (itemsAreDocuments_iff items).1 h
    rw [Value.toDocument, toDocumentItems_eq_map]
    congr 1
    conv => rhs; rw [← List.map_id items]
    exact List.map_congr_left fun v hv => ih v hv (hi v hv)
  | object members ih =>
    obtain ⟨hs, hm⟩ := h
    have hm := (membersAreDocuments_iff members).1 hm
    have e : members.map (fun m => (m.1, m.2.toDocument)) = members := by
      conv => rhs; rw [← List.map_id members]
      exact List.map_congr_left fun m hmem => by rw [ih m hmem (hm m hmem)]; rfl
    rw [Value.toDocument, toDocumentMembers_eq_map, e, Dict.ofList_of_isSorted hs]

/-! ### Depth -/

@[simp] theorem depthItems_le_iff {items : List Value} {depth : Nat} :
    Value.depthItems items ≤ depth ↔ ∀ v ∈ items, v.depth ≤ depth := by
  induction items with
  | nil => simp [Value.depthItems]
  | cons v items ih =>
    rw [Value.depthItems, Nat.max_le, ih]
    simp

@[simp] theorem depthMembers_le_iff {members : List (String × Value)} {depth : Nat} :
    Value.depthMembers members ≤ depth ↔ ∀ m ∈ members, m.2.depth ≤ depth := by
  induction members with
  | nil => simp [Value.depthMembers]
  | cons m members ih =>
    obtain ⟨k, v⟩ := m
    rw [Value.depthMembers, Nat.max_le, ih]
    simp

end StreamRecords.Json
