import StreamRecords.Proofs.Json.ReaderText
import StreamRecords.Proofs.Json.Spelling

/-!
JSON texts in all their layouts. A text is a row of tokens with white space between them or not; a
tree tells the tokens, and nothing about the white space.
-/

namespace StreamRecords.Json

/-! ### Tokens and white space -/

/-- A text of white space alone. -/
def IsBlank (s : Bytes) : Prop := ∀ b ∈ s, b = 0x20 ∨ b = 0x09 ∨ b = 0x0A ∨ b = 0x0D

/-- **`Laid ts s`: the text `s` lays out the tokens `ts`.** It has them in their order, with white
space before each of them and at the end, or not. -/
def Laid : List Bytes → Bytes → Prop
  | [], s => IsBlank s
  | t :: ts, s => ∃ blank rest, s = blank ++ (t ++ rest) ∧ IsBlank blank ∧ Laid ts rest

theorem isBlank_nil : IsBlank [] := fun _ h => nomatch h

theorem laid_flatMap {blank : Bytes} (h : IsBlank blank) (ts : List Bytes) :
    Laid ts (ts.flatMap (blank ++ ·) ++ blank) := by
  induction ts with
  | nil => exact h
  | cons t ts ih => exact ⟨blank, ts.flatMap (blank ++ ·) ++ blank, by simp, h, ih⟩

theorem laid_flatten (ts : List Bytes) : Laid ts ts.flatten := by
  simpa using laid_flatMap isBlank_nil ts

theorem skipSpace_blank {blank : Bytes} (h : IsBlank blank) (s : Bytes) :
    skipSpace (blank ++ s) = skipSpace s :=
  List.dropWhile_append_of_pos fun b hb => (isSpace_iff b).2 (h b hb)

theorem skipSpace_of_isBlank {s : Bytes} (h : IsBlank s) : skipSpace s = [] := by
  have := skipSpace_blank h []
  rwa [List.append_nil] at this

theorem Laid.exists_rest {ts us : List Bytes} {s : Bytes} (h : Laid (ts ++ us) s) :
    ∃ rest, Laid us rest := by
  induction ts generalizing s with
  | nil => exact ⟨s, h⟩
  | cons t ts ih =>
    obtain ⟨blank, rest, -, -, hrest⟩ := h
    exact ih hrest

/-- `t` is not empty, and starts otherwise than white space. -/
def IsToken (t : Bytes) : Prop := t ≠ [] ∧ ∀ rest, lead (t ++ rest) ≠ .other

theorem Laid.length_le {ts us : List Bytes} {s : Bytes} (h : Laid (ts ++ us) s)
    (hts : ∀ t ∈ ts, IsToken t) : ts.length ≤ s.length := by
  induction ts generalizing s with
  | nil => exact Nat.zero_le _
  | cons t ts ih =>
    obtain ⟨blank, rest, rfl, -, hrest⟩ := h
    have := ih hrest fun u hu => hts u (List.mem_cons_of_mem t hu)
    have := List.length_pos_iff.2 (hts t List.mem_cons_self).1
    simp only [List.length_append, List.length_cons]
    omega

/-- **The first token stands behind the white space.** -/
theorem Laid.first {t : Bytes} {ts : List Bytes} {s : Bytes} (h : Laid (t :: ts) s)
    (ht : IsToken t) : ∃ rest, skipSpace s = t ++ rest ∧ Laid ts rest := by
  obtain ⟨blank, rest, rfl, hblank, hrest⟩ := h
  exact ⟨rest, (skipSpace_blank hblank _).trans (skipSpace_of_lead (ht.2 rest)), hrest⟩

theorem laid_cons (t : Bytes) {ts : List Bytes} {s : Bytes} (h : Laid ts s) :
    Laid (t :: ts) (t ++ s) := ⟨[], s, rfl, isBlank_nil, h⟩

theorem Laid.skipSpace {t : Bytes} {ts : List Bytes} {s : Bytes} (h : Laid (t :: ts) s)
    (ht : IsToken t) : Laid (t :: ts) (skipSpace s) := by
  obtain ⟨rest, hs, hrest⟩ := h.first ht
  rw [hs]
  exact laid_cons t hrest

theorem isToken_byte {b : UInt8} (h : Lead.ofByte b ≠ .other) : IsToken [b] :=
  ⟨List.cons_ne_nil b [], fun _ => h⟩

theorem Laid.byte {b : UInt8} {ts : List Bytes} {s : Bytes} (h : Laid ([b] :: ts) s)
    (hb : Lead.ofByte b ≠ .other) : ∃ rest, Json.skipSpace s = b :: rest ∧ Laid ts rest :=
  h.first (isToken_byte hb)

/-- What may follow a value: nothing, or a token that ends an item or a member. -/
def EndsTokens (ts : List Bytes) : Prop := ∀ t ∈ ts.head?, t = [0x2C] ∨ t = [0x5D] ∨ t = [0x7D]

theorem endsTokens_nil : EndsTokens [] := fun _ h => nomatch h

theorem endsTokens_cons {t : Bytes} (ts : List Bytes)
    (h : t = [0x2C] ∨ t = [0x5D] ∨ t = [0x7D]) : EndsTokens (t :: ts) := by
  intro u hu
  cases hu
  exact h

/-- What follows a value does not go on with what could belong to a number, so `numeral` stops
there. -/
theorem Laid.endsNumeral {later : List Bytes} {s : Bytes} (h : Laid later s)
    (hlater : EndsTokens later) : EndsNumeral s := by
  have hblank {b : UInt8} (hb : b = 0x20 ∨ b = 0x09 ∨ b = 0x0A ∨ b = 0x0D) :
      isDigit b = false ∧ b ≠ 0x2E ∧ b ≠ 0x65 ∧ b ≠ 0x45 := by
    rcases hb with rfl | rfl | rfl | rfl <;> decide
  intro b hb
  cases later with
  | nil => exact hblank (h b (List.mem_of_mem_head? hb))
  | cons t later =>
    obtain ⟨blank, rest, rfl, hspace, -⟩ := h
    cases blank with
    | cons c blank =>
      cases hb
      exact hblank (hspace b List.mem_cons_self)
    | nil => rcases hlater t rfl with rfl | rfl | rfl <;> cases hb <;> decide

/-! ### Trees -/

/-- The text between the quotes of a string. -/
structure StringText where
  chars : Bytes
  isText : IsStringText chars

def StringText.token (s : StringText) : Bytes := 0x22 :: (s.chars ++ [0x22])

/-- **A JSON value as it is spelled**, but for the white space: with every string and number in its
own spelling, nested to any depth, and the members of its objects in the order of the text. A
`Value` keeps nothing of this. -/
inductive Tree where
  | null
  | bool (b : Bool)
  | number (n : NumberText)
  | string (s : StringText)
  | list (items : List Tree)
  | object (members : List (StringText × Tree))

namespace Tree

mutual

/-- **The tokens of a value.** -/
def tokens : Tree → List Bytes
  | .null => [[0x6E, 0x75, 0x6C, 0x6C]]
  | .bool true => [[0x74, 0x72, 0x75, 0x65]]
  | .bool false => [[0x66, 0x61, 0x6C, 0x73, 0x65]]
  | .number n => [n.bytes]
  | .string s => [s.token]
  | .list items => [0x5B] :: (itemTokens items ++ [[0x5D]])
  | .object members => [0x7B] :: (memberTokens members ++ [[0x7D]])

def itemTokens : List Tree → List Bytes
  | [] => []
  | [t] => t.tokens
  | t :: u :: items => t.tokens ++ [0x2C] :: itemTokens (u :: items)

def memberTokens : List (StringText × Tree) → List Bytes
  | [] => []
  | [(k, t)] => k.token :: [0x3A] :: t.tokens
  | (k, t) :: m :: members =>
    k.token :: [0x3A] :: (t.tokens ++ [0x2C] :: memberTokens (m :: members))

end

/-- The tokens of `items` that are not the first of their list, each behind a comma. -/
def laterItems (items : List Tree) : List Bytes := items.flatMap fun t => [0x2C] :: t.tokens

def entry (m : StringText × Tree) : List Bytes := m.1.token :: [0x3A] :: m.2.tokens

/-- The tokens of `members` that are not the first of their object, each behind a comma. -/
def laterMembers (members : List (StringText × Tree)) : List Bytes :=
  members.flatMap fun m => [0x2C] :: entry m

theorem itemTokens_cons (t : Tree) (items : List Tree) :
    itemTokens (t :: items) = t.tokens ++ laterItems items := by
  induction items generalizing t with
  | nil => exact (List.append_nil _).symm
  | cons u items ih =>
    rw [itemTokens, ih]
    rfl

theorem memberTokens_cons (m : StringText × Tree) (members : List (StringText × Tree)) :
    memberTokens (m :: members) = entry m ++ laterMembers members := by
  induction members generalizing m with
  | nil => exact (List.append_nil _).symm
  | cons w members ih =>
    rw [memberTokens, ih]
    rfl

/-- What the first token of a value shows. -/
def lead : Tree → Lead
  | .null => .letterN
  | .bool true => .letterT
  | .bool false => .letterF
  | .number n => if n.minus then .minus else .digit
  | .string _ => .quote
  | .list _ => .openList
  | .object _ => .openObject

theorem lead_cases (t : Tree) :
    t.lead = .letterN ∨ t.lead = .letterT ∨ t.lead = .letterF ∨ t.lead = .minus ∨
      t.lead = .digit ∨ t.lead = .quote ∨ t.lead = .openList ∨ t.lead = .openObject := by
  cases t with
  | bool b => cases b <;> simp [lead]
  | number n =>
    rw [lead]
    split <;> simp
  | _ => simp [lead]

theorem exists_first (t : Tree) :
    ∃ first others, t.tokens = first :: others ∧ IsToken first ∧
      ∀ rest, Json.lead (first ++ rest) = t.lead := by
  have hne : t.lead ≠ .other ∧ t.lead ≠ .nothing := by
    rcases t.lead_cases with e | e | e | e | e | e | e | e <;> rw [e] <;> decide
  suffices h : ∃ first others, t.tokens = first :: others ∧
      ∀ rest, Json.lead (first ++ rest) = t.lead by
    obtain ⟨first, others, htokens, hlead⟩ := h
    refine ⟨first, others, htokens, ⟨?_, fun rest => hlead rest ▸ hne.1⟩, hlead⟩
    rintro rfl
    exact hne.2 (hlead []).symm
  match t with
  | .null => exact ⟨_, _, rfl, fun rest => rfl⟩
  | .bool true => exact ⟨_, _, rfl, fun rest => rfl⟩
  | .bool false => exact ⟨_, _, rfl, fun rest => rfl⟩
  | .number n => exact ⟨_, _, rfl, fun rest => n.lead_bytes rest⟩
  | .string s => exact ⟨_, _, rfl, fun rest => rfl⟩
  | .list items => exact ⟨_, _, rfl, fun rest => rfl⟩
  | .object members => exact ⟨_, _, rfl, fun rest => rfl⟩

end Tree

theorem StringText.token_append (s : StringText) (rest : Bytes) :
    s.token ++ rest = 0x22 :: (s.chars ++ 0x22 :: rest) := by
  simp [token]

theorem StringText.isToken (s : StringText) : IsToken s.token :=
  ⟨List.cons_ne_nil _ _, fun _ => Lead.noConfusion⟩

section

variable {t : Tree} {later : List Bytes} {s : Bytes}

/-- `lead` finds the kind of `t` behind the white space. -/
theorem lead_of_laid (h : Laid (t.tokens ++ later) s) : lead (skipSpace s) = t.lead := by
  obtain ⟨first, others, htokens, hfirst, hlead⟩ := t.exists_first
  rw [htokens] at h
  obtain ⟨rest, hs, -⟩ := h.first hfirst
  rw [hs, hlead]

theorem laid_skipSpace (h : Laid (t.tokens ++ later) s) :
    Laid (t.tokens ++ later) (skipSpace s) := by
  obtain ⟨first, others, htokens, hfirst, -⟩ := t.exists_first
  rw [htokens] at h ⊢
  exact h.skipSpace hfirst

end

/-! ### Numbers of tokens -/

theorem Tree.length_tokens_pos (t : Tree) : 0 < t.tokens.length := by
  obtain ⟨first, others, htokens, -⟩ := t.exists_first
  rw [htokens]
  exact Nat.succ_pos _

@[simp] theorem Tree.length_laterItems_cons (t : Tree) (items : List Tree) :
    (laterItems (t :: items)).length = t.tokens.length + 1 + (laterItems items).length := by
  rw [laterItems, List.flatMap_cons, ← laterItems, List.length_append, List.length_cons]

@[simp]
theorem Tree.length_laterMembers_cons (m : StringText × Tree) (members : List (StringText × Tree)) :
    (laterMembers (m :: members)).length =
      m.2.tokens.length + 3 + (laterMembers members).length := by
  rw [laterMembers, List.flatMap_cons, ← laterMembers, List.length_append]
  rfl

theorem Tree.length_le_laterItems (items : List Tree) :
    items.length ≤ (laterItems items).length := by
  induction items with
  | nil => exact Nat.le_refl 0
  | cons t items ih =>
    rw [length_laterItems_cons, List.length_cons]
    omega

theorem Tree.length_le_laterMembers (members : List (StringText × Tree)) :
    members.length ≤ (laterMembers members).length := by
  induction members with
  | nil => exact Nat.le_refl 0
  | cons m members ih =>
    rw [length_laterMembers_cons, List.length_cons]
    omega

/-! ### All tokens of a tree -/

/-- A property of all trees, by induction on what they hold. -/
@[elab_as_elim]
theorem Tree.induction {P : Tree → Prop} (null : P .null) (bool : ∀ b, P (.bool b))
    (number : ∀ n, P (.number n)) (string : ∀ s, P (.string s))
    (list : ∀ items, (∀ t ∈ items, P t) → P (.list items))
    (object : ∀ members, (∀ m ∈ members, P m.2) → P (.object members)) : ∀ t, P t
  | .null => null
  | .bool b => bool b
  | .number n => number n
  | .string s => string s
  | .list items => list items fun t ht =>
    have : sizeOf t < sizeOf items := List.sizeOf_lt_of_mem ht
    Tree.induction null bool number string list object t
  | .object members => object members fun (k, t) hm =>
    have : sizeOf t < sizeOf members := by
      have := List.sizeOf_lt_of_mem hm
      rw [Prod.mk.sizeOf_spec] at this
      omega
    Tree.induction null bool number string list object t

def AreTokens (ts : List Bytes) : Prop := ∀ t ∈ ts, IsToken t

theorem areTokens_nil : AreTokens [] := fun _ h => nomatch h

theorem AreTokens.cons {t : Bytes} {ts : List Bytes} (ht : IsToken t) (hts : AreTokens ts) :
    AreTokens (t :: ts) := by
  intro u hu
  rcases List.mem_cons.1 hu with rfl | hu
  · exact ht
  · exact hts u hu

theorem AreTokens.append {ts us : List Bytes} (hts : AreTokens ts) (hus : AreTokens us) :
    AreTokens (ts ++ us) := by
  intro u hu
  rcases List.mem_append.1 hu with hu | hu
  · exact hts u hu
  · exact hus u hu

theorem AreTokens.flatMap {α : Type} {as : List α} {f : α → List Bytes}
    (h : ∀ a ∈ as, AreTokens (f a)) : AreTokens (as.flatMap f) := by
  intro u hu
  obtain ⟨a, ha, hu⟩ := List.mem_flatMap.1 hu
  exact h a ha u hu

theorem Tree.areTokens_laterItems {items : List Tree} (h : ∀ t ∈ items, AreTokens t.tokens) :
    AreTokens (laterItems items) :=
  .flatMap fun t ht => (h t ht).cons (isToken_byte (by decide))

theorem Tree.areTokens_entry {m : StringText × Tree} (h : AreTokens m.2.tokens) :
    AreTokens (entry m) :=
  (h.cons (isToken_byte (by decide))).cons m.1.isToken

theorem Tree.areTokens_laterMembers {members : List (StringText × Tree)}
    (h : ∀ m ∈ members, AreTokens m.2.tokens) : AreTokens (laterMembers members) :=
  .flatMap fun m hm => (areTokens_entry (h m hm)).cons (isToken_byte (by decide))

theorem Tree.areTokens (t : Tree) : AreTokens t.tokens := by
  have single {t : Tree} (h : ∃ u, t.tokens = [u]) : AreTokens t.tokens := by
    obtain ⟨first, others, htokens, hfirst, -⟩ := t.exists_first
    obtain ⟨u, hu⟩ := h
    cases hu.symm.trans htokens
    rw [hu]
    exact areTokens_nil.cons hfirst
  have close {b : UInt8} (hb : Lead.ofByte b ≠ .other) : AreTokens [[b]] :=
    areTokens_nil.cons (isToken_byte hb)
  -- a word, a number and a string are one token each; brackets and commas are one byte each
  induction t using Tree.induction with
  | null => exact single ⟨_, rfl⟩
  | bool b => cases b <;> exact single ⟨_, rfl⟩
  | number n => exact single ⟨_, rfl⟩
  | string s => exact single ⟨_, rfl⟩
  | list items ih =>
    refine AreTokens.cons (isToken_byte (by decide)) (AreTokens.append ?_ (close (by decide)))
    cases items with
    | nil => exact areTokens_nil
    | cons t items =>
      rw [itemTokens_cons]
      exact (ih t List.mem_cons_self).append
        (areTokens_laterItems fun u hu => ih u (List.mem_cons_of_mem t hu))
  | object members ih =>
    refine AreTokens.cons (isToken_byte (by decide)) (AreTokens.append ?_ (close (by decide)))
    cases members with
    | nil => exact areTokens_nil
    | cons m members =>
      rw [memberTokens_cons]
      exact (areTokens_entry (ih m List.mem_cons_self)).append
        (areTokens_laterMembers fun w hw => ih w (List.mem_cons_of_mem m hw))

/-- `skipSpace` comes to the `first` token of `t`, and leaves a layout of the `others`. -/
theorem Tree.first_of_laid {t : Tree} {first : Bytes} {others later : List Bytes} {s : Bytes}
    (htokens : t.tokens = first :: others) (h : Laid (t.tokens ++ later) s) :
    ∃ rest, Json.skipSpace s = first ++ rest ∧ Laid (others ++ later) rest := by
  have hfirst : IsToken first := t.areTokens first (by rw [htokens]; exact List.mem_cons_self)
  rw [htokens] at h
  exact h.first hfirst

end StreamRecords.Json
