import StreamRecords.Json.Reader
import StreamRecords.Proofs.Json.NumeralText
import StreamRecords.Proofs.Json.StringText
import StreamRecords.Proofs.Json.Value

/-!
Lists and objects as they are written. Whatever makes of a written item or member the same as a
function of it, reads a written list or object item by item and member by member.
-/

namespace StreamRecords.Json

/-! ### Items and members as they are written -/

def laterItems (items : List Value) : Bytes := items.flatMap fun v => 0x2C :: v.bytes

/-- The text of the member `m` after the first quote of its name. -/
def memberTail (m : String × Value) : Bytes :=
  Utf8.encode (m.1.toList.flatMap escapeChar) ++ 0x22 :: 0x3A :: m.2.bytes

def laterMembers (members : List (String × Value)) : Bytes :=
  members.flatMap fun m => 0x2C :: 0x22 :: memberTail m

theorem encode_ascii_cons {c : Char} (cs : List Char) {b : UInt8}
    (h : String.utf8EncodeChar c = [b]) : Utf8.encode (c :: cs) = b :: Utf8.encode cs := by
  rw [Utf8.encode_cons, h]
  rfl

theorem encode_itemsText (v : Value) (items : List Value) :
    Utf8.encode (Value.itemsText (v :: items)) = v.bytes ++ laterItems items := by
  induction items generalizing v with
  | nil => exact (List.append_nil _).symm
  | cons w items ih =>
    rw [Value.itemsText, Utf8.encode_append, encode_ascii_cons _ (b := 0x2C) rfl, ih]
    rfl

theorem encode_memberText (m : String × Value) (cs : List Char) :
    Utf8.encode (stringText m.1 ++ ':' :: m.2.text ++ cs) =
      0x22 :: memberTail m ++ Utf8.encode cs := by
  rw [List.append_assoc, Utf8.encode_append, encode_stringText, List.cons_append,
    encode_ascii_cons _ (b := 0x3A) rfl, Utf8.encode_append, memberTail]
  simp [Value.bytes]

theorem encode_membersText (m : String × Value) (members : List (String × Value)) :
    Utf8.encode (Value.membersText (m :: members)) =
      0x22 :: memberTail m ++ laterMembers members := by
  induction members generalizing m with
  | nil =>
    have := encode_memberText m []
    rw [List.append_nil] at this
    rw [Value.membersText, this]
    rfl
  | cons n members ih =>
    rw [Value.membersText, encode_memberText, encode_ascii_cons _ (b := 0x2C) rfl, ih]
    rfl

theorem bytes_list (items : List Value) (rest : Bytes) :
    (Value.list items).bytes ++ rest =
      0x5B :: (Utf8.encode (Value.itemsText items) ++ 0x5D :: rest) := by
  rw [Value.bytes, Value.text, List.cons_append, encode_ascii_cons _ (b := 0x5B) rfl,
    Utf8.encode_append, encode_ascii_cons _ (b := 0x5D) rfl]
  simp [Utf8.encode_nil]

theorem bytes_object (members : List (String × Value)) (rest : Bytes) :
    (Value.object members).bytes ++ rest =
      0x7B :: (Utf8.encode (Value.membersText members) ++ 0x7D :: rest) := by
  rw [Value.bytes, Value.text, List.cons_append, encode_ascii_cons _ (b := 0x7B) rfl,
    Utf8.encode_append, encode_ascii_cons _ (b := 0x7D) rfl]
  simp [Utf8.encode_nil]

theorem bytes_string (t : String) (rest : Bytes) :
    (Value.string t).bytes ++ rest =
      0x22 :: (Utf8.encode (t.toList.flatMap escapeChar) ++ 0x22 :: rest) :=
  encode_stringText t rest

/-! ### No text is empty -/

theorem magnitude_ne_nil (x : Decimal.Magnitude) : floatLayout.magnitude x ≠ [] := by
  unfold FloatLayout.magnitude
  split
  · simp
  · dsimp only
    split
    · unfold FloatLayout.positional
      split
      · simp
      · split
        · simp [floatLayout]
        · simp
    · simp [FloatLayout.scientific, floatLayout]

theorem text_ne_nil (v : Value) : v.text ≠ [] := by
  cases v with
  | bool b => cases b <;> simp [Value.text]
  | number n =>
    rw [Value.text]
    cases n with
    | int n _ =>
      rw [Number.text, Text.decimalInt]
      split
      · simp
      · exact decimal_ne_nil _
    | float x =>
      rw [Number.text, floatText]
      split
      · simp [magnitude_ne_nil]
      · decide
  | _ => simp [Value.text, stringText]

theorem length_bytes_pos (v : Value) : 0 < v.bytes.length := by
  rw [Value.bytes]
  cases h : v.text with
  | nil => exact absurd h (text_ne_nil v)
  | cons c cs =>
    have := c.utf8Size_pos
    rw [Utf8.encode_cons, List.length_append, String.length_utf8EncodeChar]
    omega

/-! ### The start of a text -/

theorem isSpace_iff (b : UInt8) : isSpace b = true ↔ b = 0x20 ∨ b = 0x09 ∨ b = 0x0A ∨ b = 0x0D := by
  simp [isSpace, or_assoc]

theorem skipSpace_of_lead {s : Bytes} (h : lead s ≠ .other) : skipSpace s = s := by
  cases s with
  | nil => rfl
  | cons b s =>
    refine List.dropWhile_cons_of_neg fun hb => h ?_
    rcases (isSpace_iff b).1 hb with rfl | rfl | rfl | rfl <;> rfl

/-- What the text of a value shows to `lead`. -/
def Value.lead : Value → Lead
  | .null => .letterN
  | .bool true => .letterT
  | .bool false => .letterF
  | .number (.int n _) => if n < 0 then .minus else .digit
  | .number (.float _) => .digit
  | .string _ => .quote
  | .list _ => .openList
  | .object _ => .openObject

@[simp]
theorem lead_bytes {v : Value} (h : v.HasOnlyInts) (s : Bytes) : lead (v.bytes ++ s) = v.lead := by
  match v, h with
  | .null, _ => rfl
  | .bool true, _ => rfl
  | .bool false, _ => rfl
  | .number (.int n _), _ => exact lead_encode_decimalInt n s
  | .string t, _ =>
    show lead (Utf8.encode (stringText t) ++ s) = .quote
    rw [encode_stringText]
    rfl
  | .list _, _ => rfl
  | .object _, _ => rfl

theorem Value.lead_cases (v : Value) :
    v.lead = .letterN ∨ v.lead = .letterT ∨ v.lead = .letterF ∨ v.lead = .minus ∨
      v.lead = .digit ∨ v.lead = .quote ∨ v.lead = .openList ∨ v.lead = .openObject := by
  cases v with
  | bool b => cases b <;> simp [Value.lead]
  | number n =>
    cases n with
    | int n _ =>
      rw [Value.lead]
      split <;> simp
    | float x => simp [Value.lead]
  | _ => simp [Value.lead]

@[simp] theorem skipSpace_bytes {v : Value} (h : v.HasOnlyInts) (s : Bytes) :
    skipSpace (v.bytes ++ s) = v.bytes ++ s := by
  refine skipSpace_of_lead ?_
  rw [lead_bytes h]
  rcases v.lead_cases with e | e | e | e | e | e | e | e <;> rw [e] <;> decide

@[simp] theorem nextItem_bytes {v : Value} (h : v.HasOnlyInts) (s : Bytes) :
    nextItem true (v.bytes ++ s) = .ok (.another (v.bytes ++ s)) := by
  unfold nextItem
  simp only [skipSpace_bytes h, lead_bytes h]
  rcases v.lead_cases with e | e | e | e | e | e | e | e <;> rw [e]

theorem nextItem_comma {v : Value} (h : v.HasOnlyInts) (s : Bytes) :
    nextItem false (0x2C :: (v.bytes ++ s)) = .ok (.another (v.bytes ++ s)) := by
  have hc : skipSpace (0x2C :: (v.bytes ++ s)) = 0x2C :: (v.bytes ++ s) := rfl
  have hl : lead (0x2C :: (v.bytes ++ s)) = .comma := rfl
  unfold nextItem
  simp only [hc, hl, List.tail_cons, skipSpace_bytes h, lead_bytes h]
  rcases v.lead_cases with e | e | e | e | e | e | e | e <;> rw [e]

/-- `s` goes on with what ends an item or a member, or not at all. -/
def EndsValue (s : Bytes) : Prop :=
  ∀ b ∈ s.head?, b = 0x2C ∨ b = 0x5D ∨ b = 0x7D

theorem EndsValue.endsNumeral {s : Bytes} (h : EndsValue s) : EndsNumeral s := by
  intro b hb
  rcases h b hb with rfl | rfl | rfl <;> decide

theorem endsValue_nil : EndsValue [] := by
  intro b hb
  cases hb

theorem endsValue_cons {b : UInt8} (s : Bytes) (h : b = 0x2C ∨ b = 0x5D ∨ b = 0x7D) :
    EndsValue (b :: s) := by
  intro d hd
  cases hd
  exact h

/-! ### Reading what is written -/

section

variable {α σ : Type}

/-- `read` makes `r` of the text of `v`, and leaves what follows. -/
def ReadsAs (read : Reader α) (v : Value) (r : Except Fault α) : Prop :=
  ∀ rest, EndsValue rest → read (v.bytes ++ rest) = r.map (·, rest)

theorem endsValue_laterItems (items : List Value) (rest : Bytes) :
    EndsValue (laterItems items ++ 0x5D :: rest) := by
  cases items with
  | nil => exact endsValue_cons _ (by decide)
  | cons v items => exact endsValue_cons _ (by decide)

/-- The item `v` is read first, and `later` reads on behind it. -/
theorem item_bind {item : Reader α} {later : Reader (List α)} {f : Value → Except Fault α}
    {v : Value} {vs : List Value} {s rest : Bytes} (hv : item (v.bytes ++ s) = (f v).map (·, s))
    (hlater : later s = (vs.mapM f).map (·, rest)) :
    (item (v.bytes ++ s) >>= fun p => later p.2 >>= fun q => pure (p.1 :: q.1, q.2)) =
      ((v :: vs).mapM f).map (·, rest) := by
  rw [hv, List.mapM_cons]
  cases f v with
  | error e => rfl
  | ok a =>
    show (later s >>= fun q => pure (a :: q.1, q.2)) =
      Except.map _ (vs.mapM f >>= fun as => pure (a :: as))
    rw [hlater]
    cases vs.mapM f <;> rfl

theorem items_laterItems {item : Reader α} {f : Value → Except Fault α} {vs : List Value}
    (hint : ∀ v ∈ vs, v.HasOnlyInts) (hf : ∀ v ∈ vs, ReadsAs item v (f v)) {n : Nat}
    (hn : vs.length < n) (rest : Bytes) :
    items item n false (laterItems vs ++ 0x5D :: rest) = (vs.mapM f).map (·, rest) := by
  -- `n` bounds the rounds of `items`, one for each item and one for the bracket
  induction vs generalizing n with
  | nil =>
    obtain ⟨n, rfl⟩ := Nat.exists_eq_add_of_lt hn
    rfl
  | cons v vs ih =>
    obtain ⟨n, rfl⟩ : ∃ m, n = m + 1 := ⟨n - 1, by simp only [List.length_cons] at hn; omega⟩
    have hv := hf v List.mem_cons_self _ (endsValue_laterItems vs rest)
    have ih := ih (fun w hw => hint w (List.mem_cons_of_mem v hw))
      (fun w hw => hf w (List.mem_cons_of_mem v hw)) (n := n)
      (by simp only [List.length_cons] at hn; omega)
    have e : laterItems (v :: vs) ++ 0x5D :: rest =
        0x2C :: (v.bytes ++ (laterItems vs ++ 0x5D :: rest)) := by
      simp [laterItems]
    rw [items, e, nextItem_comma (hint v List.mem_cons_self)]
    exact item_bind hv ih

theorem length_le_laterItems (vs : List Value) : vs.length ≤ (laterItems vs).length := by
  induction vs with
  | nil => exact Nat.le_refl 0
  | cons v vs ih =>
    rw [laterItems, List.flatMap_cons, ← laterItems]
    simp only [List.length_cons, List.length_append]
    omega

/-- **A list that is written is read item by item**: `f` tells what `item` makes of each. -/
theorem listTail_itemsText {item : Reader α} {f : Value → Except Fault α} {vs : List Value}
    (hint : ∀ v ∈ vs, v.HasOnlyInts) (hf : ∀ v ∈ vs, ReadsAs item v (f v)) (rest : Bytes) :
    listTail item (Utf8.encode (Value.itemsText vs) ++ 0x5D :: rest) =
      (vs.mapM f).map (·, rest) := by
  cases vs with
  | nil => rfl
  | cons v vs =>
    have hv := hf v List.mem_cons_self _ (endsValue_laterItems vs rest)
    -- `listTail` makes as many rounds as there are bytes, and every item has one at least
    have hlen : vs.length < (Utf8.encode (Value.itemsText (v :: vs)) ++ 0x5D :: rest).length := by
      have := length_le_laterItems vs
      rw [encode_itemsText]
      simp only [List.length_append, List.length_cons]
      omega
    have hlater := items_laterItems (fun w hw => hint w (List.mem_cons_of_mem v hw))
      (fun w hw => hf w (List.mem_cons_of_mem v hw)) hlen rest
    rw [listTail, items]
    rw [encode_itemsText, List.append_assoc] at hlater ⊢
    rw [nextItem_bytes (hint v List.mem_cons_self)]
    exact item_bind hv hlater

/-- `member` makes of a state and the text of `m` what `f` tells. -/
def ReadsMemberAs (member : σ → Reader σ) (f : σ → String × Value → Except Fault σ)
    (m : String × Value) : Prop :=
  ∀ state rest, EndsValue rest →
    member state (memberTail m ++ rest) = (f state m).map (·, rest)

theorem endsValue_laterMembers (ms : List (String × Value)) (rest : Bytes) :
    EndsValue (laterMembers ms ++ 0x7D :: rest) := by
  cases ms with
  | nil => exact endsValue_cons _ (by decide)
  | cons m ms => exact endsValue_cons _ (by decide)

theorem members_laterMembers {member : σ → Reader σ} {f : σ → String × Value → Except Fault σ}
    {ms : List (String × Value)} (hf : ∀ m ∈ ms, ReadsMemberAs member f m) (state : σ) {n : Nat}
    (hn : ms.length < n) (rest : Bytes) :
    members member n false state (laterMembers ms ++ 0x7D :: rest) =
      (ms.foldlM f state).map (·, rest) := by
  -- the state goes on from member to member, so the induction is for all states
  induction ms generalizing n state with
  | nil =>
    obtain ⟨n, rfl⟩ := Nat.exists_eq_add_of_lt hn
    rfl
  | cons m ms ih =>
    obtain ⟨n, rfl⟩ : ∃ k, n = k + 1 := ⟨n - 1, by simp only [List.length_cons] at hn; omega⟩
    have hm := hf m List.mem_cons_self state _ (endsValue_laterMembers ms rest)
    have e : laterMembers (m :: ms) ++ 0x7D :: rest =
        0x2C :: 0x22 :: (memberTail m ++ (laterMembers ms ++ 0x7D :: rest)) := by
      simp [laterMembers]
    have hnext : nextMember false (0x2C :: 0x22 :: (memberTail m ++ (laterMembers ms ++
        0x7D :: rest))) = .ok (.another (memberTail m ++ (laterMembers ms ++ 0x7D :: rest))) := rfl
    rw [members, e, hnext, List.foldlM_cons]
    show (member state (memberTail m ++ (laterMembers ms ++ 0x7D :: rest)) >>= fun p =>
      members member n false p.1 p.2) = _
    rw [hm]
    cases f state m with
    | error e => rfl
    | ok state' =>
      exact ih (fun w hw => hf w (List.mem_cons_of_mem m hw)) state'
        (by simp only [List.length_cons] at hn; omega)

theorem length_le_laterMembers (ms : List (String × Value)) :
    ms.length ≤ (laterMembers ms).length := by
  induction ms with
  | nil => exact Nat.le_refl 0
  | cons m ms ih =>
    rw [laterMembers, List.flatMap_cons, ← laterMembers]
    simp only [List.length_cons, List.length_append]
    omega

/-- **An object that is written is read member by member**: `f` tells what each adds to the state.
-/
theorem objectTail_membersText {member : σ → Reader σ}
    {f : σ → String × Value → Except Fault σ} {ms : List (String × Value)}
    (hf : ∀ m ∈ ms, ReadsMemberAs member f m) (start : σ) (rest : Bytes) :
    objectTail member start (Utf8.encode (Value.membersText ms) ++ 0x7D :: rest) =
      (ms.foldlM f start).map (·, rest) := by
  cases ms with
  | nil => rfl
  | cons m ms =>
    have hm := hf m List.mem_cons_self start _ (endsValue_laterMembers ms rest)
    -- `objectTail` makes as many rounds as there are bytes, and every member has one at least
    have hlen : ms.length <
        (Utf8.encode (Value.membersText (m :: ms)) ++ 0x7D :: rest).length := by
      have := length_le_laterMembers ms
      rw [encode_membersText]
      simp only [List.length_append, List.length_cons]
      omega
    have hlater := fun state => members_laterMembers
      (fun w hw => hf w (List.mem_cons_of_mem m hw)) state hlen rest
    have e : Utf8.encode (Value.membersText (m :: ms)) ++ 0x7D :: rest =
        0x22 :: (memberTail m ++ (laterMembers ms ++ 0x7D :: rest)) := by
      rw [encode_membersText]
      simp
    have hnext : nextMember true (0x22 :: (memberTail m ++ (laterMembers ms ++ 0x7D :: rest))) =
        .ok (.another (memberTail m ++ (laterMembers ms ++ 0x7D :: rest))) := rfl
    rw [objectTail, members]
    rw [e] at hlater ⊢
    rw [hnext, List.foldlM_cons]
    show (member start (memberTail m ++ (laterMembers ms ++ 0x7D :: rest)) >>= fun p =>
      members member _ false p.1 p.2) = _
    rw [hm]
    cases f start m with
    | error e => rfl
    | ok state => exact hlater state

end

theorem stringTail_memberTail (m : String × Value) (rest : Bytes) :
    stringTail (memberTail m ++ rest) = .ok (m.1, 0x3A :: (m.2.bytes ++ rest)) := by
  rw [memberTail, List.append_assoc]
  exact stringTail_chars m.1 _

end StreamRecords.Json
