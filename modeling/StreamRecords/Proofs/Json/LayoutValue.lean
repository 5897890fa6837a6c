import StreamRecords.Json.ValueReader
import StreamRecords.Proofs.Except
import StreamRecords.Proofs.Json.Layout

/-!
Reading values in all their layouts. What is read of a value depends on its tokens alone, and the
reader stops behind the last of them.
-/

namespace StreamRecords.Json

variable {α σ : Type}

/-! ### What is read of tokens -/

/-- **`read` makes `r` of the tokens `ts`**, in whatever layout, and leaves a layout of the tokens
behind them; or, if `r` is `none`, it fails in every layout. -/
def Takes (read : Reader α) (ts : List Bytes) (r : Option α) : Prop :=
  ∀ later s, EndsTokens later → Laid (ts ++ later) s →
    ∃ rest, Laid later rest ∧ (read s).toOption = r.map (·, rest)

/-- What `read` makes of `ts` without any white space. -/
def reading (read : Reader α) (ts : List Bytes) : Option α :=
  (read ts.flatten).toOption.map Prod.fst

/-- If every layout gives the same, it is what `reading` gives. -/
theorem Takes.eq_reading {read : Reader α} {ts : List Bytes} {r : Option α} (h : Takes read ts r) :
    r = reading read ts := by
  have hlaid := laid_flatten ts
  rw [← List.append_nil ts] at hlaid
  obtain ⟨rest, -, hread⟩ := h [] _ endsTokens_nil hlaid
  rw [List.append_nil] at hread
  rw [reading, hread]
  cases r <;> rfl

theorem Takes.reading {read : Reader α} {ts : List Bytes} {r : Option α} (h : Takes read ts r) :
    Takes read ts (Json.reading read ts) := h.eq_reading ▸ h

theorem takes_none {read : Reader α} {ts : List Bytes}
    (h : ∀ later s, Laid (ts ++ later) s → (read s).toOption = none) : Takes read ts none := by
  intro later s _ hs
  obtain ⟨rest, hrest⟩ := hs.exists_rest
  exact ⟨rest, hrest, h later s hs⟩

/-- A value of one token is read alike in all layouts if only the token decides what `read` makes of
it. -/
theorem takes_of_token {read : Reader α} {t : Tree} {token : Bytes} {r : Option α}
    (ht : t.tokens = [token])
    (h : ∀ s rest, skipSpace s = token ++ rest → EndsNumeral rest →
      (read s).toOption = r.map (·, rest)) : Takes read t.tokens r := by
  intro later s hlater hs
  obtain ⟨rest, hfirst, hrest⟩ := Tree.first_of_laid ht hs
  exact ⟨rest, hrest, h s rest hfirst (hrest.endsNumeral hlater)⟩

/-! ### Lists -/

section

variable {item : Reader α} {f : Tree → Option α}

theorem nextItem_first {t : Tree} {ts : List Bytes} {s : Bytes} (h : Laid (t.tokens ++ ts) s) :
    nextItem true s = .ok (.another (skipSpace s)) := by
  have hlead := lead_of_laid h
  unfold nextItem
  simp only [hlead]
  rcases t.lead_cases with e | e | e | e | e | e | e | e <;> rw [e]

theorem nextItem_later {t : Tree} {ts : List Bytes} {s : Bytes}
    (h : Laid ([0x2C] :: (t.tokens ++ ts)) s) :
    ∃ rest, nextItem false s = .ok (.another rest) ∧ Laid (t.tokens ++ ts) rest := by
  obtain ⟨rest, hs, hrest⟩ := h.byte (by decide)
  have hlead := lead_of_laid hrest
  refine ⟨skipSpace rest, ?_, laid_skipSpace hrest⟩
  have hcomma : lead (0x2C :: rest) = .comma := rfl
  unfold nextItem
  simp only [hs, hcomma, List.tail_cons, hlead]
  rcases t.lead_cases with e | e | e | e | e | e | e | e <;> rw [e]

theorem nextItem_close (first : Bool) {ts : List Bytes} {s : Bytes} (h : Laid ([0x5D] :: ts) s) :
    ∃ rest, nextItem first s = .ok (.closed rest) ∧ Laid ts rest := by
  obtain ⟨rest, hs, hrest⟩ := h.byte (by decide)
  refine ⟨rest, ?_, hrest⟩
  unfold nextItem
  rw [hs]
  cases first <;> rfl

theorem endsTokens_laterItems (items : List Tree) (ts : List Bytes) :
    EndsTokens (Tree.laterItems items ++ [0x5D] :: ts) := by
  cases items with
  | nil => exact endsTokens_cons _ (.inr (.inl rfl))
  | cons t items => exact endsTokens_cons _ (.inl rfl)

theorem mapM_cons_eq (t : Tree) (ts : List Tree) :
    (t :: ts).mapM f = (f t).bind fun a => (ts.mapM f).map (a :: ·) := by
  rw [List.mapM_cons]
  cases f t with
  | none => rfl
  | some a => cases ts.mapM f <;> rfl

/-- An `item` is read first, and `items'` reads on from a layout of what is left. -/
theorem toOption_item_bind {t : Tree} {items' : Reader (List α)} {as : Option (List α)}
    {later ts : List Bytes} {s : Bytes} (hlater : EndsTokens later)
    (ht : Takes item t.tokens (f t)) (h : Laid (t.tokens ++ later) s)
    (hitems : ∀ rest, Laid later rest → ∃ rest', Laid ts rest' ∧
      (items' rest).toOption = as.map (·, rest')) :
    ∃ rest, Laid ts rest ∧
      (item s >>= fun p => items' p.2 >>= fun q => pure (p.1 :: q.1, q.2)).toOption =
        ((f t).bind fun a => as.map (a :: ·)).map (·, rest) := by
  obtain ⟨rest, hrest, hread⟩ := ht later s hlater h
  obtain ⟨rest', hrest', hread'⟩ := hitems rest hrest
  refine ⟨rest', hrest', ?_⟩
  rw [toOption_bind, hread]
  cases f t with
  | none => rfl
  | some a =>
    show (items' rest >>= fun q => pure (a :: q.1, q.2)).toOption = _
    rw [toOption_bind, hread']
    cases as <;> rfl

theorem items_later {ts : List Tree} (hf : ∀ t ∈ ts, Takes item t.tokens (f t)) {n : Nat}
    (hn : ts.length < n) {later : List Bytes} {s : Bytes}
    (h : Laid (Tree.laterItems ts ++ [0x5D] :: later) s) :
    ∃ rest, Laid later rest ∧
      (items item n false s).toOption = (ts.mapM f).map (·, rest) := by
  -- `n` bounds the rounds of `items`, one for each item and one for the bracket
  induction ts generalizing n s with
  | nil =>
    obtain ⟨n, rfl⟩ := Nat.exists_eq_add_of_lt hn
    obtain ⟨rest, hnext, hrest⟩ := nextItem_close false h
    refine ⟨rest, hrest, ?_⟩
    rw [items, hnext]
    rfl
  | cons t ts ih =>
    obtain ⟨n, rfl⟩ : ∃ m, n = m + 1 := ⟨n - 1, by simp only [List.length_cons] at hn; omega⟩
    have htokens : Tree.laterItems (t :: ts) ++ [0x5D] :: later =
        [0x2C] :: (t.tokens ++ (Tree.laterItems ts ++ [0x5D] :: later)) := by
      simp [Tree.laterItems]
    rw [htokens] at h
    obtain ⟨rest, hnext, hrest⟩ := nextItem_later h
    rw [items, hnext, mapM_cons_eq]
    refine toOption_item_bind (endsTokens_laterItems ts later) (hf t List.mem_cons_self) hrest ?_
    intro rest' hrest'
    exact ih (fun u hu => hf u (List.mem_cons_of_mem t hu))
      (by simp only [List.length_cons] at hn; omega) hrest'

/-- **A list is read item by item**, behind its opening bracket: `f` tells what is read of each. -/
theorem listTail_takes {ts : List Tree} (hf : ∀ t ∈ ts, Takes item t.tokens (f t))
    {later : List Bytes} {s : Bytes} (h : Laid (Tree.itemTokens ts ++ [0x5D] :: later) s) :
    ∃ rest, Laid later rest ∧ (listTail item s).toOption = (ts.mapM f).map (·, rest) := by
  cases ts with
  | nil =>
    obtain ⟨rest, hnext, hrest⟩ := nextItem_close true h
    refine ⟨rest, hrest, ?_⟩
    rw [listTail, items, hnext]
    rfl
  | cons t ts =>
    rw [Tree.itemTokens_cons, List.append_assoc] at h
    -- `listTail` makes as many rounds as there are bytes, and every token has one at least
    have hlength : ts.length < s.length := by
      have htokens : AreTokens (t.tokens ++ Tree.laterItems ts) :=
        t.areTokens.append (Tree.areTokens_laterItems fun u _ => u.areTokens)
      rw [← List.append_assoc] at h
      have hle := h.length_le htokens
      have hpos := t.length_tokens_pos
      have hitems := Tree.length_le_laterItems ts
      rw [List.length_append] at hle
      omega
    rw [listTail, items, nextItem_first h, mapM_cons_eq]
    refine toOption_item_bind (endsTokens_laterItems ts later) (hf t List.mem_cons_self)
      (laid_skipSpace h) ?_
    intro rest hrest
    exact items_later (fun u hu => hf u (List.mem_cons_of_mem t hu)) hlength hrest

end

/-! ### Objects -/

theorem nextMember_first {k : StringText} {ts : List Bytes} {s : Bytes}
    (h : Laid (k.token :: ts) s) :
    ∃ rest, nextMember true s = .ok (.another (k.chars ++ 0x22 :: rest)) ∧ Laid ts rest := by
  obtain ⟨rest, hs, hrest⟩ := h.first k.isToken
  refine ⟨rest, ?_, hrest⟩
  unfold nextMember
  rw [hs, k.token_append]
  rfl

theorem nextMember_later {k : StringText} {ts : List Bytes} {s : Bytes}
    (h : Laid ([0x2C] :: k.token :: ts) s) :
    ∃ rest, nextMember false s = .ok (.another (k.chars ++ 0x22 :: rest)) ∧ Laid ts rest := by
  obtain ⟨rest, hs, hrest⟩ := h.byte (by decide)
  obtain ⟨rest', hs', hrest'⟩ := hrest.first k.isToken
  refine ⟨rest', ?_, hrest'⟩
  have hcomma : lead (0x2C :: rest) = .comma := rfl
  unfold nextMember
  simp only [hs, hcomma, List.tail_cons, hs', k.token_append]
  rfl

theorem nextMember_close (first : Bool) {ts : List Bytes} {s : Bytes}
    (h : Laid ([0x7D] :: ts) s) :
    ∃ rest, nextMember first s = .ok (.closed rest) ∧ Laid ts rest := by
  obtain ⟨rest, hs, hrest⟩ := h.byte (by decide)
  refine ⟨rest, ?_, hrest⟩
  unfold nextMember
  rw [hs]
  cases first <;> rfl

theorem colon_laid {ts : List Bytes} {s : Bytes} (h : Laid ([0x3A] :: ts) s) :
    ∃ rest, colon s = .ok rest ∧ Laid ts rest := by
  obtain ⟨rest, hs, hrest⟩ := h.byte (by decide)
  refine ⟨rest, ?_, hrest⟩
  unfold colon
  rw [hs]
  rfl

/-- `member` makes of a state and the member `m` what `f` tells, in whatever layout. -/
def TakesMember (member : σ → Reader σ) (f : σ → StringText × Tree → Option σ)
    (m : StringText × Tree) : Prop :=
  ∀ state later s, EndsTokens later → Laid ([0x3A] :: (m.2.tokens ++ later)) s →
    ∃ rest, Laid later rest ∧
      (member state (m.1.chars ++ 0x22 :: s)).toOption = (f state m).map (·, rest)

section

variable {member : σ → Reader σ} {f : σ → StringText × Tree → Option σ}

theorem endsTokens_laterMembers (members : List (StringText × Tree)) (ts : List Bytes) :
    EndsTokens (Tree.laterMembers members ++ [0x7D] :: ts) := by
  cases members with
  | nil => exact endsTokens_cons _ (.inr (.inr rfl))
  | cons m members => exact endsTokens_cons _ (.inl rfl)

/-- The member `m` is read first, and `members'` reads on from a layout of what is left, up to the
closing bracket. -/
theorem toOption_member_bind {m : StringText × Tree} {members' : σ → Reader σ}
    {fold : σ → Option σ} {ms : List (StringText × Tree)} {later : List Bytes} {state : σ}
    {s : Bytes} (hm : TakesMember member f m)
    (h : Laid ([0x3A] :: (m.2.tokens ++ (Tree.laterMembers ms ++ [0x7D] :: later))) s)
    (hmembers : ∀ state rest, Laid (Tree.laterMembers ms ++ [0x7D] :: later) rest →
      ∃ rest', Laid later rest' ∧ (members' state rest).toOption = (fold state).map (·, rest')) :
    ∃ rest, Laid later rest ∧
      (member state (m.1.chars ++ 0x22 :: s) >>= fun p => members' p.1 p.2).toOption =
        ((f state m).bind fold).map (·, rest) := by
  obtain ⟨rest, hrest, hread⟩ := hm state _ s (endsTokens_laterMembers ms later) h
  rw [toOption_bind, hread]
  cases f state m with
  | none =>
    obtain ⟨_, _, rest', -, -, hlater⟩ := hrest.exists_rest
    exact ⟨rest', hlater, rfl⟩
  | some state' => exact hmembers state' rest hrest

theorem members_later {ms : List (StringText × Tree)}
    (hf : ∀ m ∈ ms, TakesMember member f m) (state : σ) {n : Nat} (hn : ms.length < n)
    {later : List Bytes} {s : Bytes} (h : Laid (Tree.laterMembers ms ++ [0x7D] :: later) s) :
    ∃ rest, Laid later rest ∧
      (members member n false state s).toOption = (ms.foldlM f state).map (·, rest) := by
  induction ms generalizing n state s with
  | nil =>
    obtain ⟨n, rfl⟩ := Nat.exists_eq_add_of_lt hn
    obtain ⟨rest, hnext, hrest⟩ := nextMember_close false h
    refine ⟨rest, hrest, ?_⟩
    rw [members, hnext]
    rfl
  | cons m ms ih =>
    obtain ⟨n, rfl⟩ : ∃ k, n = k + 1 := ⟨n - 1, by simp only [List.length_cons] at hn; omega⟩
    have htokens : Tree.laterMembers (m :: ms) ++ [0x7D] :: later = [0x2C] :: m.1.token ::
        [0x3A] :: (m.2.tokens ++ (Tree.laterMembers ms ++ [0x7D] :: later)) := by
      simp [Tree.laterMembers, Tree.entry]
    rw [htokens] at h
    obtain ⟨rest, hnext, hrest⟩ := nextMember_later h
    rw [members, hnext, List.foldlM_cons]
    refine toOption_member_bind (hf m List.mem_cons_self) hrest fun state rest' hrest' => ?_
    exact ih (fun w hw => hf w (List.mem_cons_of_mem m hw)) state
      (by simp only [List.length_cons] at hn; omega) hrest'

/-- **An object is read member by member**, behind its opening bracket: `f` tells what each adds to
the state. -/
theorem objectTail_takes {ms : List (StringText × Tree)}
    (hf : ∀ m ∈ ms, TakesMember member f m) (start : σ) {later : List Bytes} {s : Bytes}
    (h : Laid (Tree.memberTokens ms ++ [0x7D] :: later) s) :
    ∃ rest, Laid later rest ∧
      (objectTail member start s).toOption = (ms.foldlM f start).map (·, rest) := by
  cases ms with
  | nil =>
    obtain ⟨rest, hnext, hrest⟩ := nextMember_close true h
    refine ⟨rest, hrest, ?_⟩
    rw [objectTail, members, hnext]
    rfl
  | cons m ms =>
    rw [Tree.memberTokens_cons, List.append_assoc] at h
    -- `objectTail` makes as many rounds as there are bytes, and every token has one at least
    have hlength : ms.length < s.length := by
      have htokens : AreTokens (Tree.entry m ++ Tree.laterMembers ms) :=
        (Tree.areTokens_entry m.2.areTokens).append
          (Tree.areTokens_laterMembers fun w _ => w.2.areTokens)
      rw [← List.append_assoc] at h
      have hle := h.length_le htokens
      have hmembers := Tree.length_le_laterMembers ms
      rw [List.length_append, Tree.entry, List.length_cons] at hle
      omega
    obtain ⟨rest, hnext, hrest⟩ := nextMember_first h
    rw [objectTail, members, hnext, List.foldlM_cons]
    refine toOption_member_bind (hf m List.mem_cons_self) hrest fun state rest' hrest' => ?_
    exact members_later (fun w hw => hf w (List.mem_cons_of_mem m hw)) state hlength hrest'

end

/-! ### Values -/

/-- What the string `k` stands for, if it stands for anything. -/
def StringText.value? (k : StringText) : Option String :=
  (stringTail (k.chars ++ [0x22])).toOption.map Prod.fst

theorem StringText.stringTail_chars (k : StringText) (rest : Bytes) :
    (stringTail (k.chars ++ 0x22 :: rest)).toOption = k.value?.map (·, rest) := by
  obtain ⟨r, hr⟩ := stringTail_readsTo k.isText
  have hvalue : k.value? = r := by
    have := hr []
    rw [List.append_nil] at this
    rw [StringText.value?, this]
    cases r <;> rfl
  have := hr rest
  rw [List.append_assoc] at this
  rw [hvalue]
  exact this

/-- The member `m` in an object whose members before it are `ms`. -/
def documentStep (read : Reader Value) (ms : List (String × Value)) (m : StringText × Tree) :
    Option (List (String × Value)) :=
  m.1.value?.bind fun name => (reading read m.2.tokens).map fun v => Dict.insert name v ms

theorem documentMember_takes {read : Reader Value} {m : StringText × Tree}
    (h : Takes read m.2.tokens (reading read m.2.tokens)) :
    TakesMember (documentMember read) (documentStep read) m := by
  intro ms later s hlater hs
  obtain ⟨rest, hcolon, hrest⟩ := colon_laid hs
  obtain ⟨rest', hrest', hread⟩ := h later rest hlater hrest
  refine ⟨rest', hrest', ?_⟩
  rw [documentMember, toOption_bind, m.1.stringTail_chars, documentStep]
  cases m.1.value? with
  | none => rfl
  | some name =>
    show (colon s >>= fun s => read s >>= fun p => pure (Dict.insert name p.1 ms, p.2)).toOption = _
    rw [hcolon]
    show (read rest >>= fun p => pure (Dict.insert name p.1 ms, p.2)).toOption = _
    rw [toOption_bind, hread]
    cases reading read m.2.tokens <;> rfl

section

variable {inner : Option (Reader Value)}
  (hinner : ∀ read ∈ inner, ∀ t : Tree, Takes read t.tokens (reading read t.tokens))

include hinner

theorem valueWith_takes_list (ts : List Tree) :
    ∃ r, Takes (valueWith inner) (Tree.list ts).tokens r := by
  cases inner with
  | none =>
    refine ⟨none, takes_none fun later s h => ?_⟩
    obtain ⟨rest, hs, -⟩ := Tree.first_of_laid rfl h
    have hlead : lead (skipSpace s) = .openList := congrArg lead hs
    rw [valueWith_tooDeep (by simp [hlead])]
    rfl
  | some read =>
    refine ⟨(ts.mapM fun t => reading read t.tokens).map .list, fun later s _ h => ?_⟩
    obtain ⟨rest, hs, hrest⟩ := Tree.first_of_laid rfl h
    rw [List.append_assoc] at hrest
    obtain ⟨rest', hrest', hread⟩ := listTail_takes (fun t _ => hinner read rfl t) hrest
    refine ⟨rest', hrest', ?_⟩
    rw [valueWith_openList (congrArg lead hs), hs]
    show ((listTail read rest).map _).toOption = _
    rw [toOption_map, hread]
    cases ts.mapM fun t => reading read t.tokens <;> rfl

theorem valueWith_takes_object (ms : List (StringText × Tree)) :
    ∃ r, Takes (valueWith inner) (Tree.object ms).tokens r := by
  cases inner with
  | none =>
    refine ⟨none, takes_none fun later s h => ?_⟩
    obtain ⟨rest, hs, -⟩ := Tree.first_of_laid rfl h
    have hlead : lead (skipSpace s) = .openObject := congrArg lead hs
    rw [valueWith_tooDeep (by simp [hlead])]
    rfl
  | some read =>
    refine ⟨(ms.foldlM (documentStep read) []).map .object, fun later s _ h => ?_⟩
    obtain ⟨rest, hs, hrest⟩ := Tree.first_of_laid rfl h
    rw [List.append_assoc] at hrest
    obtain ⟨rest', hrest', hread⟩ :=
      objectTail_takes (fun m _ => documentMember_takes (hinner read rfl m.2)) [] hrest
    refine ⟨rest', hrest', ?_⟩
    rw [valueWith_openObject (congrArg lead hs), hs]
    show ((objectTail (documentMember read) [] rest).map _).toOption = _
    rw [toOption_map, hread]
    cases ms.foldlM (documentStep read) [] <;> rfl

/-- A value whose items and members `inner` reads is read alike in all layouts if they are. -/
theorem valueWith_takes (t : Tree) : ∃ r, Takes (valueWith inner) t.tokens r := by
  -- the first token tells the kind; a word and a string are read to their ends by computation
  match t with
  | .null =>
    refine ⟨some .null, takes_of_token rfl fun s rest hs _ => ?_⟩
    rw [valueWith_letterN (congrArg lead hs), hs]
    rfl
  | .bool true =>
    refine ⟨some (.bool true), takes_of_token rfl fun s rest hs _ => ?_⟩
    rw [valueWith_letterT (congrArg lead hs), hs]
    rfl
  | .bool false =>
    refine ⟨some (.bool false), takes_of_token rfl fun s rest hs _ => ?_⟩
    rw [valueWith_letterF (congrArg lead hs), hs]
    rfl
  | .number n =>
    refine ⟨n.numeral.value.toOption.map .number, takes_of_token rfl fun s rest hs hrest => ?_⟩
    have hlead : lead (skipSpace s) ∈ [.minus, .digit] := by
      rw [hs, n.lead_bytes]
      cases n.minus <;> simp
    rw [valueWith_number hlead, hs, n.number_bytes hrest]
    cases n.numeral.value <;> rfl
  | .string k =>
    refine ⟨k.value?.map .string, takes_of_token rfl fun s rest hs _ => ?_⟩
    rw [valueWith_quote (congrArg lead hs), hs, k.token_append, List.tail_cons, toOption_map,
      k.stringTail_chars]
    cases k.value? <;> rfl
  | .list ts => exact valueWith_takes_list hinner ts
  | .object ms => exact valueWith_takes_object hinner ms

end

theorem value_takes (depth : Nat) (t : Tree) :
    Takes (value depth) t.tokens (reading (value depth) t.tokens) := by
  induction depth generalizing t with
  | zero =>
    have hnone : ∀ read ∈ (none : Option (Reader Value)), ∀ t : Tree,
        Takes read t.tokens (reading read t.tokens) := fun _ h => nomatch h
    obtain ⟨r, hr⟩ := valueWith_takes hnone t
    exact hr.reading
  | succ depth ih =>
    have hsome : ∀ read ∈ some (value depth), ∀ t : Tree,
        Takes read t.tokens (reading read t.tokens) := by
      rintro read ⟨⟩
      exact ih
    obtain ⟨r, hr⟩ := valueWith_takes hsome t
    exact hr.reading

end StreamRecords.Json
