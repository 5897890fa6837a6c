import StreamRecords.Json.Skip
import StreamRecords.Proofs.Json.Layout

/-!
Passing over values in all their layouts. Every value is passed over to its last token, however deep
it is nested, whatever its numbers and its strings.
-/

namespace StreamRecords.Json

/-- `skipValue` passes over `t` in whatever layout, in as many rounds as it has tokens. -/
def SkipsLaid (t : Tree) : Prop :=
  ∀ n later s, t.tokens.length ≤ n → EndsTokens later → Laid (t.tokens ++ later) s →
    ∃ rest, Laid later rest ∧ skipValue n s = .ok rest

/-- `t` has one token at least, so `SkipsLaid` need only be shown for one round or more. -/
theorem skipsLaid_of_succ {t : Tree}
    (h : ∀ n later s, t.tokens.length ≤ n + 1 → EndsTokens later → Laid (t.tokens ++ later) s →
      ∃ rest, Laid later rest ∧ skipValue (n + 1) s = .ok rest) : SkipsLaid t := by
  intro n later s hn hlater hs
  have := t.length_tokens_pos
  obtain ⟨n, rfl⟩ : ∃ m, n = m + 1 := ⟨n - 1, by omega⟩
  exact h n later s hn hlater hs

/-! ### One round -/

section

variable {n : Nat} {s rest rest' rest₀ : Bytes}

theorem skipItems_of_close (hskip : skipValue n s = .ok rest)
    (hs : skipSpace rest = 0x5D :: rest') : skipItems (n + 1) s = .ok rest' := by
  simp only [skipItems, hskip, bind, Except.bind, hs]
  rfl

theorem skipItems_of_comma (hskip : skipValue n s = .ok rest)
    (hs : skipSpace rest = 0x2C :: rest') : skipItems (n + 1) s = skipItems n rest' := by
  simp only [skipItems, hskip, bind, Except.bind, hs]
  rfl

theorem skipMembers_of_close (hname : skipName s = .ok rest₀) (hskip : skipValue n rest₀ = .ok rest)
    (hs : skipSpace rest = 0x7D :: rest') : skipMembers (n + 1) s = .ok rest' := by
  simp only [skipMembers, hname, hskip, bind, Except.bind, hs]
  rfl

theorem skipMembers_of_comma (hname : skipName s = .ok rest₀) (hskip : skipValue n rest₀ = .ok rest)
    (hs : skipSpace rest = 0x2C :: rest') : skipMembers (n + 1) s = skipMembers n rest' := by
  simp only [skipMembers, hname, hskip, bind, Except.bind, hs]
  rfl

end

/-! ### Items and members -/

theorem skipItems_laid {t : Tree} {ts : List Tree} (ht : SkipsLaid t) (hts : ∀ u ∈ ts, SkipsLaid u)
    {n : Nat} (hn : t.tokens.length + (Tree.laterItems ts).length < n) {later : List Bytes}
    {s : Bytes} (h : Laid (t.tokens ++ (Tree.laterItems ts ++ [0x5D] :: later)) s) :
    ∃ rest, Laid later rest ∧ skipItems n s = .ok rest := by
  -- induction on the items behind `t`; every token takes a round, so the rounds left are enough
  induction ts generalizing t n s with
  | nil =>
    obtain ⟨n, rfl⟩ : ∃ m, n = m + 1 := ⟨n - 1, by omega⟩
    obtain ⟨rest, hrest, hskip⟩ :=
      ht n _ s (by omega) (endsTokens_cons later (.inr (.inl rfl))) h
    obtain ⟨rest', hs, hrest'⟩ := hrest.byte (by decide)
    exact ⟨rest', hrest', skipItems_of_close hskip hs⟩
  | cons u ts ih =>
    obtain ⟨n, rfl⟩ : ∃ m, n = m + 1 := ⟨n - 1, by omega⟩
    rw [Tree.length_laterItems_cons] at hn
    have htokens : Tree.laterItems (u :: ts) ++ [0x5D] :: later =
        [0x2C] :: (u.tokens ++ (Tree.laterItems ts ++ [0x5D] :: later)) := by
      simp [Tree.laterItems]
    rw [htokens] at h
    obtain ⟨rest, hrest, hskip⟩ := ht n _ s (by omega) (endsTokens_cons _ (.inl rfl)) h
    obtain ⟨rest', hs, hrest'⟩ := hrest.byte (by decide)
    rw [skipItems_of_comma hskip hs]
    exact ih (hts u List.mem_cons_self) (fun w hw => hts w (List.mem_cons_of_mem u hw)) (by omega)
      hrest'

theorem skipName_laid {k : StringText} {ts : List Bytes} {s : Bytes}
    (h : Laid (k.token :: [0x3A] :: ts) s) : ∃ rest, skipName s = .ok rest ∧ Laid ts rest := by
  obtain ⟨rest, hs, hrest⟩ := h.first k.isToken
  obtain ⟨rest', hs', hrest'⟩ := hrest.byte (by decide)
  refine ⟨rest', ?_, hrest'⟩
  have hname : skipName s = (skipStringTail (k.chars ++ 0x22 :: rest) >>= colon) := by
    unfold skipName
    rw [hs, k.token_append]
    rfl
  rw [hname, skipStringTail_text k.isText]
  show colon rest = _
  unfold colon
  rw [hs']
  rfl

theorem skipMembers_laid {m : StringText × Tree} {ms : List (StringText × Tree)}
    (hm : SkipsLaid m.2) (hms : ∀ w ∈ ms, SkipsLaid w.2) {n : Nat}
    (hn : m.2.tokens.length + (Tree.laterMembers ms).length < n) {later : List Bytes} {s : Bytes}
    (h : Laid (Tree.entry m ++ (Tree.laterMembers ms ++ [0x7D] :: later)) s) :
    ∃ rest, Laid later rest ∧ skipMembers n s = .ok rest := by
  -- induction on the members behind `m`, as for the items of a list
  induction ms generalizing m n s with
  | nil =>
    obtain ⟨n, rfl⟩ : ∃ k, n = k + 1 := ⟨n - 1, by omega⟩
    obtain ⟨rest₀, hname, hrest₀⟩ := skipName_laid h
    obtain ⟨rest, hrest, hskip⟩ :=
      hm n _ rest₀ (by omega) (endsTokens_cons later (.inr (.inr rfl))) hrest₀
    obtain ⟨rest', hs, hrest'⟩ := hrest.byte (by decide)
    exact ⟨rest', hrest', skipMembers_of_close hname hskip hs⟩
  | cons w ms ih =>
    obtain ⟨n, rfl⟩ : ∃ k, n = k + 1 := ⟨n - 1, by omega⟩
    rw [Tree.length_laterMembers_cons] at hn
    have htokens : Tree.laterMembers (w :: ms) ++ [0x7D] :: later =
        [0x2C] :: (Tree.entry w ++ (Tree.laterMembers ms ++ [0x7D] :: later)) := by
      simp [Tree.laterMembers]
    rw [htokens] at h
    obtain ⟨rest₀, hname, hrest₀⟩ := skipName_laid h
    obtain ⟨rest, hrest, hskip⟩ := hm n _ rest₀ (by omega) (endsTokens_cons _ (.inl rfl)) hrest₀
    obtain ⟨rest', hs, hrest'⟩ := hrest.byte (by decide)
    rw [skipMembers_of_comma hname hskip hs]
    exact ih (hms w List.mem_cons_self) (fun w' hw' => hms w' (List.mem_cons_of_mem w hw'))
      (by omega) hrest'

/-! ### Values -/

/-- `SkipsLaid` of a value of one token, for which one round must do. -/
theorem skipsLaid_of_token {t : Tree} {token : Bytes} (ht : t.tokens = [token])
    (h : ∀ n s rest, skipSpace s = token ++ rest → EndsNumeral rest →
      skipValue (n + 1) s = .ok rest) : SkipsLaid t := by
  refine skipsLaid_of_succ fun n later s _ hlater hs => ?_
  obtain ⟨rest, hfirst, hrest⟩ := Tree.first_of_laid ht hs
  exact ⟨rest, hrest, h n s rest hfirst (hrest.endsNumeral hlater)⟩

theorem skipsLaid_list {items : List Tree} (h : ∀ t ∈ items, SkipsLaid t) :
    SkipsLaid (.list items) := by
  refine skipsLaid_of_succ fun n later s hn _ hs => ?_
  obtain ⟨rest, hfirst, hrest⟩ := Tree.first_of_laid rfl hs
  have hfirst : skipSpace s = 0x5B :: rest := hfirst
  rw [List.append_assoc] at hrest
  rw [skipValue_openList (congrArg lead hfirst), hfirst, List.tail_cons]
  cases items with
  | nil =>
    obtain ⟨rest', hclose, hrest'⟩ := hrest.byte (by decide)
    refine ⟨rest', hrest', ?_⟩
    rw [hclose]
    rfl
  | cons t ts =>
    rw [Tree.itemTokens_cons, List.append_assoc] at hrest
    have hlength : t.tokens.length + (Tree.laterItems ts).length < n := by
      rw [Tree.tokens, Tree.itemTokens_cons] at hn
      simp only [List.length_cons, List.length_append, List.length_nil] at hn
      omega
    obtain ⟨rest', hrest', hskip⟩ := skipItems_laid (h t List.mem_cons_self)
      (fun u hu => h u (List.mem_cons_of_mem t hu)) hlength (laid_skipSpace hrest)
    refine ⟨rest', hrest', ?_⟩
    rw [lead_of_laid hrest]
    -- no first token of an item is a closing bracket, so the list is not taken for an empty one
    rcases t.lead_cases with e | e | e | e | e | e | e | e <;> rw [e] <;> exact hskip

theorem skipsLaid_object {members : List (StringText × Tree)} (h : ∀ m ∈ members, SkipsLaid m.2) :
    SkipsLaid (.object members) := by
  refine skipsLaid_of_succ fun n later s hn _ hs => ?_
  obtain ⟨rest, hfirst, hrest⟩ := Tree.first_of_laid rfl hs
  have hfirst : skipSpace s = 0x7B :: rest := hfirst
  rw [List.append_assoc] at hrest
  rw [skipValue_openObject (congrArg lead hfirst), hfirst, List.tail_cons]
  cases members with
  | nil =>
    obtain ⟨rest', hclose, hrest'⟩ := hrest.byte (by decide)
    refine ⟨rest', hrest', ?_⟩
    rw [hclose]
    rfl
  | cons m ms =>
    rw [Tree.memberTokens_cons, List.append_assoc] at hrest
    have hlength : m.2.tokens.length + (Tree.laterMembers ms).length < n := by
      rw [Tree.tokens, Tree.memberTokens_cons, Tree.entry] at hn
      simp only [List.length_cons, List.length_append, List.length_nil] at hn
      omega
    obtain ⟨rest', hrest', hskip⟩ := skipMembers_laid (h m List.mem_cons_self)
      (fun w hw => h w (List.mem_cons_of_mem m hw)) hlength (hrest.skipSpace m.1.isToken)
    refine ⟨rest', hrest', ?_⟩
    -- a name begins with a quote, so the object is not taken for an empty one
    have hlead : lead (skipSpace rest) = .quote := by
      obtain ⟨_, hname, -⟩ := hrest.first m.1.isToken
      rw [hname]
      rfl
    rw [hlead]
    exact hskip

/-- **Every value is passed over**, in whatever layout. -/
theorem skipsLaid (t : Tree) : SkipsLaid t := by
  induction t using Tree.induction with
  | null =>
    refine skipsLaid_of_token rfl fun n s rest hs _ => ?_
    rw [skipValue_letterN (congrArg lead hs), hs]
    rfl
  | bool b =>
    cases b with
    | false =>
      refine skipsLaid_of_token rfl fun n s rest hs _ => ?_
      rw [skipValue_letterF (congrArg lead hs), hs]
      rfl
    | true =>
      refine skipsLaid_of_token rfl fun n s rest hs _ => ?_
      rw [skipValue_letterT (congrArg lead hs), hs]
      rfl
  | number x =>
    refine skipsLaid_of_token rfl fun n s rest hs hrest => ?_
    have hlead : lead (skipSpace s) ∈ [.minus, .digit] := by
      rw [hs, x.lead_bytes]
      cases x.minus <;> simp
    rw [skipValue_number hlead, hs, x.skipNumber_bytes hrest]
  | string k =>
    refine skipsLaid_of_token rfl fun n s rest hs _ => ?_
    rw [skipValue_quote (congrArg lead hs), hs, k.token_append]
    exact skipStringTail_text k.isText rest
  | list items ih => exact skipsLaid_list ih
  | object members ih => exact skipsLaid_object ih

/-- **`skip` passes over the colon and the value behind it**, however these are laid out. -/
theorem skip_laid (t : Tree) {later : List Bytes} {s : Bytes} (hlater : EndsTokens later)
    (h : Laid (t.tokens ++ later) s) : ∃ rest, Laid later rest ∧ skip s = .ok rest := by
  have hle := h.length_le t.areTokens
  exact skipsLaid t _ later s (by omega) hlater h

end StreamRecords.Json
