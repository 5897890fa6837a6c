import StreamRecords.Json.Skip
import StreamRecords.Proofs.Json.ReaderText

/-!
Passing over values as they are written. As many rounds as a text has bytes are enough for it, and
the rest is left untouched.
-/

namespace StreamRecords.Json

theorem skipName_memberTail (m : String × Value) (rest : Bytes) :
    skipName (0x22 :: (memberTail m ++ rest)) = .ok (m.2.bytes ++ rest) := by
  have e : memberTail m ++ rest = Utf8.encode (m.1.toList.flatMap escapeChar) ++
      0x22 :: 0x3A :: (m.2.bytes ++ rest) := by
    rw [memberTail, List.append_assoc]
    rfl
  show (skipStringTail (memberTail m ++ rest) >>= colon) = _
  rw [e, skipStringTail_chars]
  rfl

/-- `skipValue` passes over the text of `v` in as many rounds as it has bytes, whatever follows it.
-/
def Skips (v : Value) : Prop :=
  ∀ n rest, v.bytes.length ≤ n → EndsValue rest → skipValue n (v.bytes ++ rest) = .ok rest

theorem skipItems_bytes {v : Value} {vs : List Value} (hv : Skips v) (hvs : ∀ w ∈ vs, Skips w)
    {n : Nat} (hn : v.bytes.length + (laterItems vs).length < n) (rest : Bytes) :
    skipItems n (v.bytes ++ (laterItems vs ++ 0x5D :: rest)) = .ok rest := by
  induction vs generalizing v n with
  | nil =>
    obtain ⟨n, rfl⟩ : ∃ m, n = m + 1 := ⟨n - 1, by omega⟩
    rw [skipItems, hv n _ (by omega) (endsValue_laterItems [] rest)]
    rfl
  | cons w vs ih =>
    obtain ⟨n, rfl⟩ : ∃ m, n = m + 1 := ⟨n - 1, by omega⟩
    rw [skipItems, hv n _ (by omega) (endsValue_laterItems (w :: vs) rest)]
    have e : laterItems (w :: vs) ++ 0x5D :: rest =
        0x2C :: (w.bytes ++ (laterItems vs ++ 0x5D :: rest)) := by
      simp [laterItems]
    have hlen : (laterItems (w :: vs)).length = w.bytes.length + (laterItems vs).length + 1 := by
      simp [laterItems]
    rw [e]
    exact ih (hvs w List.mem_cons_self) (fun u hu => hvs u (List.mem_cons_of_mem w hu)) (by omega)

theorem skipMembers_memberTail {m : String × Value} {ms : List (String × Value)} (hm : Skips m.2)
    (hms : ∀ w ∈ ms, Skips w.2) {n : Nat}
    (hn : (memberTail m).length + (laterMembers ms).length < n) (rest : Bytes) :
    skipMembers n (0x22 :: (memberTail m ++ (laterMembers ms ++ 0x7D :: rest))) = .ok rest := by
  have hle : ∀ w : String × Value, w.2.bytes.length ≤ (memberTail w).length := by
    intro w
    simp [memberTail]
    omega
  -- induction on the members behind `m`; every byte takes a round, so the rounds left are enough
  induction ms generalizing m n with
  | nil =>
    obtain ⟨n, rfl⟩ : ∃ k, n = k + 1 := ⟨n - 1, by omega⟩
    have := hle m
    rw [skipMembers, skipName_memberTail]
    show (skipValue n (m.2.bytes ++ _) >>= _) = _
    rw [hm n _ (by omega) (endsValue_laterMembers [] rest)]
    rfl
  | cons w ms ih =>
    obtain ⟨n, rfl⟩ : ∃ k, n = k + 1 := ⟨n - 1, by omega⟩
    have := hle m
    have e : laterMembers (w :: ms) ++ 0x7D :: rest =
        0x2C :: 0x22 :: (memberTail w ++ (laterMembers ms ++ 0x7D :: rest)) := by
      simp [laterMembers]
    have hlen : (laterMembers (w :: ms)).length =
        (memberTail w).length + (laterMembers ms).length + 2 := by
      simp [laterMembers]
    rw [skipMembers, skipName_memberTail]
    show (skipValue n (m.2.bytes ++ _) >>= _) = _
    rw [hm n _ (by omega) (endsValue_laterMembers (w :: ms) rest), e]
    exact ih (hms w List.mem_cons_self) (fun u hu => hms u (List.mem_cons_of_mem w hu)) (by omega)

theorem skips_of_succ {v : Value}
    (h : ∀ n rest, v.bytes.length ≤ n + 1 → EndsValue rest →
      skipValue (n + 1) (v.bytes ++ rest) = .ok rest) : Skips v := by
  intro n rest hn hrest
  have := length_bytes_pos v
  obtain ⟨n, rfl⟩ : ∃ m, n = m + 1 := ⟨n - 1, by omega⟩
  exact h n rest hn hrest

theorem skips_int {i : Int} (hi : IsExact i) : Skips (.number (.int i hi)) := by
  refine skips_of_succ fun n rest _ hrest => ?_
  have hint : (Value.number (.int i hi)).HasOnlyInts := trivial
  have hlead : lead (skipSpace ((Value.number (.int i hi)).bytes ++ rest)) ∈ [.minus, .digit] := by
    rw [skipSpace_bytes hint, lead_bytes hint, Value.lead]
    split <;> simp
  rw [skipValue_number hlead, skipSpace_bytes hint]
  exact skipNumber_decimalInt i hrest.endsNumeral

theorem skips_string (t : String) : Skips (.string t) := by
  refine skips_of_succ fun n rest _ _ => ?_
  rw [bytes_string, skipValue_quote rfl]
  exact skipStringTail_chars t rest

theorem skips_list {items : List Value} (h : ∀ v ∈ items, v.HasOnlyInts)
    (hitems : ∀ v ∈ items, Skips v) : Skips (.list items) := by
  refine skips_of_succ fun n rest hn _ => ?_
  have hlen := congrArg List.length (bytes_list items [])
  rw [bytes_list]
  cases items with
  | nil => exact skipValue_openList rfl
  | cons v vs =>
    rw [encode_itemsText] at hlen ⊢
    simp only [List.length_append, List.length_cons, List.length_nil] at hlen
    have hrec := skipItems_bytes (hitems v List.mem_cons_self)
      (fun w hw => hitems w (List.mem_cons_of_mem v hw)) (n := n) (by omega) rest
    rw [List.append_assoc]
    -- a list that is not empty does not close at once, whatever its first item begins with
    have hfirst : skipSpace
        (skipSpace (0x5B :: (v.bytes ++ (laterItems vs ++ 0x5D :: rest)))).tail =
          v.bytes ++ (laterItems vs ++ 0x5D :: rest) :=
      skipSpace_bytes (h v List.mem_cons_self) _
    rw [skipValue_openList rfl, hfirst, lead_bytes (h v List.mem_cons_self)]
    rcases v.lead_cases with e | e | e | e | e | e | e | e <;> rw [e] <;> exact hrec

theorem skips_object {members : List (String × Value)} (hmembers : ∀ m ∈ members, Skips m.2) :
    Skips (.object members) := by
  refine skips_of_succ fun n rest hn _ => ?_
  have hlen := congrArg List.length (bytes_object members [])
  rw [bytes_object]
  cases members with
  | nil => exact skipValue_openObject rfl
  | cons m ms =>
    rw [encode_membersText] at hlen ⊢
    simp only [List.length_append, List.length_cons, List.length_nil] at hlen
    have hrec := skipMembers_memberTail (hmembers m List.mem_cons_self)
      (fun w hw => hmembers w (List.mem_cons_of_mem m hw)) (n := n) (by omega) rest
    rw [List.append_assoc]
    exact (skipValue_openObject rfl).trans hrec

/-- **A value that is written is passed over**, however deep it is nested. -/
theorem skips_of_hasOnlyInts {v : Value} (h : v.HasOnlyInts) : Skips v := by
  induction v using Value.induction with
  | null => exact skips_of_succ fun n rest _ _ => skipValue_letterN rfl
  | bool b =>
    cases b with
    | false => exact skips_of_succ fun n rest _ _ => skipValue_letterF rfl
    | true => exact skips_of_succ fun n rest _ _ => skipValue_letterT rfl
  | number x =>
    cases x with
    | float x => exact absurd h (fun h => h)
    | int i hi => exact skips_int hi
  | string t => exact skips_string t
  | list items ih =>
    have hint := (itemsHaveOnlyInts_iff items).1 h
    exact skips_list hint fun v hv => ih v hv (hint v hv)
  | object members ih =>
    have hint := (membersHaveOnlyInts_iff members).1 h
    exact skips_object fun m hm => ih m hm (hint m hm)

theorem skip_bytes {v : Value} (h : v.HasOnlyInts) {rest : Bytes} (hrest : EndsValue rest) :
    skip (v.bytes ++ rest) = .ok rest := by
  refine skips_of_hasOnlyInts h _ rest ?_ hrest
  rw [List.length_append]
  omega

end StreamRecords.Json
