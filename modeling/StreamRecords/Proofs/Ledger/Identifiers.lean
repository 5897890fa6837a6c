import StreamRecords.Ledger.Basic
import StreamRecords.Proofs.Hex

/-!
Identifiers of transactions. Each is the number of its transaction in hexadecimal, with zeros in
front of it, so that identifiers are in the order of the numbers.
-/

namespace StreamRecords.Ledger

/-! ### Digits of a fixed number -/

/-- The last `width` hexadecimal digits of a number, with zeros in front if it has less. -/
def lastDigits : Nat → Nat → List Char
  | 0, _ => []
  | width + 1, n => lastDigits width (n / 16) ++ [Nat.digitChar (n % 16)]

@[simp] theorem length_lastDigits (width n : Nat) : (lastDigits width n).length = width := by
  induction width generalizing n with
  | zero => rfl
  | succ width ih => rw [lastDigits, List.length_append, ih, List.length_singleton]

theorem exists_of_mem_lastDigits {width n : Nat} {c : Char} (h : c ∈ lastDigits width n) :
    ∃ d < 16, c = Nat.digitChar d := by
  induction width generalizing n with
  | zero => cases h
  | succ width ih =>
    rcases List.mem_append.1 h with h | h
    · exact ih h
    · exact ⟨n % 16, Nat.mod_lt _ (by decide), List.mem_singleton.1 h⟩

@[simp] theorem lastDigits_zero (width : Nat) : lastDigits width 0 = List.replicate width '0' := by
  induction width with
  | zero => rfl
  | succ width ih =>
    rw [lastDigits, Nat.zero_div, ih, List.replicate_succ']
    rfl

theorem padLeft_toDigits {width n : Nat} (h : n < Nat.pow 16 (width + 1)) :
    Text.padLeft (width + 1) (Nat.toDigits 16 n) = lastDigits (width + 1) n := by
  induction width generalizing n with
  | zero =>
    have hn : n < 16 := by simpa using h
    rw [Nat.toDigits_of_lt_base hn, lastDigits, Nat.mod_eq_of_lt hn]
    rfl
  | succ width ih =>
    rw [lastDigits, Nat.toDigits_eq_if (by decide)]
    by_cases hn : n < 16
    · have hzero : n / 16 = 0 := Nat.div_eq_of_lt hn
      rw [if_pos hn, hzero, lastDigits_zero, Nat.mod_eq_of_lt hn]
      rfl
    · have h : n < Nat.pow 16 (width + 1) * 16 := h
      have hless : n / 16 < Nat.pow 16 (width + 1) := by omega
      have hlen : width + 1 + 1 - ((Nat.toDigits 16 (n / 16)).length + 1) =
          width + 1 - (Nat.toDigits 16 (n / 16)).length := by omega
      rw [if_neg hn, ← ih hless, Text.padLeft, Text.padLeft, List.length_append,
        List.length_singleton, hlen, List.append_assoc]

theorem append_lt_append {xs ys : List Char} (h : xs < ys) (hlen : xs.length = ys.length)
    (us vs : List Char) : xs ++ us < ys ++ vs := by
  induction xs generalizing ys with
  | nil =>
    cases ys with
    | nil => exact absurd h (List.lt_irrefl [])
    | cons y ys => cases hlen
  | cons x xs ih =>
    cases ys with
    | nil => cases hlen
    | cons y ys =>
      rw [List.cons_append, List.cons_append, List.cons_lt_cons_iff]
      rcases List.cons_lt_cons_iff.1 h with hxy | ⟨hxy, htail⟩
      · exact .inl hxy
      · exact .inr ⟨hxy, ih htail (Nat.succ.inj hlen)⟩

theorem digitChar_lt_digitChar :
    ∀ m < 16, ∀ n < 16, m < n → Nat.digitChar m < Nat.digitChar n := by decide

/-- **Digits of a fixed number are in the order of the numbers.** -/
theorem lastDigits_lt_lastDigits {width m n : Nat} (hmn : m < n) (hn : n < Nat.pow 16 width) :
    lastDigits width m < lastDigits width n := by
  induction width generalizing m n with
  | zero =>
    have hn : n < 1 := hn
    omega
  | succ width ih =>
    have hn : n < Nat.pow 16 width * 16 := hn
    rw [lastDigits, lastDigits]
    -- the digits before the last decide, unless they are the same
    by_cases hdiv : m / 16 < n / 16
    · refine append_lt_append (ih hdiv (by omega)) ?_ _ _
      simp
    · have hsame : m / 16 = n / 16 := by omega
      have hlast : m % 16 < n % 16 := by omega
      rw [hsame]
      refine List.append_left_lt (List.cons_lt_cons_iff.2 (.inl ?_))
      exact digitChar_lt_digitChar _ (Nat.mod_lt _ (by decide)) _ (Nat.mod_lt _ (by decide)) hlast

/-! ### Identifiers -/

/-- `s` has the form of an identifier: 64 digits in lowercase. -/
def IsTxid (s : String) : Prop :=
  s.toList.length = 64 ∧ ∀ c ∈ s.toList, Hex.IsLowercaseDigit c

theorem toList_txid (n : UInt64) : (txid n).toList = lastDigits 64 n.toNat := by
  have hn : n.toNat < Nat.pow 16 (63 + 1) := Nat.lt_of_lt_of_le n.toNat_lt (by decide)
  rw [txid, String.toList_ofList]
  exact padLeft_toDigits hn

theorem isTxid_txid (n : UInt64) : IsTxid (txid n) := by
  rw [IsTxid, toList_txid]
  refine ⟨length_lastDigits 64 n.toNat, fun c hc => ?_⟩
  obtain ⟨d, hd, rfl⟩ := exists_of_mem_lastDigits hc
  exact Hex.isLowercaseDigit_digit d hd

/-- **A later transaction has a greater identifier.** -/
theorem txid_lt_txid {m n : UInt64} (h : m.toNat < n.toNat) : txid m < txid n := by
  have hn : n.toNat < Nat.pow 16 64 := Nat.lt_of_lt_of_le n.toNat_lt (by decide)
  show (txid m).toList < (txid n).toList
  rw [toList_txid, toList_txid]
  exact lastDigits_lt_lastDigits h hn

end StreamRecords.Ledger
