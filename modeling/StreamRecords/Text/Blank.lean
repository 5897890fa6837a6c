/-!
Blank characters, those with the Unicode property `White_Space`, and the text that is left when the
blanks at both ends are cut off. Cutting a second time changes nothing.
-/

namespace StreamRecords.Text

/-- The code points with the property `White_Space`, as closed ranges in increasing order. -/
def blankRanges : List (Nat × Nat) := [
  (0x09, 0x0D), (0x20, 0x20), (0x85, 0x85), (0xA0, 0xA0), (0x1680, 0x1680), (0x2000, 0x200A),
  (0x2028, 0x2029), (0x202F, 0x202F), (0x205F, 0x205F), (0x3000, 0x3000)]

def isBlank (c : Char) : Bool :=
  blankRanges.any fun (lo, hi) => lo ≤ c.toNat && c.toNat ≤ hi

/-- `cs` without the blanks at its start. -/
def trimStart (cs : List Char) : List Char := cs.dropWhile isBlank

/-- `cs` without the blanks at its end. -/
def trimEnd (cs : List Char) : List Char := (cs.reverse.dropWhile isBlank).reverse

/-- `cs` without the blanks at both ends. -/
def trimChars (cs : List Char) : List Char := trimEnd (trimStart cs)

/-- **`s` without the blanks at both ends.** -/
def trim (s : String) : String := .ofList (trimChars s.toList)

theorem dropWhile_eq_self_of_head {p : Char → Bool} {cs : List Char}
    (h : ∀ c ∈ cs.head?, p c = false) : cs.dropWhile p = cs := by
  cases cs with
  | nil => rfl
  | cons c cs => exact List.dropWhile_cons_of_neg (by simp [h c (by simp)])

theorem not_isBlank_of_mem_head?_trimStart {cs : List Char} {c : Char}
    (h : c ∈ (trimStart cs).head?) : isBlank c = false := by
  have := List.head?_dropWhile_not isBlank cs
  rw [Option.mem_def] at h
  rw [trimStart] at h
  rwa [h] at this

theorem not_isBlank_of_mem_getLast?_trimEnd {cs : List Char} {c : Char}
    (h : c ∈ (trimEnd cs).getLast?) : isBlank c = false := by
  rw [trimEnd, List.getLast?_reverse] at h
  exact not_isBlank_of_mem_head?_trimStart h

theorem trimEnd_prefix (cs : List Char) : trimEnd cs <+: cs := by
  have := List.dropWhile_suffix (l := cs.reverse) isBlank
  rwa [← List.reverse_prefix, List.reverse_reverse] at this

@[simp] theorem trimStart_trimChars (cs : List Char) : trimStart (trimChars cs) = trimChars cs := by
  refine dropWhile_eq_self_of_head fun c hc => ?_
  obtain ⟨rest, h⟩ := trimEnd_prefix (trimStart cs)
  have hmem : c ∈ (trimStart cs).head? := by
    rw [Option.mem_def] at hc ⊢
    rw [← h, List.head?_append, ← trimChars, hc]
    rfl
  exact not_isBlank_of_mem_head?_trimStart hmem

theorem trimEnd_trimChars (cs : List Char) : trimEnd (trimChars cs) = trimChars cs := by
  rw [trimEnd, dropWhile_eq_self_of_head, List.reverse_reverse]
  intro c hc
  rw [List.head?_reverse] at hc
  exact not_isBlank_of_mem_getLast?_trimEnd hc

theorem trimChars_trimChars (cs : List Char) : trimChars (trimChars cs) = trimChars cs := by
  rw [trimChars, trimStart_trimChars, trimEnd_trimChars]

@[simp] theorem trim_trim (s : String) : trim (trim s) = trim s := by
  simp [trim, trimChars_trimChars]

end StreamRecords.Text
