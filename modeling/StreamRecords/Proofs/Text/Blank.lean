import Mathlib.Data.List.TakeWhile
import StreamRecords.Text.Blank

/-!
Blanks at the ends of a text. A text that is not blank has a core, which begins and ends with
characters that are not blank and has only blanks around it; there is one such part, and it is what
is left when the blanks are cut off.
-/

namespace StreamRecords.Text

/-! ### Texts of blanks alone -/

def AllBlank (cs : List Char) : Prop := ∀ c ∈ cs, isBlank c = true

theorem AllBlank.append {cs ds : List Char} (hcs : AllBlank cs) (hds : AllBlank ds) :
    AllBlank (cs ++ ds) := by
  intro c hc
  rcases List.mem_append.1 hc with hc | hc
  · exact hcs c hc
  · exact hds c hc

theorem AllBlank.reverse {cs : List Char} (h : AllBlank cs) : AllBlank cs.reverse :=
  fun c hc => h c (List.mem_reverse.1 hc)

theorem not_allBlank_iff {cs : List Char} : ¬ AllBlank cs ↔ ∃ c ∈ cs, isBlank c = false := by
  simp [AllBlank]

@[simp] theorem trimStart_eq_nil_iff {cs : List Char} : trimStart cs = [] ↔ AllBlank cs :=
  List.dropWhile_eq_nil_iff

theorem trimEnd_eq_nil_iff {cs : List Char} : trimEnd cs = [] ↔ AllBlank cs := by
  rw [trimEnd, List.reverse_eq_nil_iff, List.dropWhile_eq_nil_iff]
  simp only [List.mem_reverse, AllBlank]

theorem trimStart_trimStart (cs : List Char) : trimStart (trimStart cs) = trimStart cs :=
  dropWhile_eq_self_of_head fun _ => not_isBlank_of_mem_head?_trimStart

@[simp] theorem trimChars_eq_nil_iff {cs : List Char} : trimChars cs = [] ↔ AllBlank cs := by
  rw [trimChars, trimEnd_eq_nil_iff, ← trimStart_eq_nil_iff, trimStart_trimStart,
    trimStart_eq_nil_iff]

/-- `trim` leaves nothing of a blank text, and of no other. -/
theorem trim_eq_empty_iff {s : String} : trim s = "" ↔ ∀ c ∈ s.toList, isBlank c = true := by
  rw [trim, String.ofList_eq_empty_iff, trimChars_eq_nil_iff, AllBlank]

/-! ### The core of a text -/

/-- **The `core` of the text `cs`** begins and ends with a character that is not blank, and all that
stands `before` and `after` it is blank. -/
structure IsCore (cs before core after : List Char) : Prop where
  split : cs = before ++ (core ++ after)
  before : AllBlank before
  after : AllBlank after
  first : ∃ c, core.head? = some c ∧ isBlank c = false
  last : ∃ c, core.getLast? = some c ∧ isBlank c = false

theorem trimStart_append {before cs : List Char} (hbefore : AllBlank before)
    (hcs : ∀ c ∈ cs.head?, isBlank c = false) : trimStart (before ++ cs) = cs := by
  rw [trimStart, List.dropWhile_append_of_pos hbefore, dropWhile_eq_self_of_head hcs]

theorem trimEnd_append {cs after : List Char} (hafter : AllBlank after)
    (hcs : ∀ c ∈ cs.getLast?, isBlank c = false) : trimEnd (cs ++ after) = cs := by
  rw [trimEnd, List.reverse_append, List.dropWhile_append_of_pos hafter.reverse,
    dropWhile_eq_self_of_head, List.reverse_reverse]
  rwa [List.head?_reverse]

/-- **`trimChars` leaves the core.** -/
theorem IsCore.trimChars {cs before core after : List Char} (h : IsCore cs before core after) :
    trimChars cs = core := by
  obtain ⟨c, hfirst, hc⟩ := h.first
  obtain ⟨d, hlast, hd⟩ := h.last
  have hstart : trimStart (before ++ (core ++ after)) = core ++ after := by
    refine trimStart_append h.before fun e he => ?_
    rw [List.head?_append, hfirst] at he
    cases he
    exact hc
  rw [Text.trimChars, h.split, hstart]
  refine trimEnd_append h.after fun e he => ?_
  rw [hlast] at he
  cases he
  exact hd

theorem IsCore.before_eq {cs before core after : List Char} (h : IsCore cs before core after) :
    before = cs.takeWhile isBlank := by
  obtain ⟨c, hfirst, hc⟩ := h.first
  cases core with
  | nil => cases hfirst
  | cons d core =>
    cases hfirst
    rw [h.split, List.takeWhile_append_of_pos h.before, List.cons_append,
      List.takeWhile_cons_of_neg (by simp [hc]), List.append_nil]

/-- **A text has one core at most.** -/
theorem IsCore.unique {cs before core after before' core' after' : List Char}
    (h : IsCore cs before core after) (h' : IsCore cs before' core' after') :
    before' = before ∧ core' = core ∧ after' = after := by
  obtain rfl : before' = before := h'.before_eq.trans h.before_eq.symm
  obtain rfl : core' = core := h'.trimChars.symm.trans h.trimChars
  have hsplit := h'.split.symm.trans h.split
  exact ⟨rfl, rfl, List.append_cancel_left (List.append_cancel_left hsplit)⟩

/-- **A text that is not blank has a core.** -/
theorem exists_isCore {cs : List Char} (h : ¬ AllBlank cs) :
    ∃ before after, IsCore cs before (Text.trimChars cs) after := by
  have hne : Text.trimChars cs ≠ [] := mt trimChars_eq_nil_iff.1 h
  refine ⟨cs.takeWhile isBlank, ((trimStart cs).reverse.takeWhile isBlank).reverse, ?_, ?_, ?_, ?_,
    ?_⟩
  · rw [Text.trimChars, trimEnd, ← List.reverse_append, List.takeWhile_append_dropWhile,
      List.reverse_reverse, trimStart, List.takeWhile_append_dropWhile]
  · exact fun c hc => List.mem_takeWhile_imp hc
  · exact fun c hc => List.mem_takeWhile_imp (List.mem_reverse.1 hc)
  · have hhead := List.head?_eq_some_head hne
    have hmem : (Text.trimChars cs).head hne ∈ (trimStart (Text.trimChars cs)).head? := by
      rw [trimStart_trimChars]
      exact hhead
    exact ⟨_, hhead, not_isBlank_of_mem_head?_trimStart hmem⟩
  · have hlast := List.getLast?_eq_some_getLast hne
    exact ⟨_, hlast, not_isBlank_of_mem_getLast?_trimEnd hlast⟩

/-- The core stays the same between `front` and `back`. -/
theorem IsCore.padded {cs before core after : List Char} (h : IsCore cs before core after)
    {front back : List Char} (hfront : AllBlank front) (hback : AllBlank back) :
    IsCore (front ++ (cs ++ back)) (front ++ before) core (after ++ back) where
  split := by rw [h.split]; simp
  before := hfront.append h.before
  after := h.after.append hback
  first := h.first
  last := h.last

/-- **Blanks around a text make no difference to `trimChars`.** -/
theorem trimChars_append {front cs back : List Char} (hfront : AllBlank front)
    (hback : AllBlank back) : trimChars (front ++ (cs ++ back)) = trimChars cs := by
  by_cases h : AllBlank cs
  · rw [trimChars_eq_nil_iff.2 h, trimChars_eq_nil_iff]
    exact hfront.append (h.append hback)
  · obtain ⟨before, after, hcore⟩ := exists_isCore h
    exact (hcore.padded hfront hback).trimChars

theorem trimChars_of_noBlank {cs : List Char} (h : ∀ c ∈ cs, isBlank c = false) :
    trimChars cs = cs := by
  have hstart : trimStart ([] ++ cs) = cs :=
    trimStart_append (fun _ hc => nomatch hc) fun c hc => h c (List.mem_of_mem_head? hc)
  have hend : trimEnd (cs ++ []) = cs :=
    trimEnd_append (fun _ hc => nomatch hc) fun c hc => h c (List.mem_of_mem_getLast? hc)
  rw [List.nil_append] at hstart
  rw [List.append_nil] at hend
  rw [trimChars, hstart, hend]

/-- `s` and `s'` differ in the blanks at their ends alone. -/
def AgreeButForBlanks (s s' : String) : Prop :=
  ∃ core before after before' after', AllBlank before ∧ AllBlank after ∧ AllBlank before' ∧
    AllBlank after' ∧ s.toList = before ++ (core ++ after) ∧ s'.toList = before' ++ (core ++ after')

/-- `trim` leaves the same of just the texts that differ in the blanks at their ends alone. -/
theorem trim_eq_trim_iff {s s' : String} (h : ¬ AllBlank s.toList) (h' : ¬ AllBlank s'.toList) :
    trim s = trim s' ↔ AgreeButForBlanks s s' := by
  constructor
  · intro htrim
    have htrim : trimChars s.toList = trimChars s'.toList := String.ofList_injective htrim
    obtain ⟨before, after, hcore⟩ := exists_isCore h
    obtain ⟨before', after', hcore'⟩ := exists_isCore h'
    rw [← htrim] at hcore'
    exact ⟨_, before, after, before', after', hcore.before, hcore.after, hcore'.before,
      hcore'.after, hcore.split, hcore'.split⟩
  · rintro ⟨core, before, after, before', after', hb, ha, hb', ha', hs, hs'⟩
    rw [trim, trim, hs, hs', trimChars_append hb ha, trimChars_append hb' ha']

end StreamRecords.Text
