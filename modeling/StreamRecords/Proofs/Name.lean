import StreamRecords.Proofs.Json.CheckedText
import StreamRecords.Proofs.Text.Blank

/-!
Names and keys. A text names something if it is not blank, and then it names what its core does: the
blanks around it make no difference, whether the text comes by itself or in JSON, and what is named
is named by its own text.
-/

namespace StreamRecords

open Json

/-! ### Texts that are kept without their blanks -/

section

variable {α : Type}

/-- **`parse` keeps a text without the blanks at its ends**: it refuses a blank one, and any other
gives a value whose `text` is what is left of it. A value is told by its `text`. -/
structure Trims (parse : String → Except InputError α) (text : α → String)
    (refusal : InputError) : Prop where
  blank : ∀ s, Text.trim s = "" → parse s = .error refusal
  value : ∀ s, Text.trim s ≠ "" → ∃ a, parse s = .ok a ∧ text a = Text.trim s
  trimmed : ∀ a, Text.trim (text a) = text a
  nonempty : ∀ a, text a ≠ ""
  injective : Function.Injective text

/-- **Values are the cores of texts.** What `parse` makes of a text depends on its core alone, and
what `format` reads from JSON is what `parse` makes of its strings. -/
structure Normalizes (parse : String → Except InputError α) (text : α → String)
    (refusal : InputError) (format : Format α) : Prop where
  /-- Exactly the texts with a character that is not blank are accepted. -/
  accepts : ∀ s, (∃ a, parse s = .ok a) ↔ ∃ c ∈ s.toList, Text.isBlank c = false
  refuses : ∀ s, (∀ c ∈ s.toList, Text.isBlank c = true) → parse s = .error refusal
  /-- The text of a value is the one core of each text that gives it. -/
  core : ∀ s a, parse s = .ok a → ∃ before after,
    Text.IsCore s.toList before (text a).toList after ∧
      ∀ before' core' after', Text.IsCore s.toList before' core' after' →
        before' = before ∧ core' = (text a).toList ∧ after' = after
  /-- The text of a value gives the value. -/
  again : ∀ a, parse (text a) = .ok a
  /-- The JSON of a value gives the value. -/
  json : ∀ a, ∃ body, format.write a = .ok body ∧ format.parse body = .ok a
  /-- Just the texts that differ in the blanks at their ends alone give the same value. -/
  agree : ∀ s s' a a', parse s = .ok a → parse s' = .ok a' →
    (a = a' ↔ Text.AgreeButForBlanks s s')
  /-- Blanks around a text change nothing. -/
  padded : ∀ front s back : String, Text.AllBlank front.toList → Text.AllBlank back.toList →
    parse (front ++ s ++ back) = parse s
  /-- What is read from JSON is what the texts of its strings give, and so is what is refused. -/
  reads : ∀ body a, format.parse body = .ok a ↔
    ∃ s, Format.text.parse body = .ok s ∧ parse s = .ok a
  refusesJson : ∀ body s e, Format.text.parse body = .ok s → parse s = .error e →
    format.parse body = .error (.refused e.message)
  readsValue : ∀ s, format.ofValue (.string s) = (parse s).mapError fun e => .refused e.message

variable {parse : String → Except InputError α} {text : α → String} {refusal : InputError}

namespace Trims

variable (h : Trims parse text refusal)
include h

theorem text_of_parse {s : String} {a : α} (ha : parse s = .ok a) :
    text a = Text.trim s ∧ Text.trim s ≠ "" := by
  have hne : Text.trim s ≠ "" := by
    intro hs
    rw [h.blank s hs] at ha
    cases ha
  obtain ⟨b, hb, htext⟩ := h.value s hne
  cases hb.symm.trans ha
  exact ⟨htext, hne⟩

theorem not_allBlank_of_parse {s : String} {a : α} (ha : parse s = .ok a) :
    ¬ Text.AllBlank s.toList := mt Text.trim_eq_empty_iff.2 (h.text_of_parse ha).2

theorem parse_congr {s s' : String} (hs : Text.trim s = Text.trim s') : parse s = parse s' := by
  by_cases hne : Text.trim s = ""
  · rw [h.blank s hne, h.blank s' (hs.symm.trans hne)]
  · obtain ⟨a, ha, htext⟩ := h.value s hne
    obtain ⟨a', ha', htext'⟩ := h.value s' (by rwa [← hs])
    have : a = a' := h.injective (by rw [htext, htext', hs])
    rw [ha, ha', this]

theorem parse_text (a : α) : parse (text a) = .ok a := by
  have hne : Text.trim (text a) ≠ "" := by
    rw [h.trimmed]
    exact h.nonempty a
  obtain ⟨b, hb, htext⟩ := h.value (text a) hne
  have : b = a := h.injective (by rw [htext, h.trimmed])
  rw [hb, this]

theorem exists_parse_iff {s : String} :
    (∃ a, parse s = .ok a) ↔ ∃ c ∈ s.toList, Text.isBlank c = false := by
  rw [← Text.not_allBlank_iff]
  constructor
  · rintro ⟨a, ha⟩
    exact h.not_allBlank_of_parse ha
  · intro hs
    obtain ⟨a, ha, -⟩ := h.value s (mt Text.trim_eq_empty_iff.1 hs)
    exact ⟨a, ha⟩

theorem isCore_of_parse {s : String} {a : α} (ha : parse s = .ok a) :
    ∃ before after, Text.IsCore s.toList before (text a).toList after := by
  have hcore := Text.exists_isCore (h.not_allBlank_of_parse ha)
  rwa [(h.text_of_parse ha).1, Text.trim, String.toList_ofList]

theorem eq_iff_of_parse {s s' : String} {a a' : α} (ha : parse s = .ok a)
    (ha' : parse s' = .ok a') : a = a' ↔ Text.AgreeButForBlanks s s' := by
  rw [← Text.trim_eq_trim_iff (h.not_allBlank_of_parse ha) (h.not_allBlank_of_parse ha'),
    ← (h.text_of_parse ha).1, ← (h.text_of_parse ha').1, h.injective.eq_iff]

theorem parse_padded {front back : String} (hfront : Text.AllBlank front.toList)
    (hback : Text.AllBlank back.toList) (s : String) : parse (front ++ s ++ back) = parse s := by
  refine h.parse_congr ?_
  rw [Text.trim, Text.trim, String.toList_append, String.toList_append, List.append_assoc,
    Text.trimChars_append hfront hback]

/-- **Values that `parse` keeps without blanks are the cores of texts.** -/
theorem normalizes : Normalizes parse text refusal (.checked parse text) where
  accepts _ := h.exists_parse_iff
  refuses s hs := h.blank s (Text.trim_eq_empty_iff.2 hs)
  core s a ha := by
    obtain ⟨before, after, hcore⟩ := h.isCore_of_parse ha
    exact ⟨before, after, hcore, fun _ _ _ hcore' => hcore.unique hcore'⟩
  again := h.parse_text
  json a := checked_comes_back (h.parse_text a)
  agree _ _ _ _ := h.eq_iff_of_parse
  padded _ s _ hfront hback := h.parse_padded hfront hback s
  reads _ _ := parse_checked_eq_ok_iff
  refusesJson body s e hs he := by
    rw [parse_checked hs, he]
    rfl
  readsValue := ofValue_checked

end Trims
end

/-! ### Streams and records -/

theorem StreamName.parse_of_ne {s : String} (h : Text.trim s ≠ "") :
    parse s = .ok ⟨Text.trim s, Text.trim_trim s, h⟩ := dif_neg h

theorem StreamName.parse_of_eq {s : String} (h : Text.trim s = "") :
    parse s = .error .blankStreamName := dif_pos h

/-- `n` is read from each text that `n` is left of. -/
theorem StreamName.parse_of_trim {s : String} (n : StreamName) (h : Text.trim s = n.text) :
    parse s = .ok n := by
  have hne : Text.trim s ≠ "" := h ▸ n.nonempty
  obtain ⟨text, htrimmed, hnonempty⟩ := n
  subst h
  exact parse_of_ne hne

theorem RecordKey.parse_of_ne {s : String} (h : Text.trim s ≠ "") :
    parse s = .ok ⟨Text.trim s, Text.trim_trim s, h⟩ := dif_neg h

theorem RecordKey.parse_of_eq {s : String} (h : Text.trim s = "") :
    parse s = .error .blankKey := dif_pos h

theorem StreamName.trims : Trims StreamName.parse StreamName.text .blankStreamName where
  blank _ := parse_of_eq
  value s hs := ⟨_, parse_of_ne hs, rfl⟩
  trimmed := StreamName.trimmed
  nonempty := StreamName.nonempty
  injective := by
    rintro ⟨s, hs, hne⟩ ⟨s', hs', hne'⟩ ⟨⟩
    rfl

theorem RecordKey.trims : Trims RecordKey.parse RecordKey.text .blankKey where
  blank _ := parse_of_eq
  value s hs := ⟨_, parse_of_ne hs, rfl⟩
  trimmed := RecordKey.trimmed
  nonempty := RecordKey.nonempty
  injective := by
    rintro ⟨s, hs, hne⟩ ⟨s', hs', hne'⟩ ⟨⟩
    rfl

/-- **The names of streams and the keys of records are the cores of texts**, from JSON as from
texts. -/
theorem names_and_keys_normalized :
    Normalizes StreamName.parse StreamName.text .blankStreamName streamNameFormat ∧
      Normalizes RecordKey.parse RecordKey.text .blankKey recordKeyFormat := by
  rw [streamNameFormat_eq, recordKeyFormat_eq]
  exact ⟨StreamName.trims.normalizes, RecordKey.trims.normalizes⟩

/-- An em space is blank, and a space of no width is not. -/
example : (RecordKey.parse "\u2003k\u200B\n").map RecordKey.text = .ok "k\u200B" := rfl

end StreamRecords
