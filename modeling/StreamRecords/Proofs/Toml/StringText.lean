import StreamRecords.Toml.Reader
import StreamRecords.Toml.Writer

/-!
TOML strings are read back, in each of the four forms. What stands between the marks spells the text
piece by piece: a character stands for itself or is named by an escape, and a mark may stand in the
text as long as no row of them is long enough to close it. The reader takes the text from any such
spelling; what is written is one.
-/

namespace StreamRecords.Toml

namespace StringForm

def all : List StringForm := [basic, literal, basicLines, literalLines]

theorem mark_ne_backslash {f : StringForm} (hf : f ∈ all) : f.mark ≠ '\\' := by
  revert f
  decide

theorem mark_of_escapes {f : StringForm} (hf : f ∈ all) (h : f.escapes = true) : f.mark = '"' := by
  revert f
  decide

theorem mark_ne_lineEnd {f : StringForm} (hf : f ∈ all) : f.mark ≠ '\n' ∧ f.mark ≠ '\r' := by
  revert f
  decide

theorem marks_of_lines {f : StringForm} (h : f.lines = true) :
    f.marks = [f.mark, f.mark, f.mark] := by
  simp [marks, h]

theorem marks_of_not_lines {f : StringForm} (h : f.lines = false) : f.marks = [f.mark] := by
  simp [marks, h]

theorem lines_of_freeMarks {f : StringForm} {run : Nat} (h : run < f.freeMarks) :
    f.lines = true ∧ run < 2 := by
  unfold freeMarks at h
  split at h
  · next hlines => exact ⟨hlines, h⟩
  · omega

/-! ### Spellings -/

/-- The character `c` stands for itself in the form `f`, and it is no mark. -/
def IsPlain (f : StringForm) (c : Char) : Prop :=
  c ≠ f.mark ∧ (f.escapes = true → c ≠ '\\') ∧ (isControl c = true → f.lines = true ∧ c = '\n')

/-- The characters `taken` behind a backslash name `c`, whatever comes after them. -/
def IsEscape (f : StringForm) (taken : List Char) (c : Char) : Prop :=
  f.escapes = true ∧ ∀ s, escape f.lines (taken ++ s) = some ([c], taken.length)

/-- **A body spells a text** in the form `f`, after `run` marks in a row that belong to the text. -/
inductive Spells (f : StringForm) : Nat → List Char → List Char → Prop where
  | nil {run : Nat} : Spells f run [] []
  | mark {run : Nat} {body cs : List Char} (h : run < f.freeMarks) :
      Spells f (run + 1) body cs → Spells f run (f.mark :: body) (f.mark :: cs)
  | plain {run : Nat} {c : Char} {body cs : List Char} (h : f.IsPlain c) :
      Spells f 0 body cs → Spells f run (c :: body) (c :: cs)
  | named {run : Nat} {taken : List Char} {c : Char} {body cs : List Char}
      (h : f.IsEscape taken c) :
      Spells f 0 body cs → Spells f run ('\\' :: (taken ++ body)) (c :: cs)

end StringForm

open StringForm

variable {f : StringForm}

/-! ### Reading spellings -/

theorem closing?_of_ne {m c : Char} (h : c ≠ m) (s : List Char) : closing? m (c :: s) = none := by
  cases s with
  | nil => rfl
  | cons d s => exact if_neg fun hm => h hm.1

theorem closing?_of_second_ne {m c : Char} (h : c ≠ m) (s : List Char) :
    closing? m (m :: c :: s) = none := if_neg fun hm => h hm.2

/-- Up to two marks before the three that close a text belong to it. -/
theorem closing?_replicate {m : Char} {k : Nat} (hk : k ≤ 2) {rest : List Char}
    (hrest : rest.head? ≠ some m) :
    closing? m (m :: m :: (List.replicate k m ++ rest)) = some (List.replicate k m, rest) := by
  have htake : rest.takeWhile (· = m) = [] := by
    cases rest with
    | nil => rfl
    | cons c rest => exact List.takeWhile_cons_of_neg (by simpa using hrest)
  have hlen : ((List.replicate k m ++ rest).takeWhile (· = m)).length = k := by
    rw [List.takeWhile_append_of_pos fun c hc => by simp [List.eq_of_mem_replicate hc], htake,
      List.append_nil, List.length_replicate]
  rw [closing?, if_pos ⟨rfl, rfl⟩, hlen, Nat.min_eq_right hk]
  simp

/-- Where a mark of the text is read, `closing?` finds that the text ends rightly there or not at
all. -/
theorem closing?_of_spells (hf : f ∈ all) (hlines : f.lines = true) {run : Nat}
    {body cs : List Char} (h : Spells f (run + 1) body cs) {rest : List Char}
    (hrest : rest.head? ≠ some f.mark) :
    closing? f.mark (body ++ (f.marks ++ rest)) = none ∨
      closing? f.mark (body ++ (f.marks ++ rest)) = some (f.mark :: cs, rest) := by
  rw [marks_of_lines hlines]
  cases h with
  | nil => exact .inr (closing?_replicate (k := 1) (by decide) hrest)
  | plain hc => exact .inl (closing?_of_ne hc.1 _)
  | named hc => exact .inl (closing?_of_ne (mark_ne_backslash hf).symm _)
  | mark hrun h =>
    -- the second mark in a row is the last that may stand in the text
    obtain ⟨-, hrun⟩ := lines_of_freeMarks hrun
    cases h with
    | nil => exact .inr (closing?_replicate (k := 2) (by decide) hrest)
    | plain hc => exact .inl (closing?_of_second_ne hc.1 _)
    | named hc => exact .inl (closing?_of_second_ne (mark_ne_backslash hf).symm _)
    | mark hrun' => exact absurd (lines_of_freeMarks hrun').2 (by omega)

theorem textTail_drop (taken s : List Char) :
    textTail f taken.length (taken ++ s) = textTail f 0 s := by
  induction taken with
  | nil => rfl
  | cons c taken ih => rw [List.length_cons, List.cons_append, textTail, ih]

theorem textTail_plain {c : Char} (h : f.IsPlain c) (s : List Char) :
    textTail f 0 (c :: s) = (textTail f 0 s).map fun (cs, rest) => (c :: cs, rest) := by
  obtain ⟨hmark, hslash, hcontrol⟩ := h
  rw [textTail, if_neg hmark]
  have hslash : ¬ (f.escapes && decide (c = '\\')) = true := by simpa using hslash
  rw [if_neg hslash]
  by_cases hc : isControl c = true
  · obtain ⟨hlines, rfl⟩ := hcontrol hc
    rw [if_pos (by simp [hlines])]
  · have hr : c ≠ '\r' := by
      rintro rfl
      exact hc rfl
    have hn : c ≠ '\n' := by
      rintro rfl
      exact hc rfl
    rw [if_neg (by simp [hn]), if_neg (by simp [hr]), if_neg hc]

theorem textTail_named (hf : f ∈ all) {taken : List Char} {c : Char} (h : f.IsEscape taken c)
    (s : List Char) :
    textTail f 0 ('\\' :: (taken ++ s)) =
      (textTail f 0 s).map fun (cs, rest) => (c :: cs, rest) := by
  rw [textTail, if_neg (mark_ne_backslash hf).symm, if_pos (by simp [h.1]), h.2]
  show Option.map _ (textTail f taken.length (taken ++ s)) = _
  rw [textTail_drop]
  rfl

theorem textTail_marks {rest : List Char} (hrest : rest.head? ≠ some f.mark) :
    textTail f 0 (f.marks ++ rest) = some ([], rest) := by
  cases hlines : f.lines with
  | true =>
    have hclosing : closing? f.mark (f.mark :: f.mark :: rest) = some ([], rest) :=
      closing?_replicate (k := 0) (by decide) hrest
    rw [marks_of_lines hlines]
    show textTail f 0 (f.mark :: f.mark :: f.mark :: rest) = _
    rw [textTail, if_pos rfl, if_pos hlines, hclosing]
  | false =>
    rw [marks_of_not_lines hlines]
    show textTail f 0 (f.mark :: rest) = _
    rw [textTail, if_pos rfl, if_neg (by simp [hlines])]

/-- **The text `cs` that `body` spells is read**, up to the marks that close it. -/
theorem textTail_of_spells (hf : f ∈ all) {run : Nat} {body cs : List Char}
    (h : Spells f run body cs) {rest : List Char} (hrest : rest.head? ≠ some f.mark) :
    textTail f 0 (body ++ (f.marks ++ rest)) = some (cs, rest) := by
  induction h with
  | nil => exact textTail_marks hrest
  | plain hc h ih =>
    rw [List.cons_append, textTail_plain hc, ih]
    rfl
  | named hc h ih =>
    rw [List.cons_append, List.append_assoc, textTail_named hf hc, ih]
    rfl
  | mark hrun h ih =>
    have hlines := (lines_of_freeMarks hrun).1
    rw [List.cons_append, textTail, if_pos rfl, if_pos hlines]
    rcases closing?_of_spells hf hlines h hrest with hnone | hsome
    · rw [hnone, ih]
      rfl
    · rw [hsome]

/-! ### Opening marks -/

theorem head?_of_spells (hf : f ∈ all) (hlines : f.lines = false) {body cs : List Char}
    (h : Spells f 0 body cs) : body.head? ≠ some f.mark := by
  cases h with
  | nil => simp
  | mark hrun => exact absurd (lines_of_freeMarks hrun).1 (by simp [hlines])
  | plain hc => simpa using hc.1
  | named hc => simpa using (mark_ne_backslash hf).symm

theorem newline?_of_ne {c : Char} (hn : c ≠ '\n') (hr : c ≠ '\r') (s : List Char) :
    newline? (c :: s) = none := by
  unfold newline?
  split
  · next h => exact absurd (List.cons.inj h).1 hn
  · next h => exact absurd (List.cons.inj h).1 hr
  · rfl

/-- A `body` starts with the end of a line only if its text does. -/
theorem newline?_of_spells (hf : f ∈ all) {body cs : List Char} (h : Spells f 0 body cs)
    (hcs : hasLines cs = false) (s : List Char) : newline? (body ++ (f.marks ++ s)) = none := by
  obtain ⟨hn, hr⟩ := mark_ne_lineEnd hf
  -- what comes first is a mark, a backslash or a character that stands for itself
  cases h with
  | nil =>
    obtain ⟨n, hmarks⟩ : ∃ n, f.marks = List.replicate (n + 1) f.mark := by
      unfold marks
      split
      · exact ⟨2, rfl⟩
      · exact ⟨0, rfl⟩
    rw [hmarks]
    exact newline?_of_ne hn hr _
  | mark => exact newline?_of_ne hn hr _
  | named => exact newline?_of_ne (by decide) (by decide) _
  | @plain _ c _ _ hc =>
    have hcs : c ≠ '\n' := by
      rintro rfl
      simp [hasLines] at hcs
    refine newline?_of_ne hcs ?_ _
    rintro rfl
    exact absurd (hc.2.2 rfl).2 (by decide)

/-- Two marks in a row would open one of the forms of several lines. -/
theorem ne_marks_of_spells (hf : f ∈ all) (hlines : f.lines = false) {body cs : List Char}
    (h : Spells f 0 body cs) {rest : List Char} (hrest : rest.head? ≠ some f.mark)
    (s : List Char) : body ++ (f.marks ++ rest) ≠ f.mark :: f.mark :: s := by
  have hbody := head?_of_spells hf hlines h
  rw [marks_of_not_lines hlines]
  intro e
  cases body with
  | nil =>
    cases (List.cons.inj e).2
    exact hrest rfl
  | cons c body =>
    exact hbody (congrArg some (List.cons.inj e).1)

theorem stringForm?_basic {s : List Char} (h : ∀ t, s ≠ '"' :: '"' :: t) :
    stringForm? ('"' :: s) = some (.basic, s) := by
  unfold stringForm?
  split
  · next e => exact absurd (List.cons.inj e).2 (h _)
  · next e => cases (List.cons.inj e).1
  · next e => cases e; rfl
  · next e => cases (List.cons.inj e).1
  · next e _ => exact absurd rfl (e s)

theorem stringForm?_literal {s : List Char} (h : ∀ t, s ≠ '\'' :: '\'' :: t) :
    stringForm? ('\'' :: s) = some (.literal, s) := by
  unfold stringForm?
  split
  · next e => cases (List.cons.inj e).1
  · next e => exact absurd (List.cons.inj e).2 (h _)
  · next e => cases (List.cons.inj e).1
  · next e => cases e; rfl
  · next e => exact absurd rfl (e s)

/-- `stringForm?` knows the form of a string by its opening marks. -/
theorem stringForm?_of_spells (hf : f ∈ all) {body cs : List Char} (h : Spells f 0 body cs)
    {rest : List Char} (hrest : rest.head? ≠ some f.mark) :
    stringForm? (f.marks ++ ((if f.lines && hasLines cs then ['\n'] else []) ++
      (body ++ (f.marks ++ rest)))) = some (f, body ++ (f.marks ++ rest)) := by
  -- a form of several lines drops the end of a line behind its opening marks, so one is written
  -- there if the text might begin with one
  have hstart : ∀ s, f.lines = true →
      s = (if f.lines && hasLines cs then ['\n'] else []) ++ (body ++ (f.marks ++ rest)) →
      (newline? s).getD s = body ++ (f.marks ++ rest) := by
    rintro s hlines rfl
    cases hcs : hasLines cs with
    | true => rw [hlines]; rfl
    | false =>
      have hnone := newline?_of_spells hf h hcs rest
      rw [hlines]
      show (newline? (body ++ (f.marks ++ rest))).getD (body ++ (f.marks ++ rest)) = _
      rw [hnone]
      rfl
  have hone (hlines : f.lines = false) := ne_marks_of_spells hf hlines h hrest
  simp only [all, List.mem_cons, List.not_mem_nil, or_false] at hf
  rcases hf with rfl | rfl | rfl | rfl
  · exact stringForm?_basic (hone rfl)
  · exact stringForm?_literal (hone rfl)
  · exact congrArg (fun s => some (basicLines, s)) (hstart _ rfl rfl)
  · exact congrArg (fun s => some (literalLines, s)) (hstart _ rfl rfl)

/-! ### What is written -/

theorem digitValue?_toUpper :
    ∀ n < 16, Hex.digitValue? (Nat.digitChar n).toUpper = some n := by decide

theorem hexNumber_hexByte {n : Nat} (h : n < 256) (s : List Char) :
    hexNumber 4 ('0' :: '0' :: (hexByte n ++ s)) = some n := by
  have h₀ : Hex.digitValue? '0' = some 0 := rfl
  have hhigh := digitValue?_toUpper (n / 16) (by omega)
  have hlow := digitValue?_toUpper (n % 16) (by omega)
  have hlen : ¬ ('0' :: '0' :: (hexByte n ++ s)).length < 4 := by simp [hexByte]
  rw [hexNumber, if_neg hlen]
  show List.foldlM _ 0 ['0', '0', (Nat.digitChar (n / 16)).toUpper,
    (Nat.digitChar (n % 16)).toUpper] = _
  simp only [List.foldlM_cons, List.foldlM_nil, h₀, hhigh, hlow, Option.map_some,
    Option.bind_eq_bind, Option.bind_some, Option.pure_def]
  exact congrArg some (by omega)

theorem no_lineBreak_of_letter {a : Char} (hblank : isBlank a = false) (hn : a ≠ '\n')
    (hr : a ≠ '\r') (lines : Bool) (s : List Char) :
    (if lines then lineBreak? (a :: s) else none) = none := by
  have hskip : skipBlanks (a :: s) = a :: s := List.dropWhile_cons_of_neg (by simp [hblank])
  have hnone : lineBreak? (a :: s) = none := by
    rw [lineBreak?, hskip, newline?_of_ne hn hr]
    rfl
  rw [hnone]
  exact ite_self none

theorem isEscape_letter (hf : f.escapes = true) {a c : Char} (h : letterEscape? a = some c) :
    f.IsEscape [a] c := by
  have hblank : isBlank a = false := by
    cases hblank : isBlank a with
    | false => rfl
    | true =>
      rcases (by simpa [isBlank] using hblank : a = ' ' ∨ a = '\t') with rfl | rfl <;> cases h
  have hn : a ≠ '\n' := by
    rintro rfl
    cases h
  have hr : a ≠ '\r' := by
    rintro rfl
    cases h
  refine ⟨hf, fun s => ?_⟩
  show escape f.lines (a :: s) = _
  rw [escape, no_lineBreak_of_letter hblank hn hr]
  dsimp only
  rw [h]
  rfl

theorem isEscape_control (hf : f.escapes = true) {c : Char} (h : c.toNat < 256) :
    f.IsEscape ('u' :: '0' :: '0' :: hexByte c.toNat) c := by
  refine ⟨hf, fun s => ?_⟩
  have hvalid : c.toNat.isValidChar := c.valid
  have hchar : codePoint? c.toNat = some c := by
    rw [codePoint?, if_pos hvalid, Char.ofNat_toNat]
  show escape f.lines ('u' :: '0' :: '0' :: (hexByte c.toNat ++ s)) = _
  rw [escape, no_lineBreak_of_letter rfl (by decide) (by decide)]
  have hu : letterEscape? 'u' = none := rfl
  dsimp only
  rw [hu]
  dsimp only
  rw [if_pos rfl, hexNumber_hexByte h, Option.bind_some, hchar]
  rfl

/-- A character other than a mark is written as itself or as an escape that names it. -/
theorem escapeChar_cases (hf : f.escapes = true) {c : Char} (hc : c ≠ f.mark) :
    (escapeChar f.lines c = [c] ∧ f.IsPlain c) ∨
      ∃ taken, escapeChar f.lines c = '\\' :: taken ∧ f.IsEscape taken c := by
  have hletter {a c : Char} (h : letterEscape? a = some c)
      (he : escapeChar f.lines c = ['\\', a]) :
      ∃ taken, escapeChar f.lines c = '\\' :: taken ∧ f.IsEscape taken c :=
    ⟨[a], he, isEscape_letter hf h⟩
  by_cases h₁ : c = '\x08'
  · subst h₁; exact .inr (hletter (a := 'b') rfl rfl)
  by_cases h₂ : c = '\t'
  · subst h₂; exact .inr (hletter (a := 't') rfl rfl)
  by_cases h₃ : c = '\n'
  · subst h₃
    cases hlines : f.lines with
    | true => exact .inl ⟨rfl, hc, fun _ => by decide, fun _ => ⟨hlines, rfl⟩⟩
    | false => exact .inr (hlines ▸ hletter (a := 'n') rfl (by rw [hlines]; rfl))
  by_cases h₄ : c = '\x0c'
  · subst h₄; exact .inr (hletter (a := 'f') rfl rfl)
  by_cases h₅ : c = '\r'
  · subst h₅; exact .inr (hletter (a := 'r') rfl rfl)
  by_cases h₆ : c = '\\'
  · subst h₆; exact .inr (hletter (a := '\\') rfl rfl)
  -- what is left has no letter: it is a control character or stands for itself
  have he : escapeChar f.lines c =
      if isControl c then ['\\', 'u', '0', '0'] ++ hexByte c.toNat else [c] := by
    rw [escapeChar, if_neg h₁, if_neg h₂, if_neg h₃, if_neg h₄, if_neg h₅, if_neg h₆]
  by_cases h : isControl c = true
  · have hlt : c.toNat < 256 := by
      simp only [isControl, Bool.or_eq_true, Bool.and_eq_true, decide_eq_true_eq] at h
      omega
    exact .inr ⟨_, he.trans (if_pos h), isEscape_control hf hlt⟩
  · exact .inl ⟨he.trans (if_neg h), hc, fun _ => h₆, fun h' => absurd h' h⟩

/-- `escapeText` spells the text that it is given. -/
theorem spells_escapeText (hf : f ∈ all) (hescapes : f.escapes = true) (run : Nat)
    (cs : List Char) : Spells f run (escapeText f run cs) cs := by
  have hmark : f.IsEscape [f.mark] f.mark :=
    isEscape_letter hescapes (by rw [mark_of_escapes hf hescapes]; rfl)
  induction cs generalizing run with
  | nil => exact .nil
  | cons c cs ih =>
    rw [escapeText]
    -- a mark is escaped only where it would make a row that closes the text
    split
    · next hc =>
      subst hc
      split
      · next hrun => exact .mark hrun (ih _)
      · exact .named hmark (ih 0)
    · next hc =>
      rcases escapeChar_cases hescapes hc with ⟨he, hplain⟩ | ⟨taken, he, hnamed⟩
      · rw [he]
        exact .plain hplain (ih 0)
      · rw [he]
        exact .named hnamed (ih 0)

theorem le_longestRun (m : Char) (run : Nat) (cs : List Char) : run ≤ longestRun m run cs := by
  induction cs generalizing run with
  | nil => exact Nat.le_refl run
  | cons c cs ih =>
    rw [longestRun]
    split
    · have := ih (run + 1)
      omega
    · exact Nat.le_max_left _ _

/-- `cs` spells itself if it needs no escapes and has no row of marks that is too long. -/
theorem spells_self (hf : f.escapes = false) {run : Nat} {cs : List Char}
    (hcontrol : needsEscapes cs = false) (hlines : f.lines = true ∨ hasLines cs = false)
    (hrun : longestRun f.mark run cs ≤ f.freeMarks) : Spells f run cs cs := by
  induction cs generalizing run with
  | nil => exact .nil
  | cons c cs ih =>
    have hcontrol' : needsEscapes cs = false := by
      simp only [needsEscapes, List.any_cons, Bool.or_eq_false_iff] at hcontrol
      exact hcontrol.2
    -- what is asked of the text holds of the rest of it, with one mark more in the row or none
    have hlines' : f.lines = true ∨ hasLines cs = false := by
      refine hlines.imp_right fun h => ?_
      simp only [hasLines, List.contains_cons, Bool.or_eq_false_iff] at h
      exact h.2
    rw [longestRun] at hrun
    split at hrun
    · next hc =>
      subst hc
      have hle := le_longestRun f.mark (run + 1) cs
      exact .mark (by omega) (ih hcontrol' hlines' hrun)
    · next hc =>
      refine .plain ⟨hc, by simp [hf], fun h => ?_⟩ (ih hcontrol' hlines' (by omega))
      have hn : c = '\n' := by
        simp only [needsEscapes, List.any_cons, Bool.or_eq_false_iff] at hcontrol
        simpa [h] using hcontrol.1
      subst hn
      exact ⟨hlines.resolve_right (by simp [hasLines]), rfl⟩

def StringForm.body (f : StringForm) (cs : List Char) : List Char :=
  if f.escapes then escapeText f 0 cs else cs

/-- `choose` takes a form that can hold the text. -/
theorem choose_spec (cs : List Char) :
    choose cs ∈ all ∧ Spells (choose cs) 0 ((choose cs).body cs) cs := by
  have hspells {f : StringForm} (hf : f ∈ all) (h : f.escapes = true ∨ f.suits cs = true) :
      Spells f 0 (f.body cs) cs := by
    cases he : f.escapes with
    | true =>
      rw [body, if_pos he]
      exact spells_escapeText hf he 0 cs
    | false =>
      have hsuits := h.resolve_left (by simp [he])
      simp only [suits, Bool.and_eq_true, Bool.or_eq_true, Bool.not_eq_true',
        decide_eq_true_eq] at hsuits
      obtain ⟨⟨⟨hcontrol, hlines⟩, -⟩, hrun⟩ := hsuits
      rw [body, if_neg (by simp [he])]
      exact spells_self he hcontrol hlines hrun
  -- the first form that suits the text, or else one with escapes, which can hold any
  unfold choose
  split
  · next f hfind =>
    have hf : f ∈ all := List.mem_of_find?_eq_some hfind
    have hsuits := List.find?_some hfind
    exact ⟨hf, hspells hf (.inr hsuits)⟩
  · split
    · exact ⟨by decide, hspells (by decide) (.inl rfl)⟩
    · exact ⟨by decide, hspells (by decide) (.inl rfl)⟩

/-- **A string that is written is read back**, if no mark comes right after it. -/
theorem string_stringText (s : String) {rest : List Char}
    (hrest : ∀ c ∈ rest.head?, c ≠ '"' ∧ c ≠ '\'') :
    string (stringText s ++ rest) = some (s, rest) := by
  obtain ⟨hf, h⟩ := choose_spec s.toList
  have hmark : rest.head? ≠ some (choose s.toList).mark := by
    intro e
    obtain ⟨hbasic, hliteral⟩ := hrest _ e
    revert hbasic hliteral
    generalize choose s.toList = f at hf
    revert f
    decide
  have htext : stringText s ++ rest = (choose s.toList).marks ++
      ((if (choose s.toList).lines && hasLines s.toList then ['\n'] else []) ++
        ((choose s.toList).body s.toList ++ ((choose s.toList).marks ++ rest))) := by
    simp only [stringText, write, body, List.append_assoc]
  rw [htext, string, stringForm?_of_spells hf h hmark]
  show (textTail _ 0 _ >>= fun p => some (String.ofList p.1, p.2)) = _
  rw [textTail_of_spells hf h hmark]
  show some (String.ofList s.toList, rest) = _
  rw [String.ofList_toList]

end StreamRecords.Toml
