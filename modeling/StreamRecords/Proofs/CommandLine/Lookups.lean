import StreamRecords.Proofs.Codec.Stages
import StreamRecords.Proofs.CommandLine.AllOrNothing
import StreamRecords.Proofs.Json.Layout
import StreamRecords.Proofs.Rpc.ErrorObjects

/-!
The two lookups side by side. What they print is told from one and the same finding, so they fail
together and for the same reason; and the record that is shown is null where there is none, and also
where there is one that is null.
-/

namespace StreamRecords

/-! ### Texts of null -/

namespace Json

theorem word_eq_ok_iff {w s rest : Bytes} : word w s = .ok rest ↔ s = w ++ rest := by
  induction w generalizing s with
  | nil => simp [word]
  | cons b w ih =>
    cases s with
    | nil => simp [word]
    | cons c s => by_cases h : c = b <;> simp [word, h, ih]

/-- What is skipped of `s` is white space. -/
theorem exists_blank (s : Bytes) : ∃ blank, s = blank ++ skipSpace s ∧ IsBlank blank := by
  refine ⟨s.takeWhile isSpace, (List.takeWhile_append_dropWhile).symm, fun b hb => ?_⟩
  exact (isSpace_iff b).1 (List.mem_takeWhile_imp hb)

theorem isBlank_of_skipSpace {s : Bytes} (h : skipSpace s = []) : IsBlank s := by
  obtain ⟨blank, hs, hblank⟩ := exists_blank s
  rw [h, List.append_nil] at hs
  rwa [hs]

theorem exists_of_lead_letterN {s : Bytes} (h : lead s = .letterN) : ∃ rest, s = 0x6E :: rest := by
  cases s with
  | nil => cases h
  | cons b s =>
    have hbytes : ∀ n < 256, Lead.ofByte (.ofNat n) = .letterN → n = 0x6E := by decide +kernel
    have hb : b.toNat = 0x6E := hbytes b.toNat b.toNat_lt (by rw [UInt8.ofNat_toNat]; exact h)
    obtain rfl : b = 0x6E := UInt8.toNat_inj.1 hb
    exact ⟨s, rfl⟩

/-- **The word alone spells null**, with white space around it or not. -/
theorem parse_eq_null_iff {s : Bytes} :
    Format.value.parse s = .ok .null ↔ Laid Tree.null.tokens s := by
  constructor
  · intro h
    obtain ⟨⟨v, rest⟩, hread, h⟩ := exists_of_bind_eq_ok h
    dsimp only at h
    split at h
    · next hrest =>
      cases h
      have hread : valueWith (some (value 126)) s = .ok (.null, rest) := hread
      obtain ⟨hlead, hword⟩ := readFrom_of_valueWith hread
      obtain ⟨later, hlater⟩ := exists_of_lead_letterN hlead
      rw [hlater, List.tail_cons, nullTail, word_eq_ok_iff] at hword
      obtain ⟨blank, hs, hblank⟩ := exists_blank s
      refine ⟨blank, rest, ?_, hblank, isBlank_of_skipSpace hrest⟩
      rw [hs, hlater, hword]
      rfl
    · cases h
  · intro h
    rw [← List.append_nil Tree.null.tokens] at h
    obtain ⟨rest, hs, hrest⟩ := Tree.first_of_laid rfl h
    have hread : Format.value.read maxDepth s = .ok (.null, rest) := by
      show valueWith (some (value 126)) s = _
      rw [valueWith_letterN (congrArg lead hs), hs]
      rfl
    rw [Format.parse, whole, hread]
    exact if_pos (skipSpace_of_isBlank hrest)

end Json

open Json Rpc Time

/-! ### What is found -/

/-- **The record under `key` is null**: it is the only item there, and its data spell null. -/
def Ledger.HoldsNull (l : Ledger) (stream key : String) : Prop :=
  ∃ data, l.dataUnder stream key = [data] ∧ Laid Tree.null.tokens data.bytes

theorem Ledger.holdsNull_iff {l : Ledger} {stream key : String} {data : Encoding}
    (h : l.dataUnder stream key = [data]) :
    l.HoldsNull stream key ↔ Format.value.parse data.bytes = .ok .null := by
  rw [parse_eq_null_iff, HoldsNull, h]
  simp

namespace Repository

variable {α : Type} {r : Repository α}

/-- Where no data stand for nothing, a lookup finds what is made of the data of the only item. -/
theorem verdict_eq_ok_iff (hempty : r.emptyData = .absent) {key : String} {stored : List Encoding}
    {found : Option α} :
    r.verdict key stored = .ok found ↔ (stored = [] ∧ found = none) ∨
      ∃ data, stored = [data] ∧ Codec.deserializeEncoding r.format data = .ok found := by
  -- two items or more are an error whatever they hold
  match stored with
  | [] => simp [verdict, eq_comm]
  | [data] =>
    rw [verdict, hempty]
    cases hdata : data.isEmpty with
    | true => simp [Codec.deserializeEncoding, hdata]
    | false =>
      rw [if_neg (by decide), mapError_eq_ok_iff]
      simp
  | _ :: _ :: _ => simp [verdict]

theorem verdict_of_findOutcome {s : String} {l : Ledger} {found : Option α}
    (h : r.findOutcome s l = .ok found) :
    r.verdict (Text.trim s) (l.dataUnder r.stream.text (Text.trim s)) = .ok found := by
  rw [findOutcome] at h
  split at h
  · cases h
  · split at h
    · cases h
    · split at h
      · exact h
      · cases h

end Repository

namespace CommandLine

/-- What is `found` of a document: nothing if no item under the key has data, and null if the only
one is null. -/
theorem found_of_documents {stream : StreamName} {s : String} {l : Ledger} {found : Option Value}
    (h : (documents stream none).findOutcome s l = .ok found) :
    (found = none ↔ ∀ data ∈ l.dataUnder stream.text (Text.trim s), data = .empty) ∧
      (found = some .null ↔ l.HoldsNull stream.text (Text.trim s)) := by
  have hverdict := Repository.verdict_of_findOutcome h
  rcases (Repository.verdict_eq_ok_iff rfl).1 hverdict with ⟨hstored, rfl⟩ | ⟨data, hstored, hread⟩
  · have hstored : l.dataUnder stream.text (Text.trim s) = [] := hstored
    simp [Ledger.HoldsNull, hstored]
  · have hstored : l.dataUnder stream.text (Text.trim s) = [data] := hstored
    rw [Ledger.holdsNull_iff hstored, hstored, List.forall_mem_singleton]
    cases found with
    | none =>
      obtain rfl := Codec.deserializeEncoding_eq_ok_none_iff.1 hread
      have hparse : Format.value.parse Encoding.empty.bytes = .error .endInValue := rfl
      rw [hparse]
      simp
    | some v =>
      have hparse : Format.value.parse data.bytes = .ok v :=
        Codec.parse_of_deserializeEncoding hread
      have hne : data ≠ .empty := by
        rintro rfl
        cases hread
      rw [hparse]
      simp [hne]

/-- **The two lookups find the same.** In JSON they fail for the same reason, or the record that one
of them prints and the presence that the other prints are told from one finding. -/
theorem Command.outcome_lookups (styled : Bool) (stream key : String) (l : Ledger) :
    let find := (Command.find stream key).outcome ⟨.json, styled⟩ l
    let tell := (Command.exists stream key).outcome ⟨.json, styled⟩ l
    (∃ e, find = .error e ∧ tell = .error e) ∨
    ∃ found : Option Value,
      find = .ok (printed [("key", .string (Text.trim key)), ("record", found.getD .null),
        ("stream", .string (Text.trim stream))]) ∧
      tell = .ok (printed [("exists", .bool found.isSome), ("key", .string (Text.trim key)),
        ("stream", .string (Text.trim stream))]) ∧
      (found = none ↔
        ∀ data ∈ l.dataUnder (Text.trim stream) (Text.trim key), data = .empty) ∧
      (found = some .null ↔ l.HoldsNull (Text.trim stream) (Text.trim key)) := by
  intro find tell
  have hfind : find = (Command.find stream key).outcome ⟨.json, styled⟩ l := rfl
  have htell : tell = (Command.exists stream key).outcome ⟨.json, styled⟩ l := rfl
  rw [Command.outcome] at hfind
  rw [Command.outcome] at htell
  -- both commands make the same lookup, so one case analysis of it serves both
  by_cases hblank : Text.trim stream = ""
  · have hname : StreamName.parse stream = .error .blankStreamName := dif_pos hblank
    rw [hname] at hfind htell
    exact .inl ⟨_, hfind, htell⟩
  · let name : StreamName := ⟨Text.trim stream, Text.trim_trim stream, hblank⟩
    have hname : StreamName.parse stream = .ok name := name.parse_of_trim rfl
    rw [hname] at hfind htell
    dsimp only at hfind htell
    cases hfound : (documents name none).findOutcome (Text.trim key) l with
    | error e =>
      rw [hfound] at hfind htell
      exact .inl ⟨_, hfind, htell⟩
    | ok found =>
      rw [hfound] at hfind htell
      have hkey := found_of_documents hfound
      rw [Text.trim_trim] at hkey
      exact .inr ⟨found, hfind, htell, hkey⟩

/-- **The two lookups tell the same story** but for records that are null. On any ledger, in JSON,
they succeed together and fail for the same reason. If they succeed, the one says that there is
nothing just if no item under the key has data; and the other prints a record of null just if there
is nothing, or there is a record and this is null. -/
theorem lookups_agree (clock : UInt64 → Instant) (ids : Nat → RequestId) (t : Trace Ledger)
    (styled : Bool) (stream key : String) (out : Bytes) :
    let ran (c : Command) := (c.executeOn ⟨.json, styled⟩).runOn ⟨Ledger.node clock, ids⟩ out t
    let found := ran (.find stream key)
    let told := ran (.exists stream key)
    found.result = told.result ∧
    (found.result = .ok () → ∃ record present,
      found.printed = out ++ Text.bytes (printed [("key", .string (Text.trim key)),
        ("record", record), ("stream", .string (Text.trim stream))]) ∧
      told.printed = out ++ Text.bytes (printed [("exists", .bool present),
        ("key", .string (Text.trim key)), ("stream", .string (Text.trim stream))]) ∧
      (present = false ↔
        ∀ data ∈ t.state.dataUnder (Text.trim stream) (Text.trim key), data = .empty) ∧
      (record = .null ↔
        present = false ∨ t.state.HoldsNull (Text.trim stream) (Text.trim key))) := by
  intro ran found told
  have hresult (c : Command) : (ran c).result = _ := c.result_executeOn clock ids t _ out
  have hprinted (c : Command) : (ran c).printed = _ := c.printed_executeOn clock ids t _ out
  rw [hresult, hresult, hprinted, hprinted]
  rcases Command.outcome_lookups styled stream key t.state with
    ⟨e, hfind, htell⟩ | ⟨record?, hfind, htell, hnone, hnull⟩
  · rw [hfind, htell]
    exact ⟨rfl, fun h => nomatch h⟩
  · have hdone (text : String) :
        (Except.ok text : Except Failure String).map (fun _ => ()) = .ok () := rfl
    rw [hfind, htell, hdone, hdone]
    refine ⟨rfl, fun _ => ⟨record?.getD .null, record?.isSome, rfl, rfl, ?_, ?_⟩⟩
    · rw [← hnone]
      cases record? <;> simp
    · rw [← hnull]
      cases record? <;> simp

/-- An item without data is no record, and its key may be given with a blank at its end. -/
theorem lookups_agree_without_data :
    let clock : UInt64 → Instant := fun _ => .ofSeconds 0 (by decide)
    let ids : Nat → RequestId := fun _ => ⟨"id"⟩
    let t : Trace Ledger := .start
      (Ledger.run [.createStream "docs", .insertRaw (clock 0) "docs" "k" .empty] .empty) 0
    let ran (c : Command) := (c.executeOn ⟨.json, true⟩).runOn ⟨Ledger.node clock, ids⟩ [] t
    (ran (.find "docs" "k\n")).printed =
        Text.bytes (printed [("key", .string "k"), ("record", .null), ("stream", .string "docs")]) ∧
      (ran (.exists "docs" "k\n")).printed = Text.bytes
        (printed [("exists", .bool false), ("key", .string "k"), ("stream", .string "docs")]) := by
  intro clock ids t ran
  obtain ⟨-, hprinted⟩ := lookups_agree clock ids t true "docs" "k\n" []
  have htrim : Text.trim "docs" = "docs" ∧ Text.trim "k\n" = "k" := by decide
  have hresult : (ran (.find "docs" "k\n")).result = .ok () :=
    Command.result_executeOn clock ids t ⟨.json, true⟩ (.find "docs" "k\n") []
  have hstored : t.state.dataUnder "docs" "k" = [.empty] := rfl
  obtain ⟨record, present, hfound, htold, hpresent, hrecord⟩ := hprinted hresult
  rw [htrim.1, htrim.2] at hfound htold hpresent hrecord
  rw [hstored, List.forall_mem_singleton] at hpresent
  obtain rfl := hpresent.2 rfl
  obtain rfl := hrecord.2 (.inl rfl)
  exact ⟨hfound, htold⟩

/-- A record of null is shown as none is, where the other lookup says that there is one. -/
theorem not_lookups_agree_always :
    ¬ ∀ (clock : UInt64 → Instant) (ids : Nat → RequestId) (t : Trace Ledger) (styled : Bool)
      (stream key : String) (out : Bytes) (record : Value) (present : Bool), t.state.IsReachable →
      let ran (c : Command) := (c.executeOn ⟨.json, styled⟩).runOn ⟨Ledger.node clock, ids⟩ out t
      (ran (.find stream key)).printed = out ++ Text.bytes (printed [("key", .string key),
        ("record", record), ("stream", .string stream)]) →
      (ran (.exists stream key)).printed = out ++ Text.bytes (printed [("exists", .bool present),
        ("key", .string key), ("stream", .string stream)]) →
      (record = .null ↔ present = false) := by
  intro hagree
  let clock : UInt64 → Instant := fun _ => .ofSeconds 0 (by decide)
  let ids : Nat → RequestId := fun _ => ⟨"id"⟩
  -- the JSON text null is data like any other for the ledger, and a document for a repository
  let null : Encoding := ⟨Text.bytes "null"⟩
  let t : Trace Ledger := .start
    (Ledger.run [.createStream "docs", .insertRaw (clock 0) "docs" "k" null] .empty) 0
  have hprinted (c : Command) :
      ((c.executeOn ⟨.json, false⟩).runOn ⟨Ledger.node clock, ids⟩ [] t).printed = _ :=
    c.printed_executeOn clock ids t _ []
  have hfind : (Command.find "docs" "k").outcome ⟨.json, false⟩ t.state =
      .ok (printed [("key", .string "k"), ("record", .null), ("stream", .string "docs")]) := rfl
  have htell : (Command.exists "docs" "k").outcome ⟨.json, false⟩ t.state = .ok
      (printed [("exists", .bool true), ("key", .string "k"), ("stream", .string "docs")]) := rfl
  have hfound := hprinted (.find "docs" "k")
  have htold := hprinted (.exists "docs" "k")
  rw [hfind] at hfound
  rw [htell] at htold
  have hnull := hagree clock ids t false "docs" "k" [] .null true ⟨_, rfl⟩ hfound htold
  exact absurd (hnull.1 rfl) (by decide)

end CommandLine

end StreamRecords
