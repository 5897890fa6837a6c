import StreamRecords.Proofs.Item
import StreamRecords.Proofs.Json.MemberValues

/-!
Items and the texts that they are read from. An item is told by the four members of its text,
whatever else stands there and however it is laid out. What is written for it has these members in
one form: a time that is null is left out, and the data are always there, in lowercase.
-/

namespace StreamRecords

open Json Time

namespace Item

/-! ### The members of an item -/

/-- The fields of `members`. Null is kept apart from a member that is missing. -/
def memberFields :
    Fields (Option Value × Option Value × Option Value × Option Value × Unit)
      (Option (Option Value) × Option (Option Value) × Option (Option Value) ×
        Option (Option Value) × Unit) :=
  .cons (.withDefault "txid" none) .member <|
  .cons (.withDefault "key" none) .member <|
  .cons (.withDefault "blocktime" none) .member <|
  .cons (.withDefault "data" none) .member .nil

/-- **The transaction, the key, the time and the data in the text of an item**: each is missing, or
any value. -/
def members : Format (Option Value × Option Value × Option Value × Option Value × Unit) :=
  .record "StreamItem" memberFields

/-- The time that is read from the member `blocktime`. -/
inductive GivesTime : Option Value → Option Instant → Prop where
  | missing : GivesTime none none
  | null : GivesTime (some .null) none
  | seconds (n : Int) (exact : IsExact n) (legal : IsLegal n) :
      GivesTime (some (.number (.int n exact))) (some (.ofSeconds n legal))

/-- The data that are read from the member `data`. -/
inductive GivesData : Option Value → Encoding → Prop where
  | missing : GivesData none .empty
  | digits {s : String} {e : Encoding} (h : Encoding.parse s = .ok e) :
      GivesData (some (.string s)) e

theorem given_text (name : String) {v : Option Value} {s : String} :
    (Field.required name).given .text v = some s ↔ v = some (.string s) := by
  cases v with
  | none => exact iff_of_false nofun nofun
  | some v =>
    cases v with
    | string t =>
      show some t = some s ↔ some (Value.string t) = some (.string s)
      simp
    | _ => exact iff_of_false nofun nofun

theorem given_time (name : String) (hidden : Option Instant → Bool) {v : Option Value}
    {t : Option Instant} :
    (Json.Field.mk name (.default none) hidden).given (.option timestampFormat) v = some t ↔
      GivesTime v t := by
  constructor
  · intro h
    cases v with
    | none =>
      cases h
      exact .missing
    | some v =>
      cases v with
      | null =>
        cases h
        exact .null
      | number n =>
        cases n with
        | int n exact =>
          have h : ((timestampFormat.ofValue (.number (.int n exact))).map some).toOption =
            some t := h
          rw [toOption_map, ofValue_seconds] at h
          split at h
          · next legal =>
            cases h
            exact .seconds n exact legal
          · cases h
        | float x => cases h
      | _ => cases h
  · intro h
    cases h with
    | missing => rfl
    | null => rfl
    | seconds n exact legal =>
      show ((timestampFormat.ofValue (.number (.int n exact))).map some).toOption = _
      rw [toOption_map, ofValue_seconds, dif_pos legal]
      rfl

theorem given_data (name : String) {v : Option Value} {e : Encoding} :
    (Field.withDefault name .empty).given encodingFormat v = some e ↔ GivesData v e := by
  constructor
  · intro h
    cases v with
    | none =>
      cases h
      exact .missing
    | some v =>
      cases v with
      | string s =>
        have h := toOption_eq_some_iff.1 h
        rw [encodingFormat_eq, ofValue_checked] at h
        exact .digits (mapError_eq_ok_iff.1 h)
      | _ => cases h
  · intro h
    cases h with
    | missing => rfl
    | digits h =>
      refine toOption_eq_some_iff.2 ?_
      rw [encodingFormat_eq, ofValue_checked]
      exact mapError_eq_ok_iff.2 h

/-! ### Reading an item -/

theorem readsValue_timestamp : timestampFormat.ReadsValue := (readsValue_int _).via _ _

theorem readsValue_encoding : encodingFormat.ReadsValue := (readsValue_string _).via _ _

theorem parse_record_iff {body : Bytes} {i : Item} : itemFormat.parse body = .ok i ↔
    (Format.record "StreamItem" itemFields).parse body =
      .ok (i.txid, i.key, i.time, i.data, ()) := by
  constructor
  · intro h
    obtain ⟨a, ha, hi⟩ := exists_of_parse_via h
    cases hi
    exact ha
  · intro h
    exact parse_via h

/-- **An item is told by its members**: `body` is read as `i` if and only if its `members` give what
`i` is made of. -/
theorem parse_iff {body : Bytes} {i : Item} : itemFormat.parse body = .ok i ↔
    ∃ time data, members.parse body =
        .ok (some (.string i.txid), some (.string i.key), time, data, ()) ∧
      GivesTime time i.time ∧ GivesData data i.data := by
  have hfields : memberFields.Check itemFields _ _ :=
    .cons (readsValue_text.checks (.required "txid") rfl) <|
    .cons (readsValue_text.checks (.required "key") rfl) <|
    .cons (readsValue_timestamp.option.checks ⟨"blocktime", .default none, Option.isNone⟩ rfl) <|
    .cons (readsValue_encoding.checks (.withDefault "data" .empty) rfl) .nil
  have hcheck := parse_of_checks (hfields.read_record "StreamItem" "StreamItem" maxDepth) body
  rw [parse_record_iff, ← toOption_eq_some_iff, hcheck, Option.bind_eq_some_iff]
  constructor
  · rintro ⟨⟨txid, key, time, data, ⟨⟩⟩, hm, h⟩
    simp only [checkPair_eq_some_iff, given_text, given_time, given_data] at h
    obtain ⟨rfl, rfl, htime, hdata, -⟩ := h
    exact ⟨time, data, toOption_eq_some_iff.1 hm, htime, hdata⟩
  · rintro ⟨time, data, hm, htime, hdata⟩
    refine ⟨_, toOption_eq_some_iff.2 hm, ?_⟩
    simp only [checkPair_eq_some_iff, given_text, given_time, given_data]
    exact ⟨trivial, trivial, htime, hdata, trivial⟩

/-! ### One form -/

/-- What is written for a member `blocktime` that gives a time: null is left out, and a number stays
what it is. -/
inductive KeepsTime : Option Value → Option Value → Prop where
  | missing : KeepsTime none none
  | null : KeepsTime (some .null) none
  | seconds (n : Int) (exact : IsExact n) :
      KeepsTime (some (.number (.int n exact))) (some (.number (.int n exact)))

/-- What is written for a member `data`: no digits if it is missing, and else the lowercase of what
it is. -/
inductive KeepsData : Option Value → String → Prop where
  | missing : KeepsData none ""
  | digits (s : String) : KeepsData (some (.string s)) (.ofList (s.toList.map Char.toLower))

/-- **The one form of an item**, with its members in the order in which they are written. -/
def canonical (txid key : String) (time : Option Value) (digits : String) : Value :=
  .object ([("txid", .string txid), ("key", .string key)] ++ time.toList.map ("blocktime", ·) ++
    [("data", .string digits)])

def writtenTime (t : Option Instant) : Option Value :=
  t.map fun t => IntRange.toValue (timestampOfInstant t)

theorem writtenTime_ofSeconds {n : Int} (exact : IsExact n) (legal : IsLegal n) :
    writtenTime (some (.ofSeconds n legal)) = some (.number (.int n exact)) :=
  rfl

theorem GivesTime.keeps {time : Option Value} {t : Option Instant} (h : GivesTime time t) :
    KeepsTime time (writtenTime t) := by
  cases h with
  | missing => exact .missing
  | null => exact .null
  | seconds n exact legal =>
    rw [writtenTime_ofSeconds exact legal]
    exact .seconds n exact

theorem GivesTime.legal {n : Int} {exact : IsExact n} {t : Option Instant}
    (h : GivesTime (some (.number (.int n exact))) t) : IsLegal n := by
  cases h with
  | seconds _ _ legal => exact legal

/-- Reading `writtenTime` gives the time that was read before it was written. -/
theorem GivesTime.again {time : Option Value} {t : Option Instant} (h : GivesTime time t) :
    GivesTime (writtenTime t) t := by
  cases h with
  | missing | null => exact .missing
  | seconds n exact legal =>
    rw [writtenTime_ofSeconds exact legal]
    exact .seconds n exact legal

theorem GivesData.keeps {data : Option Value} {e : Encoding} (h : GivesData data e) :
    KeepsData data e.text := by
  cases h with
  | missing => exact .missing
  | digits h =>
    rw [Encoding.text_of_parse h]
    exact .digits _

theorem write_eq (i : Item) : itemFormat.write i =
    .ok (canonical i.txid i.key (writtenTime i.time) i.data.text).bytes := by
  rw [Format.write, toValue_item]
  obtain ⟨txid, key, time, data⟩ := i
  cases time <;> rfl

theorem members_canonical {time time' : Option Value} (h : KeepsTime time time')
    (txid key digits : String) : members.parse (canonical txid key time' digits).bytes =
      .ok (some (.string txid), some (.string key), time', some (.string digits), ()) := by
  cases h with
  | missing | null =>
    exact members.parse_bytes (v := canonical txid key none digits)
      ⟨trivial, trivial, trivial, trivial⟩
  | seconds n exact =>
    exact members.parse_bytes (v := canonical txid key (some (.number (.int n exact))) digits)
      ⟨trivial, trivial, trivial, trivial, trivial⟩

/-- **Items that are read are written in one form, which is stable.** What is written for an item
`i` read from `body` has the same transaction and key, the same number of seconds if `body` gives
one, and no time if it gives none or null, and the lowercase of the data of `body`; and it gives `i`
again. A number of seconds `n` in a `body` that is else an item is accepted exactly if it is one of
the calendar. -/
theorem decoded_is_canonical (body : Bytes) :
    (∀ i, itemFormat.parse body = .ok i → ∃ txid key time data time' digits written,
      members.parse body = .ok (some (.string txid), some (.string key), time, data, ()) ∧
      KeepsTime time time' ∧ KeepsData data digits ∧
      itemFormat.write i = .ok written ∧ written = (canonical txid key time' digits).bytes ∧
      members.parse written =
        .ok (some (.string txid), some (.string key), time', some (.string digits), ()) ∧
      itemFormat.parse written = .ok i) ∧
    ∀ txid key n exact data, members.parse body =
        .ok (some (.string txid), some (.string key), some (.number (.int n exact)), data, ()) →
      (∃ e, GivesData data e) →
      ((∃ i, itemFormat.parse body = .ok i) ↔ -8334601228800 ≤ n ∧ n ≤ 8210266876799) := by
  constructor
  · intro i h
    obtain ⟨time, data, hmembers, htime, hdata⟩ := parse_iff.1 h
    have hwritten := members_canonical htime.keeps i.txid i.key i.data.text
    refine ⟨_, _, _, _, _, _, _, hmembers, htime.keeps, hdata.keeps, write_eq i, rfl, hwritten, ?_⟩
    exact parse_iff.2 ⟨_, _, hwritten, htime.again, .digits (Encoding.parse_text i.data)⟩
  · rintro txid key n exact data hmembers ⟨e, hdata⟩
    constructor
    · rintro ⟨i, h⟩
      obtain ⟨time, data', hmembers', htime, -⟩ := parse_iff.1 h
      rw [hmembers] at hmembers'
      cases hmembers'
      exact htime.legal
    · intro legal
      exact ⟨⟨txid, key, some (.ofSeconds n legal), e⟩,
        parse_iff.2 ⟨_, _, hmembers, .seconds n exact legal, hdata⟩⟩

/-- Members in another order with one more among them, a time before the year 1970, and digits in
either case. -/
theorem decoded_is_canonical_shuffled :
    let text (n : Int) (exact : IsExact n) : Value :=
      .object [("data", .string "00aBCf"), ("vout", .list [.null]),
        ("blocktime", .number (.int n exact)), ("key", .string "k"), ("txid", .string "t")]
    (∃ i written, itemFormat.parse (text (-1) (by decide)).bytes = .ok i ∧
      itemFormat.write i = .ok written ∧
      written = (canonical "t" "k" (some (.number (.int (-1) (by decide)))) "00abcf").bytes ∧
      itemFormat.parse written = .ok i) ∧
    (∃ i, itemFormat.parse (text 8210266876799 (by decide)).bytes = .ok i) ∧
    ¬ ∃ i, itemFormat.parse (text 18446744073709551615 (by decide)).bytes = .ok i := by
  intro text
  have hmembers (n : Int) (exact : IsExact n) : members.parse (text n exact).bytes =
      .ok (some (.string "t"), some (.string "k"), some (.number (.int n exact)),
        some (.string "00aBCf"), ()) :=
    members.parse_bytes (v := text n exact)
      ⟨trivial, ⟨trivial, trivial⟩, trivial, trivial, trivial, trivial⟩
  have hdata : GivesData (some (.string "00aBCf")) ⟨[0x00, 0xAB, 0xCF]⟩ := .digits rfl
  have hlegal (n : Int) (exact : IsExact n) :=
    (decoded_is_canonical (text n exact).bytes).2 _ _ _ _ _ (hmembers n exact) ⟨_, hdata⟩
  refine ⟨?_, (hlegal _ _).2 (by decide), mt (hlegal _ _).1 (by decide)⟩
  obtain ⟨i, hi⟩ := (hlegal (-1) (by decide)).2 (by decide)
  obtain ⟨_, _, _, _, _, _, written, hm, htime, hkeeps, hwrite, hwritten, -, hagain⟩ :=
    (decoded_is_canonical _).1 i hi
  rw [hmembers] at hm
  cases hm
  cases htime
  cases hkeeps
  exact ⟨i, written, hi, hwrite, hwritten, hagain⟩

end Item
end StreamRecords
