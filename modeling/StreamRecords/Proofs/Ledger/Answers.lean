import StreamRecords.Proofs.Ledger.Wire

/-!
What a ledger answers to each request, told by what its parameters are. The parameters may be any
values, in any number; the first check that fails decides, and a request that passes all of them
lists items or publishes one.
-/

namespace StreamRecords

open Json Rpc Time

/-! ### Parameters -/

section

variable {r : Request} {i : Nat}

theorem Rpc.Request.stringParam?_eq_some_iff {s : String} :
    r.stringParam? i = some s ↔ r.params[i]? = some (.string s) := by
  simp [stringParam?, Option.bind_eq_some_iff]

theorem Rpc.Request.stringParam?_eq_none (h : ∀ s, r.params[i]? ≠ some (.string s)) :
    r.stringParam? i = none := by
  cases hs : r.stringParam? i with
  | none => rfl
  | some s => exact absurd (stringParam?_eq_some_iff.1 hs) (h s)

theorem Rpc.Request.natParam?_eq_some_iff {n : Nat} :
    r.natParam? i = some n ↔ ∃ h, r.params[i]? = some (.number (.int n h)) := by
  simp only [natParam?, Option.bind_eq_some_iff, Value.asNumber?_eq_some_iff,
    Number.toNat?_eq_some_iff]
  constructor
  · rintro ⟨m, ⟨v, hv, rfl⟩, h, rfl⟩
    exact ⟨h, hv⟩
  · rintro ⟨h, hv⟩
    exact ⟨_, ⟨_, hv, rfl⟩, h, rfl⟩

end

namespace Ledger

variable (now : Instant) {r : Request} {l : Ledger}

/-! ### Refusals -/

/-- The ledger `l` refuses `r` with `code`, and counts its command all the same. -/
def Refuses (now : Instant) (r : Request) (l : Ledger) (code : Int64) : Prop :=
  ∃ message, l.handle now r = (.error ⟨code, message⟩, l.called r.command)

/-- `r` gets as far as the stream: its command is not made to fail, and its first two parameters are
strings. -/
structure Reaches (r : Request) (l : Ledger) (stream key : String) : Prop where
  unprimed : l.failures.get r.command = none
  stream : r.params[0]? = some (.string stream)
  key : r.params[1]? = some (.string key)

theorem refuses_of_no_name (hf : l.failures.get r.command = none)
    (h : ∀ s, r.params[0]? ≠ some (.string s)) : Refuses now r l (-8) := by
  have htarget : l.target r = .error ⟨invalidParameter, "stream name must be a string"⟩ := by
    simp only [target, Request.stringParam?_eq_none h]
  exact ⟨_, handle_of_target_error now hf htarget⟩

theorem refuses_of_no_key (hf : l.failures.get r.command = none) {stream : String}
    (hstream : r.params[0]? = some (.string stream))
    (h : ∀ s, r.params[1]? ≠ some (.string s)) : Refuses now r l (-8) := by
  have htarget : l.target r = .error ⟨invalidParameter, "key must be a string"⟩ := by
    simp only [target, Request.stringParam?_eq_some_iff.2 hstream, Request.stringParam?_eq_none h]
  exact ⟨_, handle_of_target_error now hf htarget⟩

variable {stream key : String} {items : List Item}

theorem refuses_of_no_stream (h : Reaches r l stream key) (hitems : l.stream? stream = none) :
    Refuses now r l (-708) := by
  have htarget := target_of_none (Request.stringParam?_eq_some_iff.2 h.stream)
    (Request.stringParam?_eq_some_iff.2 h.key) hitems
  exact ⟨_, handle_of_target_error now h.unprimed htarget⟩

theorem target_of_reaches (h : Reaches r l stream key) (hitems : l.stream? stream = some items) :
    l.target r = .ok (stream, key, items) :=
  target_of_some (Request.stringParam?_eq_some_iff.2 h.stream)
    (Request.stringParam?_eq_some_iff.2 h.key) hitems

theorem refuses_of_not_hexadecimal (h : Reaches r l stream key)
    (hitems : l.stream? stream = some items) (hc : r.command = .publish)
    (hdata : ∀ s, r.params[2]? = some (.string s) → ¬ Hex.IsHexadecimal s) :
    Refuses now r l (-8) := by
  have htarget := target_of_reaches h hitems
  suffices hrefused : ∃ message, dataOf r = .error ⟨invalidParameter, message⟩ by
    obtain ⟨message, hrefused⟩ := hrefused
    exact ⟨message, handle_of_data_error now hc h.unprimed htarget hrefused⟩
  rw [dataOf]
  cases hs : r.stringParam? 2 with
  | none => exact ⟨_, rfl⟩
  | some s =>
    dsimp only
    cases hparse : Encoding.parse s with
    | error e => exact ⟨e.message, rfl⟩
    | ok data =>
      exact absurd (Encoding.exists_parse_iff.1 ⟨data, hparse⟩)
        (hdata s (Request.stringParam?_eq_some_iff.1 hs))

/-! ### Listings -/

theorem handle_list_of_reaches (h : Reaches r l stream key)
    (hitems : l.stream? stream = some items) (hc : r.command = .listItems) :
    l.handle now r = (.ok (.listed ((l.items stream key).take
      ((r.natParam? 3).getD defaultCount))), l.called .listItems) := by
  rw [handle_list_of_target now hc h.unprimed (target_of_reaches h hitems), hc,
    l.items_of_some hitems]

/-! ### Publications -/

/-- **`left` has one more `item` than `l`**, behind the others of `stream`; what else it has is
unchanged but for the count of publications. -/
structure HasAppended (l left : Ledger) (stream : String) (item : Item) : Prop where
  last : ∃ items, l.stream? stream = some items ∧ left.stream? stream = some (items ++ [item])
  others : ∀ name, name ≠ stream → left.stream? name = l.stream? name
  items : ∀ name key, left.items name key =
    if (stream, item.key) = (name, key) then l.items name key ++ [item] else l.items name key
  calls : left.calls = (l.called .publish).calls
  failures : left.failures = l.failures

theorem hasAppended_grown (data : Encoding) (hitems : l.stream? stream = some items) :
    HasAppended l ((l.called .publish).grown now stream key data items) stream
      ⟨txid (l.lastTx + 1), key, some now.floor, data⟩ where
  last := ⟨items, hitems, (stream?_grown ..).trans (if_pos rfl)⟩
  others _ hname := (stream?_grown ..).trans (if_neg (Ne.symm hname))
  items name k := items_grown (l.called .publish) now key data hitems name k
  calls := rfl
  failures := rfl

theorem handle_publish_of_reaches (h : Reaches r l stream key)
    (hitems : l.stream? stream = some items) (hc : r.command = .publish) {s : String}
    (hs : r.params[2]? = some (.string s)) (hhex : Hex.IsHexadecimal s) :
    ∃ item left, l.handle now r = (.ok (.published item.txid), left) ∧ item.key = key ∧
      item.data.text = .ofList (s.toList.map Char.toLower) ∧ HasAppended l left stream item := by
  obtain ⟨data, hparse⟩ := Encoding.exists_parse_iff.2 hhex
  have hdata : dataOf r = .ok data := by
    rw [dataOf, Request.stringParam?_eq_some_iff.2 hs]
    dsimp only
    rw [hparse]
    rfl
  have hhandle := handle_publish_of_target now hc h.unprimed (target_of_reaches h hitems) hitems
    hdata
  rw [hc] at hhandle
  exact ⟨⟨txid (l.lastTx + 1), key, some now.floor, data⟩, _, hhandle, rfl,
    Encoding.text_of_parse hparse, hasAppended_grown now data hitems⟩

/-! ### Answers -/

/-- **What the ledger `l` answers to `r`**, whatever its parameters are: the error that its command
is made to fail with; else a refusal if the first or the second parameter is no string, if the first
is not the name of a stream, or if it is a publication whose third is no hexadecimal text; else the
first items under the key, as many as the fourth parameter says, or ten if it does not say; or the
transaction of the item that is put behind the others. The reply to a `body` that carries `r` is
read as this answer. -/
theorem answers_by_parameters (r : Request) (l : Ledger) :
    (∀ body, Request.decode body = .ok r → ∃ reply,
      l.post now body = (.ok reply, (l.handle now r).2) ∧
        Response.decode .value reply = .ok (responseTo r (l.handle now r).1)) ∧
    (∀ e, l.failures.get r.command = some e →
      l.handle now r = (.error e, l.called r.command)) ∧
    (l.failures.get r.command = none → (∀ s, r.params[0]? ≠ some (.string s)) →
      Refuses now r l (-8)) ∧
    (l.failures.get r.command = none → ∀ stream, r.params[0]? = some (.string stream) →
      (∀ s, r.params[1]? ≠ some (.string s)) → Refuses now r l (-8)) ∧
    ∀ stream key, Reaches r l stream key →
      (l.stream? stream = none → Refuses now r l (-708)) ∧
      ∀ items, l.stream? stream = some items →
        (r.command = .listItems →
          (∀ (count : Nat) h, r.params[3]? = some (.number (.int count h)) →
            l.handle now r =
              (.ok (.listed ((l.items stream key).take count)), l.called .listItems)) ∧
          ((∀ (count : Nat) h, r.params[3]? ≠ some (.number (.int count h))) →
            l.handle now r =
              (.ok (.listed ((l.items stream key).take 10)), l.called .listItems))) ∧
        (r.command = .publish →
          ((∀ s, r.params[2]? = some (.string s) → ¬ Hex.IsHexadecimal s) →
            Refuses now r l (-8)) ∧
          ∀ s, r.params[2]? = some (.string s) → Hex.IsHexadecimal s →
            ∃ item left, l.handle now r = (.ok (.published item.txid), left) ∧ item.key = key ∧
              item.data.text = .ofList (s.toList.map Char.toLower) ∧
              HasAppended l left stream item) := by
  refine ⟨fun body hbody => post_of_request now hbody, fun e he => handle_of_failure now he,
    refuses_of_no_name now, fun hf stream => refuses_of_no_key now hf, ?_⟩
  -- the refusals before this are settled; from here on `r` has got as far as the stream
  intro stream key h
  refine ⟨refuses_of_no_stream now h, fun items hitems => ⟨fun hc => ?_, fun hc => ?_⟩⟩
  · have hlisted := handle_list_of_reaches now h hitems hc
    refine ⟨fun count hexact hcount => ?_, fun hcount => ?_⟩
    · rwa [Request.natParam?_eq_some_iff.2 ⟨hexact, hcount⟩] at hlisted
    · have hnone : r.natParam? 3 = none := by
        cases hn : r.natParam? 3 with
        | none => rfl
        | some n =>
          obtain ⟨hexact, hn⟩ := Request.natParam?_eq_some_iff.1 hn
          exact absurd hn (hcount n hexact)
      rwa [hnone] at hlisted
  · exact ⟨refuses_of_not_hexadecimal now h hitems hc,
      fun s hs hhex => handle_publish_of_reaches now h hitems hc hs hhex⟩

/-- A key is taken as it is, and data in lowercase, whatever parameters follow. -/
theorem answers_by_parameters_padded_key :
    let l : Ledger := .withStreams ["notes"]
    let r : Request := ⟨⟨"id"⟩, .publish, [.string "notes", .string " k ", .string "0Aff", .null]⟩
    ∃ item left, l.handle (.ofSeconds 0 (by decide)) r = (.ok (.published item.txid), left) ∧
      left.items "notes" " k " = [item] ∧ item.data.text = "0aff" := by
  intro l r
  have hreaches : Reaches r l "notes" " k " := ⟨rfl, rfl, rfl⟩
  obtain ⟨-, -, -, -, hanswers⟩ := answers_by_parameters (.ofSeconds 0 (by decide)) r l
  have hpublish := ((hanswers "notes" " k " hreaches).2 [] rfl).2 rfl
  have hhex : Hex.IsHexadecimal "0Aff" := Hex.exists_decode_iff.1 ⟨[0x0A, 0xFF], rfl⟩
  obtain ⟨item, left, hhandle, hkey, hdata, happended⟩ := hpublish.2 "0Aff" rfl hhex
  refine ⟨item, left, hhandle, ?_, hdata⟩
  rw [happended.items, hkey]
  rfl

end Ledger
end StreamRecords
