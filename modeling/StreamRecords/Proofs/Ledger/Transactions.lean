import StreamRecords.Proofs.Ledger.Identifiers
import StreamRecords.Proofs.Ledger.Run

/-!
Transactions of a ledger over time. Each attempt to append an item takes the next number, also where
there is no stream to append to, and no number is taken twice as long as the counter does not run
over: so no two items have one identifier, and those of a stream are in the order of its items.
-/

namespace StreamRecords.Ledger

open Json Rpc Time

/-! ### Attempts to append -/

/-- How many items a step attempts to append: one if it is an insertion, even into a stream that
there is not, or the post of a publication that is answered with a transaction, as all other
publications are refused before. -/
def Step.attempts : Step → Ledger → Nat
  | .insertRaw .., _ => 1
  | .post now body, l =>
    match Request.decode body with
    | .error _ => 0
    | .ok r =>
      match (l.handle now r).1 with
      | .ok (.published _) => 1
      | _ => 0
  | _, _ => 0

def attempts : List Step → Ledger → Nat
  | [], _ => 0
  | step :: steps, l => step.attempts l + attempts steps (step.apply l)

@[simp] theorem attempts_append (steps later : List Step) (l : Ledger) :
    attempts (steps ++ later) l = attempts steps l + attempts later (run steps l) := by
  induction steps generalizing l with
  | nil => exact (Nat.zero_add _).symm
  | cons step steps ih =>
    rw [List.cons_append, attempts, attempts, ih, Nat.add_assoc]
    rfl

theorem Step.attempts_of_fault {body : Bytes} {e : ProtocolError}
    (h : Request.decode body = .error e) (now : Instant) (l : Ledger) :
    (Step.post now body).attempts l = 0 := by
  simp only [attempts, h]

theorem Step.attempts_of_request {body : Bytes} {r : Request} (h : Request.decode body = .ok r)
    (now : Instant) (l : Ledger) :
    (Step.post now body).attempts l =
      match (l.handle now r).1 with
      | .ok (.published _) => 1
      | _ => 0 := by
  simp only [attempts, h]

/-- **What a step records.** Streams are kept but for one that is created, and the counter goes on
with each attempt to append; or one stream gets an `item`, under the next number. -/
inductive Recorded (step : Step) (l l' : Ledger) : Prop where
  | kept (h : ∀ name items, l'.stream? name = some items →
        items = [] ∨ l.stream? name = some items)
      (hlast : l'.lastTx = l.lastTx + .ofNat (step.attempts l))
  | grown (stream : String) (items : List Item) (item : Item) (hone : step.attempts l = 1)
      (hlast : l'.lastTx = l.lastTx + 1) (htxid : item.txid = txid (l.lastTx + 1))
      (hitems : l.stream? stream = some items)
      (h : ∀ name, l'.stream? name =
        if stream = name then some (items ++ [item]) else l.stream? name)

@[simp] theorem lastTx_createStream (name : String) (l : Ledger) :
    (l.createStream name).lastTx = l.lastTx := by
  unfold createStream
  cases l.stream? name <;> rfl

theorem recorded_createStream (name : String) (l : Ledger) :
    Recorded (.createStream name) l (l.createStream name) := by
  refine .kept (fun stream items h => ?_) ?_
  · rw [stream?_createStream] at h
    split at h
    · cases hs : l.stream? stream with
      | none =>
        rw [hs] at h
        exact .inl (Option.some.inj h).symm
      | some stored =>
        rw [hs] at h
        exact .inr h
    · exact .inr h
  · rw [lastTx_createStream]
    exact (UInt64.add_zero _).symm

theorem recorded_append (now : Instant) (stream key : String) (data : Encoding) (l : Ledger) :
    Recorded (.insertRaw now stream key data) l (l.append now stream key data).2 := by
  cases hs : l.stream? stream with
  | none =>
    have hs : { l with lastTx := l.lastTx + 1 }.stream? stream = none := hs
    refine .kept (fun name items h => .inr ?_) ?_
    · simp only [append, hs] at h
      exact h
    · simp only [append, hs]
      rfl
  | some items =>
    rw [append_of_some now hs key data]
    exact .grown stream items _ rfl rfl rfl hs (l.stream?_grown now stream key data items)

theorem recorded_post (now : Instant) (body : Bytes) (l : Ledger) :
    Recorded (.post now body) l (l.post now body).2 := by
  cases hbody : Request.decode body with
  | error e =>
    rw [post_of_fault hbody]
    refine .kept (fun _ _ h => .inr h) ?_
    rw [Step.attempts_of_fault hbody]
    exact (UInt64.add_zero _).symm
  | ok r =>
    have hattempts := Step.attempts_of_request hbody now l
    rw [state_post hbody]
    have h := handled_handle now r l
    generalize l.handle now r = handled at h hattempts ⊢
    -- a request that does not publish makes no attempt, so the counter stays
    cases h with
    | failed e =>
      refine .kept (fun _ _ h => .inr h) ?_
      rw [hattempts]
      exact (UInt64.add_zero _).symm
    | listed key count hc hitems =>
      refine .kept (fun _ _ h => .inr h) ?_
      rw [hattempts]
      exact (UInt64.add_zero _).symm
    | @published stream items key data hc htarget hdata =>
      exact .grown stream items _ hattempts rfl rfl (stream?_of_target htarget)
        ((l.called r.command).stream?_grown now stream key data items)

theorem recorded_apply (step : Step) (l : Ledger) : Recorded step l (step.apply l) := by
  cases step with
  | createStream name => exact recorded_createStream name l
  | insertRaw now stream key data => exact recorded_append now stream key data l
  | failWith command error => exact .kept (fun _ _ h => .inr h) (UInt64.add_zero _).symm
  | clearFailures => exact .kept (fun _ _ h => .inr h) (UInt64.add_zero _).symm
  | post now body => exact recorded_post now body l

/-- The counter counts the attempts as long as it does not run over. -/
theorem lastTx_apply {step : Step} {l : Ledger}
    (h : l.lastTx.toNat + step.attempts l < UInt64.size) :
    (step.apply l).lastTx.toNat = l.lastTx.toNat + step.attempts l := by
  cases recorded_apply step l with
  | kept hstreams hlast =>
    have hattempts : (UInt64.ofNat (step.attempts l)).toNat = step.attempts l :=
      UInt64.toNat_ofNat_of_lt' (show step.attempts l < UInt64.size by omega)
    rw [hlast, UInt64.toNat_add, hattempts, Nat.mod_eq_of_lt h]
  | grown stream items item hone hlast htxid hitems hstreams =>
    rw [hone] at h ⊢
    rw [hlast, UInt64.toNat_add]
    exact Nat.mod_eq_of_lt h

theorem lastTx_run {steps : List Step} {l : Ledger}
    (h : l.lastTx.toNat + attempts steps l < UInt64.size) :
    (run steps l).lastTx.toNat = l.lastTx.toNat + attempts steps l := by
  induction steps generalizing l with
  | nil => rfl
  | cons step steps ih =>
    rw [attempts] at h ⊢
    have hstep : (step.apply l).lastTx.toNat = l.lastTx.toNat + step.attempts l :=
      lastTx_apply (by omega)
    have hlater := ih (l := step.apply l) (by omega)
    show (run steps (step.apply l)).lastTx.toNat = _
    omega

/-! ### Ledgers with numbered items -/

/-- **The items of `l` are numbered**: each has the identifier of a transaction that was made, those
of one stream are in increasing order, and those of two streams have none in common. -/
structure IsNumbered (l : Ledger) : Prop where
  issued : ∀ stream items, l.stream? stream = some items → ∀ i ∈ items,
    ∃ n : UInt64, n.toNat ≤ l.lastTx.toNat ∧ i.txid = txid n
  ordered : ∀ stream items, l.stream? stream = some items →
    (items.map Item.txid).Pairwise (· < ·)
  apart : ∀ stream other items others, stream ≠ other → l.stream? stream = some items →
    l.stream? other = some others → ∀ i ∈ items, ∀ j ∈ others, i.txid ≠ j.txid

theorem isNumbered_empty : empty.IsNumbered where
  issued _ _ h := by cases h
  ordered _ _ h := by cases h
  apart _ _ _ _ _ h := by cases h

theorem IsNumbered.txid_lt {l : Ledger} (h : l.IsNumbered)
    (hlast : l.lastTx.toNat + 1 < UInt64.size) {stream : String} {items : List Item}
    (hitems : l.stream? stream = some items) {i : Item} (hi : i ∈ items) :
    i.txid < txid (l.lastTx + 1) := by
  obtain ⟨n, hn, htxid⟩ := h.issued stream items hitems i hi
  have hnext : (l.lastTx + 1).toNat = l.lastTx.toNat + 1 := by
    rw [UInt64.toNat_add]
    exact Nat.mod_eq_of_lt hlast
  rw [htxid]
  exact txid_lt_txid (by omega)

theorem IsNumbered.of_kept {l l' : Ledger} (hl : l.IsNumbered)
    (hlast : l.lastTx.toNat ≤ l'.lastTx.toNat)
    (h : ∀ name items, l'.stream? name = some items →
      items = [] ∨ l.stream? name = some items) :
    l'.IsNumbered where
  issued stream items hitems i hi := by
    rcases h stream items hitems with rfl | hold
    · cases hi
    · obtain ⟨n, hn, htxid⟩ := hl.issued stream items hold i hi
      exact ⟨n, Nat.le_trans hn hlast, htxid⟩
  ordered stream items hitems := by
    rcases h stream items hitems with rfl | hold
    · exact List.Pairwise.nil
    · exact hl.ordered stream items hold
  apart stream other items others hne hitems hothers i hi j hj := by
    rcases h stream items hitems with rfl | hold
    · cases hi
    · rcases h other others hothers with rfl | hold'
      · cases hj
      · exact hl.apart stream other items others hne hold hold' i hi j hj

/-- An item of `l'` was in the same stream of `l`, or it is the new one. -/
theorem mem_of_grown {l l' : Ledger} {stream : String} {items : List Item} {item : Item}
    (hitems : l.stream? stream = some items)
    (h : ∀ name, l'.stream? name =
      if stream = name then some (items ++ [item]) else l.stream? name)
    {name : String} {stored : List Item} (hstored : l'.stream? name = some stored) {i : Item}
    (hi : i ∈ stored) :
    (∃ old, l.stream? name = some old ∧ i ∈ old) ∨ (name = stream ∧ i = item) := by
  rw [h] at hstored
  split at hstored
  · next hname =>
    cases hstored
    subst hname
    rcases List.mem_append.1 hi with hi | hi
    · exact .inl ⟨items, hitems, hi⟩
    · exact .inr ⟨rfl, List.mem_singleton.1 hi⟩
  · exact .inl ⟨stored, hstored, hi⟩

theorem IsNumbered.of_grown {l l' : Ledger} (hl : l.IsNumbered)
    (hbound : l.lastTx.toNat + 1 < UInt64.size) (hlast : l'.lastTx = l.lastTx + 1) {stream : String}
    {items : List Item} {item : Item} (htxid : item.txid = txid (l.lastTx + 1))
    (hitems : l.stream? stream = some items)
    (h : ∀ name, l'.stream? name =
      if stream = name then some (items ++ [item]) else l.stream? name) :
    l'.IsNumbered := by
  have hnext : l'.lastTx.toNat = l.lastTx.toNat + 1 := by
    rw [hlast, UInt64.toNat_add]
    exact Nat.mod_eq_of_lt hbound
  -- the new item has the number that the counter comes to, and all others had smaller ones
  constructor
  · intro name stored hstored i hi
    rcases mem_of_grown hitems h hstored hi with ⟨old, hold, hi⟩ | ⟨-, rfl⟩
    · obtain ⟨n, hn, hi⟩ := hl.issued name old hold i hi
      exact ⟨n, by omega, hi⟩
    · exact ⟨l'.lastTx, Nat.le_refl _, by rw [htxid, hlast]⟩
  · intro name stored hstored
    rw [h] at hstored
    split at hstored
    · cases hstored
      rw [List.map_append, List.pairwise_append]
      refine ⟨hl.ordered stream items hitems, List.pairwise_singleton _ _, ?_⟩
      intro a ha b hb
      obtain ⟨i, hi, rfl⟩ := List.mem_map.1 ha
      rw [List.mem_singleton.1 hb, htxid]
      exact hl.txid_lt hbound hitems hi
    · exact hl.ordered name stored hstored
  · intro name other stored others hne hstored hothers i hi j hj
    rcases mem_of_grown hitems h hstored hi with ⟨old, hold, hi⟩ | ⟨rfl, rfl⟩
    · rcases mem_of_grown hitems h hothers hj with ⟨old', hold', hj⟩ | ⟨rfl, rfl⟩
      · exact hl.apart name other old old' hne hold hold' i hi j hj
      · rw [htxid]
        exact (String.ne_of_lt (hl.txid_lt hbound hold hi))
    · rcases mem_of_grown hitems h hothers hj with ⟨old', hold', hj⟩ | ⟨rfl, rfl⟩
      · rw [htxid]
        exact (String.ne_of_lt (hl.txid_lt hbound hold' hj)).symm
      · exact absurd rfl hne

/-- **A step keeps items numbered** unless the counter runs over. -/
theorem IsNumbered.apply {step : Step} {l : Ledger} (hl : l.IsNumbered)
    (h : l.lastTx.toNat + step.attempts l < UInt64.size) : (step.apply l).IsNumbered := by
  have hlast := lastTx_apply h
  cases recorded_apply step l with
  | kept hstreams _ => exact hl.of_kept (by omega) hstreams
  | grown stream items item hone hnext htxid hitems hstreams =>
    exact hl.of_grown (hone ▸ h) hnext htxid hitems hstreams

theorem IsNumbered.run {steps : List Step} {l : Ledger} (hl : l.IsNumbered)
    (h : l.lastTx.toNat + attempts steps l < UInt64.size) : (run steps l).IsNumbered := by
  induction steps generalizing l with
  | nil => exact hl
  | cons step steps ih =>
    rw [attempts] at h
    have hstep : (step.apply l).lastTx.toNat = l.lastTx.toNat + step.attempts l :=
      lastTx_apply (by omega)
    exact ih (l := step.apply l) (hl.apply (by omega)) (by omega)

/-! ### Identifiers and the places of items -/

/-- The identifier `id` stands in `place`: in a stream, behind so many items. -/
def StandsAt (l : Ledger) (id : String) (place : String × Nat) : Prop :=
  ∃ items item, l.stream? place.1 = some items ∧ items[place.2]? = some item ∧ item.txid = id

theorem Grows.standsAt {l l' : Ledger} (h : l.Grows l') {id : String} {place : String × Nat}
    (hid : l.StandsAt id place) : l'.StandsAt id place := by
  obtain ⟨items, item, hitems, hitem, htxid⟩ := hid
  obtain ⟨later, hlater, rest, rfl⟩ := h place.1 items hitems
  obtain ⟨hplace, -⟩ := List.getElem?_eq_some_iff.1 hitem
  exact ⟨_, item, hlater, (List.getElem?_append_left hplace).trans hitem, htxid⟩

/-- **No identifier stands in two places.** -/
theorem IsNumbered.eq_of_standsAt {l : Ledger} (hl : l.IsNumbered) {id : String}
    {place other : String × Nat} (h : l.StandsAt id place) (h' : l.StandsAt id other) :
    place = other := by
  obtain ⟨stream, m⟩ := place
  obtain ⟨stream', n⟩ := other
  obtain ⟨items, i, hitems, hi, rfl⟩ := h
  obtain ⟨items', j, hitems', hj, htxid⟩ := h'
  -- within one stream identifiers increase, and two streams share none
  by_cases hstream : stream = stream'
  · subst hstream
    cases hitems.symm.trans hitems'
    have hlt : ∀ {a b : Nat} {x y : Item}, a < b → items[a]? = some x → items[b]? = some y →
        x.txid < y.txid := by
      intro a b x y hab hx hy
      obtain ⟨ha, rfl⟩ := List.getElem?_eq_some_iff.1 hx
      obtain ⟨hb, rfl⟩ := List.getElem?_eq_some_iff.1 hy
      have hordered := List.pairwise_iff_getElem.1 (List.pairwise_map.1 (hl.ordered _ _ hitems))
      exact hordered a b ha hb hab
    rcases Nat.lt_trichotomy m n with h | rfl | h
    · exact absurd htxid.symm (String.ne_of_lt (hlt h hi hj))
    · rfl
    · exact absurd htxid (String.ne_of_lt (hlt h hj hi))
  · exact absurd htxid.symm (hl.apart stream stream' items items' hstream hitems hitems' i
      (List.mem_of_getElem? hi) j (List.mem_of_getElem? hj))

/-- A step returns an identifier: `append` gives it, or the reply to a publication is read as an
answer with it. -/
inductive Step.Returns (l : Ledger) : Step → String → Prop where
  | insertRaw {now : Instant} {stream key : String} {data : Encoding} {id : String}
      (h : (l.append now stream key data).1 = some id) :
      Returns l (.insertRaw now stream key data) id
  | post {now : Instant} {body reply : Bytes} {r : Request} {text id : String}
      (hbody : Request.decode body = .ok r) (hpublish : r.command = .publish)
      (hreply : (l.post now body).1 = .ok reply)
      (hanswer : Response.decode .value reply = .ok ⟨text, none, some (.string id)⟩) :
      Returns l (.post now body) id

/-- **What a step returns is the next identifier**, and it stands behind all items of a stream. -/
theorem Step.Returns.newest {step : Step} {l : Ledger} {id : String} (h : step.Returns l id) :
    step.attempts l = 1 ∧ id = txid (l.lastTx + 1) ∧
      ∃ place, (step.apply l).StandsAt id place := by
  cases h with
  | @insertRaw now stream key data id h =>
    cases hs : l.stream? stream with
    | none =>
      have hs : { l with lastTx := l.lastTx + 1 }.stream? stream = none := hs
      simp only [append, hs] at h
      cases h
    | some items =>
      have happend := append_of_some now hs key data
      rw [happend] at h
      cases h
      refine ⟨rfl, rfl, (stream, items.length), ?_⟩
      show (l.append now stream key data).2.StandsAt _ _
      rw [happend]
      exact ⟨_, _, (l.stream?_grown now stream key data items stream).trans (if_pos rfl),
        List.getElem?_concat_length, rfl⟩
  | @post now body reply r text id hbody hpublish hreply hanswer =>
    have hattempts := Step.attempts_of_request hbody now l
    obtain ⟨reply', hpost, hdecode⟩ := post_of_request (l := l) now hbody
    rw [hpost] at hreply
    cases hreply
    have hresponse := hdecode.symm.trans hanswer
    show _ ∧ _ ∧ ∃ place, (l.post now body).2.StandsAt id place
    rw [state_post hbody]
    have hhandled := handled_handle now r l
    -- only what is published is answered with a text as the result
    generalize l.handle now r = handled at hhandled hattempts hresponse ⊢
    cases hhandled with
    | failed e => cases hresponse
    | listed key count hc hitems => cases hresponse
    | @published stream items key data hc htarget hdata =>
      cases hresponse
      exact ⟨hattempts, rfl, (stream, items.length), _, _,
        ((l.called r.command).stream?_grown now stream key data items stream).trans (if_pos rfl),
        List.getElem?_concat_length, rfl⟩

/-- What a step returns is greater than any `old` identifier. -/
theorem Step.Returns.greater {step : Step} {l : Ledger} {id old : String} {place : String × Nat}
    (h : step.Returns l id) (hl : l.IsNumbered) (hlast : l.lastTx.toNat + 1 < UInt64.size)
    (hold : l.StandsAt old place) : old < id := by
  obtain ⟨items, item, hitems, hitem, rfl⟩ := hold
  rw [h.newest.2.1]
  exact hl.txid_lt hlast hitems (List.mem_of_getElem? hitem)

theorem Step.Returns.exists_place {step : Step} {later : List Step} {l : Ledger} {id : String}
    (h : step.Returns l id) (hl : (run (step :: later) l).IsNumbered) :
    ∃ place, ∀ other, (run (step :: later) l).StandsAt id other ↔ other = place := by
  obtain ⟨-, -, place, hplace⟩ := h.newest
  have hstands : (run (step :: later) l).StandsAt id place :=
    (grows_run later (step.apply l)).standsAt hplace
  refine ⟨place, fun other => ⟨fun hother => hl.eq_of_standsAt hother hstands, ?_⟩⟩
  rintro rfl
  exact hstands

theorem returns_of_published (now : Instant) (l : Ledger) {body : Bytes} {r : Request}
    (hbody : Request.decode body = .ok r) (hpublish : r.command = .publish) :
    ∃ reply response, (l.post now body).1 = .ok reply ∧
      Response.decode .value reply = .ok response ∧
      (response.error = none →
        ∃ id, response.result = some (.string id) ∧ (Step.post now body).Returns l id) := by
  obtain ⟨reply, hpost, hdecode⟩ := post_of_request (l := l) now hbody
  have hreply : (l.post now body).1 = .ok reply := congrArg Prod.fst hpost
  refine ⟨reply, _, hreply, hdecode, fun herror => ?_⟩
  have hhandled := handled_handle now r l
  generalize l.handle now r = handled at hhandled hdecode herror ⊢
  cases hhandled with
  | failed e => cases herror
  | listed key count hc hitems =>
    rw [hc] at hpublish
    cases hpublish
  | published key data hc htarget hdata =>
    exact ⟨_, rfl, .post hbody hpublish hreply hdecode⟩

/-- **Identifiers of transactions are unique and in order.** Along `steps` that attempt less than
`2 ^ 64` times to append an item, each item has an identifier of 64 digits that no other item has,
whatever the stream, and those of a stream increase in the order of its items. An identifier that a
step returns is greater than all that there were, and stands in just one place from then on.
Insertions into streams that there are return one, and so do publications that are not refused. -/
theorem transactions_unique_and_ordered (steps : List Step)
    (h : attempts steps empty < UInt64.size) :
    let l := run steps empty
    (∀ id place, l.StandsAt id place → IsTxid id) ∧
    (∀ id place other, l.StandsAt id place → l.StandsAt id other → place = other) ∧
    (∀ stream items, l.stream? stream = some items →
      (items.map Item.txid).Pairwise (· < ·)) ∧
    (∀ step later id, attempts (steps ++ step :: later) empty < UInt64.size → step.Returns l id →
      (∀ old place, l.StandsAt old place → old < id) ∧
        ∃ place, ∀ other,
          (run (steps ++ step :: later) empty).StandsAt id other ↔ other = place) ∧
    (∀ now stream items key data, l.stream? stream = some items →
      ∃ id, (Step.insertRaw now stream key data).Returns l id) ∧
    ∀ now body r, Request.decode body = .ok r → r.command = .publish →
      ∃ reply response, (l.post now body).1 = .ok reply ∧
        Response.decode .value reply = .ok response ∧
        (response.error = none →
          ∃ id, response.result = some (.string id) ∧ (Step.post now body).Returns l id) := by
  intro l
  have hempty : empty.lastTx.toNat = 0 := rfl
  have hl : l.IsNumbered := isNumbered_empty.run (by omega)
  refine ⟨?_, fun id place other => hl.eq_of_standsAt, hl.ordered, ?_, ?_, ?_⟩
  · rintro id place ⟨items, item, hitems, hitem, rfl⟩
    obtain ⟨n, -, htxid⟩ := hl.issued place.1 items hitems item (List.mem_of_getElem? hitem)
    exact htxid ▸ isTxid_txid n
  · intro step later id hlater hreturns
    have hrun : (run (steps ++ step :: later) empty).IsNumbered :=
      isNumbered_empty.run (by omega)
    have hsteps : l.lastTx.toNat = empty.lastTx.toNat + attempts steps empty :=
      lastTx_run (by omega)
    -- the step makes an attempt itself, so the counter does not run over before it
    have hlast : l.lastTx.toNat + 1 < UInt64.size := by
      rw [attempts_append, attempts, hreturns.newest.1] at hlater
      omega
    rw [run_append] at hrun ⊢
    exact ⟨fun old place => hreturns.greater hl hlast, hreturns.exists_place hrun⟩
  · intro now stream items key data hitems
    exact ⟨_, .insertRaw (congrArg Prod.fst (append_of_some now hitems key data))⟩
  · intro now body r
    exact returns_of_published now l

/-- An insertion into a stream that there is not leaves a gap behind which a publication into
another stream goes on. -/
theorem transactions_unique_and_ordered_gap :
    let now : Instant := .ofSeconds 0 (by decide)
    let r : Request := ⟨⟨"7"⟩, .publish, [.string "b", .string "k", .string "AB"]⟩
    let steps : List Step := [.createStream "a", .createStream "b",
      .insertRaw now "a" "k" .empty, .insertRaw now "c" "k" .empty]
    let step : Step := .post now r.encode
    (attempts steps empty < UInt64.size ∧ attempts (steps ++ [step]) empty < UInt64.size) ∧
      ((run steps empty).stream? "a" = some [⟨txid 1, "k", some now, .empty⟩] ∧
        ∃ id, (Step.insertRaw now "a" "k" .empty).Returns (run steps empty) id) ∧
      (run steps empty).StandsAt (txid 1) ("a", 0) ∧
      (Request.decode r.encode = .ok r ∧ r.command = .publish) ∧
      step.Returns (run steps empty) (txid 3) ∧ txid 1 < txid 3 ∧
      ∃ place, ∀ other,
        (run (steps ++ [step]) empty).StandsAt (txid 3) other ↔ other = place := by
  intro now r steps step
  have hbody : Request.decode r.encode = .ok r := Request.decode_encode_of_plain (by
    simp [r, Value.HasOnlyInts, Value.IsDocument, Value.depth])
  -- the insertion into the stream `c` is an attempt like the other, though nothing is stored
  have hcount : attempts steps empty = 2 := rfl
  have hstep : step.attempts (run steps empty) = 1 := by
    rw [Step.attempts_of_request hbody]
    rfl
  have hsteps : attempts steps empty < UInt64.size := by
    rw [hcount]
    decide
  have hlater : attempts (steps ++ [step]) empty < UInt64.size := by
    rw [attempts_append, hcount, attempts, hstep, attempts]
    decide
  have hitems : (run steps empty).stream? "a" = some [⟨txid 1, "k", some now, .empty⟩] := rfl
  have hfirst : (run steps empty).StandsAt (txid 1) ("a", 0) := ⟨_, _, hitems, rfl, rfl⟩
  obtain ⟨-, -, -, hnewest, hinserted, hpublished⟩ :=
    transactions_unique_and_ordered steps hsteps
  obtain ⟨reply, response, hreply, hdecode, hreturns⟩ := hpublished now r.encode r hbody rfl
  obtain ⟨reply', hpost, hanswer⟩ := post_of_request (l := run steps empty) now hbody
  cases (congrArg Prod.fst hpost).symm.trans hreply
  cases hdecode.symm.trans hanswer
  obtain ⟨id, hid, hid'⟩ := hreturns rfl
  have hthree : id = txid 3 := (Value.string.inj (Option.some.inj hid)).symm
  subst hthree
  obtain ⟨hless, hplace⟩ := hnewest step [] _ hlater hid'
  exact ⟨⟨hsteps, hlater⟩, ⟨hitems, hinserted now "a" _ "k" .empty hitems⟩, hfirst, ⟨hbody, rfl⟩,
    hid', hless _ _ hfirst, hplace⟩

end StreamRecords.Ledger
