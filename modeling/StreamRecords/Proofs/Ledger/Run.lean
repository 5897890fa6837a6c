import StreamRecords.Proofs.Ledger.Wire

/-!
Ledgers over time. Whatever is done to a ledger, by its owner or by bodies that are posted to it,
each stream stays and only gets more items, and each post of a request is counted once.
-/

namespace StreamRecords.Ledger

open Json Rpc Time

/-! ### Steps -/

/-- **What is done to a ledger**, with the time at which a transaction is made. -/
inductive Step where
  | createStream (name : String)
  | insertRaw (now : Instant) (stream key : String) (data : Encoding)
  | failWith (command : Command) (error : ErrorInfo)
  | clearFailures
  | post (now : Instant) (body : Bytes)

def Step.apply : Step → Ledger → Ledger
  | .createStream name, l => l.createStream name
  | .insertRaw now stream key data, l => (l.append now stream key data).2
  | .failWith command error, l => l.failWith command error
  | .clearFailures, l => l.clearFailures
  | .post now body, l => (l.post now body).2

/-- **The ledger that steps leave**, one after the other. -/
def run (steps : List Step) (l : Ledger) : Ledger := steps.foldl (fun l step => step.apply l) l

@[simp] theorem run_append (steps later : List Step) (l : Ledger) :
    run (steps ++ later) l = run later (run steps l) := List.foldl_append

/-- A ledger that steps lead to from the one without streams. -/
def IsReachable (l : Ledger) : Prop := ∃ steps, l = run steps empty

/-- A property `P` that each step of a run keeps holds of what the run leaves. -/
theorem run_induction {P : Ledger → Prop} {steps : List Step}
    (h : ∀ step ∈ steps, ∀ l, P l → P (step.apply l)) {l : Ledger} (hl : P l) :
    P (run steps l) := by
  induction steps generalizing l with
  | nil => exact hl
  | cons step steps ih =>
    exact ih (fun later hlater => h later (List.mem_cons_of_mem step hlater))
      (h step List.mem_cons_self l hl)

/-! ### What a step does to the streams -/

/-- **How streams change**: not at all, or one is created, or one gets an item with the number of a
new transaction. -/
inductive Changed (l l' : Ledger) : Prop where
  | kept (h : ∀ name, l'.stream? name = l.stream? name)
  | created (stream : String) (hnew : l.stream? stream = none)
      (h : ∀ name, l'.stream? name = if stream = name then some [] else l.stream? name)
  | grown (now : Instant) (stream key : String) (data : Encoding) (items : List Item)
      (hitems : l.stream? stream = some items)
      (h : ∀ name, l'.stream? name =
        if stream = name then some (items ++ [⟨txid (l.lastTx + 1), key, some now.floor, data⟩])
        else l.stream? name)

theorem changed_createStream (name : String) (l : Ledger) : Changed l (l.createStream name) := by
  cases hs : l.stream? name with
  | some items =>
    refine .kept fun stream => ?_
    unfold createStream
    rw [hs]
  | none =>
    refine .created name hs fun stream => ?_
    rw [stream?_createStream]
    by_cases h : name = stream
    · rw [if_pos h, if_pos h, ← h, hs]
      rfl
    · rw [if_neg h, if_neg h]

theorem changed_append (now : Instant) (stream key : String) (data : Encoding) (l : Ledger) :
    Changed l (l.append now stream key data).2 := by
  cases hs : l.stream? stream with
  | none =>
    refine .kept fun name => ?_
    have hs : { l with lastTx := l.lastTx + 1 }.stream? stream = none := hs
    simp only [append, hs]
    rfl
  | some items =>
    rw [append_of_some now hs key data]
    exact .grown now stream key data items hs (l.stream?_grown now stream key data items)

theorem changed_handle (now : Instant) (r : Request) (l : Ledger) :
    Changed l (l.handle now r).2 := by
  have h := handled_handle now r l
  generalize l.handle now r = handled at h ⊢
  cases h with
  | failed e => exact .kept fun name => rfl
  | listed key count hc hitems => exact .kept fun name => rfl
  | @published stream items key data hc htarget hdata =>
    exact .grown now stream key data items (stream?_of_target htarget)
      ((l.called r.command).stream?_grown now stream key data items)

theorem post_of_fault {body : Bytes} {e : ProtocolError} (h : Request.decode body = .error e)
    (now : Instant) (l : Ledger) : l.post now body = (.error (.protocol e), l) := by
  simp only [post, h]

theorem state_post {body : Bytes} {r : Request} (h : Request.decode body = .ok r) (now : Instant)
    (l : Ledger) : (l.post now body).2 = (l.handle now r).2 := by
  simp only [post, h]

/-- **Each step changes at most one stream**, by creating it or by one more item. -/
theorem changed_apply (step : Step) (l : Ledger) : Changed l (step.apply l) := by
  cases step with
  | createStream name => exact changed_createStream name l
  | insertRaw now stream key data => exact changed_append now stream key data l
  | failWith command error => exact .kept fun name => rfl
  | clearFailures => exact .kept fun name => rfl
  | post now body =>
    show Changed l (l.post now body).2
    cases hbody : Request.decode body with
    | error e =>
      rw [post_of_fault hbody]
      exact .kept fun name => rfl
    | ok r =>
      rw [state_post hbody]
      exact changed_handle now r l

/-! ### Streams only grow -/

/-- `l'` has all streams of `l`, and what is in a stream of `l` stands in front of what is in it
later. -/
def Grows (l l' : Ledger) : Prop :=
  ∀ stream items, l.stream? stream = some items →
    ∃ later, l'.stream? stream = some later ∧ items <+: later

theorem grows_refl (l : Ledger) : l.Grows l :=
  fun _ items h => ⟨items, h, List.prefix_refl items⟩

theorem Grows.trans {l₁ l₂ l₃ : Ledger} (h₁ : l₁.Grows l₂) (h₂ : l₂.Grows l₃) : l₁.Grows l₃ := by
  intro stream items h
  obtain ⟨items₂, h, hle⟩ := h₁ stream items h
  obtain ⟨items₃, h, hle'⟩ := h₂ stream items₂ h
  exact ⟨items₃, h, hle.trans hle'⟩

theorem Changed.grows {l l' : Ledger} (h : Changed l l') : l.Grows l' := by
  intro name items hname
  cases h with
  | kept h => exact ⟨items, (h name).trans hname, List.prefix_refl items⟩
  | created stream hnew h =>
    have hne : ¬ stream = name := by
      rintro rfl
      rw [hnew] at hname
      cases hname
    exact ⟨items, ((h name).trans (if_neg hne)).trans hname, List.prefix_refl items⟩
  | grown now stream key data stored hitems h =>
    by_cases hs : stream = name
    · subst hs
      rw [hitems] at hname
      cases hname
      exact ⟨_, (h stream).trans (if_pos rfl), List.prefix_append _ _⟩
    · exact ⟨items, ((h name).trans (if_neg hs)).trans hname, List.prefix_refl items⟩

theorem grows_run (steps : List Step) (l : Ledger) : l.Grows (run steps l) :=
  run_induction (fun step _ _ h => h.trans (changed_apply step _).grows) (grows_refl l)

/-! ### Calls are counted -/

def Step.command? : Step → Option Command
  | .post _ body =>
    match Request.decode body with
    | .ok r => some r.command
    | .error _ => none
  | _ => none

theorem Step.command?_of_request {body : Bytes} {r : Request} (h : Request.decode body = .ok r)
    (now : Instant) : (Step.post now body).command? = some r.command := by
  simp only [command?, h]

theorem Step.command?_of_fault {body : Bytes} {e : ProtocolError}
    (h : Request.decode body = .error e) (now : Instant) :
    (Step.post now body).command? = none := by
  simp only [command?, h]

@[simp] theorem callCount_called (command c : Command) (l : Ledger) :
    (l.called command).callCount c = l.callCount c + if command = c then 1 else 0 := by
  unfold callCount called
  rw [PerCommand.get_set]
  by_cases h : command = c
  · rw [if_pos h, if_pos h, h]
  · rw [if_neg h, if_neg h]
    rfl

@[simp] theorem callCount_handle (now : Instant) (r : Request) (l : Ledger) (c : Command) :
    (l.handle now r).2.callCount c = l.callCount c + if r.command = c then 1 else 0 := by
  have h := handled_handle now r l
  generalize l.handle now r = handled at h ⊢
  cases h with
  | failed e => exact callCount_called r.command c l
  | listed key count hc hitems => exact callCount_called r.command c l
  | published key data hc htarget hdata => exact callCount_called r.command c l

theorem calls_createStream (name : String) (l : Ledger) :
    (l.createStream name).calls = l.calls := by
  unfold createStream
  cases l.stream? name <;> rfl

theorem calls_append (now : Instant) (stream key : String) (data : Encoding) (l : Ledger) :
    (l.append now stream key data).2.calls = l.calls := by
  unfold append
  dsimp only
  cases Ledger.stream? { l with lastTx := l.lastTx + 1 } stream <;> rfl

theorem callCount_apply (step : Step) (l : Ledger) (c : Command) :
    (step.apply l).callCount c =
      l.callCount c + if step.command? = some c then 1 else 0 := by
  cases step with
  | createStream name => exact congrArg (PerCommand.get · c) (calls_createStream name l)
  | insertRaw now stream key data =>
    exact congrArg (PerCommand.get · c) (calls_append now stream key data l)
  | failWith command error => rfl
  | clearFailures => rfl
  | post now body =>
    show (l.post now body).2.callCount c = _
    cases hbody : Request.decode body with
    | error e =>
      rw [post_of_fault hbody, Step.command?_of_fault hbody]
      rfl
    | ok r =>
      rw [state_post hbody, Step.command?_of_request hbody, callCount_handle]
      simp only [Option.some.injEq]

/-- **A command is counted once for each post of a request** that gives it. -/
theorem callCount_run (steps : List Step) (l : Ledger) (c : Command) :
    (run steps l).callCount c = l.callCount c + (steps.filterMap Step.command?).count c := by
  induction steps generalizing l with
  | nil => rfl
  | cons step steps ih =>
    show (run steps (step.apply l)).callCount c = _
    rw [ih, callCount_apply, List.filterMap_cons]
    cases step.command? with
    | none => simp
    | some d =>
      by_cases h : d = c
      · simp [h]
        omega
      · simp [h]

/-! ### Posts of requests -/

/-- **What the post of the request `r` does**: it is answered with an error or a result, it is
counted, and nothing else changes unless it is a publication without an error, which puts one item
behind those of one stream. -/
structure Posted (l : Ledger) (r : Request) (response : Response Value) (l' : Ledger) : Prop where
  id : response.id = r.id.text
  either : response.error = none ↔ response.result ≠ none
  calls : ∀ c, l'.callCount c = l.callCount c + if r.command = c then 1 else 0
  failures : l'.failures = l.failures
  kept : response.error ≠ none ∨ r.command = .listItems →
    l'.streams = l.streams ∧ l'.lastTx = l.lastTx
  grown : r.command = .publish → response.error = none → ∃ stream items item,
    l.stream? stream = some items ∧ l'.stream? stream = some (items ++ [item]) ∧
      ∀ other, other ≠ stream → l'.stream? other = l.stream? other

theorem posted_handle (now : Instant) (r : Request) (l : Ledger) :
    Posted l r (responseTo r (l.handle now r).1) (l.handle now r).2 := by
  have hcalls := l.callCount_handle now r
  have h := handled_handle now r l
  -- `Handled` tells the three things that can happen, and each settles all of `Posted`
  generalize l.handle now r = handled at h hcalls ⊢
  cases h with
  | failed e =>
    refine ⟨rfl, ?_, hcalls, rfl, fun _ => ⟨rfl, rfl⟩, ?_⟩
    · simp [responseTo, Response.failure]
    · intro _ h
      cases h
  | listed key count hc hitems =>
    refine ⟨rfl, ?_, hcalls, rfl, fun _ => ⟨rfl, rfl⟩, ?_⟩
    · simp [responseTo, Response.success]
    · intro h
      rw [hc] at h
      cases h
  | @published stream items key data hc htarget hdata =>
    refine ⟨rfl, ?_, hcalls, rfl, ?_, ?_⟩
    · simp [responseTo, Response.success]
    · rintro (h | h)
      · exact absurd rfl h
      · rw [hc] at h
        cases h
    · intro _ _
      have hgrown := (l.called r.command).stream?_grown now stream key data items
      refine ⟨stream, items, _, stream?_of_target htarget, (hgrown stream).trans (if_pos rfl), ?_⟩
      intro other hother
      exact (hgrown other).trans (if_neg fun h => hother h.symm)

/-- **Ledgers only grow, and count each request once.** Along every run no stream is lost and each
keeps its items in front of later ones; a command is counted once for each posted body that gives
it. At each point of a run a `body` that is no request changes nothing, and one that is a request
does what `Posted` says, with the text of its own identifier in the answer. -/
theorem runs_grow_and_count (steps : List Step) (l : Ledger) :
    (∀ later, (run steps l).Grows (run (steps ++ later) l)) ∧
    (∀ c, (run steps l).callCount c = l.callCount c + (steps.filterMap Step.command?).count c) ∧
    (run steps l).totalCalls =
      (run steps l).callCount .listItems + (run steps l).callCount .publish ∧
    ∀ (now : Instant) (body : Bytes),
      (∀ e, Request.decode body = .error e →
        (run steps l).post now body = (.error (.protocol e), run steps l)) ∧
      ∀ r, Request.decode body = .ok r →
        (∃ id method params, Request.envelope.parse body = .ok (id, method, params, ()) ∧
          r.id.text = idText id) ∧
        ∃ reply response l', (run steps l).post now body = (.ok reply, l') ∧
          Response.decode .value reply = .ok response ∧ Posted (run steps l) r response l' := by
  refine ⟨?_, callCount_run steps l, rfl, ?_⟩
  · intro later
    rw [run_append]
    exact grows_run later (run steps l)
  · intro now body
    refine ⟨fun e h => post_of_fault h now _, fun r h => ?_⟩
    -- the state reached may be any, so what one post does is asked of all ledgers
    obtain ⟨id, method, params, hparse, -, hid, -⟩ := Request.exists_of_decode h
    obtain ⟨reply, hpost, hdecode⟩ := post_of_request (l := run steps l) now h
    exact ⟨⟨id, method, params, hparse, hid⟩, reply, _, _, hpost, hdecode,
      posted_handle now r (run steps l)⟩

theorem runs_grow_and_count_publication :
    let now : Instant := .ofSeconds 0 (by decide)
    let r : Request := ⟨⟨"7"⟩, .publish, [.string "s", .string "k", .string "AB"]⟩
    let steps : List Step := [.createStream "s", .post now r.encode]
    Request.decode r.encode = .ok r ∧ (run steps empty).callCount .publish = 1 ∧
      (∃ reply response l', (run steps empty).post now r.encode = (.ok reply, l') ∧
        Response.decode .value reply = .ok response ∧ response.id = "7" ∧
        l'.callCount .publish = 2) ∧
      Request.decode [] = .error (.deserialization Fault.endInValue.message) ∧
      (run steps empty).post now [] =
        (.error (.protocol (.deserialization Fault.endInValue.message)), run steps empty) := by
  intro now r steps
  have hbody : Request.decode r.encode = .ok r := Request.decode_encode_of_plain (by
    simp [r, Value.HasOnlyInts, Value.IsDocument, Value.depth])
  have hempty : Request.decode [] = .error (.deserialization Fault.endInValue.message) := rfl
  obtain ⟨-, hcount, -, hposts⟩ := runs_grow_and_count steps empty
  obtain ⟨hfault, -⟩ := hposts now []
  obtain ⟨-, reply, response, l', hpost, hdecode, hposted⟩ := (hposts now r.encode).2 r hbody
  have hcommand : (Step.post now r.encode).command? = some .publish :=
    Step.command?_of_request hbody now
  have hcommands : steps.filterMap Step.command? = [.publish] := by
    rw [List.filterMap_cons_none rfl, List.filterMap_cons_some hcommand, List.filterMap_nil]
  have hone : (run steps empty).callCount .publish = 1 := by
    rw [hcount, hcommands]
    rfl
  refine ⟨hbody, hone, ⟨reply, response, l', hpost, hdecode, hposted.id, ?_⟩, hempty,
    hfault _ hempty⟩
  rw [hposted.calls, hone]
  rfl

end StreamRecords.Ledger
