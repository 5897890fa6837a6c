import StreamRecords.CommandLine.Printing
import StreamRecords.Proofs.CommandLine.Publication
import StreamRecords.Proofs.Json.TextLines

/-!
Commands are all or nothing. A command prints when it is done and not before, so one that fails has
printed nothing; and one that fails has changed no stream.
-/

namespace StreamRecords

open Json Rpc Time

namespace CommandLine

/-! ### When a command prints -/

namespace Printing

variable {ε α β σ : Type}

@[simp] theorem ofAttempt_bind (a : Attempt ε α) (f : α → Attempt ε β) :
    ofAttempt (a >>= f) = ofAttempt a >>= fun x => ofAttempt (f x) := by
  funext out
  show (a.dialogue.bind (Attempt.andThen f)).bind _ = (a.dialogue.bind _).bind _
  rw [Dialogue.bind_assoc, Dialogue.bind_assoc]
  refine congrArg _ (funext fun r => ?_)
  cases r <;> rfl

/-- What `a` gives is printed at its end, and nothing if it ends with an error. -/
theorem runOn_ofAttempt_bind_print (a : Attempt ε String) (setting : Setting σ) (out : Bytes)
    (t : Trace σ) :
    (ofAttempt a >>= print).runOn setting out t =
      match a.dialogue.run setting t with
      | (.ok text, t) => ⟨.ok (), out ++ Text.bytes text, t⟩
      | (.error e, t) => ⟨.error e, out, t⟩ := by
  have hrun : ((ofAttempt a >>= print).run.run out).run setting t =
      ((a.dialogue.bind fun r => .done (r, out)).bind fun p =>
        match p with
        | (.ok text, out) => .done (.ok (), out ++ Text.bytes text)
        | (.error e, out) => .done (.error e, out)).run setting t := by
    refine congrArg (Dialogue.run setting · t) (congrArg (Dialogue.bind _) (funext fun p => ?_))
    obtain ⟨r, out⟩ := p
    cases r <;> rfl
  rw [runOn, hrun, Dialogue.run_bind, Dialogue.run_bind]
  obtain ⟨r, t⟩ := a.dialogue.run setting t
  cases r <;> rfl

end Printing

/-- **A command prints what it gives when all else is done.** -/
theorem Command.executeOn_eq (d : Display) (c : Command) :
    c.executeOn d = Printing.ofAttempt (c.execute d) >>= Printing.print := by
  cases c with
  | find stream key =>
    rw [Command.executeOn, Command.execute, Printing.ofAttempt_bind, bind_assoc]
    refine congrArg _ (funext fun stream => ?_)
    rw [Printing.ofAttempt_bind, bind_assoc]
    rfl
  | «exists» stream key =>
    rw [Command.executeOn, Command.execute, Printing.ofAttempt_bind, bind_assoc]
    refine congrArg _ (funext fun stream => ?_)
    rw [Printing.ofAttempt_bind, bind_assoc]
    rfl
  | publish stream field document =>
    rw [Command.executeOn, Command.execute, Printing.ofAttempt_bind, bind_assoc]
    refine congrArg _ (funext fun doc => ?_)
    rw [Printing.ofAttempt_bind, bind_assoc]
    refine congrArg _ (funext fun stream => ?_)
    rw [Printing.ofAttempt_bind, bind_assoc]
    rfl

/-- What is printed for what a command gives. -/
def output : Except Failure String → Bytes
  | .ok text => Text.bytes text
  | .error _ => []

theorem Command.runOn_executeOn {σ : Type} (d : Display) (c : Command) (setting : Setting σ)
    (out : Bytes) (t : Trace σ) :
    (c.executeOn d).runOn setting out t =
      ⟨((c.execute d).dialogue.run setting t).1.map fun _ => (),
        out ++ output ((c.execute d).dialogue.run setting t).1,
        ((c.execute d).dialogue.run setting t).2⟩ := by
  rw [executeOn_eq, Printing.runOn_ofAttempt_bind_print]
  obtain ⟨r, t⟩ := (c.execute d).dialogue.run setting t
  cases r with
  | ok text => rfl
  | error e => rw [output, List.append_nil]; rfl

/-- What carrying out `c` on a ledger ends with. -/
theorem Command.result_executeOn (clock : UInt64 → Instant) (ids : Nat → RequestId)
    (t : Trace Ledger) (d : Display) (c : Command) (out : Bytes) :
    ((c.executeOn d).runOn ⟨Ledger.node clock, ids⟩ out t).result =
      (c.outcome d t.state).map fun _ => () := by
  rw [runOn_executeOn]
  exact congrArg (Except.map _) (congrArg Prod.fst (c.ending_execute clock ids t d))

/-- What carrying out `c` on a ledger has printed. -/
theorem Command.printed_executeOn (clock : UInt64 → Instant) (ids : Nat → RequestId)
    (t : Trace Ledger) (d : Display) (c : Command) (out : Bytes) :
    ((c.executeOn d).runOn ⟨Ledger.node clock, ids⟩ out t).printed =
      out ++ output (c.outcome d t.state) := by
  rw [runOn_executeOn]
  exact congrArg (out ++ output ·) (congrArg Prod.fst (c.ending_execute clock ids t d))

/-! ### What a command changes -/

/-- The command looks something up. -/
def Command.IsLookup : Command → Prop
  | .find _ _ | .exists _ _ => True
  | .publish _ _ _ => False

theorem Command.streams_left_of_isLookup {c : Command} (h : c.IsLookup) (now : Instant)
    (l : Ledger) : (c.left now l).streams = l.streams := by
  have hlookup (key : String) : (l.lookedUp (Text.trim key)).streams = l.streams := by
    rw [Ledger.lookedUp]
    split <;> rfl
  cases c with
  | find stream key =>
    rw [Command.left]
    split
    · rfl
    · exact hlookup key
  | «exists» stream key =>
    rw [Command.left]
    split
    · rfl
    · exact hlookup key
  | publish stream field document => exact absurd h id

/-- A command that fails leaves all streams as they are. -/
theorem Command.streams_left_of_error {d : Display} {c : Command} {l : Ledger} {e : Failure}
    (h : c.outcome d l = .error e) (now : Instant) : (c.left now l).streams = l.streams := by
  cases c with
  | find stream key => exact Command.streams_left_of_isLookup (c := .find stream key) trivial now l
  | «exists» stream key =>
    exact Command.streams_left_of_isLookup (c := .exists stream key) trivial now l
  | publish stream field document =>
    rw [Command.outcome] at h
    rw [Command.left]
    -- the checks of `publish` in their order; only the save behind them reaches the ledger
    cases hdoc : parseDocument document with
    | error e => rfl
    | ok doc =>
      rw [hdoc] at h
      dsimp only at h ⊢
      cases hname : StreamName.parse stream with
      | error e => rfl
      | ok name =>
        rw [hname] at h
        dsimp only at h ⊢
        cases hsave : (documents name (some field)).saveOutcome doc l with
        | ok saved =>
          rw [hsave] at h
          cases h
        | error e' =>
          exact (((documents name (some field)).leaves_saveLeft now doc l).kept e' hsave).1

/-! ### Documents without a key -/

/-- **`doc` has a key in `field`**: there stands a string or a number, whose text is not blank. -/
def HasKeyIn (field : String) (doc : Value) : Prop :=
  ∃ s, (doc.get? field = some (.string s) ∨
    ∃ n : Number, doc.get? field = some (.number n) ∧ s = .ofList n.text) ∧ Text.trim s ≠ ""

theorem key?_eq_none_of_not_hasKeyIn {field : String} {doc : Value} (h : ¬ HasKeyIn field doc)
    (name : StreamName) : (documents name (some field)).key? doc = none := by
  refine (documents name (some field)).key?_eq_none fun s hs => ?_
  have hs : Metadata.fieldText? field doc = some s := hs
  rw [Metadata.fieldText?] at hs
  by_cases hblank : Text.trim s = ""
  · exact hblank
  split at hs
  · next t ht =>
    cases hs
    exact absurd ⟨s, .inl ht, hblank⟩ h
  · next n hn =>
    cases hs
    exact absurd ⟨_, .inr ⟨n, hn, rfl⟩, hblank⟩ h
  · cases hs

/-- **A publication of `document` is in vain** whatever the node holds: it is no JSON or no object,
or has no key in `field`, or the stream is blank. -/
def IsVain (stream field document : String) : Prop :=
  Text.trim stream = "" ∨
    ∀ doc, Value.parse (Text.bytes document) = .ok doc → doc.isObject = true → ¬ HasKeyIn field doc

/-- A publication in vain ends before anything is sent. -/
theorem Command.quiet_publish_of_isVain {stream field document : String}
    (h : IsVain stream field document) (d : Display) :
    ∃ e, ((Command.publish stream field document).execute d).quiet = .done (.error e) := by
  rw [Command.execute]
  cases hdoc : parseDocument document with
  | error e => exact ⟨e, rfl⟩
  | ok doc =>
    have hparsed : Value.parse (Text.bytes document) = .ok doc ∧ doc.isObject = true := by
      rw [parseDocument] at hdoc
      split at hdoc
      · cases hdoc
      · next doc' hparse =>
        split at hdoc
        · next hobject =>
          cases hdoc
          exact ⟨hparse, hobject⟩
        · cases hdoc
    cases hname : StreamName.parse stream with
    | error e =>
      refine ⟨.ofInput e, ?_⟩
      rw [parseStream, hname]
      rfl
    | ok name =>
      -- a vain publication is stopped by its stream, or by the save of a document without a key
      rcases h with h | h
      · rw [StreamName.parse, dif_pos h] at hname
        cases hname
      · have hkey := key?_eq_none_of_not_hasKeyIn (h doc hparsed.1 hparsed.2) name
        refine ⟨.during s!"publishing to stream {name.text}" (.missingKey name.text), ?_⟩
        rw [parseStream, hname]
        show Attempt.quiet (((documents name (some field)).save doc).mapError _ >>= _) = _
        rw [Attempt.quiet_bind, Attempt.quiet_mapError,
          (documents name (some field)).quiet_save_of_none hkey]
        rfl

/-- **A publication in vain fails without a call to the node**, whatever the node. -/
theorem Command.runOn_publish_of_isVain {σ : Type} {stream field document : String}
    (h : IsVain stream field document) (d : Display) (setting : Setting σ) (out : Bytes)
    (t : Trace σ) :
    let ended := ((Command.publish stream field document).executeOn d).runOn setting out t
    (∃ e, ended.result = .error e) ∧ ended.left.sent = t.sent ∧ ended.left.state = t.state := by
  intro ended
  obtain ⟨e, hquiet⟩ := Command.quiet_publish_of_isVain h d
  have hrun : ((Command.publish stream field document).execute d).quiet.run setting t.quiet =
      (.error e, t.quiet) := by
    rw [hquiet]
    rfl
  have hended : ended = _ := Command.runOn_executeOn d _ setting out t
  rw [hended]
  refine ⟨⟨e, ?_⟩, ?_, ?_⟩
  · rw [Attempt.value_run, hrun]
    rfl
  · rw [Attempt.sent_run, hrun]
    rfl
  · rw [Attempt.state_run, hrun]
    rfl

/-! ### What is printed in JSON -/

theorem bytes_line_compact (v : Value) : Text.bytes (line v.compact) = v.bytes ++ [0x0A] := by
  rw [Text.bytes, line, Value.compact, String.toList_append, String.toList_ofList,
    Utf8.encode_append]
  rfl

/-- In JSON a command gives an object on a line. -/
theorem Command.outcome_json {d : Display} (hd : d.format = .json) {c : Command} {l : Ledger}
    {text : String} (h : c.outcome d l = .ok text) :
    ∃ members, text = line (Value.object members).compact := by
  obtain ⟨format, styled⟩ := d
  cases hd
  cases c with
  | find stream key =>
    rw [Command.outcome] at h
    split at h
    · cases h
    · obtain ⟨found, -, rfl⟩ := exists_of_map_eq_ok h
      exact ⟨_, rfl⟩
  | «exists» stream key =>
    rw [Command.outcome] at h
    split at h
    · cases h
    · obtain ⟨found, -, rfl⟩ := exists_of_map_eq_ok h
      exact ⟨_, rfl⟩
  | publish stream field document =>
    obtain ⟨doc, name, key, -, -, -, -, rfl⟩ := Command.outcome_publish_eq_ok_iff.1 h
    exact ⟨_, rfl⟩

/-! ### All or nothing -/

/-- **Commands are all or nothing**, on any ledger. A command that fails has printed nothing and has
changed no stream; a lookup changes no stream at all; a publication in vain fails without a call to
the node; and a command that succeeds prints, if in JSON, one object on one line, whatever is
stored. -/
theorem Command.all_or_nothing (clock : UInt64 → Instant) (ids : Nat → RequestId)
    (t : Trace Ledger) (d : Display) (c : Command) (out : Bytes) :
    let ended := (c.executeOn d).runOn ⟨Ledger.node clock, ids⟩ out t
    (∀ e, ended.result = .error e →
        ended.printed = out ∧ ended.left.state.streams = t.state.streams) ∧
      (c.IsLookup → ended.left.state.streams = t.state.streams) ∧
      (∀ stream field document, c = .publish stream field document →
        IsVain stream field document →
          (∃ e, ended.result = .error e) ∧ ended.left.sent = t.sent ∧
            ended.left.state = t.state) ∧
      (d.format = .json → ended.result = .ok () → ∃ members,
        ended.printed = out ++ (Value.object members).bytes ++ [0x0A] ∧
          0x0A ∉ (Value.object members).bytes) := by
  intro ended
  -- printing comes last, so all is told by the outcome of the command and the ledger it leaves
  have hending := c.ending_execute clock ids t d
  have hvalue := congrArg Prod.fst hending
  have hstate := congrArg Prod.snd hending
  dsimp only [Attempt.ending] at hvalue hstate
  have hended : ended = _ := Command.runOn_executeOn d c ⟨Ledger.node clock, ids⟩ out t
  rw [hvalue] at hended
  refine ⟨fun e he => ?_, fun h => ?_, ?_, fun hd hok => ?_⟩
  · rw [hended] at he ⊢
    cases houtcome : c.outcome d t.state with
    | ok text =>
      rw [houtcome] at he
      cases he
    | error e' =>
      refine ⟨List.append_nil out, ?_⟩
      rw [hstate]
      exact Command.streams_left_of_error houtcome _
  · rw [hended, hstate]
    exact Command.streams_left_of_isLookup h _ _
  · rintro stream field document rfl hvain
    exact Command.runOn_publish_of_isVain hvain d _ out t
  · rw [hended] at hok ⊢
    cases houtcome : c.outcome d t.state with
    | error e =>
      rw [houtcome] at hok
      cases hok
    | ok text =>
      obtain ⟨members, rfl⟩ := Command.outcome_json hd houtcome
      refine ⟨members, ?_, newline_not_mem_bytes _⟩
      rw [output, bytes_line_compact, List.append_assoc]

theorem Command.all_or_nothing_on_empty_stream :
    let clock : UInt64 → Instant := fun _ => .ofSeconds 0 (by decide)
    let ids : Nat → RequestId := fun _ => ⟨"id"⟩
    let t : Trace Ledger := .start (.withStreams ["docs"]) 0
    let ran (c : Command) := (c.executeOn ⟨.json, false⟩).runOn ⟨Ledger.node clock, ids⟩ [] t
    let vain := ran (.publish "docs" "id" "[]")
    let lookup := ran (.exists "docs" "a\nb")
    (∃ e, vain.result = .error e) ∧ vain.printed = [] ∧ vain.left.sent = [] ∧
      lookup.result = .ok () ∧ ∃ members, lookup.printed = (Value.object members).bytes ++ [0x0A] ∧
        0x0A ∉ (Value.object members).bytes := by
  intro clock ids t ran vain lookup
  have hall (c : Command) := Command.all_or_nothing clock ids t ⟨.json, false⟩ c []
  have hvain : IsVain "docs" "id" "[]" := by
    refine .inr fun doc hdoc hobject => ?_
    have hlist : Value.parse (Text.bytes "[]") = .ok (.list []) := rfl
    cases hlist.symm.trans hdoc
    cases hobject
  obtain ⟨⟨e, he⟩, hsent, -⟩ := (hall (.publish "docs" "id" "[]")).2.2.1 _ _ _ rfl hvain
  have hok : lookup.result = .ok () := by
    let docs : StreamName := ⟨"docs", by decide, by decide⟩
    have hname : StreamName.parse "docs" = .ok docs := docs.parse_of_trim (by decide)
    have houtcome : ∃ text, (Command.exists "docs" "a\nb").outcome ⟨.json, false⟩ t.state =
        .ok text := by
      rw [Command.outcome, hname]
      exact ⟨_, rfl⟩
    obtain ⟨text, houtcome⟩ := houtcome
    have hresult := Command.result_executeOn clock ids t ⟨.json, false⟩ (.exists "docs" "a\nb") []
    rw [houtcome] at hresult
    exact hresult
  exact ⟨⟨e, he⟩, ((hall (.publish "docs" "id" "[]")).1 e he).1, hsent, hok,
    (hall (.exists "docs" "a\nb")).2.2.2 rfl hok⟩

end CommandLine
end StreamRecords
