import StreamRecords.Client.Invoke
import StreamRecords.Dialogue.Run
import StreamRecords.Proofs.Except

/-!
Dialogues without what they note. Events do not change what is sent nor how a dialogue goes on, so
a dialogue and the one without its notes run alike, alone and in turn with others.
-/

namespace StreamRecords

open Json Rpc

def Trace.quiet {σ : Type} (t : Trace σ) : Trace σ := { t with events := [] }

namespace Dialogue

variable {α β σ : Type}

/-- **A dialogue without its notes.** -/
def quiet : Dialogue α → Dialogue α
  | done a => done a
  | fresh next => fresh fun id => (next id).quiet
  | note _ next => next.quiet
  | post body next => post body fun reply => (next reply).quiet

@[simp] theorem quiet_bind (d : Dialogue α) (f : α → Dialogue β) :
    (d.bind f).quiet = d.quiet.bind fun a => (f a).quiet := by
  induction d with
  | done a => rfl
  | fresh next ih => exact congrArg fresh (funext ih)
  | note event next ih => exact ih
  | post body next ih => exact congrArg (post body) (funext ih)

/-! ### Running -/

variable (setting : Setting σ)

theorem run_bind (d : Dialogue α) (f : α → Dialogue β) (t : Trace σ) :
    (d.bind f).run setting t = (f (d.run setting t).1).run setting (d.run setting t).2 := by
  induction d generalizing t with
  | done a => rfl
  | fresh next ih => exact ih _ _
  | note event next ih => exact ih _
  | post body next ih => exact ih _ _

/-- Without its notes `d` has the same value, and leaves the same behind but for events. -/
@[simp] theorem run_quiet (d : Dialogue α) (t : Trace σ) :
    d.quiet.run setting t.quiet = ((d.run setting t).1, (d.run setting t).2.quiet) := by
  induction d generalizing t with
  | done a => rfl
  | fresh next ih => exact ih _ { t with drawn := t.drawn + 1 }
  | note event next ih => exact ih { t with events := t.events ++ [event] }
  | post body next ih => exact ih _ (exchange setting body t).2

@[simp] theorem advance_quiet (d : Dialogue α) (t : Trace σ) :
    d.quiet.advance setting t.quiet =
      ((d.advance setting t).1.quiet, (d.advance setting t).2.quiet) := by
  induction d generalizing t with
  | done a => rfl
  | fresh next ih => exact ih _ { t with drawn := t.drawn + 1 }
  | note event next ih => exact ih { t with events := t.events ++ [event] }
  | post body next ih => rfl

/-- A dialogue that `advance` leaves as it is: it has ended, or it sends a body next. -/
def IsReady : Dialogue α → Prop
  | done _ | post _ _ => True
  | fresh _ | note _ _ => False

theorem isReady_advance (d : Dialogue α) (t : Trace σ) : (d.advance setting t).1.IsReady := by
  induction d generalizing t with
  | done a => trivial
  | fresh next ih => exact ih _ _
  | note event next ih => exact ih _
  | post body next ih => trivial

@[simp] theorem step_quiet {d : Dialogue α} (hd : d.IsReady) (t : Trace σ) :
    d.quiet.step setting t.quiet = ((d.step setting t).1.quiet, (d.step setting t).2.quiet) := by
  cases d with
  | done a => rfl
  | fresh next => exact absurd hd id
  | note event next => exact absurd hd id
  | post body next => exact advance_quiet setting (next _) (exchange setting body t).2

@[simp] theorem value?_quiet {d : Dialogue α} (hd : d.IsReady) : d.quiet.value? = d.value? := by
  cases d with
  | note event next => exact absurd hd id
  | _ => rfl

/-! ### Running together -/

theorem advanceAll_quiet (ds : List (Dialogue α)) (t : Trace σ) :
    advanceAll setting (ds.map quiet) t.quiet =
      ((advanceAll setting ds t).1.map quiet, (advanceAll setting ds t).2.quiet) := by
  induction ds generalizing t with
  | nil => rfl
  | cons d ds ih =>
    rw [List.map_cons, advanceAll, advance_quiet]
    show ((_ :: (advanceAll setting (ds.map quiet) (d.advance setting t).2.quiet).1), _) = _
    rw [ih]
    rfl

theorem isReady_advanceAll (ds : List (Dialogue α)) (t : Trace σ) :
    ∀ d ∈ (advanceAll setting ds t).1, d.IsReady := by
  induction ds generalizing t with
  | nil => exact fun d hd => absurd hd List.not_mem_nil
  | cons d ds ih =>
    intro e he
    rcases List.mem_cons.1 he with rfl | he
    · exact isReady_advance setting d t
    · exact ih _ e he

theorem isReady_step {d : Dialogue α} (hd : d.IsReady) (t : Trace σ) :
    (d.step setting t).1.IsReady := by
  cases d with
  | post body next => exact isReady_advance setting _ _
  | _ => exact hd

theorem stepAt_quiet (i : Nat) {ds : List (Dialogue α)} (hds : ∀ d ∈ ds, d.IsReady) (t : Trace σ) :
    stepAt setting i (ds.map quiet) t.quiet =
      ((stepAt setting i ds t).1.map quiet, (stepAt setting i ds t).2.quiet) := by
  rw [stepAt, stepAt, List.getElem?_map]
  cases h : ds[i]? with
  | none => rfl
  | some d =>
    show ((ds.map quiet).set i (d.quiet.step setting t.quiet).1,
      (d.quiet.step setting t.quiet).2) = _
    rw [step_quiet setting (hds d (List.mem_of_getElem? h)), ← List.map_set]

theorem isReady_stepAt (i : Nat) {ds : List (Dialogue α)} (hds : ∀ d ∈ ds, d.IsReady)
    (t : Trace σ) : ∀ d ∈ (stepAt setting i ds t).1, d.IsReady := by
  rw [stepAt]
  cases h : ds[i]? with
  | none => exact hds
  | some d =>
    intro e he
    rcases List.mem_or_eq_of_mem_set he with he | rfl
    · exact hds e he
    · exact isReady_step setting (hds d (List.mem_of_getElem? h)) t

theorem interleave_quiet (schedule : List Nat) {ds : List (Dialogue α)}
    (hds : ∀ d ∈ ds, d.IsReady) (t : Trace σ) :
    interleave setting schedule (ds.map quiet) t.quiet =
      ((interleave setting schedule ds t).1.map quiet,
        (interleave setting schedule ds t).2.quiet) := by
  induction schedule generalizing ds t with
  | nil => rfl
  | cons i schedule ih =>
    rw [interleave, stepAt_quiet setting i hds]
    exact ih (isReady_stepAt setting i hds t) _

theorem isReady_interleave (schedule : List Nat) {ds : List (Dialogue α)}
    (hds : ∀ d ∈ ds, d.IsReady) (t : Trace σ) :
    ∀ d ∈ (interleave setting schedule ds t).1, d.IsReady := by
  induction schedule generalizing ds t with
  | nil => exact hds
  | cons i schedule ih => exact ih (isReady_stepAt setting i hds t) _

/-- Without their notes the dialogues `ds` have the same values under `schedule`, and leave the same
behind but for events. -/
theorem runTogether_quiet (schedule : List Nat) (ds : List (Dialogue α)) (t : Trace σ) :
    runTogether setting schedule (ds.map quiet) t.quiet =
      ((runTogether setting schedule ds t).1, (runTogether setting schedule ds t).2.quiet) := by
  -- `step` without notes is `step` only of dialogues that are ready, as `advanceAll` leaves them
  have hready := isReady_advanceAll setting ds t
  rw [runTogether, advanceAll_quiet]
  show (((interleave setting schedule ((advanceAll setting ds t).1.map quiet)
    (advanceAll setting ds t).2.quiet).1.map value?), _) = _
  rw [interleave_quiet setting schedule hready, List.map_map]
  refine Prod.ext (List.map_congr_left fun d hd => ?_) rfl
  exact value?_quiet (isReady_interleave setting schedule hready _ d hd)

end Dialogue

/-! ### Attempts -/

namespace Attempt

variable {ε ε' α β : Type}

/-- How a dialogue goes on after the attempt whose outcome is given: by `f`, or not at all. -/
def andThen (f : α → Attempt ε β) : Except ε α → Dialogue (Except ε β)
  | .ok a => (f a).dialogue
  | .error e => .done (.error e)

def quiet (x : Attempt ε α) : Dialogue (Except ε α) := x.dialogue.quiet

@[simp] theorem quiet_bind (x : Attempt ε α) (f : α → Attempt ε β) :
    (x >>= f).quiet = x.quiet.bind fun r =>
      match r with
      | .ok a => (f a).quiet
      | .error e => .done (.error e) := by
  show (x.dialogue.bind (andThen f)).quiet = _
  rw [Dialogue.quiet_bind]
  refine congrArg _ (funext fun r => ?_)
  cases r <;> rfl

section

variable {σ : Type} (setting : Setting σ) (x : Attempt ε α) (t : Trace σ)

theorem value_run : (x.dialogue.run setting t).1 = (x.quiet.run setting t.quiet).1 := by
  simp [quiet]

theorem sent_run : (x.dialogue.run setting t).2.sent = (x.quiet.run setting t.quiet).2.sent := by
  rw [quiet, Dialogue.run_quiet]
  rfl

theorem state_run : (x.dialogue.run setting t).2.state = (x.quiet.run setting t.quiet).2.state := by
  rw [quiet, Dialogue.run_quiet]
  rfl

theorem run_bind (f : α → Attempt ε β) :
    (x >>= f).dialogue.run setting t =
      match x.dialogue.run setting t with
      | (.ok a, t) => (f a).dialogue.run setting t
      | (.error e, t) => (.error e, t) := by
  show (x.dialogue.bind (andThen f)).run setting t = _
  rw [Dialogue.run_bind]
  obtain ⟨r, t'⟩ := x.dialogue.run setting t
  cases r <;> rfl

theorem run_map (f : α → β) :
    (f <$> x).dialogue.run setting t =
      ((x.dialogue.run setting t).1.map f, (x.dialogue.run setting t).2) := by
  show (x.dialogue.bind _).run setting t = _
  rw [Dialogue.run_bind]
  obtain ⟨r, t'⟩ := x.dialogue.run setting t
  cases r <;> rfl

/-- **What the attempt `x` ends with**, and the state in which it leaves the node. -/
def ending : Except ε α × σ :=
  ((x.dialogue.run setting t).1, (x.dialogue.run setting t).2.state)

theorem ending_eq :
    x.ending setting t = ((x.quiet.run setting t.quiet).1, (x.quiet.run setting t.quiet).2.state) :=
  Prod.ext (value_run setting x t) (state_run setting x t)

@[simp] theorem ending_map (f : α → β) :
    (f <$> x).ending setting t = ((x.ending setting t).1.map f, (x.ending setting t).2) := by
  rw [ending, run_map]
  rfl

@[simp] theorem ending_mapError (f : ε → ε') :
    (x.mapError f).ending setting t =
      ((x.ending setting t).1.mapError f, (x.ending setting t).2) := by
  have hrun : (x.mapError f).dialogue.run setting t =
      ((x.dialogue.run setting t).1.mapError f, (x.dialogue.run setting t).2) :=
    Dialogue.run_bind setting x.dialogue _ t
  rw [ending, hrun]
  rfl

@[simp] theorem ending_ofExcept_bind (e : Except ε α) (f : α → Attempt ε β) :
    (ofExcept e >>= f).ending setting t =
      match e with
      | .ok a => (f a).ending setting t
      | .error e => (.error e, t.state) := by
  cases e <;> rfl

end

@[simp] theorem quiet_mapError (f : ε → ε') (x : Attempt ε α) :
    (x.mapError f).quiet = x.quiet.bind fun r => .done (r.mapError f) :=
  Dialogue.quiet_bind _ _

end Attempt

/-! ### One request and its answer -/

variable {α : Type}

/-- What `reply` says to a request for a result of `format`. -/
def answer (format : Format α) (reply : Reply) : Except ClientError (Response α) := do
  let body ← reply
  (Response.decode format body).mapError ClientError.protocol

@[simp] theorem answer_ok (format : Format α) (body : Bytes) :
    answer format (.ok body) = (Response.decode format body).mapError .protocol := rfl

theorem answer_eq_ok_iff {format : Format α} {reply : Reply} {response : Response α} :
    answer format reply = .ok response ↔
      ∃ body, reply = .ok body ∧ Response.decode format body = .ok response := by
  cases reply with
  | error e => exact iff_of_false nofun nofun
  | ok body =>
    rw [answer_ok, mapError_eq_ok_iff]
    simp

/-- **`invoke` sends its request once**, and what comes of it is the `answer` of the reply. -/
theorem quiet_invoke (format : Format α) (request : Request) :
    (invoke format request).quiet =
      .post request.encode fun reply => .done (answer format reply) := by
  refine congrArg (Dialogue.post request.encode) (funext fun reply => ?_)
  cases reply with
  | error e => rfl
  | ok body =>
    show (Attempt.andThen _ ((Response.decode format body).mapError ClientError.protocol)).quiet =
      .done ((Response.decode format body).mapError ClientError.protocol)
    cases Response.decode format body with
    | error e => rfl
    | ok response =>
      obtain ⟨id, error, result⟩ := response
      -- an answer to another request is noted before the result is looked at, and a note is all
      -- that this adds
      have hnoted {x y : Attempt ClientError (Response α)} {d : Dialogue _}
          (hx : x.quiet = d) (hy : y.quiet = d) :
          (if id ≠ "" ∧ id ≠ request.id.text then x else y).quiet = d := by
        split
        · exact hx
        · exact hy
      cases error with
      | none => exact hnoted rfl rfl
      | some e => exact hnoted rfl rfl

def invokeIn {σ : Type} (setting : Setting σ) (format : Format α) (request : Request)
    (t : Trace σ) : Except ClientError (Response α) × σ :=
  let (outcome, t) := (invoke format request).dialogue.run setting t
  (outcome, t.state)

theorem invokeIn_eq {σ : Type} (setting : Setting σ) (format : Format α) (request : Request)
    (t : Trace σ) :
    invokeIn setting format request t =
      (answer format (setting.node t.state request.encode).1,
        (setting.node t.state request.encode).2) := by
  have hvalue := Attempt.value_run setting (invoke format request) t
  have hstate := Attempt.state_run setting (invoke format request) t
  rw [quiet_invoke] at hvalue hstate
  exact Prod.ext hvalue hstate

/-- An attempt that sends `request` first goes on by `f` with what the reply says. -/
theorem quiet_invoke_bind {ε β : Type} (format : Format α) (request : Request)
    (g : ClientError → ε) (f : Response α → Attempt ε β) :
    ((invoke format request).mapError g >>= f).quiet =
      .post request.encode fun reply =>
        match answer format reply with
        | .ok response => (f response).quiet
        | .error e => .done (.error (g e)) := by
  rw [Attempt.quiet_bind, Attempt.quiet_mapError, quiet_invoke]
  refine congrArg (Dialogue.post request.encode) (funext fun reply => ?_)
  show Dialogue.bind (.done ((answer format reply).mapError g)) _ = _
  cases answer format reply <;> rfl

end StreamRecords
