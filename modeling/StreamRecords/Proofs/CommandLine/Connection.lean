import StreamRecords.CommandLine.Connection
import StreamRecords.Proofs.Client.ConfigFile
import StreamRecords.Proofs.Except

/-!
Options of a command line in the place of settings of a file. What an option replaces has no part in
the settings that come out; but the settings of the file must be valid before anything of them is
replaced, so a value that an option replaces can still be what the command line fails over.
-/

namespace StreamRecords

open ClientConfig

/-- **A file holds settings** `c`, valid or not: its bytes are those of a document of them. -/
def ClientConfig.IsHeldBy (c : ClientConfig) (file : Except String Bytes) : Prop :=
  ∃ text, file = .ok (Text.bytes text) ∧ readToml text = .ok c

theorem ClientConfig.ofFile_of_isHeldBy {c : ClientConfig} {file : Except String Bytes}
    (h : c.IsHeldBy file) : ofFile file = c.validate := by
  obtain ⟨text, rfl, hread⟩ := h
  have hdecode : Utf8.decode (Text.bytes text) = .ok text.toList := Utf8.decode_encode text.toList
  have hcontents : (Except.ok (Text.bytes text)).mapError ClientError.io = .ok (Text.bytes text) :=
    rfl
  have htoml : ofToml text = c.validate := by
    rw [ofToml, hread]
    rfl
  simp only [ofFile, hcontents, bind, Except.bind, hdecode, String.ofList_toList, htoml]

theorem ClientConfig.isHeldBy_of_toToml {c : ClientConfig} {s : String} (h : c.toToml = .ok s) :
    c.IsHeldBy (.ok (Text.bytes s)) := ⟨s, rfl, readToml_of_toToml h⟩

theorem ClientConfig.validate_of_flaw?_eq_none {c : ClientConfig} (h : c.flaw? = none) :
    c.validate = .ok c := by rw [validate, h]

theorem ClientConfig.validate_of_flaw?_eq_some {c : ClientConfig} {reason : String}
    (h : c.flaw? = some reason) : c.validate = .error (.invalidConfig reason) := by
  rw [validate, h]

namespace CommandLine.ConnectionOptions

variable (o : ConnectionOptions)

/-- **`c` and `d` differ only where the options `o` give a value.** -/
structure Covers (c d : ClientConfig) : Prop where
  host : o.host = none → c.host = d.host
  port : o.port = none → c.port = d.port
  username : o.user = none → c.username = d.username
  password : o.password = none → c.password = d.password
  secure : o.secure = false → c.secure = d.secure
  timeout : o.timeout = none → c.timeout = d.timeout

theorem override_eq_override_iff {c d : ClientConfig} :
    o.override c = o.override d ↔ o.Covers c d := by
  have hgetD {α : Type} (x : Option α) (a b : α) :
      x.getD a = x.getD b ↔ (x = none → a = b) := by
    cases x <;> simp
  have hor {α : Type} (x a b : Option α) : x.or a = x.or b ↔ (x = none → a = b) := by
    cases x <;> simp
  have hbool (x a b : Bool) : (x || a) = (x || b) ↔ (x = false → a = b) := by
    cases x <;> simp
  simp only [override, ClientConfig.mk.injEq, hgetD, hor, hbool]
  constructor
  · rintro ⟨hhost, hport, husername, hpassword, hsecure, htimeout⟩
    exact ⟨hhost, hport, husername, hpassword, hsecure, htimeout⟩
  · rintro ⟨hhost, hport, husername, hpassword, hsecure, htimeout⟩
    exact ⟨hhost, hport, husername, hpassword, hsecure, htimeout⟩

/-- The failure over a file whose settings are not valid. -/
def fileFailure (path reason : String) : Failure :=
  ⟨some s!"loading config from {path}", .client (.invalidConfig reason)⟩

section

variable {o} {path : String} {file : Except String Bytes} {c : ClientConfig}

theorem settings_of_flaw (hpath : o.config = some path) (h : c.IsHeldBy file) {reason : String}
    (hflaw : c.flaw? = some reason) : o.settings file = .error (fileFailure path reason) := by
  rw [settings, base, hpath]
  dsimp only
  rw [ofFile_of_isHeldBy h, validate_of_flaw?_eq_some hflaw]
  rfl

theorem settings_of_valid (hpath : o.config = some path) (h : c.IsHeldBy file)
    (hflaw : c.flaw? = none) :
    o.settings file = (o.override c).validate.mapError .ofClient := by
  rw [settings, base, hpath]
  dsimp only
  rw [ofFile_of_isHeldBy h, validate_of_flaw?_eq_none hflaw]
  rfl

/-- No other failure looks like that of a `file` that is not valid, since only this one names
`path`. -/
theorem settings_ne_fileFailure (hpath : o.config = some path) (h : c.IsHeldBy file)
    (hflaw : c.flaw? = none) (reason : String) :
    o.settings file ≠ .error (fileFailure path reason) := by
  rw [settings_of_valid hpath h hflaw]
  cases (o.override c).validate with
  | ok d => exact fun h => by cases h
  | error e =>
    intro h
    have hcontext := congrArg Failure.context (Except.error.inj h)
    cases hcontext

/-- **What comes of the settings `c` of a `file` under the options `o`.** Both `c` and
`o.override c` must be valid, and the latter is what comes out. Of two files that differ only where
an option is given the same comes, be it settings or a failure, exactly if `flaw?` is the same of
both, since this is asked before the options replace anything. -/
theorem settings_of_files (o : ConnectionOptions) {path : String} (hpath : o.config = some path)
    {file : Except String Bytes} {c : ClientConfig} (h : c.IsHeldBy file) :
    (∀ config, o.settings file = .ok config ↔
      c.IsValid ∧ (o.override c).IsValid ∧ config = o.override c) ∧
    (∀ reason, c.flaw? = some reason → o.settings file = .error (fileFailure path reason)) ∧
    ∀ file' d, d.IsHeldBy file' → o.Covers c d →
      (o.settings file = o.settings file' ↔ c.flaw? = d.flaw?) := by
  refine ⟨fun config => ?_, fun reason => settings_of_flaw hpath h, fun file' d h' hcovers => ?_⟩
  · rw [← flaw?_eq_none_iff]
    cases hflaw : c.flaw? with
    | some reason =>
      rw [settings_of_flaw hpath h hflaw]
      simp
    | none =>
      rw [settings_of_valid hpath h hflaw, mapError_eq_ok_iff, validate_eq_ok_iff]
      simp
  -- both files are overridden to the same settings, so only the flaws that are found before can
  -- tell them apart
  · have hsame := (override_eq_override_iff o).2 hcovers
    cases hc : c.flaw? with
    | none =>
      cases hd : d.flaw? with
      | none =>
        rw [settings_of_valid hpath h hc, settings_of_valid hpath h' hd, hsame]
        exact iff_of_true rfl rfl
      | some reason =>
        rw [settings_of_flaw hpath h' hd]
        simp [settings_ne_fileFailure hpath h hc reason]
    | some reason =>
      rw [settings_of_flaw hpath h hc]
      cases hd : d.flaw? with
      | none =>
        simp [(settings_ne_fileFailure hpath h' hd reason).symm]
      | some reason' =>
        rw [settings_of_flaw hpath h' hd]
        simp [fileFailure]

end

/-- The port of a file is replaced by another, and a connection is made secure. -/
theorem settings_of_files_port :
    let o : ConnectionOptions := ⟨some "node.toml", none, some 7001, none, none, true, none⟩
    let c : ClientConfig := ⟨"10.0.0.5", 7000, "u", "p", false, some 4⟩
    ∃ file, c.IsHeldBy file ∧ o.settings file = .ok ⟨"10.0.0.5", 7001, "u", "p", true, some 4⟩ := by
  intro o c
  have htext : c.toToml = .ok (.ofList c.text) :=
    toToml_eq_ok_iff.2 ⟨fun n hn => by cases hn; decide, rfl⟩
  have hheld := isHeldBy_of_toToml htext
  have hvalid : c.IsValid := ⟨by decide, by decide, by decide, by decide⟩
  have hoverride : (o.override c).IsValid := ⟨by decide, by decide, by decide, by decide⟩
  have hpath : o.config = some "node.toml" := rfl
  obtain ⟨hok, -, -⟩ := settings_of_files o hpath hheld
  exact ⟨_, hheld, (hok _).2 ⟨hvalid, hoverride, rfl⟩⟩

/-- A port that is replaced can still be what the command line fails over: with a port of zero in
the file nothing comes out, although the settings are valid with the other port in its place. -/
theorem not_settings_from_options_always :
    (¬ ∀ (o : ConnectionOptions) (path : String) (file file' : Except String Bytes)
      (c d : ClientConfig), o.config = some path → c.IsHeldBy file → d.IsHeldBy file' →
      o.Covers c d → o.settings file = o.settings file') ∧
    ¬ ∀ (o : ConnectionOptions) (path : String) (file : Except String Bytes) (c : ClientConfig),
      o.config = some path → c.IsHeldBy file →
      ((∃ config, o.settings file = .ok config) ↔ (o.override c).IsValid) := by
  let o : ConnectionOptions := ⟨some "node.toml", none, some 7001, none, none, false, none⟩
  let zero : ClientConfig := ⟨"10.0.0.5", 0, "u", "p", false, none⟩
  let other : ClientConfig := ⟨"10.0.0.5", 7000, "u", "p", false, none⟩
  have hzero : zero.IsHeldBy (.ok (Text.bytes (.ofList zero.text))) :=
    isHeldBy_of_toToml (toToml_eq_ok_iff.2 ⟨fun n hn => (by cases hn), rfl⟩)
  have hother : other.IsHeldBy (.ok (Text.bytes (.ofList other.text))) :=
    isHeldBy_of_toToml (toToml_eq_ok_iff.2 ⟨fun n hn => (by cases hn), rfl⟩)
  -- under `--port 7001` the two files are overridden alike, but one of them is refused for its own
  -- port before that
  have hcovers : o.Covers zero other := (override_eq_override_iff o).1 rfl
  have hvalid : (o.override zero).IsValid := ⟨by decide, by decide, by decide, by decide⟩
  have hpath : o.config = some "node.toml" := rfl
  have hflaw : zero.flaw? = some "port must be greater than zero" := by decide
  have hfails := settings_of_flaw hpath hzero hflaw
  refine ⟨fun hsame => ?_, fun hiff => ?_⟩
  · have heq := hsame o "node.toml" _ _ _ _ rfl hzero hother hcovers
    exact settings_ne_fileFailure hpath hother (by decide) _ (heq.symm.trans hfails)
  · obtain ⟨config, hok⟩ := (hiff o "node.toml" _ _ rfl hzero).2 hvalid
    cases hok.symm.trans hfails

end CommandLine.ConnectionOptions
end StreamRecords
