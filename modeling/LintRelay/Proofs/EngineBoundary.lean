import LintRelay.Proofs.Keeping
import LintRelay.Proofs.ReadingLimits
import LintRelay.Proofs.Session

/-!
# The boundary of the engine

The engine answers where the linter runs too long or cannot be found, and whatever it writes that can be
read to the end. What gets past the engine is that the linter may not be run, that its process fails in
another way, and that it writes more than there is room for: then a lint run has no answer, and where no
process ends neither has the question whether the linter is there.
-/
namespace LintRelay

/-- Options whose values have a text: none of their whole numbers has too many digits, and lists and objects
stand only so deep inside one another. -/
structure WritableOptions where
  fields : Fields
  fits : (Value.object fields).Fits 200

/-- A command with a null character in one of its words. -/
def Launch.HoldsNull (l : Launch) : Prop :=
  ∃ word ∈ l.executable.text :: l.arguments, '\x00' ∈ word.toList

instance (l : Launch) : Decidable l.HoldsNull := List.decidableBEx _ _

/-- No process is started with a null character in its command. -/
def Host.RefusesNull (h : Host) : Prop :=
  ∀ n (l : Launch), l.HoldsNull → h.tool n l = .failed .nullCharacter

namespace Engine

variable {engine : Engine} {executable path : String} {room : Nat}

/-- No process of the linter comes to an end, and the engine does not expect that. -/
inductive Stops (engine : Engine) : Outcome → Fault → Prop
  | forbidden : engine.Stops .forbidden (.forbidden engine.executable.innerText)
  | failed (fault : Fault) : engine.Stops (.failed fault) fault

/-- What becomes of a run gets past the engine: no process comes to an end, or its output goes beyond what
there is room for, before anything in it is found not to be JSON. -/
inductive Escapes (engine : Engine) (room : Nat) : Outcome → Fault → Prop
  | stops {outcome : Outcome} {fault : Fault} (hstops : engine.Stops outcome fault) :
    engine.Escapes room outcome fault
  | overruns {stdout stderr : String} {code : Int} {fault : Fault}
      (hexcess : Json.excess? room stdout = some fault) :
    engine.Escapes room (.finished stdout stderr code) fault

/-- Nothing gets past the engine. -/
def Contains (engine : Engine) (room : Nat) (outcome : Outcome) : Prop :=
  ∀ fault, ¬ engine.Escapes room outcome fault

theorem stops_iff {outcome : Outcome} {fault : Fault} :
    engine.Stops outcome fault ↔
      (outcome = .forbidden ∧ fault = .forbidden engine.executable.innerText) ∨
        outcome = .failed fault := by
  constructor
  · rintro (_ | _)
    · exact .inl ⟨rfl, rfl⟩
    · exact .inr rfl
  · rintro (⟨rfl, rfl⟩ | rfl)
    · exact .forbidden
    · exact .failed fault

/-- The process for a text whose file can be written. -/
def command (engine : Engine) (text : String) (options : Fields) (path : String) : Launch :=
  ⟨engine.executable, "--json" :: Flags.ofFields options ++ [filePath (fileName path)],
    engine.timeout, some text⟩

theorem launch_eq_command (hexecutable : engine.executable = .str executable)
    (hname : nameFault? (fileName path) = none) (text : String) (options : Fields) :
    engine.launch (.str text) (.object options) (.str path) =
      .ok (engine.command text options path) := by
  unfold launch
  dsimp only
  rw [hname]
  dsimp only [Flags.ofOptions, Except.bind]
  rw [hexecutable, command, hexecutable]

theorem eq_command_of_launch {text : String} {options : Fields} {l : Launch}
    (h : engine.launch (.str text) (.object options) (.str path) = .ok l) :
    l = engine.command text options path := by
  unfold launch at h
  dsimp only at h
  cases hname : nameFault? (fileName path) with
  | some fault =>
    rw [hname] at h
    cases h
  | none =>
    rw [hname] at h
    dsimp only [Flags.ofOptions, Except.bind] at h
    cases hexecutable : engine.executable with
    | str executable =>
      rw [hexecutable] at h
      rw [command, hexecutable]
      exact (Except.ok.inj h).symm
    | null | bool | int | float | list | object =>
      rw [hexecutable] at h
      cases h

theorem readOutput_eq_error_iff {stdout stderr : String} {fault : Fault} :
    readOutput room path stdout stderr = .error fault ↔ Json.excess? room stdout = some fault := by
  unfold readOutput Json.readWithin
  cases Json.excess? room stdout <;> simp [Except.map]

theorem readOutput_of_fits {stdout : String} (hfits : Json.excess? room stdout = none)
    (path stderr : String) :
    readOutput room path stdout stderr = .ok (judge path stdout stderr (Json.read stdout)) := by
  rw [readOutput, Json.readWithin, hfits]
  rfl

theorem conclude_eq_error_iff {outcome : Outcome} {fault : Fault} :
    engine.conclude room path outcome = .error fault ↔ engine.Escapes room outcome fault := by
  constructor
  · intro h
    cases outcome with
    | finished stdout stderr code => exact .overruns (readOutput_eq_error_iff.1 h)
    | timedOut | missing => cases h
    | forbidden =>
      obtain rfl := Except.error.inj h
      exact .stops .forbidden
    | failed f =>
      obtain rfl := Except.error.inj h
      exact .stops (.failed f)
  · rintro (⟨_ | _⟩ | hexcess)
    · rfl
    · rfl
    · exact readOutput_eq_error_iff.2 hexcess

theorem concludeVersion_eq_error_iff {outcome : Outcome} {fault : Fault} :
    engine.concludeVersion outcome = .error fault ↔ engine.Stops outcome fault := by
  rw [stops_iff]
  cases outcome <;> simp [concludeVersion, eq_comm]

theorem passed_of_conclude {outcome : Outcome} {verdict : Verdict}
    (hverdict : engine.conclude room path outcome = .ok verdict) :
    verdict.report.passed = verdict.report.errors.isEmpty := by
  cases outcome with
  | finished stdout stderr code =>
    cases hexcess : Json.excess? room stdout with
    | none =>
      rw [conclude, readOutput_of_fits hexcess] at hverdict
      obtain rfl := Except.ok.inj hverdict
      unfold judge
      split <;> rfl
    | some fault =>
      rw [conclude, readOutput_eq_error_iff.2 hexcess] at hverdict
      cases hverdict
  | timedOut | missing =>
    obtain rfl := Except.ok.inj hverdict
    rfl
  | forbidden | failed => cases hverdict

end Engine

namespace Action

variable {h : Host} {executable path : String}

def launching (l : Launch) (h : Host) : Host :=
  { h with launches := h.launches + 1, events := h.events ++ [.launched l] }

/-- What is made of a verdict: its complaint is logged, its report is the answer. -/
def deliver (verdict : Verdict) : Action LintReport := do
  complain verdict.complaint
  return verdict.report

theorem keeps_deliver {R : Host → Host → Prop} [Std.Refl R] [IsTrans Host R]
    (hcomplained : ∀ text, Keeps R (emit (.complained text))) (verdict : Verdict) :
    Keeps R (deliver verdict) := by
  obtain ⟨report, complaint⟩ := verdict
  cases complaint with
  | none => exact keeps_pure report
  | some text => exact (hcomplained text).bind fun _ => keeps_pure report

theorem deliver_fst (verdict : Verdict) (h : Host) : (deliver verdict h).1 = .ok verdict.report := by
  obtain ⟨report, complaint⟩ := verdict
  cases complaint with
  | none => rfl
  | some text => rfl

theorem lint_apply (text options path : Value) (h : Host) :
    lint text options path h =
      (ofExcept (h.inspector.engine.launch text options path) >>= fun l =>
        launch l >>= fun outcome =>
          ofExcept (h.inspector.engine.conclude h.disk.room path.text outcome) >>= deliver) h := rfl

/-- A run of the linter on a text whose file can be written starts one process and concludes from its
end. -/
theorem lint_eq_conclude (hexecutable : h.inspector.engine.executable = .str executable)
    (hname : Engine.nameFault? (Engine.fileName path) = none) (text : String) (options : Fields) :
    lint (.str text) (.object options) (.str path) h =
      (ofExcept (h.inspector.engine.conclude h.disk.room path
          (h.tool h.launches (h.inspector.engine.command text options path))) >>= deliver)
        (launching (h.inspector.engine.command text options path) h) := by
  have hlaunch := Engine.launch_eq_command hexecutable hname text options
  rw [lint_apply, ofExcept_bind_ok hlaunch]
  rfl

theorem isAvailable_fst (h : Host) :
    (isAvailable h).1 = h.inspector.engine.concludeVersion
      (h.tool h.launches h.inspector.engine.versionLaunch) := rfl

theorem lint_eq_error_iff (hexecutable : h.inspector.engine.executable = .str executable)
    (hname : Engine.nameFault? (Engine.fileName path) = none) {text : String} {options : Fields}
    {fault : Fault} :
    (lint (.str text) (.object options) (.str path) h).1 = .error fault ↔
      h.inspector.engine.Escapes h.disk.room
        (h.tool h.launches (h.inspector.engine.command text options path)) fault := by
  have hescapes : h.inspector.engine.conclude h.disk.room path
      (h.tool h.launches (h.inspector.engine.command text options path)) = .error fault ↔ _ :=
    Engine.conclude_eq_error_iff
  rw [lint_eq_conclude hexecutable hname, ← hescapes]
  cases hc : h.inspector.engine.conclude h.disk.room path
      (h.tool h.launches (h.inspector.engine.command text options path)) with
  | error f =>
    rw [ofExcept_bind_error rfl]
    simp only [Except.error.injEq]
  | ok verdict =>
    rw [ofExcept_bind_ok rfl, deliver_fst]
    simp

theorem isAvailable_eq_error_iff {fault : Fault} :
    (isAvailable h).1 = .error fault ↔
      h.inspector.engine.Stops (h.tool h.launches h.inspector.engine.versionLaunch) fault := by
  rw [isAvailable_fst, Engine.concludeVersion_eq_error_iff]

theorem returns_iff {α : Type} {r : Except Fault α} : (∃ a, r = .ok a) ↔ ∀ fault, r ≠ .error fault := by
  cases r with
  | ok a => simp
  | error fault => simp

theorem lint_returns_iff (hexecutable : h.inspector.engine.executable = .str executable)
    (hname : Engine.nameFault? (Engine.fileName path) = none) {text : String} {options : Fields} :
    (∃ report, (lint (.str text) (.object options) (.str path) h).1 = .ok report) ↔
      h.inspector.engine.Contains h.disk.room
        (h.tool h.launches (h.inspector.engine.command text options path)) := by
  simp only [returns_iff, ne_eq, lint_eq_error_iff hexecutable hname, Engine.Contains]

/-- A lint run on a text whose file can be written has a report, and the question whether the linter is
there has an answer, exactly where no fault gets past the engine, and otherwise they end in that fault. One
such fault is a null character in a command, where no process is started with it. -/
theorem engine_answers_iff_contained
    (hexecutable : h.inspector.engine.executable = .str executable)
    (hname : Engine.nameFault? (Engine.fileName path) = none) (text : String)
    (options : WritableOptions) :
    let command := h.inspector.engine.command text options.fields path
    let version := h.inspector.engine.versionLaunch
    let run := (lint (.str text) (.object options.fields) (.str path) h).1
    ((∃ report, run = .ok report) ↔
        h.inspector.engine.Contains h.disk.room (h.tool h.launches command)) ∧
      (∀ fault, run = .error fault ↔
        h.inspector.engine.Escapes h.disk.room (h.tool h.launches command) fault) ∧
      ((∃ available, (isAvailable h).1 = .ok available) ↔
        ∀ fault, ¬ h.inspector.engine.Stops (h.tool h.launches version) fault) ∧
      (∀ fault, (isAvailable h).1 = .error fault ↔
        h.inspector.engine.Stops (h.tool h.launches version) fault) ∧
      (h.RefusesNull → command.HoldsNull → run = .error .nullCharacter) ∧
      (h.RefusesNull → version.HoldsNull → (isAvailable h).1 = .error .nullCharacter) := by
  intro command version run
  have hrun (fault : Fault) : run = .error fault ↔
      h.inspector.engine.Escapes h.disk.room (h.tool h.launches command) fault :=
    lint_eq_error_iff hexecutable hname
  have havailable (fault : Fault) : (isAvailable h).1 = .error fault ↔
      h.inspector.engine.Stops (h.tool h.launches version) fault := isAvailable_eq_error_iff
  refine ⟨lint_returns_iff hexecutable hname, hrun, ?_, havailable, fun hrefuses hnull => ?_,
    fun hrefuses hnull => ?_⟩
  · simp only [returns_iff, ne_eq, havailable]
  · rw [hrun, hrefuses _ _ hnull]
    exact .stops (.failed _)
  · rw [havailable, hrefuses _ _ hnull]
    exact .failed _

/-- An editor session on a machine without a linter, which starts nothing with a null character. -/
def refusingEditor : Host :=
  Host.editing (.listing ⟨[], ["/"]⟩)
    (fun _ l => if l.HoldsNull then .failed .nullCharacter else .missing) Host.standardInspector

theorem refusingEditor_refusesNull : refusingEditor.RefusesNull := fun _ _ hnull => if_pos hnull

theorem refusingEditor_misses (n : Nat) {l : Launch} (hplain : ¬ l.HoldsNull) :
    refusingEditor.tool n l = .missing := if_neg hplain

/-- Where the linter cannot be found there are answers all the same, unless an option holds a null
character. -/
theorem engine_answers_without_linter :
    ((∃ report,
          (lint (.str "x") (.object [("node", .bool true)]) (.str "/a.js") refusingEditor).1 = .ok report) ∧
        ∃ available, (isAvailable refusingEditor).1 = .ok available) ∧
      (lint (.str "x") (.object [("node", .str "\x00")]) (.str "/a.js") refusingEditor).1 =
        .error .nullCharacter := by
  have hexecutable : refusingEditor.inspector.engine.executable = .str "jslint" := rfl
  have hname : Engine.nameFault? (Engine.fileName "/a.js") = none := by decide +kernel
  have hplain : (Value.object [("node", .bool true)]).Fits 200 := .object (by simpa using .bool true)
  have hnull : (Value.object [("node", .str "\x00")]).Fits 200 := .object (by simpa using .str "\x00")
  obtain ⟨hrun, -, havailable, -⟩ := engine_answers_iff_contained hexecutable hname "x" ⟨_, hplain⟩
  obtain ⟨-, -, -, -, hrefused, -⟩ := engine_answers_iff_contained hexecutable hname "x" ⟨_, hnull⟩
  have hmissing : refusingEditor.tool refusingEditor.launches
      (refusingEditor.inspector.engine.command "x" [("node", .bool true)] "/a.js") = .missing :=
    refusingEditor_misses _ (by decide +kernel)
  have hversion : refusingEditor.tool refusingEditor.launches
      refusingEditor.inspector.engine.versionLaunch = .missing :=
    refusingEditor_misses _ (by decide +kernel)
  have hheld : (refusingEditor.inspector.engine.command "x" [("node", .str "\x00")] "/a.js").HoldsNull := by
    decide +kernel
  refine ⟨⟨hrun.2 ?_, havailable.2 ?_⟩, hrefused refusingEditor_refusesNull hheld⟩
  · intro fault hescapes
    rw [hmissing] at hescapes
    rcases hescapes with ⟨⟨⟩⟩
  · intro fault hstops
    rw [hversion] at hstops
    cases hstops

def forbiddenEditor : Host :=
  Host.editing (.listing ⟨[], ["/"]⟩) (fun _ _ => .forbidden) Host.standardInspector

theorem forbidden_linter_escapes :
    (lint (.str "x") (.object []) (.str "/a.js") forbiddenEditor).1 =
        .error (.forbidden "'jslint'") ∧
      (isAvailable forbiddenEditor).1 = .error (.forbidden "'jslint'") ∧
      ¬ ((∃ report, (lint (.str "x") (.object []) (.str "/a.js") forbiddenEditor).1 = .ok report) ∧
        ∃ available, (isAvailable forbiddenEditor).1 = .ok available) := by
  have hfault : (isAvailable forbiddenEditor).1 = .error (.forbidden "'jslint'") := by decide +kernel
  refine ⟨by decide +kernel, hfault, ?_⟩
  rintro ⟨-, available, havailable⟩
  rw [hfault] at havailable
  cases havailable

end Action

end LintRelay
