import LintRelay.Proofs.AnnouncedOptions
import LintRelay.Proofs.Handover

/-!
# What the end of a run says of a document

A run of the linter speaks of the document only where its process came to its end and wrote a list of a
name and some entries. Any other end is a problem of the engine. Where it gets past the engine, the run ends
in it and nothing is logged. Otherwise it is logged once, and the document gets a single notice at its
beginning, as if the linter had given up there. A document passes only where the linter wrote that there is
nothing to say of it.
-/
namespace LintRelay

/-- The process came to its end, with whatever exit code, and wrote a list of a name and these entries. -/
def Outcome.Wrote (outcome : Outcome) (entries : List Value) : Prop :=
  ∃ stdout stderr code name more, outcome = .finished stdout stderr code ∧
    Json.read stdout = .ok (.list (name :: .list entries :: more))

def Event.complaint? : Event → Option String
  | complained text => some text
  | _ => none

def complaints (events : List Event) : List String := events.filterMap Event.complaint?

theorem complaints_complained (texts : List String) :
    complaints (texts.map .complained) = texts := by
  rw [complaints, List.filterMap_map]
  exact List.filterMap_some

namespace Engine

variable {engine : Engine} {path : String} {outcome : Outcome} {entries : List Value} {room : Nat}

theorem conclude_finished {stdout stderr : String} {code : Int}
    (hkept : engine.Contains room (.finished stdout stderr code)) (path : String) :
    engine.conclude room path (.finished stdout stderr code) =
      .ok (judge path stdout stderr (Json.read stdout)) := by
  refine readOutput_of_fits (Option.eq_none_iff_forall_not_mem.2 fun fault hfault => ?_) path stderr
  exact hkept fault (.overruns hfault)

theorem conclude_of_wrote (h : outcome.Wrote entries)
    (hkept : engine.Contains room outcome) :
    engine.conclude room path outcome = .ok ⟨⟨entries.isEmpty, entries⟩, none⟩ := by
  obtain ⟨stdout, stderr, code, name, more, rfl, hread⟩ := h
  rw [conclude_finished hkept, hread, judge]

theorem conclude_of_unwritten (path : String) (hkept : engine.Contains room outcome)
    (h : ∀ entries, ¬ outcome.Wrote entries) :
    ∃ reason complaint,
      engine.conclude room path outcome = .ok ⟨.failure (.str reason), some complaint⟩ := by
  cases outcome with
  | finished stdout stderr code =>
    rw [conclude_finished hkept]
    unfold judge
    split
    · exact ⟨_, _, rfl⟩
    · rename_i name entries more hread
      exact absurd ⟨stdout, stderr, code, name, more, rfl, hread⟩ (h entries)
    · exact ⟨_, _, rfl⟩
  | timedOut | missing => exact ⟨_, _, rfl⟩
  | forbidden => exact absurd (.stops .forbidden) (hkept _)
  | failed fault => exact absurd (.stops (.failed fault)) (hkept fault)

end Engine

namespace Action

variable {h : Host} {executable path text : String} {options : Fields} {verdict : Verdict}

/-- A run that gets to a verdict answers its report, and adds the process and the verdict's complaint to
the record. -/
theorem lint_of_conclude (hexecutable : h.inspector.engine.executable = .str executable)
    (hname : Engine.nameFault? (Engine.fileName path) = none)
    (hverdict : h.inspector.engine.conclude h.disk.room path
      (h.tool h.launches (h.inspector.engine.command text options path)) = .ok verdict) :
    ∃ g, lint (.str text) (.object options) (.str path) h = (.ok verdict.report, g) ∧
      g.events = h.events ++ (.launched (h.inspector.engine.command text options path) ::
        verdict.complaint.toList.map .complained) := by
  rw [lint_eq_conclude hexecutable hname, ofExcept_bind_ok hverdict, deliver_eq]
  exact ⟨_, rfl, by simp [launching]⟩

/-- A run whose outcome gets past the engine ends in the fault, and adds nothing but the process to the
record. -/
theorem lint_of_escape (hexecutable : h.inspector.engine.executable = .str executable)
    (hname : Engine.nameFault? (Engine.fileName path) = none) {fault : Fault}
    (hescapes : h.inspector.engine.Escapes h.disk.room
      (h.tool h.launches (h.inspector.engine.command text options path)) fault) :
    lint (.str text) (.object options) (.str path) h =
      (.error fault, launching (h.inspector.engine.command text options path) h) := by
  rw [lint_eq_conclude hexecutable hname, ofExcept_bind_error (Engine.conclude_eq_error_iff.2 hescapes)]

theorem complaints_lint_of_escape (hexecutable : h.inspector.engine.executable = .str executable)
    (hname : Engine.nameFault? (Engine.fileName path) = none) {fault : Fault}
    (hescapes : h.inspector.engine.Escapes h.disk.room
      (h.tool h.launches (h.inspector.engine.command text options path)) fault) :
    complaints ((lint (.str text) (.object options) (.str path)).recorded h) = [] := by
  have hrecorded : (lint (.str text) (.object options) (.str path)).recorded h =
      [.launched (h.inspector.engine.command text options path)] := by
    refine recorded_of_append ?_
    rw [lint_of_escape hexecutable hname hescapes]
    rfl
  rw [hrecorded]
  rfl

theorem scanFile_of_conclude (hexecutable : h.inspector.engine.executable = .str executable)
    (hname : Engine.nameFault? (Engine.fileName path) = none)
    (hoptions : h.inspector.effectiveOptions = .ok options)
    (hverdict : h.inspector.engine.conclude h.disk.room path (h.tool h.launches
      (h.inspector.engine.command (BlankLines.emptiedText text) options path)) = .ok verdict) :
    (scanFile (.str text) (.str path) h).1 = concludeReport verdict.report ∧
      complaints ((scanFile (.str text) (.str path)).recorded h) = verdict.complaint.toList := by
  obtain ⟨g, hlint, hevents⟩ :=
    lint_of_conclude (h := noteRun (.str path) h) hexecutable hname hverdict
  have hscan : scanFile (.str text) (.str path) h = (concludeReport verdict.report, g) := by
    rw [scanFile_eq, ofExcept_bind_ok hoptions, bind_ok hlint]
    rfl
  have hrecorded : (scanFile (.str text) (.str path)).recorded h =
      .inspecting (.str path) h.inspector.currentOptions ::
        .launched (h.inspector.engine.command (BlankLines.emptiedText text) options path) ::
          verdict.complaint.toList.map .complained := by
    refine recorded_of_append ?_
    rw [hscan, hevents, noteRun, List.append_assoc]
    rfl
  refine ⟨congrArg Prod.fst hscan, ?_⟩
  rw [hrecorded]
  exact complaints_complained _

/-- A scan whose outcome gets past the engine ends in the fault and logs nothing. -/
theorem scanFile_of_escape (hexecutable : h.inspector.engine.executable = .str executable)
    (hname : Engine.nameFault? (Engine.fileName path) = none)
    (hoptions : h.inspector.effectiveOptions = .ok options) {fault : Fault}
    (hescapes : h.inspector.engine.Escapes h.disk.room (h.tool h.launches
      (h.inspector.engine.command (BlankLines.emptiedText text) options path)) fault) :
    (scanFile (.str text) (.str path) h).1 = .error fault ∧
      complaints ((scanFile (.str text) (.str path)).recorded h) = [] := by
  have hlint := lint_of_escape (h := noteRun (.str path) h) hexecutable hname hescapes
  have hscan : scanFile (.str text) (.str path) h = (.error fault,
      launching (h.inspector.engine.command (BlankLines.emptiedText text) options path)
        (noteRun (.str path) h)) := by
    rw [scanFile_eq, ofExcept_bind_ok hoptions, bind_error hlint]
    rfl
  have hrecorded : (scanFile (.str text) (.str path)).recorded h =
      [.inspecting (.str path) h.inspector.currentOptions,
        .launched (h.inspector.engine.command (BlankLines.emptiedText text) options path)] := by
    refine recorded_of_append ?_
    rw [hscan]
    simp [launching, noteRun]
  refine ⟨congrArg Prod.fst hscan, ?_⟩
  rw [hrecorded]
  rfl

theorem concludeReport_failure (reason : String) :
    concludeReport (.failure (.str reason)) =
      .ok (some ⟨[⟨0, 0, .str reason, .notice⟩], true⟩) := rfl

theorem concludeReport_eq_none_iff {entries : List Value} :
    concludeReport ⟨entries.isEmpty, entries⟩ = .ok none ↔ entries = [] := by
  cases entries with
  | nil => simp [concludeReport]
  | cons entry rest =>
    show (Inspection.ofReport (entry :: rest)).map some = .ok none ↔ _
    cases Inspection.ofReport (entry :: rest) <;> simp [Except.map]

theorem concludeReport_of_ne_nil {entries : List Value} (h : entries ≠ []) :
    concludeReport ⟨entries.isEmpty, entries⟩ = (Inspection.ofReport entries).map some := by
  cases entries with
  | nil => exact absurd rfl h
  | cons entry rest => rfl

theorem passed_iff_of_lint (hexecutable : h.inspector.engine.executable = .str executable)
    (hname : Engine.nameFault? (Engine.fileName path) = none) {report : LintReport}
    (hreport : (lint (.str text) (.object options) (.str path) h).1 = .ok report) :
    report.passed = true ↔ report.errors = [] := by
  cases hverdict : h.inspector.engine.conclude h.disk.room path
      (h.tool h.launches (h.inspector.engine.command text options path)) with
  | ok verdict =>
    obtain ⟨g, hlint, -⟩ := lint_of_conclude hexecutable hname hverdict
    obtain rfl := Except.ok.inj ((congrArg Prod.fst hlint).symm.trans hreport)
    rw [Engine.passed_of_conclude hverdict, List.isEmpty_iff]
  | error fault =>
    have hescapes := Engine.conclude_eq_error_iff.1 hverdict
    rw [(lint_eq_error_iff hexecutable hname).2 hescapes] at hreport
    cases hreport

section Scan

variable {outcome : Outcome} (hexecutable : h.inspector.engine.executable = .str executable)
  (hname : Engine.nameFault? (Engine.fileName path) = none)
  (hoptions : h.inspector.effectiveOptions = .ok options)
  (houtcome : h.tool h.launches
    (h.inspector.engine.command (BlankLines.emptiedText text) options path) = outcome)
include hexecutable hname hoptions houtcome

theorem scanFile_of_wrote {entries : List Value} (hw : outcome.Wrote entries)
    (hkept : h.inspector.engine.Contains h.disk.room outcome) :
    (scanFile (.str text) (.str path) h).1 = concludeReport ⟨entries.isEmpty, entries⟩ ∧
      complaints ((scanFile (.str text) (.str path)).recorded h) = [] :=
  scanFile_of_conclude hexecutable hname hoptions (houtcome ▸ Engine.conclude_of_wrote hw hkept)

/-- A problem of the engine is one notice and one complaint. -/
theorem scanFile_of_unwritten (hkept : h.inspector.engine.Contains h.disk.room outcome)
    (hnone : ∀ entries, ¬ outcome.Wrote entries) :
    (∃ reason, (scanFile (.str text) (.str path) h).1 =
        .ok (some ⟨[⟨0, 0, .str reason, .notice⟩], true⟩)) ∧
      ∃ complaint, complaints ((scanFile (.str text) (.str path)).recorded h) = [complaint] := by
  obtain ⟨reason, complaint, hverdict⟩ := Engine.conclude_of_unwritten path hkept hnone
  obtain ⟨hanswer, hlogged⟩ := scanFile_of_conclude hexecutable hname hoptions (houtcome ▸ hverdict)
  exact ⟨⟨reason, hanswer.trans (concludeReport_failure reason)⟩, complaint, hlogged⟩

theorem scanFile_eq_none_iff :
    (scanFile (.str text) (.str path) h).1 = .ok none ↔
      outcome.Wrote [] ∧ h.inspector.engine.Contains h.disk.room outcome := by
  constructor
  · intro hpassed
    have hkept : h.inspector.engine.Contains h.disk.room outcome := by
      intro fault hescapes
      rw [(scanFile_of_escape hexecutable hname hoptions (houtcome ▸ hescapes)).1] at hpassed
      cases hpassed
    refine ⟨?_, hkept⟩
    by_cases hnone : ∀ entries, ¬ outcome.Wrote entries
    · obtain ⟨⟨reason, hnotice⟩, -⟩ :=
        scanFile_of_unwritten hexecutable hname hoptions houtcome hkept hnone
      rw [hnotice] at hpassed
      cases hpassed
    · obtain ⟨entries, hw⟩ := not_forall_not.1 hnone
      obtain ⟨hanswer, -⟩ := scanFile_of_wrote hexecutable hname hoptions houtcome hw hkept
      have hempty : entries = [] := concludeReport_eq_none_iff.1 (hanswer.symm.trans hpassed)
      exact hempty ▸ hw
  · rintro ⟨hempty, hkept⟩
    exact (scanFile_of_wrote hexecutable hname hoptions houtcome hempty hkept).1

end Scan

/-- A report passes exactly where it has no entries, and a scan finds nothing exactly where the linter
wrote an empty list of entries that does not get past the engine. What gets past the engine ends a run and a
scan, and nothing is logged. Else, where the linter wrote other entries the scan answers what they mean, and
where it wrote none at all the scan answers one notice at the beginning of the document, as from a linter
that gave up, and logs one complaint. -/
theorem engine_problems_never_pass
    (hexecutable : h.inspector.engine.executable = .str executable)
    (hname : Engine.nameFault? (Engine.fileName path) = none) (text : String) :
    (∀ options : WritableOptions,
      let outcome := h.tool h.launches (h.inspector.engine.command text options.fields path)
      let run := lint (.str text) (.object options.fields) (.str path)
      (∀ report, (run h).1 = .ok report → (report.passed = true ↔ report.errors = [])) ∧
        (∀ fault, h.inspector.engine.Escapes h.disk.room outcome fault →
          (run h).1 = .error fault ∧ complaints (run.recorded h) = []) ∧
        (h.inspector.engine.Contains h.disk.room outcome → ∃ report, (run h).1 = .ok report)) ∧
      ∀ options : WritableOptions, h.inspector.effectiveOptions = .ok options.fields →
        let outcome := h.tool h.launches
          (h.inspector.engine.command (BlankLines.emptiedText text) options.fields path)
        let scan := scanFile (.str text) (.str path)
        ((scan h).1 = .ok none ↔
            outcome.Wrote [] ∧ h.inspector.engine.Contains h.disk.room outcome) ∧
          (∀ fault, h.inspector.engine.Escapes h.disk.room outcome fault →
            (scan h).1 = .error fault ∧ complaints (scan.recorded h) = []) ∧
          (h.inspector.engine.Contains h.disk.room outcome →
            (∀ entries, outcome.Wrote entries → entries ≠ [] →
                (scan h).1 = (Inspection.ofReport entries).map some ∧
                  complaints (scan.recorded h) = []) ∧
              ((∀ entries, ¬ outcome.Wrote entries) →
                (∃ reason, (scan h).1 = .ok (some ⟨[⟨0, 0, .str reason, .notice⟩], true⟩)) ∧
                  ∃ complaint, complaints (scan.recorded h) = [complaint])) := by
  constructor
  · intro options outcome run
    refine ⟨fun report => passed_iff_of_lint hexecutable hname, fun fault hescapes => ?_,
      (lint_returns_iff hexecutable hname).2⟩
    exact ⟨(lint_eq_error_iff hexecutable hname).2 hescapes,
      complaints_lint_of_escape hexecutable hname hescapes⟩
  · intro options hoptions outcome scan
    refine ⟨scanFile_eq_none_iff hexecutable hname hoptions rfl,
      fun fault => scanFile_of_escape hexecutable hname hoptions,
      fun hkept => ⟨fun entries hw hsome => ?_, scanFile_of_unwritten hexecutable hname hoptions rfl hkept⟩⟩
    obtain ⟨hanswer, hlogged⟩ := scanFile_of_wrote hexecutable hname hoptions rfl hw hkept
    exact ⟨hanswer.trans (concludeReport_of_ne_nil hsome), hlogged⟩

def writingEditor (stdout : String) (code : Int) : Host :=
  Host.editing (.listing ⟨[], ["/"]⟩) (fun _ _ => .finished stdout "" code) Host.standardInspector

def announcedOptions : Fields := [("indent", .int 4), ("browser", .bool true)]

theorem writingEditor_options (stdout : String) (code : Int) :
    (writingEditor stdout code).inspector.effectiveOptions = .ok announcedOptions := rfl

theorem announcedOptions_fits : (Value.object announcedOptions).Fits 200 :=
  .object (List.forall_mem_cons.2 ⟨.int (by decide), List.forall_mem_singleton.2 (.bool true)⟩)

theorem writingEditor_kept {stdout : String} {code : Int} (l : Launch)
    (hfits : Json.excess? Json.usualRoom stdout = none) :
    (writingEditor stdout code).inspector.engine.Contains (writingEditor stdout code).disk.room
      ((writingEditor stdout code).tool 0 l) := by
  rintro fault (⟨⟨⟩⟩ | hexcess)
  rw [show (writingEditor stdout code).disk.room = Json.usualRoom from rfl, hfits] at hexcess
  cases hexcess

/-- An empty list of entries passes with any exit code, and a list without the name does not with a
good one. -/
theorem engine_problems_never_pass_misshapen :
    (scanFile (.str "x") (.str "/a.js") (writingEditor "[\"a.js\", []]" 2)).1 = .ok none ∧
      (∃ reason, (scanFile (.str "x") (.str "/a.js") (writingEditor "[[]]" 0)).1 =
        .ok (some ⟨[⟨0, 0, .str reason, .notice⟩], true⟩)) ∧
      ∃ complaint, complaints
        ((scanFile (.str "x") (.str "/a.js")).recorded (writingEditor "[[]]" 0)) = [complaint] := by
  have hname : Engine.nameFault? (Engine.fileName "/a.js") = none := by decide +kernel
  have hpassing : Json.read "[\"a.js\", []]" = .ok (.list [.str "a.js", .list []]) := by
    decide +kernel
  have hnameless : Json.read "[[]]" = .ok (.list [.list []]) := by decide +kernel
  obtain ⟨hgood, -⟩ := (engine_problems_never_pass (h := writingEditor "[\"a.js\", []]" 2) rfl hname "x").2
    ⟨_, announcedOptions_fits⟩ (writingEditor_options _ _)
  obtain ⟨-, -, hbad⟩ := (engine_problems_never_pass (h := writingEditor "[[]]" 0) rfl hname "x").2
    ⟨_, announcedOptions_fits⟩ (writingEditor_options _ _)
  refine ⟨hgood.2 ⟨⟨_, _, _, _, _, rfl, hpassing⟩, writingEditor_kept _ (by decide +kernel)⟩,
    (hbad (writingEditor_kept _ (by decide +kernel))).2 ?_⟩
  rintro entries ⟨stdout, stderr, code, name, more, hfinished, hread⟩
  cases hfinished
  rw [hnameless] at hread
  cases hread

theorem writingEditor_overruns {stdout : String} {fault : Fault}
    (hexcess : Json.excess? Json.usualRoom stdout = some fault) (code : Int) :
    (scanFile (.str "x") (.str "/a.js") (writingEditor stdout code)).1 = .error fault ∧
      complaints ((scanFile (.str "x") (.str "/a.js")).recorded (writingEditor stdout code)) = [] := by
  have hname : Engine.nameFault? (Engine.fileName "/a.js") = none := by decide +kernel
  exact scanFile_of_escape rfl hname (writingEditor_options stdout code) (.overruns hexcess)

/-- A number that is not read gets past the engine: the document gets no notice and nothing is logged. So do
brackets that are opened and never closed, if there are enough of them. -/
theorem long_number_is_no_notice :
    let h := writingEditor (Json.write (.int Json.longNumber)) 0
    let opening := writingEditor (String.ofList (List.replicate 1500 '[')) 0
    let scan := scanFile (.str "x") (.str "/a.js")
    Json.read (Json.write (.int Json.longNumber)) = .ok (.int Json.longNumber) ∧
      (scan h).1 = .error (.tooManyDigits (Fault.mostDigits + 1)) ∧ complaints (scan.recorded h) = [] ∧
      ¬ ((∃ reason, (scan h).1 = .ok (some ⟨[⟨0, 0, .str reason, .notice⟩], true⟩)) ∧
        ∃ complaint, complaints (scan.recorded h) = [complaint]) ∧
      (scan opening).1 = .error (.tooDeep .list) ∧ complaints (scan.recorded opening) = [] := by
  obtain ⟨hfault, hsilent⟩ := writingEditor_overruns (Json.excess?_longNumber _) 0
  have hopening := writingEditor_overruns (Json.excess?_openings (n := 1500) (by decide)) 0
  refine ⟨Json.read_longNumber, hfault, hsilent, ?_, hopening⟩
  rintro ⟨-, complaint, hlogged⟩
  rw [hsilent] at hlogged
  cases hlogged

end Action

end LintRelay
