import LintRelay.BlankLines
import LintRelay.Host
import LintRelay.LintOptions
import LintRelay.OptionEquality

/-!
# The inspector

Inspecting a document with the linter: the options come from the project's configuration if one is
loaded and from the preferences otherwise, they are completed, the linter runs once, and its report
becomes an inspection. The options of the last run are kept, so that a change of preferences that
repeats them asks for no new run.
-/
namespace LintRelay

namespace Inspector

def name : String := "JSLint"

def new (engine : Engine) (preferences configName : Value) (indentation : Indentation) :
    Inspector :=
  ⟨engine, preferences, 0, ProjectConfig.new configName, indentation, .null⟩

/-- The options in force, as the user wrote them. -/
def currentOptions (i : Inspector) : Value :=
  match i.config.loaded with
  | some fields => .object fields
  | none => i.preferences

def effectiveOptions (i : Inspector) : Except Fault Fields :=
  LintOptions.normalize i.currentOptions (.int i.indentation.size)

end Inspector

namespace Action

def updateInspector (f : Inspector → Inspector) : Action Unit :=
  update fun h => { h with inspector := f h.inspector }

def launch (l : Launch) : Action Outcome := fun h =>
  (.ok (h.tool h.launches l),
    { h with launches := h.launches + 1, events := h.events ++ [.launched l] })

def complain : Option String → Action Unit
  | some text => emit (.complained text)
  | none => pure ()

def lint (text options path : Value) : Action LintReport := do
  let h ← host
  let engine := h.inspector.engine
  let l ← ofExcept (engine.launch text options path)
  let outcome ← launch l
  let verdict ← ofExcept (engine.conclude h.disk.room path.text outcome)
  complain verdict.complaint
  return verdict.report

def isAvailable : Action Bool := do
  let h ← host
  let engine := h.inspector.engine
  let outcome ← launch engine.versionLaunch
  ofExcept (engine.concludeVersion outcome)

def emptiedText : Value → Except Fault Value
  | .str s => .ok (.str (BlankLines.emptiedText s))
  | v => .error (.searchedKind v.kind)

/-- What a report means for the document; a passed one means nothing. -/
def concludeReport (report : LintReport) : Except Fault (Option Inspection) :=
  if report.passed then .ok none else (Inspection.ofReport report.errors).map some

/-- Inspect a document with the linter. The options count as those of the last run from the moment
the text is found to be one. -/
def scanFile (text path : Value) : Action (Option Inspection) := do
  let text ← ofExcept (emptiedText text)
  let h ← host
  let current := h.inspector.currentOptions
  updateInspector fun i => { i with lastRun := current }
  emit (.inspecting path current)
  let options ← ofExcept (LintOptions.normalize current (.int h.inspector.indentation.size))
  let report ← lint text (.object options) path
  ofExcept (concludeReport report)

def onConfig {α : Type} (event : Disk → ProjectConfig → Reaction α) : Action α := fun h =>
  let r := event h.disk h.inspector.config
  (r.outcome,
    { h with
      inspector := { h.inspector with config := r.config }
      events := h.events ++ r.complaints.map .complained })

def openProject (root : Value) : Action Unit := onConfig (ProjectConfig.openProject root)

def documentSaved (path : Value) : Action Bool := onConfig (ProjectConfig.documentSaved path)

def setConfigEnabled (enabled : Bool) : Action Unit := onConfig (ProjectConfig.setEnabled enabled)

def loadConfig : Action (Option Fields) := onConfig ProjectConfig.load

/-- A new run is asked for unless the preferences are the options of the last one. -/
def preferencesChanged (rerun : String → Action Unit) : Action Unit := do
  let h ← host
  if Value.same h.inspector.preferences h.inspector.lastRun then pure ()
  else rerun Inspector.name

def setPreferences (rerun : String → Action Unit) (options : Value) : Action Unit := do
  updateInspector fun i => { i with preferences := options }
  let h ← host
  times h.inspector.watchers (preferencesChanged rerun)

/-- Offer the linter for its languages, watch the preferences, and let the project configuration
follow the switch for inspection. -/
def register : Action Unit := do
  update fun h =>
    { h with
      registry := (h.registry.registerAll Language.linted ⟨Inspector.name, .linter⟩).follow
        .projectConfig
      inspector := { h.inspector with watchers := h.inspector.watchers + 1 } }
  let h ← host
  setConfigEnabled h.registry.enabled

end Action

namespace Host

def new (disk : Disk) (tool : Nat → Launch → Outcome) (inspector : Inspector)
    (registry : Registry) : Host :=
  ⟨disk, tool, 0, inspector, registry, [], []⟩

def standardInspector : Inspector :=
  Inspector.new Engine.standard .null (.str ProjectConfig.standardName) Indentation.standard

end Host

end LintRelay
