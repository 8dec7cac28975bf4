import LintRelay.Disk

/-!
# Project configuration

The options that a project keeps in a file at its root. The file is read when the project is opened,
when the file itself is saved, and when inspection is switched on again; switched off, nothing is
loaded. A file that is missing or empty means no options, one that cannot be used is complained of.
-/
namespace LintRelay

structure ProjectConfig where
  fileName : Value
  root : Option PathName
  path : Option PathName
  loaded : Option Fields
  enabled : Bool
  deriving DecidableEq

/-- What stands under the name of a configuration file. -/
inductive ConfigFile where
  | absent
  | unreadable (problem : FileProblem) (path : String)
  | empty
  | malformed (text : String) (e : Json.Error)
  | notObject
  | options (fields : Fields)
  deriving DecidableEq

namespace ConfigFile

def ofRead (text : String) : Except Json.Error Value → ConfigFile
  | .error e => malformed text e
  | .ok (.object fields) => options fields
  | .ok _ => notObject

def ofText (room : Nat) (text : String) : Except Fault ConfigFile :=
  if text = "" then .ok empty else (Json.readWithin room text).map (ofRead text)

/-- Faults that do not come from the file system are not the file's own. -/
def find (path : String) (d : Disk) : Except Fault ConfigFile :=
  match d.readText path with
  | .ok text => ofText d.room text
  | .error (.file .missing _) => .ok absent
  | .error (.file problem opened) => .ok (unreadable problem opened)
  | .error fault => .error fault

def fields? : ConfigFile → Option Fields
  | options fields => some fields
  | _ => none

def complaint? (path : String) : ConfigFile → Option String
  | unreadable problem opened => some s!"Could not read {path}: {problem.message opened}"
  | malformed text e => some s!"jslint: error: {e.message text}"
  | notObject => some s!"jslint: error: {path} must contain a JSON object"
  | _ => none

end ConfigFile

/-- How an event ended, what it left behind, and what it complained of. -/
structure Reaction (α : Type) where
  outcome : Except Fault α
  config : ProjectConfig
  complaints : List String

def Reaction.map {α β : Type} (f : α → β) (r : Reaction α) : Reaction β :=
  ⟨r.outcome.map f, r.config, r.complaints⟩

namespace ProjectConfig

def standardName : String := ".jslint.json"

def new (fileName : Value) : ProjectConfig := ⟨fileName, none, none, none, true⟩

/-- Load the file of the open project. Where reading ends in a fault, what was loaded stays. -/
def load (d : Disk) (c : ProjectConfig) : Reaction (Option Fields) :=
  match c.path with
  | none => ⟨.ok none, { c with loaded := none }, []⟩
  | some path =>
    match ConfigFile.find path.text d with
    | .error fault => ⟨.error fault, c, []⟩
    | .ok file =>
      ⟨.ok file.fields?, { c with loaded := file.fields? }, (file.complaint? path.text).toList⟩

theorem load_enabled (d : Disk) (c : ProjectConfig) :
    (load d c).config.enabled = c.enabled := by
  unfold load
  split
  · rfl
  · split <;> rfl

theorem load_path (d : Disk) (c : ProjectConfig) : (load d c).config.path = c.path := by
  unfold load
  split
  · rfl
  · split <;> rfl

def openRoot (root : PathName) (d : Disk) (c : ProjectConfig) : Reaction Unit :=
  let c := { c with root := some root }
  match c.fileName with
  | .str name =>
    let c := { c with path := some (root.append (PathName.ofString name)) }
    if c.enabled then (load d c).map fun _ => () else ⟨.ok (), c, []⟩
  | v => ⟨.error (.fileNameKind v.kind), c, []⟩

def openProject (root : Value) (d : Disk) (c : ProjectConfig) : Reaction Unit :=
  match root with
  | .str root => openRoot (PathName.ofString root) d c
  | v => ⟨.error (.pathKind v.kind), c, []⟩

/-- A document is saved; the answer says whether it was the configuration file. Where there is no
such file to wait for, nobody asks for the path. -/
def documentSaved (path : Value) (d : Disk) (c : ProjectConfig) : Reaction Bool :=
  if c.enabled ∧ c.path.isSome then
    match path with
    | .str path =>
      if c.path = some (PathName.ofString path) then (load d c).map fun _ => true
      else ⟨.ok false, c, []⟩
    | v => ⟨.error (.pathKind v.kind), c, []⟩
  else ⟨.ok false, c, []⟩

def setEnabled (enabled : Bool) (d : Disk) (c : ProjectConfig) : Reaction Unit :=
  if enabled then
    let c := { c with enabled := true }
    if c.path.isSome ∧ c.loaded.isNone then (load d c).map fun _ => () else ⟨.ok (), c, []⟩
  else ⟨.ok (), { c with enabled := false, loaded := none }, []⟩

end ProjectConfig

end LintRelay
