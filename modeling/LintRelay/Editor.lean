import LintRelay.Dispatch
import LintRelay.Uri

/-!
# Serving an editor

The handlers of an editor session. Every document that is opened or saved is inspected and its
diagnostics are published; a change of the project or of the settings inspects all open documents
anew, in the order in which they were opened.
-/
namespace LintRelay

/-- A document to inspect. Where no text is given, the document is not open and its file is read. -/
structure Subject where
  uri : String
  path : String
  language : String
  text : Option String
  deriving DecidableEq

namespace Subject

/-- The stated language, or the one that the file name tells. -/
def languageId (s : Subject) : Option String :=
  if s.language = "" then Language.ofPath s.path else some s.language

def ofDocument (uri : String) (d : Document) : Subject := ⟨uri, d.path, d.language, some d.text⟩

end Subject

namespace Action

def sourceText (s : Subject) : Action String :=
  match s.text with
  | some text => pure text
  | none => fun h => (h.disk.readText s.path, h)

def inspectSubject (s : Subject) : Action (Entries (Option Inspection)) := do
  let text ← sourceText s
  inspect s.languageId (.str text) (.str s.path)

/-- Inspect a document and publish what is found. An inspection that ends in a fault is told to the
user; a problem that cannot be shown ends the handler. -/
def publishSubject (s : Subject) : Action Unit := do
  if ← isProvided s.languageId then
    match ← attempt (inspectSubject s) with
    | .error fault => emit (.told .error s!"JSLint failed on {s.path}: {fault.message}")
    | .ok results =>
      let diagnostics ← ofExcept (Diagnostic.ofResults results)
      emit (.published s.uri diagnostics)
  else pure ()

def rerunOpenDocuments : Action Unit := do
  let h ← host
  each (fun p => publishSubject (.ofDocument p.1 p.2)) h.documents

def clearOpenDocuments : Action Unit := do
  let h ← host
  each (fun p => emit (.published p.1 [])) h.documents

def rerunForEditor (_provider : String) : Action Unit := rerunOpenDocuments

def applyIndentation (section? : Option Value) : Action Unit :=
  match section? with
  | none => pure ()
  | some settings => do
    let indentation ← ofExcept (Indentation.ofValue settings)
    updateInspector fun i => { i with indentation := indentation }

def applyExecutable (executable : Value) : Action Unit :=
  if executable.isTruthy then
    updateInspector fun i => { i with engine := { i.engine with executable := executable } }
  else pure ()

def applyOptions (options? : Option Value) : Action Unit :=
  match options? with
  | none => pure ()
  | some options => setPreferences rerunForEditor options

/-- The indentation is settled first, so that settings it rejects change nothing. -/
def applySection (fields : Fields) : Action Unit := do
  applyIndentation (Entries.get? "editor" fields)
  applyExecutable (Value.fieldOrNull "path" fields)
  applyOptions (Entries.get? "options" fields)

def applySettings (settings : Value) : Action Unit :=
  if settings.isTruthy then
    match settings with
    | .object fields =>
      match (Entries.get? "jslint" fields).getD settings with
      | .object content => applySection content
      | _ => pure ()
    | v => fail (.noMember v.kind "get")
  else pure ()

def openFolder (uri : String) : Action Unit := do
  let root ← ofExcept (Uri.path uri)
  if root = "" then pure ()
  else do
    openProject (.str root)
    emit (.told .log s!"JSLint project root: {root}")

/-- A session begins with the client's settings and its root, or else its first folder. -/
def initialized (options : Value) (root : String) (folders : List String) : Action Unit := do
  applySettings options
  if root ≠ "" then openFolder root
  else
    match folders with
    | [] => pure ()
    | folder :: _ => openFolder folder

def putDocument (uri : String) (d : Document) : Action Unit :=
  update fun h => { h with documents := Entries.put uri d h.documents }

def opened (uri language text : String) : Action Unit := do
  let d : Document := ⟨← ofExcept (Uri.path uri), language, text⟩
  putDocument uri d
  publishSubject (.ofDocument uri d)

/-- A change of text alone is not inspected. Only what is open can change. -/
def changed (uri text : String) : Action Unit := do
  let h ← host
  match Entries.get? uri h.documents with
  | some d => putDocument uri { d with text := text }
  | none => fail (.notOpen uri)

/-- A document that is not open is known by its address alone. -/
def subjectFor (uri : String) : Action Subject := do
  let h ← host
  match Entries.get? uri h.documents with
  | some d => return .ofDocument uri d
  | none => return ⟨uri, ← ofExcept (Uri.path uri), "", none⟩

def saved (uri : String) : Action Unit := do
  let s ← subjectFor uri
  if ← documentSaved (.str s.path) then rerunOpenDocuments else publishSubject s

def closed (uri : String) : Action Unit := do
  update fun h => { h with documents := Entries.erase uri h.documents }
  emit (.published uri [])

/-- Of folders that are added, the first becomes the project. -/
def foldersAdded : List String → Action Unit
  | [] => pure ()
  | folder :: _ => do
    openFolder folder
    rerunOpenDocuments

/-- Whether any of the changed files is the configuration file, which is then loaded each time. -/
def reloadChanged : List String → Action Bool
  | [] => pure false
  | uri :: rest => do
    let path ← ofExcept (Uri.path uri)
    let first ← if path = "" then pure false else documentSaved (.str path)
    let later ← reloadChanged rest
    return first || later

def filesChanged (uris : List String) : Action Unit := do
  if ← reloadChanged uris then rerunOpenDocuments else pure ()

/-- Switch inspection over. Switched on, it inspects what is open; switched off, it clears it. -/
def switchOver : Action Bool := do
  let enabled ← toggle none
  if enabled then rerunOpenDocuments else clearOpenDocuments
  return enabled

end Action

namespace Host

def editor (disk : Disk) (tool : Nat → Launch → Outcome) : Host :=
  (Action.register (new disk tool standardInspector (Registry.new true))).2

end Host

end LintRelay
