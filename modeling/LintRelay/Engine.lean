import LintRelay.Flags
import LintRelay.JsonLimits
import LintRelay.PathName

/-!
# The lint engine

One run of the linter: the command for a text, and what its outcome means. The text is handed over
in a file of its own, named like the document, in a folder made for the run. A run that goes wrong
is reported as a stop notice, as if the linter had given up at the start of the text.
-/
namespace LintRelay

/-- One start of a process. A linting process comes with the text of the file it is to read. -/
structure Launch where
  executable : Value
  arguments : List String
  timeout : Value
  text : Option String
  deriving DecidableEq

/-- How starting a process and waiting for it ends. It fails in other ways than being kept from its
executable: an argument holds a null character, say, or what the process wrote is no text. -/
inductive Outcome where
  | finished (stdout stderr : String) (code : Int)
  | timedOut
  | missing
  | forbidden
  | failed (fault : Fault)
  deriving DecidableEq

structure LintReport where
  passed : Bool
  errors : List Value
  deriving DecidableEq

structure Verdict where
  report : LintReport
  complaint : Option String
  deriving DecidableEq

structure Engine where
  executable : Value
  timeout : Value
  deriving DecidableEq

namespace LintReport

/-- A problem of the engine as the only entry before the linter gave up. -/
def failure (reason : Value) : LintReport :=
  ⟨false, [.object [("line", .int 1), ("character", .int 1), ("reason", reason)], .null]⟩

def unreadable : LintReport := failure (.str "JSLint produced no readable report.")

end LintReport

namespace Engine

def standard : Engine := ⟨.str "jslint", .int 30⟩

def folder : String := "<tmp>"

def fileName (path : String) : String :=
  let name := String.ofList (PathName.baseName path.toList)
  if name = "" then "input.js" else name

def filePath (name : String) : String := folder ++ "/" ++ name

def longestName : Nat := 255

/-- Why no file of this name can be written. -/
def nameFault? (name : String) : Option Fault :=
  if '\x00' ∈ name.toList then some .nullCharacter
  else if name = "." ∨ name = ".." then some (.file .isFolder (filePath name))
  else if longestName < name.utf8ByteSize then some (.file .nameTooLong (filePath name))
  else none

/-- The file's name is settled first, then the text, the flags and the executable. -/
def launch (engine : Engine) (text options path : Value) : Except Fault Launch :=
  match path with
  | .str path =>
    match nameFault? (fileName path) with
    | some fault => .error fault
    | none =>
      match text with
      | .str text =>
        (Flags.ofOptions options).bind fun flags =>
          match engine.executable with
          | .str _ =>
            .ok ⟨engine.executable, "--json" :: flags ++ [filePath (fileName path)],
              engine.timeout, some text⟩
          | v => .error (.commandKind v.kind)
      | v => .error (.writtenKind v.kind)
  | v => .error (.pathKind v.kind)

def trimmed (s : String) : String := String.ofList (CharacterTables.trim s.toList)

def judge (path stdout stderr : String) : Except Json.Error Value → Verdict
  | .error _ =>
    let shown := if trimmed stderr = "" then trimmed stdout else trimmed stderr
    ⟨.unreadable, some s!"Unexpected JSLint output for {path}: {shown}"⟩
  | .ok (.list (_ :: .list errors :: _)) => ⟨⟨errors.isEmpty, errors⟩, none⟩
  | .ok _ => ⟨.unreadable, some s!"Unexpected JSLint report shape for {path}"⟩

def readOutput (room : Nat) (path stdout stderr : String) : Except Fault Verdict :=
  (Json.readWithin room stdout).map (judge path stdout stderr)

def notFoundReason (engine : Engine) : String :=
  s!"JSLint executable not found: {engine.executable.text}"

def conclude (engine : Engine) (room : Nat) (path : String) : Outcome → Except Fault Verdict
  | .finished stdout stderr _ => readOutput room path stdout stderr
  | .timedOut =>
    .ok ⟨.failure (.str s!"JSLint timed out after {engine.timeout.text} seconds."),
      some s!"JSLint timeout for file: {path}"⟩
  | .missing => .ok ⟨.failure (.str engine.notFoundReason), some engine.notFoundReason⟩
  | .forbidden => .error (.forbidden engine.executable.innerText)
  | .failed fault => .error fault

/-- Asking for the version shows whether the linter can be run at all. -/
def versionLaunch (engine : Engine) : Launch :=
  ⟨engine.executable, ["--version"], .int 10, none⟩

def concludeVersion (engine : Engine) : Outcome → Except Fault Bool
  | .finished _ _ code => .ok (code == 0)
  | .timedOut => .ok false
  | .missing => .ok false
  | .forbidden => .error (.forbidden engine.executable.innerText)
  | .failed fault => .error fault

end Engine

end LintRelay
