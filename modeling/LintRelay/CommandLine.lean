import LintRelay.Disk
import LintRelay.Numeral
import LintRelay.OptionScan

/-!
# The command line

The three commands and their parameters. What is given is checked in the order in which it is given,
arguments behind the options, and defaults last; the first thing that does not pass decides.
-/
namespace LintRelay

/-- A command line is refused with a word on its use, or reading it ends in a fault, or it only asks
for help. -/
inductive Refusal where
  | usage (u : UsageFault)
  | fault (f : Fault)
  | help
  deriving DecidableEq

structure LintArguments where
  paths : List String
  project : String
  options : Option Fields
  indent : Option Int
  useTabs : Bool
  executable : String
  output : Option String
  deriving DecidableEq

structure EditorArguments where
  tcp : Bool
  host : String
  port : Int
  deriving DecidableEq

structure WebArguments where
  host : String
  port : Int
  debug : Bool
  project : Option String
  executable : String
  deriving DecidableEq

inductive Command where
  | lint (a : LintArguments)
  | editor (a : EditorArguments)
  | web (a : WebArguments)
  deriving DecidableEq

namespace CommandLine

def parseOptions (room : Nat) (text : String) : Except Fault Fields := do
  match ← Json.readWithin room text with
  | .error e => .error (.badOptions s!"invalid JSON: {e.message text}")
  | .ok (.object fields) => .ok fields
  | .ok _ => .error (.badOptions "must be a JSON object")

abbrev Checked (α : Type) := Except Refusal α

def invalid {α : Type} (parameter reason : String) : Checked α :=
  .error (.usage (.invalidValue parameter reason))

def checkOptions (room : Nat) (text : String) : Checked Fields :=
  match parseOptions room text with
  | .ok fields => .ok fields
  | .error (.badOptions reason) => invalid "'--options'" reason
  | .error fault => .error (.fault fault)

def checkWhole (parameter text : String) : Checked Int :=
  match Numeral.ofText text with
  | .ok n => .ok n
  | .error _ => invalid parameter s!"{quoted text} is not a valid integer."

def checkName (path : String) : Checked Unit :=
  if '\x00' ∈ path.toList then .error (.fault .nullCharacter) else .ok ()

def checkExists (root : FileTree) (parameter path : String) : Checked String :=
  (checkName path).bind fun _ =>
    match root.find path with
    | .ok _ => .ok path
    | .error _ => invalid parameter s!"Path {quoted path} does not exist."

def checkFolder (root : FileTree) (parameter path : String) : Checked String :=
  (checkName path).bind fun _ =>
    match root.find path with
    | .ok (.file _) => invalid parameter s!"Directory {quoted path} is a file."
    | .ok _ => .ok path
    | .error _ => invalid parameter s!"Directory {quoted path} does not exist."

def checkAll {α β : Type} (check : α → Checked β) : List α → Checked (List β)
  | [] => .ok []
  | a :: rest => (check a).bind fun b => (checkAll check rest).map (b :: ·)

def enterAll {σ : Type} (enter : σ → String → String → Checked σ) :
    Entries String → σ → Checked σ
  | [], s => .ok s
  | (name, v) :: rest, s => (enter s name v).bind (enterAll enter rest)

def projectForm : OptionForm := ⟨"project", "--project", some 'p', true⟩

def projectParameter : String := "'--project' / '-p'"

def executableForm : OptionForm := ⟨"jslint", "--jslint", none, true⟩

def hostForm : OptionForm := ⟨"host", "--host", none, true⟩

def portForm : OptionForm := ⟨"port", "--port", none, true⟩

/-- Every command and the program itself can be asked for help. -/
def helpForm : OptionForm := ⟨"help", "--help", none, false⟩

def lintForms : List OptionForm :=
  [projectForm, ⟨"options", "--options", none, true⟩, ⟨"indent", "--indent", none, true⟩,
   ⟨"use-tabs", "--use-tabs", none, false⟩, executableForm, ⟨"output", "--output", some 'o', true⟩,
   helpForm]

def editorForms : List OptionForm :=
  [⟨"tcp", "--tcp", none, false⟩, hostForm, portForm, helpForm]

def webForms : List OptionForm :=
  [hostForm, portForm, ⟨"debug", "--debug", none, false⟩, projectForm, executableForm, helpForm]

def programForms : List OptionForm :=
  [⟨"version", "--version", none, false⟩, ⟨"verbose", "--verbose", some 'v', false⟩, helpForm]

def enterLint (disk : Disk) (a : LintArguments) (name v : String) : Checked LintArguments :=
  if name = "project" then
    (checkFolder disk.root projectParameter v).map fun v => { a with project := v }
  else if name = "options" then
    (checkOptions disk.room v).map fun v => { a with options := some v }
  else if name = "indent" then (checkWhole "'--indent'" v).map fun v => { a with indent := some v }
  else if name = "use-tabs" then .ok { a with useTabs := true }
  else if name = "jslint" then .ok { a with executable := v }
  else (checkName v).map fun _ => { a with output := some v }

def enterEditor (a : EditorArguments) (name v : String) : Checked EditorArguments :=
  if name = "tcp" then .ok { a with tcp := true }
  else if name = "host" then .ok { a with host := v }
  else (checkWhole "'--port'" v).map fun v => { a with port := v }

def enterWeb (root : FileTree) (a : WebArguments) (name v : String) : Checked WebArguments :=
  if name = "host" then .ok { a with host := v }
  else if name = "port" then (checkWhole "'--port'" v).map fun v => { a with port := v }
  else if name = "debug" then .ok { a with debug := true }
  else if name = "project" then
    (checkFolder root projectParameter v).map fun v => { a with project := some v }
  else .ok { a with executable := v }

def usage {α : Type} : Except UsageFault α → Checked α
  | .ok a => .ok a
  | .error u => .error (.usage u)

/-- The options and arguments of a command; whoever asks for help gets nothing else. -/
def givenTo (forms : List OptionForm) (words : List String) : Checked Given :=
  (usage (OptionScan.given forms true words)).bind fun given =>
    if Entries.has "help" given.options then .error .help else .ok given

def noExtra (words : List String) : Checked Unit :=
  if words.isEmpty then .ok () else .error (.usage (.extraArguments words))

def localHost : String := "127.0.0.1"

def readLint (disk : Disk) (words : List String) : Checked LintArguments := do
  let given ← givenTo lintForms words
  let a ← enterAll (enterLint disk) given.options ⟨[], ".", none, none, false, "jslint", none⟩
  let paths ← checkAll (checkExists disk.root "'PATHS...'") given.arguments
  if paths.isEmpty then .error (.usage (.missingArgument "'PATHS...'"))
  else .ok { a with paths := paths }

def readEditor (words : List String) : Checked EditorArguments := do
  let given ← givenTo editorForms words
  let a ← enterAll enterEditor given.options ⟨false, localHost, 2087⟩
  noExtra given.arguments
  .ok a

def readWeb (root : FileTree) (words : List String) : Checked WebArguments := do
  let given ← givenTo webForms words
  let a ← enterAll (enterWeb root) given.options ⟨localHost, 8080, false, none, "jslint"⟩
  noExtra given.arguments
  .ok a

inductive CommandName where
  | lint
  | editor
  | web
  deriving DecidableEq, Repr

namespace CommandName

def written : CommandName → String
  | lint => "lint"
  | editor => "lsp"
  | web => "serve"

def all : List CommandName := [lint, editor, web]

def ofText? (name : String) : Option CommandName := all.find? fun c => c.written = name

end CommandName

def readCommand (disk : Disk) (words : List String) : CommandName → Checked Command
  | .lint => (readLint disk words).map .lint
  | .editor => (readEditor words).map .editor
  | .web => (readWeb disk.root words).map .web

/-- What a whole command line asks for. What is wrong behind a known command leaves the program's
own options in force. Help is shown where it is asked for, and where nothing is asked for. -/
inductive Invocation where
  | version
  | help (asked : Bool)
  | refused (u : UsageFault)
  | command (verbose : Bool) (c : Checked Command)

def noSuchCommand (name : String) : Invocation :=
  .refused (.noSuchCommand name
    (Resemblance.suggestions name (CommandName.all.map CommandName.written)))

/-- The options that are answered at once; the one given first counts. -/
def answeredAtOnce (given : Given) : Option Invocation :=
  match (Entries.names given.options).find? (· ∈ ["version", "help"]) with
  | none => none
  | some name => some (if name = "version" then .version else .help true)

/-- A word that looks like an option stands where the command should: it is read as one. -/
def unknownCommand (name : String) (rest : List String) : Invocation :=
  if name.toList.head? = some '-' then
    match OptionScan.given programForms false (name :: rest) with
    | .error u => .refused u
    | .ok given => (answeredAtOnce given).getD (noSuchCommand name)
  else noSuchCommand name

def read (disk : Disk) (words : List String) : Invocation :=
  if words.isEmpty then .help false
  else
    match OptionScan.given programForms false words with
    | .error u => .refused u
    | .ok given =>
      match answeredAtOnce given, given.arguments with
      | some answer, _ => answer
      | none, [] => .refused .missingCommand
      | none, name :: rest =>
        match CommandName.ofText? name with
        | none => unknownCommand name rest
        | some command =>
          .command (Entries.has "verbose" given.options) (readCommand disk rest command)

end CommandLine

end LintRelay
