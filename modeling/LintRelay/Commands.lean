import LintRelay.Collection
import LintRelay.CommandLine
import LintRelay.Dispatch
import LintRelay.Markup
import LintRelay.Report

/-!
# Running commands

What the commands do: inspect files and show and save the results, serve an editor, or serve over
HTTP. Each ends with an exit code; a fault that a command does not expect escapes from it.
-/
namespace LintRelay

inductive ServerEnd where
  | stopped
  | interrupted
  | failed (reason : String)

structure Conclusion where
  exitCode : Nat
  usageError : Option String
  output : Option String
  verbose : Bool
  fault : Option Fault

namespace Action

def printMarkup (style markup : String) : Action Unit := do
  emit (.printed (← ofExcept (Markup.shown markup)) (some style))

def print (style markup : String) : Action Unit := printMarkup style (Markup.styled style markup)

def commandIndentation (indent : Option Int) (useTabs : Bool) : Indentation :=
  match indent with
  | some width =>
    if width ≠ 0 then ⟨useTabs, width, width⟩ else { Indentation.standard with useTabs := useTabs }
  | none => { Indentation.standard with useTabs := useTabs }

def prepare (project : Option String) (options : Option Fields) (indentation : Indentation)
    (executable : String) : Action Unit := do
  update fun h =>
    { h with
      inspector := Inspector.new { Engine.standard with executable := .str executable }
        (Value.ofFields? options) (.str ProjectConfig.standardName) indentation
      registry := Registry.new true }
  register
  match project with
  | some root => openProject (.str root)
  | none => pure ()

def lintFile (path : String) (results : Results) : Action Results := do
  let h ← host
  let text ← ofExcept (h.disk.readText path)
  let answers ← inspect (Language.ofPath path) (.str text) (.str path)
  return Entries.put path ((Entries.get? Inspector.name answers).getD none) results

def lintFiles : List String → Results → Action Results
  | [], results => pure results
  | path :: rest, results => do
    let results ← lintFile path results
    lintFiles rest results

def present (results : Results) : Action Unit := fun h =>
  let r := results.shown
  (r.1, { h with events := h.events ++ r.2 })

/-- Save the report; without a name for it nothing is saved. -/
def save (results : Results) (output : Option String) : Action Unit :=
  match output with
  | none => pure ()
  | some path =>
    if path = "" then pure ()
    else do
      let h ← host
      let disk ← ofExcept (h.disk.write path (Utf8.encode results.report.toList))
      update fun h => { h with disk := disk }
      print "green" s!"Results saved to {Markup.escape path}"

/-- Show and save the results; problems anywhere make the run fail. -/
def concludeLint (results : Results) (output : Option String) : Action Nat := do
  present results
  save results output
  return if results.hasProblems then 1 else 0

def lintCommand (a : LintArguments) : Action Nat := do
  prepare (some a.project) a.options (commandIndentation a.indent a.useTabs) a.executable
  if ← isAvailable then
    let h ← host
    match ← ofExcept (h.disk.root.collect a.paths) with
    | [] => do
      print "yellow" "No JavaScript or JSON files found"
      return 0
    | files =>
      match ← attempt (lintFiles files []) with
      | .error fault => do
        print "red" s!"Error during lint: {Markup.escape fault.message}"
        return 1
      | .ok results => concludeLint results a.output
  else do
    print "red" s!"JSLint not available: {Markup.escape a.executable}"
    return 1

def editorCommand (a : EditorArguments) : Action Nat := do
  emit (.servedEditor (if a.tcp then some (a.host, a.port) else none))
  return 0

def serveWeb (a : WebArguments) (serverEnd : ServerEnd) : Action Unit := do
  prepare a.project none Indentation.standard a.executable
  emit (.servedWeb a.host a.port a.debug)
  let h ← host
  emit (.overview h.overview)
  match serverEnd with
  | .stopped => pure ()
  | .interrupted => fail .interrupted
  | .failed reason => fail (.provider reason)

/-- The host is printed as it is given: it may carry tags, and tags that do not fit end the command
before anything is served. -/
def webCommand (a : WebArguments) (serverEnd : ServerEnd) : Action Nat := do
  print "bold green" s!"Starting inspection endpoint at http://{a.host}:{a.port}"
  print "dim" "Press Ctrl+C to stop"
  match ← attempt (serveWeb a serverEnd) with
  | .ok _ => return 0
  | .error .interrupted => do
    printMarkup "yellow" ("\n" ++ Markup.styled "yellow" "Endpoint stopped")
    return 0
  | .error fault => do
    print "red" s!"Failed to start endpoint: {Markup.escape fault.message}"
    return 1

def runCommand (serverEnd : ServerEnd) : Command → Action Nat
  | .lint a => lintCommand a
  | .editor a => editorCommand a
  | .web a => webCommand a serverEnd

end Action

namespace Program

def versionText : String := "main, version 1.0.0\n"

def usageExit (verbose : Bool) (u : UsageFault) : Conclusion :=
  ⟨2, some u.message, none, verbose, none⟩

def ofOutcome (verbose : Bool) : Except Fault Nat → Conclusion
  | .ok code => ⟨code, none, none, verbose, none⟩
  | .error fault => ⟨1, none, none, verbose, some fault⟩

def run (words : List String) (serverEnd : ServerEnd) (h : Host) : Conclusion × Host :=
  match CommandLine.read h.disk words with
  | .version => (⟨0, none, some versionText, false, none⟩, h)
  | .help asked => (⟨if asked then 0 else 2, none, none, false, none⟩, h)
  | .refused u => (usageExit false u, h)
  | .command verbose (.error (.usage u)) => (usageExit verbose u, h)
  | .command verbose (.error .help) => (⟨0, none, none, verbose, none⟩, h)
  | .command verbose (.error (.fault fault)) => (ofOutcome verbose (.error fault), h)
  | .command verbose (.ok c) =>
    let (outcome, h') := Action.runCommand serverEnd c h
    (ofOutcome verbose outcome, h')

end Program

end LintRelay
