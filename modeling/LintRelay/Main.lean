import LintRelay.Commands

/-!
# The program

Runs a command line against the files that its words name. The linter itself is run beforehand:
each line of standard input is what it wrote at one of its starts, in their order, and when no line
is left it counts as missing.
-/
namespace LintRelay.Program

/-- The outcome of every start of the linter, from the lines it wrote. -/
def toolOf (lines : List String) : Nat → Launch → Outcome := fun n _ =>
  match lines[n]? with
  | some line => .finished line "" 0
  | none => .missing

def rowText (cells : List String) : String := UsageFault.spaced cells

def linesOf : Event → List String
  | .complained text => [text]
  | .printed text _ => [text]
  | .panel title text => [title, text]
  | .table title columns content => title :: rowText columns :: content.rows.map rowText
  | .servedEditor none => ["serving an editor on standard input and output"]
  | .servedEditor (some (host, port)) => [s!"serving an editor at {host}:{port}"]
  | .servedWeb host port _ => [s!"serving at {host}:{port}"]
  | _ => []

def linesOfConclusion (c : Conclusion) : List String :=
  (c.usageError.map fun text => "Error: " ++ text).toList ++ c.output.toList ++
    (c.fault.map Fault.message).toList

/-- The names under which files may be wanted: every word, the value attached to an option, and the
configuration file of every folder so named. -/
def wanted (words : List String) : List String :=
  let plain := words ++ words.map fun w => String.ofList ((w.toList.dropWhile (· ≠ '=')).drop 1)
  ProjectConfig.standardName :: plain ++
    plain.map fun w => PathName.below w ProjectConfig.standardName

def addFile (root : FileTree) (path : String) : IO FileTree := do
  try
    let bytes ← IO.FS.readBinFile path
    return root.add path (.file bytes.toList)
  catch _ => return root

def saveChanged (before after : Disk) (path : String) : IO Unit := do
  match before.readBytes path, after.readBytes path with
  | .ok old, .ok new => if old ≠ new then IO.FS.writeBinFile path ⟨new.toArray⟩
  | .error _, .ok new => IO.FS.writeBinFile path ⟨new.toArray⟩
  | _, .error _ => return ()

def start (words : List String) : IO UInt32 := do
  let disk := Disk.tree (← (wanted words).foldlM addFile FileTree.empty)
  let input ← (← IO.getStdin).readToEnd
  let lines := (input.splitOn "\n").filter (· ≠ "")
  let h := Host.new disk (toolOf lines) Host.standardInspector (Registry.new true)
  let (c, h') := run words .stopped h
  (wanted words).forM (saveChanged disk h'.disk)
  (h'.events.flatMap linesOf).forM fun line => IO.println line
  (linesOfConclusion c).forM fun line => IO.eprintln line
  return UInt32.ofNat c.exitCode

end LintRelay.Program

def main (words : List String) : IO UInt32 := LintRelay.Program.start words
