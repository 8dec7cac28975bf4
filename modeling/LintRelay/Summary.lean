import LintRelay.Event
import LintRelay.Markup

/-!
# Results of several documents

What is shown and saved after a run over several documents: the counts, a table with a row for each
problem, and a report in JSON.
-/
namespace LintRelay

abbrev Results := Entries (Option Inspection)

namespace Results

def problemsOf : Option Inspection → List Problem
  | some r => r.problems
  | none => []

def isClean (r : Option Inspection) : Bool := (problemsOf r).isEmpty

def wasAborted : Option Inspection → Bool
  | some r => r.aborted
  | none => false

def cleanCount (results : Results) : Nat := results.countP fun p => isClean p.2

def problemCount (results : Results) : Nat :=
  results.foldr (fun p count => (problemsOf p.2).length + count) 0

def abortedCount (results : Results) : Nat := results.countP fun p => wasAborted p.2

def hasProblems (results : Results) : Bool := results.any fun p => !isClean p.2

def summaryText (results : Results) : String :=
  s!"Total Files: {results.length}\nClean Files: {cleanCount results}\n" ++
    s!"Problems: {problemCount results}\nStopped Early: {abortedCount results}"

def cell (text : String) : Except Fault String := Markup.shown (Markup.escape text)

/-- Lines and columns are shown counted from one. -/
def row (path : String) (p : Problem) : Except Fault (List String) :=
  match p.message with
  | .str message =>
    (cell path).bind fun path => (cell message).map fun message =>
      [path, toString (p.line + 1), toString (p.character + 1), p.kind.word, message]
  | v => .error (.searchedKind v.kind)

def rowsOf (path : String) : List Problem → Except Fault (List (List String))
  | [] => .ok []
  | p :: rest => (row path p).bind fun r => (rowsOf path rest).map (r :: ·)

def rows : Results → Except Fault (List (List String))
  | [] => .ok []
  | (path, r) :: rest => (rowsOf path (problemsOf r)).bind fun rs => (rows rest).map (rs ++ ·)

end Results

def ProblemKind.style : ProblemKind → String
  | .error => "red"
  | .warning => "yellow"
  | .notice => "dim"

namespace Results

def styles (results : Results) : List String :=
  results.flatMap fun p => (problemsOf p.2).map fun problem => problem.kind.style

def columns : List String := ["File", "Line", "Col", "Type", "Message"]

def shown (results : Results) : Except Fault Unit × List Event :=
  let summary := Event.panel "JSLint Summary" (summaryText results)
  if problemCount results = 0 then
    (.ok (), [summary, .printed "No problems found" (some "green")])
  else
    match rows results with
    | .error fault => (.error fault, [summary])
    | .ok rows => (.ok (), [summary, .table "Problems" columns ⟨rows, styles results⟩])

def toValue (results : Results) : Value :=
  .object (results.map fun p => (p.1, Inspection.optionToValue p.2))

end Results

end LintRelay
