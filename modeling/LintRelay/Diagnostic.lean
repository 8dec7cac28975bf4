import LintRelay.Inspection

/-!
# Diagnostics

What an editor shows at a position of a document. An editor accepts positions in a certain range and
messages that are texts; the first problem that is not fit to be shown ends the conversion.
-/
namespace LintRelay

inductive Severity where
  | error
  | warning
  | information
  deriving DecidableEq, Repr

def Severity.number : Severity → Nat
  | .error => 1
  | .warning => 2
  | .information => 3

def ProblemKind.severity : ProblemKind → Severity
  | .error => .error
  | .warning => .warning
  | .notice => .information

/-- A diagnostic begins and ends at one position. -/
structure Diagnostic where
  line : Int
  character : Int
  message : String
  severity : Severity
  source : String
  deriving DecidableEq, Repr

namespace Diagnostic

def inRange (n : Int) : Bool := 0 ≤ n && n ≤ Fault.greatestPosition

def ofProblem (source : String) (p : Problem) : Except Fault Diagnostic :=
  if !inRange p.line then .error (.position .line p.line)
  else if !inRange p.character then .error (.position .character p.character)
  else
    match p.message with
    | .str message => .ok ⟨p.line, p.character, message, p.kind.severity, source⟩
    | v => .error (.messageKind v.kind)

def ofProblems (source : String) : List Problem → Except Fault (List Diagnostic)
  | [] => .ok []
  | p :: rest => (ofProblem source p).bind fun d => (ofProblems source rest).map (d :: ·)

/-- The diagnostics of one inspection; a document without problems has none. -/
def ofInspection (source : String) : Option Inspection → Except Fault (List Diagnostic)
  | none => .ok []
  | some r => ofProblems source r.problems

def ofResults : Entries (Option Inspection) → Except Fault (List Diagnostic)
  | [] => .ok []
  | (source, r) :: rest => (ofInspection source r).bind fun ds => (ofResults rest).map (ds ++ ·)

end Diagnostic

end LintRelay
