import LintRelay.Numeral

/-!
# Inspections

The result of inspecting a document: positioned problems, counted from zero, and whether the linter
gave up before the end. A lint report counts from one, and it marks giving up by a null among its
entries; the problem before that is the notice that tells why.
-/
namespace LintRelay

inductive ProblemKind where
  | error
  | warning
  | notice
  deriving DecidableEq, Repr

namespace ProblemKind

def identifier : ProblemKind → String
  | error => "problem_type_error"
  | warning => "problem_type_warning"
  | notice => "problem_type_meta"

def word : ProblemKind → String
  | error => "error"
  | warning => "warning"
  | notice => "meta"

end ProblemKind

structure Problem where
  line : Int
  character : Int
  message : Value
  kind : ProblemKind
  deriving DecidableEq

structure Inspection where
  problems : List Problem
  aborted : Bool
  deriving DecidableEq

namespace Problem

def toValue (p : Problem) : Value :=
  .object
    [("pos", .object [("line", .int p.line), ("ch", .int p.character)]), ("message", p.message),
     ("type", .str p.kind.identifier)]

/-- A missing or empty number counts as one; no position lies before the start. -/
def position? (reported : Value) : Except Fault Int :=
  let counted := if reported.isTruthy then reported else .int 1
  counted.whole?.map fun n => max (n - 1) 0

def reason (fields : Fields) : Value := (Entries.get? "reason" fields).getD (.str "")

def ofEntry : Value → Except Fault Problem
  | .object fields =>
    (position? (Value.fieldOrNull "line" fields)).bind fun line =>
      (position? (Value.fieldOrNull "character" fields)).bind fun character =>
        .ok ⟨line, character, reason fields, .warning⟩
  | v => .error (.noMember v.kind "get")

def ofEntries : List Value → Except Fault (List Problem)
  | [] => .ok []
  | v :: rest => (ofEntry v).bind fun p => (ofEntries rest).map (p :: ·)

/-- The last problem becomes a notice. -/
def markLast : List Problem → List Problem
  | [] => []
  | [p] => [{ p with kind := .notice }]
  | p :: rest => p :: markLast rest

end Problem

namespace Inspection

def count (r : Inspection) : Nat := r.problems.length

def toValue (r : Inspection) : Value :=
  .object [("errors", .list (r.problems.map Problem.toValue)), ("aborted", .bool r.aborted)]

/-- Null stands for a document without problems. -/
def optionToValue : Option Inspection → Value
  | some r => r.toValue
  | none => .null

def ofReport (entries : List Value) : Except Fault Inspection :=
  (Problem.ofEntries (entries.filter (!·.isNull))).map fun problems =>
    if entries.any Value.isNull then ⟨Problem.markLast problems, true⟩ else ⟨problems, false⟩

theorem length_markLast (problems : List Problem) :
    (Problem.markLast problems).length = problems.length := by
  fun_induction Problem.markLast problems <;> simp_all

end Inspection

end LintRelay
