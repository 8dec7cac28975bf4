import LintRelay.LiteralMistake
import LintRelay.LiteralTree

/-!
# Values of literals

Which expressions have a value of their own: constants, tuples, sets and mappings of such, numbers
with a sign, and complex numbers. Sets and mappings cannot be elements or keys.
-/
namespace LintRelay.Literal.Tree

def isNumber : Tree → Bool
  | constant .real | constant .imaginary => true
  | _ => false

def isSign (operator : String) : Bool := operator = "+" || operator = "-"

def isSignedReal : Tree → Bool
  | constant .real => true
  | unary operator (constant .real) => isSign operator
  | _ => false

def keyed : Option String → Except Problem Unit
  | some kind => .error (.unhashable kind)
  | none => .ok ()

mutual

/-- The kind of a value, if it can be no element or key. -/
def kind? : Tree → Except Problem (Option String)
  | constant _ => .ok none
  | tuple items => firstKind? items
  | set items => do
    checkElements items
    return some "set"
  | mapping entries => do
    checkEntries entries
    return some "dict"
  | call (name "set") false => .ok (some "set")
  | unary operator operand =>
    if isSign operator && isNumber operand then .ok none else .error .noLiteral
  | binary operator left (constant .imaginary) =>
    if isSign operator && isSignedReal left then .ok none else .error .noLiteral
  | _ => .error .noLiteral

def firstKind? : List Tree → Except Problem (Option String)
  | [] => .ok none
  | t :: rest => do
    let first ← kind? t
    let later ← firstKind? rest
    return first.or later

def checkElements : List Tree → Except Problem Unit
  | [] => .ok ()
  | t :: rest => do
    keyed (← kind? t)
    checkElements rest

def checkEntries : List Tree → Except Problem Unit
  | [] => .ok ()
  | pair key value :: rest => do
    let kind ← kind? key
    let _ ← kind? value
    keyed kind
    checkEntries rest
  | _ :: _ => .error .noKey

end

end LintRelay.Literal.Tree
