import LintRelay.Fault
import LintRelay.LiteralGrammar
import LintRelay.LiteralValue

/-!
# Handlers in markup

What is given to a handler: its name with arguments in brackets, or the arguments alone, which are
written as a literal.
-/
namespace LintRelay.Handler

/-- Names of handlers are words joined by points. -/
def isNameChar (c : Char) : Bool := WordTables.isWordChar c || c = '.'

/-- The arguments behind the name of a handler. A name alone has none; what is not of that form is
all arguments. -/
def arguments (cs : List Char) : List Char :=
  let behind := cs.dropWhile isNameChar
  if behind = [] then ['(', ')']
  else if behind.head? = some '(' ∧ behind.getLast? = some ')' ∧ '\n' ∉ behind then behind
  else cs

def check (written : List Char) : Except Fault Unit :=
  let shown := String.ofList written
  let read := arguments (CharacterTables.trim written)
  if '\x00' ∈ read then .error (.handlerProblem shown .nullCharacter)
  else
    match Literal.Grammar.read read with
    | .error mistake => .error (.handlerMistake (String.ofList read) shown mistake)
    | .ok t =>
      match t.kind? with
      | .error problem => .error (.handlerProblem shown problem)
      | .ok _ => .ok ()

end LintRelay.Handler
