/-!
# Shapes of literals

What a literal is made of. Expressions that are no literals are known only by the words for them,
as far as messages do not look into them.
-/
namespace LintRelay.Literal

inductive Constant where
  | real
  | imaginary
  | text
  | bytes
  | yes
  | no
  | nothing
  | ellipsis
  deriving DecidableEq, Repr

inductive Tree where
  | name (id : String)
  | constant (c : Constant)
  | tuple (items : List Tree)
  | set (items : List Tree)
  /-- The entries are pairs and unpacked mappings. -/
  | mapping (entries : List Tree)
  | pair (key value : Tree)
  | unpacked (mapping : Tree)
  | starred (items : Tree)
  | unary (operator : String) (operand : Tree)
  | binary (operator : String) (left right : Tree)
  | comparison (operator : String) (left : Tree)
  | member
  | call (function : Tree) (hasArguments : Bool)
  /-- The arguments of a call: how many stand for places, and whether a mapping is unpacked. -/
  | arguments (places : Nat) (unpacks : Bool)
  | other (word : String)

namespace Constant

def word : Constant → String
  | real | imaginary | text | bytes => "literal"
  | yes => "True"
  | no => "False"
  | nothing => "None"
  | ellipsis => "ellipsis"

end Constant

namespace Tree

def word : Tree → String
  | name _ => "name"
  | constant c => c.word
  | tuple _ => "tuple"
  | set _ => "set display"
  | mapping _ => "dict literal"
  | starred _ => "starred"
  | unary _ _ | binary _ _ _ => "expression"
  | comparison _ _ => "comparison"
  | member => "attribute"
  | call _ _ => "function call"
  | other word => word
  | pair _ _ | unpacked _ | arguments _ _ => ""

mutual

/-- What cannot be assigned to in the targets of a loop. The left side of a membership test counts
as targets. -/
def badTarget? : Tree → Option Tree
  | name _ | member => none
  | tuple items => badTargetOf? items
  | starred items => badTarget? items
  | comparison operator left => if operator = "in" then badTarget? left else none
  | t => some t

def badTargetOf? : List Tree → Option Tree
  | [] => none
  | t :: rest => (badTarget? t).or (badTargetOf? rest)

end

end Tree

end LintRelay.Literal
