/-!
# Blank lines

A line that holds spaces and tabs only is emptied before a text is linted, so that no line moves.
The text is walked through once; blanks at the start of a line wait until the line shows what it
holds.
-/
namespace LintRelay.BlankLines

def isBlank (c : Char) : Bool := c = ' ' || c = '\t'

/-- At the start of a line, behind waiting blanks, or inside it, where nothing waits any more. -/
inductive Place where
  | lineStart (waiting : List Char)
  | inLine

def emptiedFrom : Place → List Char → List Char
  | _, [] => []
  | .lineStart waiting, c :: rest =>
    if c = '\n' then c :: emptiedFrom (.lineStart []) rest
    else if isBlank c then emptiedFrom (.lineStart (waiting ++ [c])) rest
    else waiting ++ c :: emptiedFrom .inLine rest
  | .inLine, c :: rest =>
    if c = '\n' then c :: emptiedFrom (.lineStart []) rest else c :: emptiedFrom .inLine rest

def emptied (cs : List Char) : List Char := emptiedFrom (.lineStart []) cs

def emptiedText (s : String) : String := String.ofList (emptied s.toList)

end LintRelay.BlankLines
