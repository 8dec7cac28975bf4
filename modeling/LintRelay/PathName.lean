import LintRelay.Separated

/-!
# Path names

A path name is a root and the components below it. Empty components and single dots say nothing and
are dropped, double dots stay, and two names are the same when root and components are. Exactly two
slashes in front are a root of their own.
-/
namespace LintRelay

inductive PathRoot where
  | relative
  | slash
  | doubleSlash
  deriving DecidableEq, Repr

structure PathName where
  root : PathRoot
  parts : List String
  deriving DecidableEq, Repr

namespace PathName

/-- The pieces of a path between slashes, empty ones included. -/
def pieces (path : String) : List String :=
  (piecesAt (· = '/') path.toList).map String.ofList

def saysSomething (part : String) : Bool := part != "" && part != "."

def rootOf : List Char → PathRoot
  | '/' :: '/' :: '/' :: _ => .slash
  | '/' :: '/' :: _ => .doubleSlash
  | '/' :: _ => .slash
  | _ => .relative

def ofString (path : String) : PathName :=
  ⟨rootOf path.toList, (pieces path).filter saysSomething⟩

def rootText : PathRoot → String
  | .relative => ""
  | .slash => "/"
  | .doubleSlash => "//"

def joined : List String → String
  | [] => ""
  | [part] => part
  | part :: rest => part ++ "/" ++ joined rest

/-- The written form; the name that says nothing is a dot. -/
def text (p : PathName) : String :=
  match p.root, p.parts with
  | .relative, [] => "."
  | root, parts => rootText root ++ joined parts

/-- A rooted name stands for itself below any other. -/
def append (p q : PathName) : PathName :=
  match q.root with
  | .relative => ⟨p.root, p.parts ++ q.parts⟩
  | _ => q

def baseName (path : List Char) : List Char := (path.reverse.takeWhile (· ≠ '/')).reverse

def below (folder name : String) : String :=
  if folder = "" then name
  else if folder.toList.getLast? = some '/' then folder ++ name
  else folder ++ "/" ++ name

/-- The ending of a name from its last dot on, if something stands on both sides of the dot. -/
def ending (name : List Char) : List Char :=
  let tail := (name.reverse.takeWhile (· ≠ '.')).reverse
  if tail.length = 0 ∨ name.length ≤ tail.length + 1 then [] else '.' :: tail

def suffix (p : PathName) : String :=
  match p.parts.getLast? with
  | some name => String.ofList (ending name.toList)
  | none => ""

theorem slash_not_mem_baseName (path : List Char) : '/' ∉ baseName path := by
  intro h
  have := List.all_takeWhile (l := path.reverse) (p := (· ≠ '/'))
  rw [List.all_eq_true] at this
  simpa using this '/' (List.mem_reverse.1 h)

end PathName

end LintRelay
