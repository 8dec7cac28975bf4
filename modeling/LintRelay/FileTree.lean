import LintRelay.Entries
import LintRelay.Fault
import LintRelay.PathName

/-!
# A tree of files

Folders hold files and folders under their names. A path is followed component by component from the
current folder, the top of the tree: whatever a component is applied to must be a folder, also for
an empty last component. Around the tree lies the system's own, of which only the standard folders
are known; how to get from there into the tree is not. Paths and names have a greatest length.
-/
namespace LintRelay

/-- A sink is no file and no folder: it swallows what is written to it and has nothing to read. -/
inductive FileTree where
  | file (bytes : List UInt8)
  | folder (entries : List (String × FileTree))
  | sink

namespace FileTree

def empty : FileTree := folder []

def at? : FileTree → List String → Option FileTree
  | node, [] => some node
  | folder entries, name :: rest =>
    match Entries.get? name entries with
    | some node => at? node rest
    | none => none
  | _, _ :: _ => none

/-- What is known of the system's folders. -/
def system : FileTree :=
  folder (("dev", folder [("null", sink)]) ::
    ["bin", "boot", "etc", "home", "lib", "media", "mnt", "opt", "proc", "root", "run", "sbin",
     "srv", "sys", "tmp", "usr", "var"].map fun name => (name, empty))

/-- A place by the names that lead to it, the last one first: in the tree, or from the system's top
folder. Above the tree lie folders of which nothing is known. -/
inductive Place where
  | inside (names : List String)
  | outside (names : List String)
  | above
  deriving DecidableEq

namespace Place

def parent : Place → Place
  | inside [] => above
  | inside (_ :: names) => inside names
  | outside names => outside names.tail
  | above => above

def child (name : String) : Place → Place
  | inside names => inside (name :: names)
  | outside names => outside (name :: names)
  | above => above

end Place

def nodeAt (root : FileTree) : Place → Option FileTree
  | .inside names => root.at? names.reverse
  | .outside names => system.at? names.reverse
  | .above => some empty

def isFolderNode : FileTree → Bool
  | folder _ => true
  | _ => false

def longestName : Nat := 255

def longestPath : Nat := 4095

def isTooLong (path : String) : Bool := longestPath < path.utf8ByteSize

def follow (root : FileTree) (part : String) (place : Place) : Except FileProblem Place :=
  match root.nodeAt place with
  | none => .error .missing
  | some (folder entries) =>
    if part = "" ∨ part = "." then .ok place
    else if part = ".." then .ok place.parent
    else if longestName < part.utf8ByteSize then .error .nameTooLong
    else if Entries.has part entries then .ok (place.child part)
    else .error .missing
  | some _ => .error .notFolder

def followAll (root : FileTree) : List String → Place → Except FileProblem Place
  | [], place => .ok place
  | part :: rest, place => (follow root part place).bind (followAll root rest)

/-- Where a path begins: a leading slash leads out of the tree. -/
def beginning (path : String) : Place :=
  if path.toList.head? = some '/' then .outside [] else .inside []

def locate (root : FileTree) (path : String) : Except FileProblem Place :=
  if path = "" then .error .missing
  else if isTooLong path then .error .nameTooLong
  else followAll root (PathName.pieces path) (beginning path)

def find (root : FileTree) (path : String) : Except FileProblem FileTree :=
  (locate root path).bind fun place =>
    match root.nodeAt place with
    | some node => .ok node
    | none => .error .missing

def read (path : String) (root : FileTree) : Except Fault (List UInt8) :=
  if '\x00' ∈ path.toList then .error .nullCharacter
  else
    match find root path with
    | .ok (file bytes) => .ok bytes
    | .ok (folder _) => .error (.file .isFolder path)
    | .ok sink => .ok []
    | .error problem => .error (.file problem path)

def isFolder (path : String) (root : FileTree) : Bool :=
  '\x00' ∉ path.toList &&
    match find root path with
    | .ok (folder _) => true
    | _ => false

def isFile (root : FileTree) (path : String) : Bool :=
  '\x00' ∉ path.toList &&
    match find root path with
    | .ok (file _) => true
    | _ => false

def insert (node : FileTree) : List String → FileTree → FileTree
  | [], _ => node
  | name :: rest, folder entries =>
    folder (Entries.put name (insert node rest ((Entries.get? name entries).getD empty)) entries)
  | name :: rest, _ => folder [(name, insert node rest empty)]

def add (root : FileTree) (path : String) (node : FileTree) : FileTree :=
  insert node ((PathName.pieces path).filter PathName.saysSomething) root

def addFolder (root : FileTree) (path : String) : FileTree :=
  let names := (PathName.pieces path).filter PathName.saysSomething
  match at? root names with
  | some _ => root
  | none => insert empty names root

def writtenPieces (path : String) : List String :=
  ((PathName.pieces path).reverse.dropWhile (· = "")).reverse

/-- Write to a name in a folder. What is written outside the tree leaves it as it is. -/
def writeChild (bytes : List UInt8) (root : FileTree) (name : String)
    (entries : List (String × FileTree)) (place : Place) : Except FileProblem FileTree :=
  if longestName < name.utf8ByteSize then .error .nameTooLong
  else
    match Entries.get? name entries, place with
    | some (folder _), _ => .error .isFolder
    | some sink, _ => .ok root
    | _, .inside names => .ok (insert (file bytes) (names.reverse ++ [name]) root)
    | _, _ => .ok root

/-- Write a file; its folder must be there. A name that only a folder can have, or with a slash
behind it, is not written to, whether or not it is there. -/
def tryWrite (path : String) (bytes : List UInt8) (root : FileTree) :
    Except FileProblem FileTree :=
  if path = "" then .error .missing
  else if isTooLong path then .error .nameTooLong
  else
    match (writtenPieces path).reverse with
    | [] => .error .isFolder
    | name :: before =>
      (followAll root before.reverse (beginning path)).bind fun place =>
        match root.nodeAt place with
        | none => .error .missing
        | some (folder entries) =>
          if name = "." ∨ name = ".." ∨ path.toList.getLast? = some '/' then .error .isFolder
          else writeChild bytes root name entries place
        | some _ => .error .notFolder

def write (path : String) (bytes : List UInt8) (root : FileTree) : Except Fault FileTree :=
  if '\x00' ∈ path.toList then .error .nullCharacter
  else
    match tryWrite path bytes root with
    | .ok root => .ok root
    | .error problem => .error (.file problem path)

end FileTree

end LintRelay
