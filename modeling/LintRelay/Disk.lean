import LintRelay.FileListing
import LintRelay.FileTree
import LintRelay.JsonLimits
import LintRelay.LineEnds

/-!
# Files

Where the program reads files from: either a listing of files by their full names or a tree.
Texts are read as UTF-8 with one form of line end.
-/
namespace LintRelay

inductive Files where
  | listing (files : FileListing)
  | tree (root : FileTree)

/-- The files, and the room there is for reading a text as JSON. -/
structure Disk where
  files : Files
  room : Nat

namespace Disk

def listing (files : FileListing) : Disk := ⟨.listing files, Json.usualRoom⟩

def tree (root : FileTree) : Disk := ⟨.tree root, Json.usualRoom⟩

/-- The tree that commands work on; a listing shows none. -/
def root (d : Disk) : FileTree :=
  match d.files with
  | .listing _ => FileTree.empty
  | .tree root => root

def readBytes (path : String) (d : Disk) : Except Fault (List UInt8) :=
  match d.files with
  | .listing files => files.read path
  | .tree root => root.read path

def isFolder (path : String) (d : Disk) : Bool :=
  match d.files with
  | .listing files => files.isFolder path
  | .tree root => root.isFolder path

def decodeText (bytes : List UInt8) : Except Fault String :=
  match Utf8.decode bytes with
  | .ok cs => .ok (String.ofList (LineEnds.unify cs))
  | .error fault => .error (.badBytes fault)

def readText (path : String) (d : Disk) : Except Fault String :=
  (d.readBytes path).bind decodeText

def write (path : String) (bytes : List UInt8) (d : Disk) : Except Fault Disk :=
  match d.files with
  | .listing files => .ok { d with files := .listing (files.write path bytes) }
  | .tree root => (root.write path bytes).map fun root => { d with files := .tree root }

end Disk

end LintRelay
