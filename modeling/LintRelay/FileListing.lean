import LintRelay.Entries
import LintRelay.Fault
import LintRelay.PathName

/-!
# Files by their full names

A listing keeps files under their full names and remembers every folder that was ever named. Paths
are resolved by their text alone, from the top folder on; a double dot takes back the name before
it.
-/
namespace LintRelay

structure FileListing where
  files : Entries (List UInt8)
  folders : List String
  deriving DecidableEq

namespace FileListing

def empty : FileListing := ⟨[], []⟩

/-- The names from the top folder down to the place of a path; the last name comes first. -/
def climb (names : List String) (part : String) : List String :=
  if part = ".." then names.tail
  else if PathName.saysSomething part then part :: names
  else names

def names (path : String) : List String := ((PathName.pieces path).foldl climb []).reverse

def key (names : List String) : String := "/" ++ PathName.joined names

def above (names : List String) : List String :=
  (List.range names.length).map fun n => key (names.take n)

/-- A name under which there ever was a folder is not read as a file. -/
def read (path : String) (d : FileListing) : Except Fault (List UInt8) :=
  if '\x00' ∈ path.toList then .error .nullCharacter
  else
    let place := names path
    if place = [] ∨ key place ∈ d.folders then .error (.file .isFolder path)
    else
      match Entries.get? (key place) d.files with
      | some bytes => .ok bytes
      | none =>
        if (above place).any fun k => Entries.has k d.files then .error (.file .notFolder path)
        else .error (.file .missing path)

def isFolder (path : String) (d : FileListing) : Bool :=
  '\x00' ∉ path.toList && (names path = [] || key (names path) ∈ d.folders)

def addFolders (more : List String) (d : FileListing) : FileListing :=
  { d with folders := d.folders ++ more.filter (· ∉ d.folders) }

def addFolder (path : String) (d : FileListing) : FileListing :=
  addFolders (above (names path) ++ [key (names path)]) d

/-- The folders above a written file come into being with it. -/
def write (path : String) (bytes : List UInt8) (d : FileListing) : FileListing :=
  let d := addFolders (above (names path)) d
  { d with files := Entries.put (key (names path)) bytes d.files }

def remove (path : String) (d : FileListing) : FileListing :=
  { d with files := Entries.erase (key (names path)) d.files }

end FileListing

end LintRelay
