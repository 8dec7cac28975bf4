import LintRelay.FileTree
import LintRelay.Language

/-!
# Collecting files

The files to inspect below given paths. A file stands for itself; below a folder the files of a
linted language are taken, in every folder first its own files and then those of its subfolders,
each in ascending order of their names. Some folders are never entered, and none is whose path is
too long.
-/
namespace LintRelay

def skippedFolders : List String := ["node_modules", ".git"]

def isLintedName (name : String) : Bool := (Language.ofPath name).isSome

namespace FileTree

def ownNames (entries : List (String × FileTree)) : List String :=
  Entries.names (Entries.sorted
    (entries.filter fun p => !p.2.isFolderNode && isLintedName p.1))

mutual

def collected (place : String) : FileTree → List String
  | folder entries =>
    if isTooLong place then []
    else
      (ownNames entries).map (PathName.below place) ++
        (Entries.sorted (collectedBelow place entries)).flatMap Prod.snd
  | _ => []

/-- What each entry of a folder adds, by its name. -/
def collectedBelow (place : String) : List (String × FileTree) → Entries (List String)
  | [] => []
  | (name, node) :: rest =>
    if name ∈ skippedFolders then collectedBelow place rest
    else (name, collected (PathName.below place name) node) :: collectedBelow place rest

end

def collectPath (root : FileTree) (path : String) : Except Fault (List String) :=
  if '\x00' ∈ path.toList then .error .nullCharacter
  else if root.isFile path then .ok [path]
  else
    match root.find path with
    | .ok node => .ok (node.collected path)
    | .error _ => .ok []

def collect (root : FileTree) : List String → Except Fault (List String)
  | [] => .ok []
  | path :: rest =>
    (collectPath root path).bind fun files => (collect root rest).map (files ++ ·)

end FileTree

end LintRelay
