import LintRelay.Fault
import LintRelay.PathName

/-!
# Languages by file name

The language of a document is known from the ending of its file name. Endings are compared without
regard to the case of ASCII letters, the only letters they consist of.
-/
namespace LintRelay.Language

def byEnding : Entries String :=
  [(".js", "javascript"), (".mjs", "javascript"), (".cjs", "javascript"), (".json", "json")]

def lowerAscii (s : String) : String := String.ofList (s.toList.map Char.toLower)

def linted : List String := ["javascript", "json"]

def ofPath (path : String) : Option String :=
  Entries.get? (lowerAscii (PathName.ofString path).suffix) byEnding

def ofPathValue : Value → Except Fault (Option String)
  | .str path => .ok (ofPath path)
  | v => .error (.pathKind v.kind)

theorem ofPath_mem_linted {path language : String} (h : ofPath path = some language) :
    language ∈ linted := by
  unfold ofPath at h
  generalize lowerAscii (PathName.ofString path).suffix = ending at h
  simp only [byEnding, Entries.get?] at h
  unfold linted
  grind

end LintRelay.Language
