import LintRelay.Inspection
import LintRelay.Language

/-!
# Inspection providers

Providers are registered by language and called in the order of their registration. The registry
also holds the switch for inspection as a whole, and who follows it.
-/
namespace LintRelay

inductive Script where
  | answers (r : Option Inspection)
  | fails (reason : String)
  deriving DecidableEq

inductive Scanner where
  | linter
  | scripted (script : Value → Value → Script)

structure Provider where
  name : String
  scanner : Scanner

/-- Who is told when inspection is switched: the host itself, or the project configuration. -/
inductive Follower where
  | host
  | projectConfig
  deriving DecidableEq, Repr

structure Registry where
  enabled : Bool
  providers : Entries (List Provider)
  followers : List Follower

namespace Registry

def new (enabled : Bool) : Registry := ⟨enabled, [], []⟩

def register (language : String) (p : Provider) (r : Registry) : Registry :=
  let known := (Entries.get? language r.providers).getD []
  { r with providers := Entries.put language (known ++ [p]) r.providers }

def providersFor (language : Option String) (r : Registry) : List Provider :=
  match language with
  | some language => (Entries.get? language r.providers).getD []
  | none => []

/-- The name under which providers may be found; lists and objects cannot be looked up. -/
def lookupName : Value → Except Fault (Option String)
  | .str language => .ok (some language)
  | .list _ => .error (.nameKind .list)
  | .object _ => .error (.nameKind .object)
  | _ => .ok none

theorem providersFor_register_self (language : String) (p : Provider) (r : Registry) :
    (r.register language p).providersFor (some language) =
      r.providersFor (some language) ++ [p] := by
  simp [register, providersFor, Entries.get?_put_self]

theorem providersFor_register_of_ne {language other : String} (h : other ≠ language)
    (p : Provider) (r : Registry) :
    (r.register language p).providersFor (some other) = r.providersFor (some other) := by
  simp [register, providersFor, Entries.get?_put_of_ne h]

def registerAll (languages : List String) (p : Provider) (r : Registry) : Registry :=
  languages.foldl (fun r language => r.register language p) r

def follow (f : Follower) (r : Registry) : Registry := { r with followers := r.followers ++ [f] }

end Registry

end LintRelay
