import LintRelay.Event
import LintRelay.Indentation
import LintRelay.Registry

/-!
# The host and its actions

The host is all that an action can read and change: the files, the linter process, the inspector
with its settings, the registry and the open documents, and the record of what has happened. An
action that ends in a fault keeps what it had changed before.
-/
namespace LintRelay

structure Inspector where
  engine : Engine
  preferences : Value
  watchers : Nat
  config : ProjectConfig
  indentation : Indentation
  lastRun : Value
  deriving DecidableEq

/-- An open document with the path that its address stands for; the empty language is not known. -/
structure Document where
  path : String
  language : String
  text : String
  deriving DecidableEq

structure Host where
  disk : Disk
  tool : Nat → Launch → Outcome
  launches : Nat
  inspector : Inspector
  registry : Registry
  documents : Entries Document
  events : List Event

def Action (α : Type) : Type := Host → Except Fault α × Host

namespace Action

variable {α β : Type}

def pure (a : α) : Action α := fun h => (.ok a, h)

def bind (x : Action α) (f : α → Action β) : Action β := fun h =>
  match x h with
  | (.ok a, h') => f a h'
  | (.error fault, h') => (.error fault, h')

instance : Monad Action where
  pure := pure
  bind := bind

def fail (fault : Fault) : Action α := fun h => (.error fault, h)

def attempt (x : Action α) : Action (Except Fault α) := fun h =>
  match x h with
  | (r, h') => (.ok r, h')

def host : Action Host := fun h => (.ok h, h)

def update (f : Host → Host) : Action Unit := fun h => (.ok (), f h)

def ofExcept (r : Except Fault α) : Action α := fun h => (r, h)

def emit (e : Event) : Action Unit := update fun h => { h with events := h.events ++ [e] }

def ignore (x : Action α) : Action Unit := bind x fun _ => pure ()

def times : Nat → Action Unit → Action Unit
  | 0, _ => pure ()
  | n + 1, x => bind x fun _ => times n x

def each (act : α → Action Unit) : List α → Action Unit
  | [] => pure ()
  | a :: rest => bind (act a) fun _ => each act rest

theorem bind_ok {x : Action α} {h h' : Host} {a : α} (e : x h = (.ok a, h'))
    (f : α → Action β) : (x >>= f) h = f a h' := by
  show bind x f h = f a h'
  simp [bind, e]

theorem bind_error {x : Action α} {h h' : Host} {fault : Fault} (e : x h = (.error fault, h'))
    (f : α → Action β) : (x >>= f) h = (.error fault, h') := by
  show bind x f h = (.error fault, h')
  simp [bind, e]

end Action

namespace Host

def overview (h : Host) : Overview :=
  { enabled := h.registry.enabled
    configEnabled := h.inspector.config.enabled
    configPath := h.inspector.config.path
    config := h.inspector.config.loaded
    preferences := h.inspector.preferences
    lastRun := h.inspector.lastRun
    indent := h.inspector.indentation.size
    executable := h.inspector.engine.executable }

end Host

end LintRelay
