import LintRelay.Inspector

/-!
# Inspecting through the registry

A document goes to the providers for its language, one after the other. A provider that gives up
ends the inspection; of providers with one name the last result counts.
-/
namespace LintRelay.Action

def consult (text path : Value) (p : Provider) : Action (Option Inspection) :=
  match p.scanner with
  | .linter => scanFile text path
  | .scripted script => do
    emit (.scanned p.name text path)
    match script text path with
    | .answers r => return r
    | .fails reason => fail (.provider reason)

def consultAll (ask : Provider → Action (Option Inspection)) :
    List Provider → Entries (Option Inspection) → Action (Entries (Option Inspection))
  | [], results => pure results
  | p :: rest, results => do
    let r ← ask p
    consultAll ask rest (Entries.put p.name r results)

def inspect (language : Option String) (text path : Value) :
    Action (Entries (Option Inspection)) := do
  let h ← host
  if h.registry.enabled then consultAll (consult text path) (h.registry.providersFor language) []
  else return []

/-- The results for a document in what should be a language. -/
def inspectIn (language text path : Value) : Action (Entries (Option Inspection)) := do
  let h ← host
  if h.registry.enabled then inspect (← ofExcept (Registry.lookupName language)) text path
  else return []

def tellFollower (enabled : Bool) : Follower → Action Unit
  | .host => emit (.toggled enabled)
  | .projectConfig => setConfigEnabled enabled

/-- Switch inspection on or off, or over where nothing is said, and tell the followers. -/
def toggle (wanted : Option Bool) : Action Bool := do
  let before ← host
  let enabled := wanted.getD !before.registry.enabled
  update fun h => { h with registry := { h.registry with enabled := enabled } }
  each (tellFollower enabled) before.registry.followers
  return enabled

def isProvided (language : Option String) : Action Bool := do
  let h ← host
  return !(h.registry.providersFor language).isEmpty

end LintRelay.Action
