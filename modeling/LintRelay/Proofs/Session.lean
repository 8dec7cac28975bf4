import LintRelay.Editor
import LintRelay.Endpoint
import LintRelay.Proofs.Keeping

/-!
# Sessions

A session is a run of steps on one host. Every step starts from the host that the one before has left,
also where that one ended in a fault. Between the messages of an editor or the requests of clients the
files and the linter may turn into anything.
-/
namespace LintRelay

/-- What an editor sends. -/
inductive Message where
  | initialized (options : Value) (root : String) (folders : List String)
  | opened (uri language text : String)
  | changed (uri text : String)
  | saved (uri : String)
  | closed (uri : String)
  | configured (settings : Value)
  | foldersAdded (folders : List String)
  | filesChanged (uris : List String)
  | switchedOver
  deriving DecidableEq

def Message.handle : Message → Action Unit
  | initialized options root folders => Action.initialized options root folders
  | opened uri language text => Action.opened uri language text
  | changed uri text => Action.changed uri text
  | saved uri => Action.saved uri
  | closed uri => Action.closed uri
  | configured settings => Action.applySettings settings
  | foldersAdded folders => Action.foldersAdded folders
  | filesChanged uris => Action.filesChanged uris
  | switchedOver => Action.ignore Action.switchOver

/-- What changes around the program. Other files stand for any writes and removals, another tool for
any behaviour of the linter from now on. -/
inductive Surrounding where
  | files (disk : Disk)
  | linter (tool : Nat → Launch → Outcome)

def Surrounding.change : Surrounding → Host → Host
  | files disk, h => { h with disk := disk }
  | linter tool, h => { h with tool := tool }

/-- A step of an editor session. -/
inductive EditorStep where
  | message (m : Message)
  | around (s : Surrounding)

namespace EditorStep

def perform : EditorStep → Action Unit
  | message m => m.handle
  | around s => Action.update s.change

end EditorStep

/-- A step of any session: what an editor does, a request, inspection switched by somebody else, a
project opened by whoever runs the server. -/
inductive SessionStep where
  | editor (s : EditorStep)
  | request (r : Request)
  | toggled (wanted : Option Bool)
  | projectOpened (root : Value)

namespace SessionStep

def perform : SessionStep → Action Unit
  | editor s => s.perform
  | request r => Action.ignore (Action.respond r)
  | toggled wanted => Action.ignore (Action.toggle wanted)
  | projectOpened root => Action.openProject root

/-- The steps that are there to switch inspection on or off. -/
def switches : SessionStep → Bool
  | editor (.message .switchedOver) => true
  | toggled _ => true
  | _ => false

end SessionStep

section Runs

variable {σ : Type} {perform : σ → Action Unit} {ok : σ → Host → Prop} {P : Host → Prop}

def after (perform : σ → Action Unit) (steps : List σ) (h : Host) : Host :=
  steps.foldl (fun h s => (perform s h).2) h

/-- Each step of a run meets a condition together with the host it finds. -/
def Along (perform : σ → Action Unit) (ok : σ → Host → Prop) : List σ → Host → Prop
  | [], _ => True
  | s :: rest, h => ok s h ∧ Along perform ok rest (perform s h).2

/-- What relates the hosts around each step relates the hosts around a run. -/
theorem after_keeps {R : Host → Host → Prop} [IsPreorder Host R] {steps : List σ}
    (hsteps : ∀ s ∈ steps, Action.Keeps R (perform s)) : ∀ h, R h (after perform steps h) := by
  induction steps with
  | nil => exact fun h => Std.Refl.refl h
  | cons s rest ih =>
    intro h
    have hfirst : R h (perform s h).2 := hsteps s List.mem_cons_self h
    have hrest := ih (fun t ht => hsteps t (List.mem_cons_of_mem s ht)) (perform s h).2
    exact IsTrans.trans _ _ _ hfirst hrest

/-- What every step keeps, a run keeps. -/
theorem after_stays (hstep : ∀ s, Action.Keeps (Action.Stays P) (perform s)) (steps : List σ)
    {h : Host} (hP : P h) : P (after perform steps h) :=
  after_keeps (fun s _ => hstep s) h hP

/-- What every step keeps that meets the condition, a run along the condition keeps. -/
theorem Along.stays (hstep : ∀ s h, ok s h → P h → P (perform s h).2) {steps : List σ} {h : Host}
    (hrun : Along perform ok steps h) (hP : P h) : P (after perform steps h) := by
  induction steps generalizing h with
  | nil => exact hP
  | cons s rest ih => exact ih hrun.2 (hstep s h hrun.1 hP)

end Runs

namespace Host

/-- The host of an editor session, before its first message, whose server was given an inspector. -/
def editing (disk : Disk) (tool : Nat → Launch → Outcome) (inspector : Inspector) : Host :=
  (Action.register (new disk tool inspector (Registry.new true))).2

def bareEditor : Host :=
  editing (.listing ⟨[], ["/"]⟩) (fun _ _ => .missing) standardInspector

end Host

end LintRelay
