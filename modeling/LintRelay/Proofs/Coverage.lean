import LintRelay.Proofs.Inspecting

/-!
# What inspections cover

The linter takes up the options in force as soon as it is given a text, before anything can go wrong.
So a document with a text is covered by its inspection however that ends, and a run over all open
documents that succeeds covers each of them.
-/
namespace LintRelay

/-- The latest inspection of a path has taken up the options in force, and they are those of the last
run. -/
structure Host.Covers (h : Host) (path : String) : Prop where
  taken : lastTakenUp path h.events = some h.inspector.currentOptions
  lastRun : h.inspector.lastRun = h.inspector.currentOptions

def Host.Provides (h : Host) (p : String × Document) : Prop :=
  h.registry.providersFor (Subject.ofDocument p.1 p.2).languageId ≠ []

def Registry.LintsOnly (r : Registry) : Prop :=
  ∀ language, ∀ p ∈ r.providersFor language, p.scanner = .linter

theorem Inspected.covers {addressed : String → Prop} {h h' : Host} {path : String}
    (i : Inspected addressed h h') (hc : h.Covers path) : h'.Covers path := by
  obtain ⟨more, hmore, htaken, -⟩ := i.record
  refine ⟨?_, ?_⟩
  · rw [i.currentOptions, hmore]
    -- a later inspection of the path takes up the same options
    rcases lastTakenUp_append_cases path h.events more with e | ⟨options, hmem, e⟩
    · rw [e, hc.taken]
    · rw [e, htaken _ _ hmem]
  · rw [i.currentOptions]
    exact i.lastRun.elim (fun e => e.trans hc.lastRun) id

namespace Action

variable {path : String}

theorem Keeps.covers {α : Type} {x : Action α} (hx : Keeps (Inspected fun _ => True) x) :
    Keeps (Stays fun h => h.Covers path) x :=
  hx.mono fun _ _ i => i.covers

theorem publishSubject_anywhere (s : Subject) :
    Keeps (Inspected fun _ => True) (publishSubject s) := publishSubject_inspected s trivial

theorem rerunOpenDocuments_anywhere : Keeps (Inspected fun _ => True) rerunOpenDocuments :=
  keeps_host_bind fun h => keeps_each (fun _ _ => publishSubject_anywhere _) h

end Action

end LintRelay
