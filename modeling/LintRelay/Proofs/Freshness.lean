import LintRelay.Proofs.Coverage
import LintRelay.Proofs.Switch

/-!
# Open documents are up to date

While inspection is on, every open document was last inspected with the options in force, and these
are also the options of the last run. The second half is what allows a change of preferences that
repeats the options of the last run to ask for nothing. Options count as equal when they say the same,
so a bare not-a-number must be kept out: it is not the same as itself.
-/
namespace LintRelay

namespace Host

def Usable (h : Host) : Prop := h.inspector.preferences ≠ .float .nan

/-- The latest inspection of a path and the last run of all have taken up options that say the same as
those in force. -/
structure UpToDate (h : Host) (path : String) : Prop where
  taken : ∃ options, lastTakenUp path h.events = some options ∧
    Value.same options h.inspector.currentOptions = true
  lastRun : Value.same h.inspector.lastRun h.inspector.currentOptions = true

/-- While inspection is on, open documents are up to date, as far as there is a provider for them. -/
def Fresh (h : Host) : Prop :=
  h.registry.enabled = true → ∀ p ∈ h.documents, h.Provides p → h.UpToDate p.2.path

/-- The linter alone is registered, and the preferences are watched. -/
structure Serving (h : Host) : Prop where
  lints : h.registry.LintsOnly
  watched : 0 < h.inspector.watchers

/-- Between two messages. -/
structure Settled (h : Host) : Prop extends Serving h where
  fresh : h.Usable → h.Fresh

theorem currentOptions_ne_nan {h : Host} (hu : h.Usable) :
    h.inspector.currentOptions ≠ .float .nan := by
  unfold Inspector.currentOptions
  cases h.inspector.config.loaded with
  | none => exact hu
  | some fields => simp

theorem Covers.upToDate {h : Host} {path : String} (hc : h.Covers path) (hu : h.Usable) :
    h.UpToDate path := by
  have hself := Value.same_self (currentOptions_ne_nan hu)
  refine ⟨⟨_, hc.taken, hself⟩, ?_⟩
  rw [hc.lastRun]
  exact hself

end Host

variable {h h' : Host}

theorem Inspected.usable {addressed : String → Prop} (i : Inspected addressed h h') :
    h'.Usable ↔ h.Usable := by
  rw [Host.Usable, i.preferences, Host.Usable]

theorem Inspected.upToDate {addressed : String → Prop} {path : String}
    (i : Inspected addressed h h') (hu : h.Usable) (hd : h.UpToDate path) : h'.UpToDate path := by
  obtain ⟨⟨options, htaken, hsame⟩, hrun⟩ := hd
  obtain ⟨more, hmore, hmoretaken, -⟩ := i.record
  have hself := Value.same_self (Host.currentOptions_ne_nan hu)
  refine ⟨?_, ?_⟩
  · rw [i.currentOptions, hmore]
    rcases lastTakenUp_append_cases path h.events more with e | ⟨o, hmem, e⟩
    · exact ⟨options, e.trans htaken, hsame⟩
    · exact ⟨o, e, hmoretaken _ _ hmem ▸ hself⟩
  · rw [i.currentOptions]
    rcases i.lastRun with e | e
    · rw [e]
      exact hrun
    · rw [e]
      exact hself

theorem Host.Serving.transfer (hs : h.Serving)
    (hproviders : h'.registry.providers = h.registry.providers)
    (hwatchers : h'.inspector.watchers = h.inspector.watchers) : h'.Serving := by
  have hsame (language : Option String) :
      h'.registry.providersFor language = h.registry.providersFor language := by
    unfold Registry.providersFor
    rw [hproviders]
  refine ⟨fun language p hp => hs.lints language p ?_, ?_⟩
  · rw [← hsame]
    exact hp
  · rw [hwatchers]
    exact hs.watched

theorem Inspected.serving {addressed : String → Prop} (i : Inspected addressed h h')
    (hs : h.Serving) : h'.Serving := hs.transfer (by rw [i.registry]) i.watchers

theorem Unswitched.serving (i : Unswitched h h') (hs : h.Serving) : h'.Serving :=
  hs.transfer (by rw [i.registry]) i.watchers

theorem Inspected.provides {addressed : String → Prop} (i : Inspected addressed h h')
    (p : String × Document) : h'.Provides p ↔ h.Provides p := by
  rw [Host.Provides, i.registry, Host.Provides]

theorem Inspected.settled {addressed : String → Prop} (i : Inspected addressed h h')
    (hs : h.Settled) : h'.Settled := by
  refine ⟨i.serving hs.toServing, fun hu hon p hp hprovided => ?_⟩
  rw [i.registry] at hon
  rw [i.documents] at hp
  exact i.upToDate (i.usable.1 hu) (hs.fresh (i.usable.1 hu) hon p hp ((i.provides p).1 hprovided))

theorem Host.Settled.withDocuments (hs : h.Settled) {documents : Entries Document}
    (hd : ∀ p ∈ documents, ∃ q ∈ h.documents,
      q.2.path = p.2.path ∧ q.2.language = p.2.language) :
    Host.Settled { h with documents := documents } := by
  refine ⟨⟨hs.lints, hs.watched⟩, fun hu hon p hp hprovided => ?_⟩
  obtain ⟨q, hq, hpath, hlanguage⟩ := hd p hp
  have hid : (Subject.ofDocument q.1 q.2).languageId = (Subject.ofDocument p.1 p.2).languageId := by
    show (if q.2.language = "" then Language.ofPath q.2.path else some q.2.language) = _
    rw [hpath, hlanguage]
    rfl
  have hprovides : h.Provides q := by
    rw [Host.Provides, hid]
    exact hprovided
  have hfresh := hs.fresh hu hon q hq hprovides
  rw [hpath] at hfresh
  exact ⟨hfresh.taken, hfresh.lastRun⟩

namespace Action

theorem Keeps.serving {α : Type} {x : Action α} (hx : Keeps Unswitched x) :
    Ensures Host.Settled x fun _ => Host.Serving :=
  hx.ensures fun _ _ i hs => i.serving hs.toServing

end Action

namespace Action

end Action

/-- A step that ends without a fault and leaves preferences that are the same as themselves. -/
def EditorStep.Proper (s : EditorStep) (h : Host) : Prop :=
  (s.perform h).1 = .ok () ∧ (s.perform h).2.Usable

end LintRelay
