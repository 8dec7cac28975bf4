import LintRelay.Proofs.InspectionSteps
import LintRelay.Proofs.Record

/-!
# What inspecting changes

An inspection, of one document or of all, leaves the settings, the registry and the documents alone.
It may renew the options of the last run and adds to the record; whatever inspection it notes takes
up the options in force. Where inspection is switched off it does nothing at all.
-/
namespace LintRelay

/-- What inspecting documents at some addresses may change. -/
structure Inspected (addressed : String → Prop) (h h' : Host) : Prop where
  disk : h'.disk = h.disk
  tool : h'.tool = h.tool
  registry : h'.registry = h.registry
  documents : h'.documents = h.documents
  settings : h'.inspector = { h.inspector with lastRun := h'.inspector.lastRun }
  lastRun : h'.inspector.lastRun = h.inspector.lastRun ∨
    h'.inspector.lastRun = h.inspector.currentOptions
  record : ∃ more, h'.events = h.events ++ more ∧
    (∀ path options, .inspecting path options ∈ more → options = h.inspector.currentOptions) ∧
    ∀ uri diagnostics, .published uri diagnostics ∈ more → addressed uri

namespace Inspected

variable {addressed wider : String → Prop} {h h' h'' : Host}

theorem config (i : Inspected addressed h h') : h'.inspector.config = h.inspector.config := by
  rw [i.settings]

theorem preferences (i : Inspected addressed h h') :
    h'.inspector.preferences = h.inspector.preferences := by
  rw [i.settings]

theorem watchers (i : Inspected addressed h h') :
    h'.inspector.watchers = h.inspector.watchers := by
  rw [i.settings]

theorem currentOptions (i : Inspected addressed h h') :
    h'.inspector.currentOptions = h.inspector.currentOptions := by
  simp only [Inspector.currentOptions, i.config, i.preferences]

theorem refl (h : Host) : Inspected addressed h h :=
  ⟨rfl, rfl, rfl, rfl, rfl, .inl rfl, [], by simp, by simp, by simp⟩

theorem trans (i : Inspected addressed h h') (j : Inspected addressed h' h'') :
    Inspected addressed h h'' := by
  obtain ⟨more, hmore, htaken, hpublished⟩ := i.record
  obtain ⟨later, hlater, htaken', hpublished'⟩ := j.record
  refine ⟨j.disk.trans i.disk, j.tool.trans i.tool, j.registry.trans i.registry,
    j.documents.trans i.documents, ?_, ?_, more ++ later, ?_, ?_, ?_⟩
  · calc h''.inspector = { h'.inspector with lastRun := h''.inspector.lastRun } := j.settings
      _ = { h.inspector with lastRun := h''.inspector.lastRun } := by rw [i.settings]
  · rcases j.lastRun with e | e
    · rw [e]; exact i.lastRun
    · exact .inr (e.trans i.currentOptions)
  · rw [hlater, hmore, List.append_assoc]
  · intro path options hmem
    rcases List.mem_append.1 hmem with hmem | hmem
    · exact htaken path options hmem
    · exact (htaken' path options hmem).trans i.currentOptions
  · intro uri diagnostics hmem
    rcases List.mem_append.1 hmem with hmem | hmem
    · exact hpublished uri diagnostics hmem
    · exact hpublished' uri diagnostics hmem

instance : IsPreorder Host (Inspected addressed) where
  refl := refl
  trans _ _ _ := trans

theorem mono (i : Inspected addressed h h') (hw : ∀ uri, addressed uri → wider uri) :
    Inspected wider h h' := by
  obtain ⟨more, hmore, htaken, hpublished⟩ := i.record
  exact ⟨i.disk, i.tool, i.registry, i.documents, i.settings, i.lastRun, more, hmore, htaken,
    fun uri diagnostics hmem => hw uri (hpublished uri diagnostics hmem)⟩

end Inspected

namespace Action

variable {addressed : String → Prop}

theorem emit_inspected {e : Event} (htaken : ∀ path options, e ≠ .inspecting path options)
    (hpublished : ∀ uri diagnostics, e = .published uri diagnostics → addressed uri) :
    Keeps (Inspected addressed) (emit e) := fun _ =>
  ⟨rfl, rfl, rfl, rfl, rfl, .inl rfl, [e], rfl,
    fun path options hmem => absurd (List.mem_singleton.1 hmem).symm (htaken path options),
    fun uri diagnostics hmem => hpublished uri diagnostics (List.mem_singleton.1 hmem).symm⟩

theorem launch_inspected (l : Launch) : Keeps (Inspected addressed) (launch l) :=
  fun _ => ⟨rfl, rfl, rfl, rfl, rfl, .inl rfl, [.launched l], rfl, by simp, by simp⟩

theorem noteRun_inspected (path : Value) (h : Host) : Inspected addressed h (noteRun path h) :=
  ⟨rfl, rfl, rfl, rfl, rfl, .inr rfl, [.inspecting path h.inspector.currentOptions], rfl,
    by simp, by simp⟩

theorem inspected_allows : Allows (Inspected addressed) where
  noted := noteRun_inspected
  launched := launch_inspected
  complained _ := emit_inspected (by simp) (by simp)
  scanned _ _ _ := emit_inspected (by simp) (by simp)

theorem inspect_of_enabled {h : Host} (hon : h.registry.enabled = true)
    (language : Option String) (text path : Value) :
    inspect language text path h =
      consultAll (consult text path) (h.registry.providersFor language) [] h := by
  show (if h.registry.enabled then consultAll (consult text path) _ [] else return []) h = _
  rw [if_pos hon]

theorem inspect_of_disabled {h : Host} (hoff : h.registry.enabled = false)
    (language : Option String) (text path : Value) :
    inspect language text path h = (.ok [], h) := by
  show (if h.registry.enabled then consultAll (consult text path) _ [] else return []) h = _
  rw [hoff]
  rfl

def publishOutcome (s : Subject) : Except Fault (Entries (Option Inspection)) → Action Unit
  | .error fault => emit (.told .error s!"JSLint failed on {s.path}: {fault.message}")
  | .ok results => do
    let diagnostics ← ofExcept (Diagnostic.ofResults results)
    emit (.published s.uri diagnostics)

/-- A document is inspected only where there is a provider for its language. -/
theorem publishSubject_apply (s : Subject) (h : Host) :
    publishSubject s h =
      if h.registry.providersFor s.languageId = [] then (.ok (), h)
      else publishOutcome s (inspectSubject s h).1 (inspectSubject s h).2 := by
  have hp : publishSubject s h =
      if !(h.registry.providersFor s.languageId).isEmpty then
        (attempt (inspectSubject s) >>= fun r => publishOutcome s r) h
      else (.ok (), h) := by
    show (if !(h.registry.providersFor s.languageId).isEmpty then _ else _ : Action Unit) h = _
    split
    · refine congrFun (congrArg _ ?_) h
      funext r
      cases r <;> rfl
    · rfl
  rw [hp]
  cases h.registry.providersFor s.languageId <;> rfl

theorem publishOutcome_inspected (s : Subject) (hs : addressed s.uri)
    (r : Except Fault (Entries (Option Inspection))) :
    Keeps (Inspected addressed) (publishOutcome s r) := by
  cases r with
  | error fault => exact emit_inspected (by simp) (by simp)
  | ok results =>
    refine (keeps_ofExcept _).bind fun diagnostics => ?_
    refine emit_inspected (by simp) fun uri ds e => ?_
    obtain ⟨rfl, -⟩ : s.uri = uri ∧ diagnostics = ds := by simpa using e
    exact hs

theorem publishSubject_inspected (s : Subject) (hs : addressed s.uri) :
    Keeps (Inspected addressed) (publishSubject s) := by
  intro h
  rw [publishSubject_apply]
  split
  · exact Inspected.refl h
  · exact (inspected_allows.keeps_inspectSubject s h).trans (publishOutcome_inspected s hs _ _)

end Action

end LintRelay
