import LintRelay.Proofs.ConfigEvents
import LintRelay.Proofs.Inspecting
import LintRelay.Proofs.Session

/-!
# What handlers do

Of all that happens in a session only switching moves the switch. Every other handler leaves the switch
of the registry and that of the project configuration alone, is idle while inspection is off, and
publishes problems for open documents only, and only while inspection is on.
-/
namespace LintRelay

/-- What a step does that does not switch inspection. -/
structure Unswitched (h h' : Host) : Prop where
  registry : h'.registry = h.registry
  watchers : h'.inspector.watchers = h.inspector.watchers
  following : h'.inspector.config.enabled = h.inspector.config.enabled
  unloaded : h.inspector.config.enabled = false →
    h'.inspector.config.loaded = h.inspector.config.loaded
  idle : h.registry.enabled = false → started h'.events = started h.events ∧
    h'.launches = h.launches ∧ h'.inspector.lastRun = h.inspector.lastRun

/-- What a step does that besides leaves the documents alone. It may publish at the addresses of open
documents and at some others. -/
structure Orderly (other : String → Prop) (h h' : Host) : Prop extends Unswitched h h' where
  documents : h'.documents = h.documents
  record : ∃ more, h'.events = h.events ++ more ∧ ∀ uri diagnostics,
    .published uri diagnostics ∈ more →
      (uri ∈ Entries.names h.documents ∨ other uri) ∧
        (diagnostics = [] ∨ h.registry.enabled = true)

namespace Unswitched

variable {h h' h'' : Host}

theorem refl (h : Host) : Unswitched h h := ⟨rfl, rfl, rfl, fun _ => rfl, fun _ => ⟨rfl, rfl, rfl⟩⟩

theorem trans (i : Unswitched h h') (j : Unswitched h' h'') : Unswitched h h'' := by
  refine ⟨j.registry.trans i.registry, j.watchers.trans i.watchers,
    j.following.trans i.following, fun hoff => ?_, fun hoff => ?_⟩
  · exact (j.unloaded (i.following.trans hoff)).trans (i.unloaded hoff)
  · obtain ⟨hs, hl, hr⟩ := i.idle hoff
    obtain ⟨hs', hl', hr'⟩ := j.idle (by rw [i.registry, hoff])
    exact ⟨hs'.trans hs, hl'.trans hl, hr'.trans hr⟩

instance : IsPreorder Host Unswitched where
  refl := refl
  trans _ _ _ := trans

end Unswitched

namespace Orderly

variable {other wider : String → Prop} {h h' h'' : Host}

theorem refl (h : Host) : Orderly other h h := ⟨.refl h, rfl, [], by simp, by simp⟩

theorem trans (i : Orderly other h h') (j : Orderly other h' h'') : Orderly other h h'' := by
  obtain ⟨more, hmore, hpublished⟩ := i.record
  obtain ⟨later, hlater, hpublished'⟩ := j.record
  refine ⟨i.toUnswitched.trans j.toUnswitched, j.documents.trans i.documents, more ++ later,
    by rw [hlater, hmore, List.append_assoc], fun uri diagnostics hmem => ?_⟩
  rcases List.mem_append.1 hmem with hmem | hmem
  · exact hpublished uri diagnostics hmem
  · rw [← i.documents, ← i.registry]
    exact hpublished' uri diagnostics hmem

instance : IsPreorder Host (Orderly other) where
  refl := refl
  trans _ _ _ := trans

theorem mono (i : Orderly other h h')
    (hw : ∀ uri, other uri → uri ∈ Entries.names h.documents ∨ wider uri) :
    Orderly wider h h' := by
  obtain ⟨more, hmore, hpublished⟩ := i.record
  refine ⟨i.toUnswitched, i.documents, more, hmore, fun uri diagnostics hmem => ?_⟩
  obtain ⟨huri, hshown⟩ := hpublished uri diagnostics hmem
  exact ⟨huri.elim .inl (hw uri), hshown⟩

end Orderly

theorem Inspected.orderly {other : String → Prop} {h h' : Host} (i : Inspected other h h')
    (hon : h.registry.enabled = true) : Orderly other h h' := by
  obtain ⟨more, hmore, -, hpublished⟩ := i.record
  refine ⟨⟨i.registry, i.watchers, by rw [i.config], fun _ => by rw [i.config], fun hoff => ?_⟩, i.documents,
    more, hmore, fun uri diagnostics hmem => ⟨.inr (hpublished uri diagnostics hmem), .inr hon⟩⟩
  rw [hon] at hoff
  cases hoff

namespace Action

variable {other : String → Prop}

theorem Keeps.unswitched {α : Type} {x : Action α} (hx : Keeps (Orderly fun _ => True) x) :
    Keeps Unswitched x :=
  hx.mono fun _ _ i => i.toUnswitched

/-- Events that start no process, and of what is published only the empty list. -/
theorem emit_orderly {e : Event} (hlaunched : ∀ l, e ≠ .launched l)
    (hpublished : ∀ uri diagnostics, e = .published uri diagnostics →
      other uri ∧ diagnostics = []) : Keeps (Orderly other) (emit e) := fun h => by
  have hstarted : started [e] = [] := by
    cases e with
    | launched l => exact absurd rfl (hlaunched l)
    | _ => rfl
  refine ⟨⟨rfl, rfl, rfl, fun _ => rfl, fun _ => ⟨?_, rfl, rfl⟩⟩, rfl, [e], rfl,
    fun uri diagnostics hmem => ?_⟩
  · exact (started_append h.events [e]).trans (by rw [hstarted, List.append_nil])
  · obtain ⟨hu, hd⟩ := hpublished uri diagnostics (List.mem_singleton.1 hmem).symm
    exact ⟨.inr hu, .inl hd⟩

theorem emit_empty_orderly {uri : String} (hu : other uri) :
    Keeps (Orderly other) (emit (.published uri [])) :=
  emit_orderly (by simp) fun u diagnostics e => by
    obtain ⟨rfl, rfl⟩ : uri = u ∧ [] = diagnostics := by simpa using e
    exact ⟨hu, rfl⟩

theorem updateInspector_orderly {f : Inspector → Inspector} (hconfig : ∀ i, (f i).config = i.config)
    (hrun : ∀ i, (f i).lastRun = i.lastRun) (hwatchers : ∀ i, (f i).watchers = i.watchers) :
    Keeps (Orderly other) (updateInspector f) := fun h => by
  refine ⟨⟨rfl, hwatchers h.inspector, ?_, fun _ => ?_, fun _ => ⟨rfl, rfl, hrun h.inspector⟩⟩, rfl, [], ?_, by simp⟩
  · exact congrArg ProjectConfig.enabled (hconfig h.inspector)
  · exact congrArg ProjectConfig.loaded (hconfig h.inspector)
  · exact (List.append_nil h.events).symm

theorem onConfig_orderly {α : Type} {event : Disk → ProjectConfig → Reaction α}
    (henabled : ∀ d c, (event d c).config.enabled = c.enabled)
    (hloaded : ∀ d c, c.enabled = false → (event d c).config.loaded = c.loaded) :
    Keeps (Orderly other) (onConfig event) := fun h => by
  -- the configuration only complains
  have hstarted (complaints : List String) : started (complaints.map .complained) = [] := by
    simp [started, Event.launch?]
  refine ⟨⟨rfl, rfl, henabled _ _, hloaded _ _, fun _ => ⟨?_, rfl, rfl⟩⟩, rfl,
    (event h.disk h.inspector.config).complaints.map .complained, rfl, by simp⟩
  exact (started_append _ _).trans (by rw [hstarted, List.append_nil])

theorem openProject_orderly (root : Value) : Keeps (Orderly other) (openProject root) :=
  onConfig_orderly (ProjectConfig.openProject_enabled root)
    fun d _ => ProjectConfig.openProject_of_disabled root d

theorem documentSaved_orderly (path : Value) : Keeps (Orderly other) (documentSaved path) :=
  onConfig_orderly (ProjectConfig.documentSaved_enabled path) fun d _ hoff => by
    rw [ProjectConfig.documentSaved_of_disabled path d hoff]

theorem inspectSubject_of_disabled (s : Subject) {h : Host} (hoff : h.registry.enabled = false) :
    inspectSubject s h = ((sourceText s h).1.map fun _ => [], h) := by
  unfold inspectSubject
  cases hr : (sourceText s h).1 with
  | ok text =>
    rw [bind_ok (Prod.ext hr (sourceText_snd s h)), inspect_of_disabled hoff]
    rfl
  | error fault =>
    rw [bind_error (Prod.ext hr (sourceText_snd s h))]
    rfl

theorem publishSubject_of_disabled (s : Subject) {h : Host} (hoff : h.registry.enabled = false) :
    (publishSubject s h).2 = h ∨ (publishSubject s h).2 = (emit (.published s.uri []) h).2 ∨
      ∃ text, (publishSubject s h).2 = (emit (.told .error text) h).2 := by
  rw [publishSubject_apply]
  split
  · exact .inl rfl
  · rw [inspectSubject_of_disabled s hoff]
    cases (sourceText s h).1 with
    | ok text => exact .inr (.inl rfl)
    | error fault => exact .inr (.inr ⟨_, rfl⟩)

theorem publishSubject_orderly (s : Subject) (hs : other s.uri) :
    Keeps (Orderly other) (publishSubject s) := by
  intro h
  cases hoff : h.registry.enabled with
  | true => exact (publishSubject_inspected s hs h).orderly hoff
  | false =>
    rcases publishSubject_of_disabled s hoff with e | e | ⟨text, e⟩
    · rw [e]
      exact Orderly.refl h
    · rw [e]
      exact emit_empty_orderly hs h
    · rw [e]
      exact emit_orderly (by simp) (by simp) h

theorem rerunOpenDocuments_orderly : Keeps (Orderly other) rerunOpenDocuments := by
  refine keeps_host_bind fun h => ?_
  have hrun : Keeps (Orderly (· ∈ Entries.names h.documents))
      (each (fun p => publishSubject (.ofDocument p.1 p.2)) h.documents) :=
    keeps_each fun p hp => publishSubject_orderly _ (List.mem_map_of_mem hp)
  exact (hrun h).mono fun uri huri => .inl huri

theorem clearOpenDocuments_orderly : Keeps (Orderly other) clearOpenDocuments := by
  refine keeps_host_bind fun h => ?_
  have hrun : Keeps (Orderly (· ∈ Entries.names h.documents))
      (each (fun p => emit (.published p.1 [])) h.documents) :=
    keeps_each fun p hp => emit_empty_orderly (List.mem_map_of_mem hp)
  exact (hrun h).mono fun uri huri => .inl huri

theorem setPreferences_orderly {rerun : String → Action Unit}
    (hrerun : Keeps (Orderly other) (rerun Inspector.name)) (options : Value) :
    Keeps (Orderly other) (setPreferences rerun options) := by
  have hchanged : Keeps (Orderly other) (preferencesChanged rerun) := by
    refine keeps_host_bind fun h => ?_
    split
    · exact Orderly.refl h
    · exact hrerun h
  unfold setPreferences
  refine Keeps.bind (updateInspector_orderly (fun _ => rfl) (fun _ => rfl) fun _ => rfl) fun _ => ?_
  exact keeps_host_bind fun h => hchanged.times _ h

theorem applyIndentation_orderly (section? : Option Value) :
    Keeps (Orderly other) (applyIndentation section?) := by
  unfold applyIndentation
  split
  · exact keeps_pure ()
  · exact (keeps_ofExcept _).bind fun _ => updateInspector_orderly (fun _ => rfl) (fun _ => rfl) fun _ => rfl

theorem applyExecutable_orderly (executable : Value) :
    Keeps (Orderly other) (applyExecutable executable) := by
  unfold applyExecutable
  split
  · exact updateInspector_orderly (fun _ => rfl) (fun _ => rfl) fun _ => rfl
  · exact keeps_pure ()

theorem applySection_orderly (fields : Fields) : Keeps (Orderly other) (applySection fields) := by
  unfold applySection
  refine (applyIndentation_orderly _).bind fun _ => (applyExecutable_orderly _).bind fun _ => ?_
  unfold applyOptions
  split
  · exact keeps_pure ()
  · exact setPreferences_orderly rerunOpenDocuments_orderly _

theorem applySettings_orderly (settings : Value) :
    Keeps (Orderly other) (applySettings settings) := by
  unfold applySettings
  split
  · split
    · split
      · exact applySection_orderly _
      · exact keeps_pure ()
    · exact keeps_fail _
  · exact keeps_pure ()

theorem openFolder_orderly (uri : String) : Keeps (Orderly other) (openFolder uri) := by
  unfold openFolder
  refine (keeps_ofExcept _).bind fun root => ?_
  split
  · exact keeps_pure ()
  · exact (openProject_orderly _).bind fun _ => emit_orderly (by simp) (by simp)

theorem initialized_orderly (options : Value) (root : String) (folders : List String) :
    Keeps (Orderly other) (initialized options root folders) := by
  unfold initialized
  refine (applySettings_orderly options).bind fun _ => ?_
  split
  · exact openFolder_orderly root
  · cases folders with
    | nil => exact keeps_pure ()
    | cons folder rest => exact openFolder_orderly folder

theorem foldersAdded_orderly (folders : List String) :
    Keeps (Orderly other) (foldersAdded folders) := by
  cases folders with
  | nil => exact keeps_pure ()
  | cons folder rest => exact (openFolder_orderly folder).bind fun _ => rerunOpenDocuments_orderly

theorem reloadChanged_cons (uri : String) (rest : List String) :
    reloadChanged (uri :: rest) =
      ofExcept (Uri.path uri) >>= fun path =>
        (if path = "" then pure false else documentSaved (.str path)) >>= fun first =>
          reloadChanged rest >>= fun later => pure (first || later) := by
  show (ofExcept (Uri.path uri) >>= fun path => _) = _
  congr 1
  funext path
  split
  · rfl
  · rfl

theorem reloadChanged_orderly (uris : List String) : Keeps (Orderly other) (reloadChanged uris) := by
  induction uris with
  | nil => exact keeps_pure false
  | cons uri rest ih =>
    rw [reloadChanged_cons]
    refine (keeps_ofExcept _).bind fun path => Keeps.bind ?_ fun first => ?_
    · split
      · exact keeps_pure false
      · exact documentSaved_orderly _
    · exact ih.bind fun later => keeps_pure _

theorem filesChanged_orderly (uris : List String) : Keeps (Orderly other) (filesChanged uris) := by
  refine (reloadChanged_orderly uris).bind fun reloaded => ?_
  cases reloaded with
  | true => exact rerunOpenDocuments_orderly
  | false => exact keeps_pure ()

theorem subjectFor_apply (uri : String) (h : Host) :
    subjectFor uri h =
      match Entries.get? uri h.documents with
      | some d => (.ok (.ofDocument uri d), h)
      | none => ((Uri.path uri).map fun path => ⟨uri, path, "", none⟩, h) := by
  have happly : subjectFor uri h =
      (match Entries.get? uri h.documents with
        | some d => pure (.ofDocument uri d)
        | none => ofExcept (Uri.path uri) >>= fun path => pure ⟨uri, path, "", none⟩ :
        Action Subject) h := rfl
  rw [happly]
  cases Entries.get? uri h.documents with
  | some d => rfl
  | none => cases Uri.path uri <;> rfl

theorem subjectFor_cases (uri : String) (h : Host) :
    (∃ s, s.uri = uri ∧ subjectFor uri h = (.ok s, h)) ∨
      ∃ fault, subjectFor uri h = (.error fault, h) := by
  rw [subjectFor_apply]
  cases Entries.get? uri h.documents with
  | some d => exact .inl ⟨_, rfl, rfl⟩
  | none =>
    cases Uri.path uri with
    | ok path => exact .inl ⟨_, rfl, rfl⟩
    | error fault => exact .inr ⟨fault, rfl⟩

theorem saved_orderly (uri : String) : Keeps (Orderly (· = uri)) (saved uri) := by
  intro h
  unfold saved
  rcases subjectFor_cases uri h with ⟨s, hs, e⟩ | ⟨fault, e⟩
  · rw [bind_ok e]
    refine Keeps.bind (documentSaved_orderly _) (fun reloaded => ?_) h
    cases reloaded with
    | true => exact rerunOpenDocuments_orderly
    | false => exact publishSubject_orderly s hs
  · rw [bind_error e]
    exact Orderly.refl h

theorem updateDocuments_unswitched (f : Entries Document → Entries Document) :
    Keeps Unswitched (update fun h => { h with documents := f h.documents }) :=
  fun _ => ⟨rfl, rfl, rfl, fun _ => rfl, fun _ => ⟨rfl, rfl, rfl⟩⟩

theorem opened_apply (uri language text : String) (h : Host) :
    opened uri language text h =
      match Uri.path uri with
      | .ok path => publishSubject (.ofDocument uri ⟨path, language, text⟩)
          { h with documents := Entries.put uri ⟨path, language, text⟩ h.documents }
      | .error fault => (.error fault, h) := by
  unfold opened
  cases Uri.path uri with
  | ok path => rfl
  | error fault => rfl

theorem opened_unswitched (uri language text : String) :
    Keeps Unswitched (opened uri language text) := by
  unfold opened
  refine (keeps_ofExcept _).bind fun path => ?_
  refine Keeps.bind (updateDocuments_unswitched _) fun _ => ?_
  exact Keeps.unswitched (publishSubject_orderly _ trivial)

theorem changed_unswitched (uri text : String) : Keeps Unswitched (changed uri text) := by
  unfold changed
  refine keeps_host_bind fun h => ?_
  cases Entries.get? uri h.documents with
  | some d => exact updateDocuments_unswitched _ h
  | none => exact Unswitched.refl h

theorem closed_unswitched (uri : String) : Keeps Unswitched (closed uri) := by
  unfold closed
  refine Keeps.bind (updateDocuments_unswitched _) fun _ => ?_
  exact Keeps.unswitched (emit_empty_orderly trivial)

theorem handle_unswitched {m : Message} (hm : m ≠ .switchedOver) :
    Keeps Unswitched m.handle := by
  cases m with
  | initialized options root folders => exact Keeps.unswitched (initialized_orderly _ _ _)
  | opened uri language text => exact opened_unswitched _ _ _
  | changed uri text => exact changed_unswitched _ _
  | saved uri => exact (saved_orderly uri).mono fun _ _ i => i.toUnswitched
  | closed uri => exact closed_unswitched uri
  | configured settings => exact Keeps.unswitched (applySettings_orderly _)
  | foldersAdded folders => exact Keeps.unswitched (foldersAdded_orderly _)
  | filesChanged uris => exact Keeps.unswitched (filesChanged_orderly _)
  | switchedOver => exact absurd rfl hm

theorem inspect_orderly (language : Option String) (text path : Value) :
    Keeps (Orderly other) (inspect language text path) := by
  intro h
  cases hon : h.registry.enabled with
  | true => exact (inspected_allows.keeps_inspect language text path h).orderly hon
  | false =>
    rw [inspect_of_disabled hon]
    exact Orderly.refl h

theorem isProvided_orderly (language : Option String) :
    Keeps (Orderly other) (isProvided language) := fun h => Orderly.refl h

theorem serveInspect_orderly (data : Fields) : Keeps (Orderly other) (serveInspect data) := by
  unfold serveInspect
  dsimp only
  split
  · exact keeps_pure _
  · refine (keeps_ofExcept _).bind fun language => (keeps_ofExcept _).bind fun name => ?_
    refine (isProvided_orderly name).bind fun provided => ?_
    split
    · refine (inspect_orderly _ _ _).attempt.bind fun r => ?_
      cases r with
      | error fault => exact keeps_pure _
      | ok results => exact keeps_pure _
    · exact keeps_pure _

theorem serveProject_orderly (data : Fields) : Keeps (Orderly other) (serveProject data) := by
  unfold serveProject
  dsimp only
  split
  · exact keeps_pure _
  · split
    · refine keeps_host_bind fun h => ?_
      split
      · refine Keeps.bind (openProject_orderly _) (fun _ => ?_) h
        exact keeps_host_bind fun h => Orderly.refl h
      · exact Orderly.refl h
    · split
      · exact keeps_pure _
      · exact keeps_fail _

theorem serveOptions_orderly : Keeps (Orderly other) serveOptions :=
  keeps_host_bind fun h => ((keeps_ofExcept _).bind fun _ => keeps_pure _) h

theorem servePreferences_orderly (data : Fields) :
    Keeps (Orderly other) (servePreferences data) := by
  have hset (options : Value) : Keeps (Orderly other) (setPreferences recordRerun options) :=
    setPreferences_orderly (emit_orderly (by simp) (by simp)) options
  unfold servePreferences
  dsimp only
  split
  · exact (hset _).bind fun _ => keeps_pure _
  · exact (hset _).bind fun _ => keeps_pure _
  · exact keeps_pure _

theorem requestData_orderly (r : Request) : Keeps (Orderly other) (requestData r) :=
  keeps_host_bind fun h => Orderly.refl h

theorem serveRoute_orderly (r : Request) (route : Route) :
    Keeps (Orderly other) (serveRoute r route) := by
  cases route with
  | inspect => exact (requestData_orderly r).bind serveInspect_orderly
  | project => exact (requestData_orderly r).bind serveProject_orderly
  | options => exact serveOptions_orderly
  | preferences => exact (requestData_orderly r).bind servePreferences_orderly
  | asset => exact keeps_pure _

theorem serveMethod_orderly (r : Request) (route : Route) :
    Keeps (Orderly other) (serveMethod r route) := by
  unfold serveMethod
  split
  · exact keeps_pure _
  · refine (keeps_ofExcept _).bind fun socket => ?_
    split
    · exact keeps_pure _
    · split
      · exact keeps_pure _
      · refine (serveRoute_orderly r route).attempt.bind fun answer => ?_
        cases answer with
        | ok response => exact keeps_pure _
        | error fault => exact keeps_pure _

theorem respond_orderly (r : Request) : Keeps (Orderly other) (respond r) := by
  unfold respond
  refine (keeps_ofExcept _).bind fun path => (keeps_ofExcept _).bind fun _ => ?_
  refine (keeps_ofExcept _).bind fun _ => (keeps_ofExcept _).bind fun _ => ?_
  refine (keeps_ofExcept _).bind fun named => ?_
  split
  · split
    · exact serveMethod_orderly r _
    · unfold redirect
      split
      · exact keeps_pure _
      · split
        · exact keeps_pure _
        · exact (keeps_ofExcept _).bind fun _ => keeps_pure _
  · exact keeps_pure _

end Action

end LintRelay
