import LintRelay.Proofs.Switch

/-!
# The diagnostics that are shown

An editor shows what was published last. What is closed is cleared, what is inspected is open, and
where inspection is switched off every open document is cleared and only the empty list is published
from then on. So nothing is shown for what is not open, and nothing at all while inspection is off.
-/
namespace LintRelay

/-- Nothing is shown that should not be. -/
structure Host.NoGhost (h : Host) : Prop where
  closed : ∀ uri, uri ∉ Entries.names h.documents → shown uri h.events = []
  disabled : h.registry.enabled = false → ∀ uri, shown uri h.events = []

theorem shown_of_unpublished {events more : List Event}
    (hmore : ∀ uri diagnostics, .published uri diagnostics ∉ more) (uri : String) :
    shown uri (events ++ more) = shown uri events := by
  rcases shown_append_cases uri events more with e | hmem
  · exact e
  · exact absurd hmem (hmore uri _)

theorem Told.shown {h h' : Host} (i : Told h h') (uri : String) :
    shown uri h'.events = LintRelay.shown uri h.events := by
  obtain ⟨more, hmore, hunpublished⟩ := i.record
  rw [hmore, shown_of_unpublished hunpublished]

/-- Steps that publish for open documents only, and nothing but empty lists while inspection is off,
call up no ghosts. -/
theorem Orderly.noGhost {other : String → Prop} {h h' : Host} (i : Orderly other h h')
    (hother : ∀ uri, other uri → uri ∈ Entries.names h.documents) (hg : h.NoGhost) :
    h'.NoGhost := by
  obtain ⟨more, hmore, hpublished⟩ := i.record
  refine ⟨fun uri hclosed => ?_, fun hoff uri => ?_⟩
  · rw [i.documents] at hclosed
    rw [hmore]
    rcases shown_append_cases uri h.events more with e | hmem
    · rw [e]
      exact hg.closed uri hclosed
    · obtain ⟨hopen, -⟩ := hpublished uri _ hmem
      exact absurd (hopen.elim id (hother uri)) hclosed
  · rw [i.registry] at hoff
    rw [hmore]
    rcases shown_append_cases uri h.events more with e | hmem
    · rw [e]
      exact hg.disabled hoff uri
    · obtain ⟨-, hempty | hon⟩ := hpublished uri _ hmem
      · exact hempty
      · rw [hoff] at hon
        cases hon

theorem Host.NoGhost.withDocuments {h : Host} (hg : h.NoGhost) {documents : Entries Document}
    (hmem : ∀ uri ∈ Entries.names h.documents, uri ∈ Entries.names documents) :
    Host.NoGhost { h with documents := documents } :=
  ⟨fun uri hclosed => hg.closed uri fun hopen => hclosed (hmem uri hopen), hg.disabled⟩

namespace Action

theorem Keeps.noGhost {α : Type} {x : Action α} (hx : Keeps (Orderly fun _ => False) x) :
    Keeps (Stays Host.NoGhost) x :=
  hx.mono fun _ _ i => i.noGhost fun _ hu => hu.elim

theorem opened_documents {uri path : String} (hp : Uri.path uri = .ok path)
    (language text : String) (h : Host) :
    (opened uri language text h).2.documents =
      Entries.put uri ⟨path, language, text⟩ h.documents := by
  rw [opened_apply, hp]
  have hinspected : Keeps (Inspected fun _ => True)
      (publishSubject (.ofDocument uri ⟨path, language, text⟩)) :=
    publishSubject_inspected _ trivial
  exact (hinspected _).documents

theorem opened_noGhost (uri language text : String) :
    Keeps (Stays Host.NoGhost) (opened uri language text) := by
  intro h hg
  rw [opened_apply]
  cases Uri.path uri with
  | error fault => exact hg
  | ok path =>
    set d : Document := ⟨path, language, text⟩
    have hopen : uri ∈ Entries.names (Entries.put uri d h.documents) :=
      Entries.mem_names_put.2 (.inl rfl)
    have hput : Host.NoGhost { h with documents := Entries.put uri d h.documents } :=
      hg.withDocuments fun u hu => Entries.mem_names_put.2 (.inr hu)
    exact (publishSubject_orderly (.ofDocument uri d) rfl _).noGhost (fun u hu => hu ▸ hopen) hput

theorem changed_noGhost (uri text : String) : Keeps (Stays Host.NoGhost) (changed uri text) := by
  unfold changed
  refine keeps_host_bind fun h hg => ?_
  cases Entries.get? uri h.documents with
  | none => exact hg
  | some d => exact hg.withDocuments fun u hu => Entries.mem_names_put.2 (.inr hu)

theorem closed_apply (uri : String) (h : Host) :
    closed uri h = (.ok (),
      { h with
        documents := Entries.erase uri h.documents
        events := h.events ++ [.published uri []] }) := rfl

theorem closed_noGhost (uri : String) : Keeps (Stays Host.NoGhost) (closed uri) := by
  intro h hg
  rw [closed_apply]
  have hcleared : ∀ u, (u ≠ uri → shown u h.events = []) →
      shown u (h.events ++ [.published uri []]) = [] := by
    intro u hu
    by_cases e : u = uri
    · rw [e, shown_append_published]
    · rcases shown_append_cases u h.events [.published uri []] with hsame | hmem
      · rw [hsame, hu e]
      · exact absurd (by simpa using hmem : u = uri ∧ _).1 e
  refine ⟨fun u hclosed => hcleared u fun hne => hg.closed u fun hopen => ?_,
    fun hoff u => hcleared u fun _ => hg.disabled hoff u⟩
  exact hclosed (Entries.mem_names_erase_of_ne hne hopen)

theorem toggle_of_enabled {h : Host} (hon : h.registry.enabled = true) :
    toggle none h = (.ok false, (toggle none h).2) := by
  have htold : (each (tellFollower false) h.registry.followers (h.switched false)).1 = .ok () :=
    each_ok (fun f _ h => by cases f <;> rfl) _
  have happly := toggle_apply none h
  rw [hon] at happly
  have hpair := bind_ok (Prod.ext htold rfl) fun _ => (pure false : Action Bool)
  have houtcome : (toggle none h).1 = .ok false :=
    (congrArg Prod.fst happly).trans (congrArg Prod.fst hpair)
  exact Prod.ext houtcome rfl

theorem each_emit {α : Type} (event : α → Event) (items : List α) (h : Host) :
    each (fun a => emit (event a)) items h =
      (.ok (), { h with events := h.events ++ items.map event }) := by
  induction items generalizing h with
  | nil => exact Prod.ext rfl (by simp [each, pure])
  | cons a rest ih =>
    show each _ rest { h with events := h.events ++ [event a] } = _
    rw [ih]
    simp

theorem clearOpenDocuments_shown {h : Host}
    (hclosed : ∀ uri, uri ∉ Entries.names h.documents → shown uri h.events = []) (uri : String) :
    shown uri (clearOpenDocuments h).2.events = [] := by
  have hcleared : (clearOpenDocuments h).2.events =
      h.events ++ h.documents.map fun p => .published p.1 [] :=
    congrArg (fun r => r.2.events) (each_emit (fun p => .published p.1 []) h.documents h)
  rw [hcleared]
  by_cases hopen : uri ∈ Entries.names h.documents
  -- cleared here, and what is published last is one of the empty lists
  · obtain ⟨p, hp, rfl⟩ := List.mem_map.1 hopen
    have hmem := shown_append_mem h.events
      (List.mem_map_of_mem (f := fun p => Event.published p.1 []) hp)
    simp only [List.mem_map, Event.published.injEq] at hmem
    obtain ⟨-, -, -, hempty⟩ := hmem
    exact hempty.symm
  · rcases shown_append_cases uri h.events _ with e | hmem
    · rw [e, hclosed uri hopen]
    · simp only [List.mem_map, Event.published.injEq] at hmem
      obtain ⟨-, -, -, hempty⟩ := hmem
      exact hempty.symm

theorem switchOver_noGhost : Keeps (Stays Host.NoGhost) switchOver := by
  intro h hg
  rw [switchOver_eq]
  have htold := toggle_told none h
  have hclosed : ∀ uri, uri ∉ Entries.names (toggle none h).2.documents →
      shown uri (toggle none h).2.events = [] := fun uri hu => by
    rw [htold.documents] at hu
    rw [htold.shown]
    exact hg.closed uri hu
  -- switching off never stops before the clearing, switching on may stop before the run
  cases hon : h.registry.enabled with
  | true =>
    rw [bind_ok (toggle_of_enabled hon), if_neg (by simp), bind_pure_snd]
    exact ⟨fun uri _ => clearOpenDocuments_shown hclosed uri,
      fun _ uri => clearOpenDocuments_shown hclosed uri⟩
  | false =>
    have htoggled : (toggle none h).2.NoGhost := by
      refine ⟨hclosed, fun hoff => ?_⟩
      rw [htold.registry, hon] at hoff
      cases hoff
    refine bind_stays htoggled fun enabled => Keeps.bind ?_ fun _ => keeps_pure _
    cases enabled with
    | true => exact rerunOpenDocuments_orderly.noGhost
    | false => exact clearOpenDocuments_orderly.noGhost

/-- A save must be of an open document, or what it finds is shown where nothing is open. -/
theorem handle_noGhost (m : Message) {h : Host} (hg : h.NoGhost)
    (hsaved : ∀ uri, m = .saved uri → uri ∈ Entries.names h.documents) :
    (m.handle h).2.NoGhost := by
  cases m with
  | initialized options root folders => exact (initialized_orderly _ _ _).noGhost h hg
  | opened uri language text => exact opened_noGhost _ _ _ h hg
  | changed uri text => exact changed_noGhost _ _ h hg
  | saved uri => exact (saved_orderly uri h).noGhost (fun u hu => hu ▸ hsaved uri rfl) hg
  | closed uri => exact closed_noGhost uri h hg
  | configured settings => exact (applySettings_orderly _).noGhost h hg
  | foldersAdded folders => exact (foldersAdded_orderly _).noGhost h hg
  | filesChanged uris => exact (filesChanged_orderly _).noGhost h hg
  | switchedOver => exact switchOver_noGhost.ignore h hg

end Action

theorem Host.editing_noGhost (disk : Disk) (tool : Nat → Launch → Outcome) (inspector : Inspector) :
    (Host.editing disk tool inspector).NoGhost := by
  -- to load the configuration only complains
  have hnone (uri : String) : shown uri (editing disk tool inspector).events = [] :=
    (shown_of_unpublished (by simp) uri).trans (rfl : shown uri [] = [])
  exact ⟨fun uri _ => hnone uri, fun _ => hnone⟩

/-- A step saves nothing but an open document. -/
def EditorStep.SavesOpen (s : EditorStep) (h : Host) : Prop :=
  ∀ uri, s = .message (.saved uri) → uri ∈ Entries.names h.documents

theorem EditorStep.perform_noGhost (s : EditorStep) {h : Host} (hs : s.SavesOpen h)
    (hg : h.NoGhost) : (s.perform h).2.NoGhost := by
  cases s with
  | message m => exact Action.handle_noGhost m hg fun uri e => hs uri (by rw [e])
  | around s => cases s <;> exact ⟨hg.closed, hg.disabled⟩

/-- After any run that saves open documents only, nothing is shown for what is not open, and nothing
at all while inspection is switched off. -/
theorem shows_no_ghosts (disk : Disk) (tool : Nat → Launch → Outcome) (inspector : Inspector)
    (steps : List EditorStep)
    (hsaves : Along EditorStep.perform EditorStep.SavesOpen steps
      (Host.editing disk tool inspector)) :
    let h := after EditorStep.perform steps (Host.editing disk tool inspector)
    (∀ uri, uri ∉ Entries.names h.documents → shown uri h.events = []) ∧
      (h.registry.enabled = false → ∀ uri, shown uri h.events = []) := by
  intro h
  have hg : h.NoGhost := hsaves.stays (fun s _ => s.perform_noGhost)
    (Host.editing_noGhost disk tool inspector)
  exact ⟨hg.closed, hg.disabled⟩

/-- A document with a problem is opened, saved and cleared away with the switch. -/
theorem shows_no_ghosts_switched_off :
    let steps : List EditorStep := [.message (.opened "file:///a.js" "javascript" "x"),
      .message (.saved "file:///a.js"), .message .switchedOver]
    let h := after EditorStep.perform steps Host.bareEditor
    (∀ uri, uri ∉ Entries.names h.documents → shown uri h.events = []) ∧
      (h.registry.enabled = false → ∀ uri, shown uri h.events = []) := by
  have hpath : Uri.path "file:///a.js" = .ok "/a.js" := rfl
  unfold Host.bareEditor
  refine shows_no_ghosts _ _ _ _ ⟨fun uri e => ?_, fun uri e => ?_, fun uri e => ?_, trivial⟩
  · cases e
  · obtain rfl : "file:///a.js" = uri := by simpa using e
    simp only [EditorStep.perform, Message.handle]
    rw [Action.opened_documents hpath]
    exact Entries.mem_names_put.2 (.inl rfl)
  · cases e

end LintRelay
