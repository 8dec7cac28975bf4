import LintRelay.Proofs.QuietChange
import LintRelay.Proofs.UnreadRecord
import LintRelay.Proofs.Visits
import Mathlib.Logic.Function.Iterate

/-!
# Files that change outside of the editor

Of a list of changed files only the configuration file counts. It is loaded as often as the list has
it, which is as good as once, and then the open documents are inspected once. An address that cannot be
taken apart ends all this, even where the file was loaded before.
-/
namespace LintRelay

/-- An address of the configuration file. -/
def Host.watches (h : Host) (uri : String) : Bool :=
  match Uri.path uri with
  | .ok path => path ≠ "" ∧ h.inspector.config.path = some (PathName.ofString path)
  | .error _ => false

def Host.reload (h : Host) : Host := (Action.loadConfig h).2

def Event.isComplaint : Event → Bool
  | complained _ => true
  | _ => false

/-- Hosts that differ in complaints alone. -/
def SameButComplaints (h h' : Host) : Prop :=
  h' = h.recording h'.events ∧
    h'.events.filter (!·.isComplaint) = h.events.filter (!·.isComplaint)

/-- The configuration file can be looked into. -/
def Host.Readable (h : Host) : Prop := h.inspector.config.Readable h.disk

namespace ProjectConfig

variable {d : Disk} {c : ProjectConfig}

theorem Readable.load (hr : c.Readable d) :
    ∃ fields?, (load d c).outcome = .ok fields? ∧ (load d c).config = { c with loaded := fields? } := by
  rcases load_cases d c with hloaded | ⟨path, fault, hp, -, -, hrefuses⟩
  · exact hloaded
  · exact absurd hrefuses (hr.2 path hp fault)

theorem load_loaded {found : Option Fields} (hok : (load d c).outcome = .ok found)
    (fields? : Option Fields) :
    (load d { c with loaded := fields? }).config = (load d c).config := by
  unfold ProjectConfig.load at hok ⊢
  dsimp only
  split at hok
  · rfl
  · split at hok
    · cases hok
    · rfl

end ProjectConfig

namespace Host

variable {h : Host}

theorem reload_eq (h : Host) :
    h.reload =
      { h with
        inspector :=
          { h.inspector with config := (ProjectConfig.load h.disk h.inspector.config).config }
        events := h.events ++
          (ProjectConfig.load h.disk h.inspector.config).complaints.map .complained } := rfl

theorem reload_enabled (h : Host) :
    h.reload.inspector.config.enabled = h.inspector.config.enabled :=
  ProjectConfig.load_enabled h.disk h.inspector.config

theorem reload_watches (h : Host) : h.reload.watches = h.watches := by
  funext uri
  have hpath : h.reload.inspector.config.path = h.inspector.config.path :=
    ProjectConfig.load_path h.disk h.inspector.config
  unfold watches
  rw [hpath]

theorem Readable.reload (hr : h.Readable) : h.reload.Readable := by
  obtain ⟨fields?, -, hc⟩ := ProjectConfig.Readable.load hr
  have hconfig : h.reload.inspector.config = { h.inspector.config with loaded := fields? } := hc
  unfold Readable
  rw [hconfig]
  exact hr

/-- To load the file once more is to complain once more. -/
theorem reload_reload (hr : h.Readable) :
    ∃ complaints : List String,
      h.reload.reload = h.reload.recording (h.reload.events ++ complaints.map .complained) := by
  obtain ⟨fields?, hok, hc⟩ := ProjectConfig.Readable.load hr
  have hsame := ProjectConfig.load_loaded hok fields?
  rw [← hc] at hsame
  refine ⟨(ProjectConfig.load h.disk
    (ProjectConfig.load h.disk h.inspector.config).config).complaints, ?_⟩
  rw [reload_eq h.reload]
  have hconfig : (ProjectConfig.load h.reload.disk h.reload.inspector.config).config =
      h.reload.inspector.config := hsame
  rw [hconfig]
  rfl

end Host

namespace SameButComplaints

variable {h g h' : Host}

theorem refl (h : Host) : SameButComplaints h h := ⟨h.recording_self.symm, rfl⟩

theorem trans (i : SameButComplaints h g) (j : SameButComplaints g h') : SameButComplaints h h' := by
  refine ⟨?_, j.2.trans i.2⟩
  calc h' = g.recording h'.events := j.1
    _ = (h.recording g.events).recording h'.events := by rw [← i.1]
    _ = h.recording h'.events := h.recording_recording g.events h'.events

theorem of_complaints (h : Host) (complaints : List String) :
    SameButComplaints h (h.recording (h.events ++ complaints.map .complained)) := by
  refine ⟨rfl, ?_⟩
  show (h.events ++ complaints.map Event.complained).filter (fun e => !e.isComplaint) = _
  simp [Event.isComplaint]

/-- What does not read the record ends alike on such hosts and leaves such hosts. -/
theorem blind {α : Type} {x : Action α} (hx : Action.Blind x) (i : SameButComplaints h g) :
    (x g).1 = (x h).1 ∧ SameButComplaints (x h).2 (x g).2 := by
  obtain ⟨more, hmore⟩ := hx h
  have hself : (x h).2.events = h.events ++ more :=
    congrArg (fun r => r.2.events) (hmore h.events)
  have hg : x g = ((x h).1, (x h).2.recording (g.events ++ more)) := by
    conv_lhs => rw [i.1]
    exact hmore g.events
  rw [hg]
  refine ⟨rfl, rfl, ?_⟩
  show (g.events ++ more).filter (fun e => !e.isComplaint) = _
  rw [hself, List.filter_append, List.filter_append, i.2]

end SameButComplaints

theorem Host.reload_iterate {h : Host} (hr : h.Readable) (n : Nat) :
    SameButComplaints h.reload (Host.reload^[n + 1] h) := by
  rw [Function.iterate_succ_apply]
  suffices ∀ g : Host, SameButComplaints h.reload g → SameButComplaints h.reload (Host.reload^[n] g) from
    this _ (.refl _)
  induction n with
  | zero => exact fun g i => i
  | succ n ih =>
    intro g i
    rw [Function.iterate_succ_apply]
    refine ih _ ?_
    obtain ⟨complaints, hagain⟩ := reload_reload hr
    have hloaded := (i.blind (Action.blind_onConfig ProjectConfig.load)).2
    have hagain : SameButComplaints h.reload h.reload.reload := by
      rw [hagain]
      exact .of_complaints _ _
    exact hagain.trans hloaded

namespace Action

variable {h : Host}

/-- A file that is saved while inspection is on either is the configuration file and loaded, or is none of
the configuration's business. -/
theorem documentSaved_of_watches {path : String} (hon : h.inspector.config.enabled = true)
    (hr : h.Readable) (hpath : h.inspector.config.path = some (PathName.ofString path)) :
    documentSaved (.str path) h = (.ok true, h.reload) := by
  obtain ⟨fields?, hok, -⟩ := ProjectConfig.Readable.load hr
  have hsaved : ProjectConfig.documentSaved (.str path) h.disk h.inspector.config =
      (ProjectConfig.load h.disk h.inspector.config).map fun _ => true := by
    simp [ProjectConfig.documentSaved, hon, hpath]
  unfold documentSaved onConfig
  rw [hsaved, Reaction.map, hok]
  rfl

theorem documentSaved_of_other {path : String} {h : Host}
    (hpath : h.inspector.config.enabled = true →
      h.inspector.config.path ≠ some (PathName.ofString path)) :
    documentSaved (.str path) h = (.ok false, h) := by
  have hsaved : ProjectConfig.documentSaved (.str path) h.disk h.inspector.config =
      ⟨.ok false, h.inspector.config, []⟩ := by
    unfold ProjectConfig.documentSaved
    split
    · rename_i hwatching
      exact if_neg (hpath hwatching.1)
    · rfl
  unfold documentSaved onConfig
  rw [hsaved]
  simp

theorem reloadChanged_cons_ok {uri path : String} (hp : Uri.path uri = .ok path) {loaded : Bool}
    {g : Host} (hg : (if path = "" then pure false else documentSaved (.str path)) h = (.ok loaded, g))
    (rest : List String) :
    reloadChanged (uri :: rest) h =
      (reloadChanged rest >>= fun later => pure (loaded || later)) g := by
  rw [reloadChanged_cons, ofExcept_bind_ok hp, bind_ok hg]

/-- Where all addresses can be taken apart, the configuration is loaded once for each address of its
file. -/
theorem reloadChanged_apply {uris : List String} (hon : h.inspector.config.enabled = true)
    (hr : h.Readable) (haddressed : ∀ uri ∈ uris, ∃ path, Uri.path uri = .ok path) :
    reloadChanged uris h = (.ok (uris.any h.watches), Host.reload^[uris.countP h.watches] h) := by
  induction uris generalizing h with
  | nil => rfl
  | cons uri rest ih =>
    obtain ⟨⟨path, hp⟩, hrest⟩ := List.forall_mem_cons.1 haddressed
    cases hw : h.watches uri with
    | true =>
      have hpath : path ≠ "" ∧ h.inspector.config.path = some (PathName.ofString path) := by
        simpa [Host.watches, hp] using hw
      have hsaved := documentSaved_of_watches hon hr hpath.2
      rw [reloadChanged_cons_ok hp (by rw [if_neg hpath.1]; exact hsaved)]
      have hlater := ih (h := h.reload) (h.reload_enabled.trans hon) hr.reload hrest
      rw [h.reload_watches] at hlater
      rw [bind_ok hlater, List.any_cons, hw, List.countP_cons_of_pos hw, Function.iterate_succ_apply]
      rfl
    | false =>
      have hother : (if path = "" then pure false else documentSaved (.str path)) h =
          (.ok false, h) := by
        split
        · rfl
        · rename_i hne
          refine documentSaved_of_other fun _ e => ?_
          simp [Host.watches, hp, hne, e] at hw
      rw [reloadChanged_cons_ok hp hother, bind_ok (ih hon hr hrest), List.any_cons, hw,
        List.countP_cons_of_neg (by simp [hw])]
      rfl

theorem addressed_of_reloadChanged {uris : List String} {loaded : Bool} {h' : Host}
    (e : reloadChanged uris h = (.ok loaded, h')) :
    ∀ uri ∈ uris, ∃ path, Uri.path uri = .ok path := by
  induction uris generalizing h loaded h' with
  | nil => exact fun uri hmem => absurd hmem List.not_mem_nil
  | cons uri rest ih =>
    rw [reloadChanged_cons] at e
    obtain ⟨path, g, hp, e⟩ := bind_eq_ok e
    obtain ⟨first, g, -, e⟩ := bind_eq_ok e
    obtain ⟨later, g, hrest, -⟩ := bind_eq_ok e
    exact List.forall_mem_cons.2 ⟨⟨path, congrArg Prod.fst hp⟩, ih hrest⟩

theorem reloadChanged_of_unwatched {uris : List String}
    (hnone : h.inspector.config.enabled = true → ∀ uri ∈ uris, h.watches uri = false) :
    reloadChanged uris h = (.ok false, h) ∨ ∃ fault, reloadChanged uris h = (.error fault, h) := by
  induction uris with
  | nil => exact .inl rfl
  | cons uri rest ih =>
    cases hp : Uri.path uri with
    | error fault =>
      rw [reloadChanged_cons, ofExcept_bind_error hp]
      exact .inr ⟨fault, rfl⟩
    | ok path =>
      have hother : (if path = "" then pure false else documentSaved (.str path)) h =
          (.ok false, h) := by
        split
        · rfl
        · rename_i hne
          refine documentSaved_of_other fun hon e => ?_
          have hw := hnone hon uri List.mem_cons_self
          simp [Host.watches, hp, hne, e] at hw
      rw [reloadChanged_cons_ok hp hother]
      rcases ih fun hon u hu => hnone hon u (List.mem_cons_of_mem uri hu) with e | ⟨fault, e⟩
      · rw [bind_ok e]
        exact .inl rfl
      · rw [bind_error e]
        exact .inr ⟨fault, rfl⟩

theorem filesChanged_eq (uris : List String) :
    filesChanged uris =
      reloadChanged uris >>= fun loaded => if loaded then rerunOpenDocuments else pure () := rfl

theorem filesChanged_of_unwatched {uris : List String}
    (hnone : h.inspector.config.enabled = true → ∀ uri ∈ uris, h.watches uri = false) :
    (filesChanged uris h).2 = h := by
  rw [filesChanged_eq]
  rcases reloadChanged_of_unwatched hnone with e | ⟨fault, e⟩
  · rw [bind_ok e]
    rfl
  · rw [bind_error e]

/-- Where the configuration file is among what changed and all addresses can be taken apart, there is one
run over the open documents. -/
theorem filesChanged_of_addressed {uris : List String} (hon : h.inspector.config.enabled = true)
    (hr : h.Readable) (haddressed : ∀ uri ∈ uris, ∃ path, Uri.path uri = .ok path)
    {uri : String} (hmem : uri ∈ uris) (hw : h.watches uri = true) :
    ∃ g, SameButComplaints h.reload g ∧ filesChanged uris h = rerunOpenDocuments g := by
  have hcount : 0 < uris.countP h.watches := List.countP_pos_iff.2 ⟨uri, hmem, hw⟩
  obtain ⟨n, hn⟩ := Nat.exists_eq_add_one.2 hcount
  have hany : uris.any h.watches = true := List.any_eq_true.2 ⟨uri, hmem, hw⟩
  refine ⟨Host.reload^[n + 1] h, Host.reload_iterate hr n, ?_⟩
  rw [filesChanged_eq, bind_ok (reloadChanged_apply hon hr haddressed), hany, hn]
  rfl

theorem filesChanged_one {uri : String} (hon : h.inspector.config.enabled = true) (hr : h.Readable)
    (hw : h.watches uri = true) : filesChanged [uri] h = rerunOpenDocuments h.reload := by
  have haddressed : ∀ u ∈ [uri], ∃ path, Uri.path u = .ok path := fun u hu => by
    obtain rfl := List.mem_singleton.1 hu
    cases hp : Uri.path u with
    | ok path => exact ⟨path, rfl⟩
    | error fault => simp [Host.watches, hp] at hw
  rw [filesChanged_eq, bind_ok (reloadChanged_apply hon hr haddressed), List.any_cons, hw,
    List.countP_cons_of_pos hw]
  rfl

theorem filesChanged_of_unaddressed {uris : List String} {uri : String} {fault : Fault}
    (hmem : uri ∈ uris) (hp : Uri.path uri = .error fault) :
    (∃ f, (filesChanged uris h).1 = .error f) ∧ Idle h (filesChanged uris h).2 := by
  have hidle := reloadChanged_idle uris h
  rw [filesChanged_eq]
  cases e : reloadChanged uris h with
  | mk r g =>
    rw [e] at hidle
    cases r with
    | error f =>
      rw [bind_error e]
      exact ⟨⟨f, rfl⟩, hidle⟩
    | ok loaded =>
      obtain ⟨path, hpath⟩ := addressed_of_reloadChanged e uri hmem
      rw [hp] at hpath
      cases hpath

end Action

theorem publishedAt_works (uri : String) (events : List Event) :
    publishedAt uri (events.filter Event.isWork) = publishedAt uri events := by
  unfold publishedAt
  rw [List.filter_filter]
  refine List.filter_congr fun e _ => ?_
  cases e <;> simp [Event.publishedTo?, Event.isWork]

open LintRelay.Action in
/-- In a session, a message has the documents visited once each, all that are open in the order of their
opening or no more than one, and publishes at most once at each address. Of a list of changed files, the
configuration file brings about one run over the open documents, as if it were the only one and there
once. Without it, or while inspection is off, nothing changes. With an address that cannot be taken apart
there is no run: the message ends in a fault, after the configuration may have been loaded. -/
theorem message_visits_once {h : Host} (hh : h.Served) :
    (∀ m : Message,
        (∃ subjects, (subjects.map Subject.uri).Nodup ∧
          (subjects = (m.handle h).2.openSubjects ∨ subjects.length ≤ 1) ∧
          Visits subjects ((m.handle.recorded h).filter Event.isWork)) ∧
        ∀ uri, (publishedAt uri (m.handle.recorded h)).length ≤ 1) ∧
      ∀ uris,
        (h.registry.enabled = false ∨ (∀ uri ∈ uris, h.watches uri = false) →
          (filesChanged uris h).2 = h) ∧
        (h.registry.enabled = true → h.Readable → ∀ uri ∈ uris, h.watches uri = true →
          ((∀ u ∈ uris, ∃ path, Uri.path u = .ok path) →
            (∃ g, SameButComplaints h.reload g ∧ filesChanged uris h = rerunOpenDocuments g) ∧
              (filesChanged uris h).1 = (filesChanged [uri] h).1 ∧
              SameButComplaints (filesChanged [uri] h).2 (filesChanged uris h).2) ∧
          ∀ u ∈ uris, ∀ fault, Uri.path u = .error fault →
            (∃ f, (filesChanged uris h).1 = .error f) ∧
              ((filesChanged uris).recorded h).filter Event.isWork = []) := by
  have hs := hh.servesOnce
  have hstep : h.inspector.config.enabled = h.registry.enabled := hh.inStep.follows.switched
  refine ⟨fun m => ?_, fun uris => ⟨fun hidle => ?_, fun hon hr uri hmem hw => ⟨fun haddressed => ?_, ?_⟩⟩⟩
  · obtain ⟨more, hmore, subjects, hnodup, hsubjects, hvisits⟩ := handle_tours m hs
    rw [recorded_of_append hmore]
    refine ⟨⟨subjects, hnodup, hsubjects, hvisits⟩, fun uri => ?_⟩
    rw [← publishedAt_works]
    exact hvisits.published_once hnodup uri
  · refine filesChanged_of_unwatched fun hon => ?_
    rcases hidle with hoff | hnone
    · rw [hstep, hoff] at hon
      cases hon
    · exact hnone
  · obtain ⟨g, hg, e⟩ := filesChanged_of_addressed (hstep.trans hon) hr haddressed hmem hw
    obtain ⟨houtcome, hstate⟩ := hg.blind blind_rerunOpenDocuments
    rw [filesChanged_one (hstep.trans hon) hr hw, e]
    exact ⟨⟨g, hg, rfl⟩, houtcome, hstate⟩
  · intro u hu fault hp
    obtain ⟨hfails, more, hmore, hnone⟩ := filesChanged_of_unaddressed (h := h) hu hp
    rw [recorded_of_append hmore]
    exact ⟨hfails, hnone⟩

def projectWith (options : String) : Disk :=
  .listing ⟨[("/p/.jslint.json", Utf8.encode options.toList)], ["/", "/p"]⟩

def rewrittenProject : List EditorStep :=
  [.message (.initialized .null "file:///p" []), .message (.opened "file:///p/a.js" "javascript" "a"),
    .around (.files (projectWith "\x7b\"browser\": true\x7d"))]

def rewrittenEditor : Host :=
  after EditorStep.perform rewrittenProject
    (Host.editor (projectWith "\x7b\"node\": true\x7d") fun _ _ => .missing)

theorem rewrittenEditor_served : rewrittenEditor.Served := ⟨_, _, rewrittenProject, rfl⟩

theorem rewrittenEditor_readable : rewrittenEditor.Readable := by
  have hpath : rewrittenEditor.inspector.config.path = some (PathName.ofString "/p/.jslint.json") := by
    decide +kernel
  have hfound : ConfigFile.find (PathName.ofString "/p/.jslint.json").text rewrittenEditor.disk =
      .ok (.options [("browser", .bool true)]) := by
    decide +kernel
  refine ⟨⟨ProjectConfig.standardName, by decide +kernel⟩, fun path hp fault hrefuses => ?_⟩
  obtain rfl := Option.some.inj (hpath.symm.trans hp)
  rw [ProjectConfig.find_eq_error.2 hrefuses] at hfound
  cases hfound

/-- The file is in the list twice, and another one is there, too. -/
theorem message_visits_once_rewritten :
    let uris := ["file:///p/.jslint.json", "file:///p/b.js", "file:///p/.jslint.json"]
    (Action.filesChanged uris rewrittenEditor).1 =
        (Action.filesChanged ["file:///p/.jslint.json"] rewrittenEditor).1 ∧
      SameButComplaints (Action.filesChanged ["file:///p/.jslint.json"] rewrittenEditor).2
        (Action.filesChanged uris rewrittenEditor).2 := by
  intro uris
  have haddressed : ∀ u ∈ uris, ∃ path, Uri.path u = .ok path := by
    have hconfig : Uri.path "file:///p/.jslint.json" = .ok "/p/.jslint.json" := by decide +kernel
    have hother : Uri.path "file:///p/b.js" = .ok "/p/b.js" := by decide +kernel
    simp [uris, hconfig, hother]
  have hchanged := (message_visits_once rewrittenEditor_served).2 uris
  exact ((hchanged.2 (by decide +kernel) rewrittenEditor_readable "file:///p/.jslint.json"
    List.mem_cons_self (by decide +kernel)).1 haddressed).2

def changedBadly : Action Unit := Action.filesChanged ["file:///p/.jslint.json", "file://[/b.js"]

/-- With an address in the list whose host begins with a bracket, the file is loaded and the open document
is not inspected with what it says. -/
theorem unaddressed_change_skips_run :
    rewrittenEditor.Served ∧ rewrittenEditor.Readable ∧
      rewrittenEditor.registry.enabled = true ∧
      rewrittenEditor.watches "file:///p/.jslint.json" = true ∧
      (changedBadly rewrittenEditor).1 = .error (.authority .brackets) ∧
      (changedBadly rewrittenEditor).2.inspector.config.loaded = some [("browser", .bool true)] ∧
      (changedBadly.recorded rewrittenEditor).filter Event.isWork = [] ∧
      started ((Action.filesChanged ["file:///p/.jslint.json"]).recorded rewrittenEditor) =
        [rewrittenEditor.inspector.engine.command "a" [("browser", .bool true), ("indent", .int 4)]
          "/p/a.js"] :=
  ⟨rewrittenEditor_served, rewrittenEditor_readable, by decide +kernel, by decide +kernel,
    by decide +kernel, by decide +kernel, by decide +kernel, by decide +kernel⟩

end LintRelay
