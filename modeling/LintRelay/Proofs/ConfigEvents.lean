import LintRelay.ProjectConfig
import Mathlib.Tactic.Common

/-!
# Events of the project configuration

Opening a project, saving a document and switching inspection are all that moves the configuration.
Each keeps the switch where it is not about the switch, and loads nothing while switched off. An event
that ends in a fault has directed the configuration to its project and done no more, so options of a
project opened before can stay in force under the path of the new one.
-/
namespace LintRelay

/-- What can happen to a project configuration. -/
inductive ConfigEvent where
  | opened (root : Value)
  | saved (path : Value)
  | switched (enabled : Bool)
  deriving DecidableEq

/-- Reading a text from a path ends in a fault that is no answer of the file system: what can be read there
is no text, or the text goes beyond what there is room for. -/
def Disk.Refuses (path : String) (fault : Fault) (d : Disk) : Prop :=
  (d.readText path = .error fault ∧ ∀ problem opened, fault ≠ .file problem opened) ∨
    ∃ text, d.readText path = .ok text ∧ Json.excess? d.room text = some fault

theorem ConfigFile.ofText_eq_error_iff {room : Nat} {text : String} {fault : Fault} :
    ofText room text = .error fault ↔ Json.excess? room text = some fault := by
  unfold ofText Json.readWithin
  split
  · rename_i hempty
    simp [hempty]
  · cases Json.excess? room text <;> simp [Except.map]

theorem ConfigFile.ofText_eq_ok_iff {room : Nat} {text : String} {file : ConfigFile} :
    ofText room text = .ok file ↔
      Json.excess? room text = none ∧ file = if text = "" then empty else ofRead text (Json.read text) := by
  unfold ofText Json.readWithin
  split
  · rename_i hempty
    simp [hempty, eq_comm]
  · cases Json.excess? room text <;> simp [Except.map, eq_comm]

namespace ProjectConfig

variable {c : ProjectConfig} {d : Disk} {fault : Fault}

/-- The configuration as it looks for the file of a project, before it reads anything. -/
def directed (root : PathName) (c : ProjectConfig) : ProjectConfig :=
  match c.fileName with
  | .str name => { c with root := some root, path := some (root.append (PathName.ofString name)) }
  | _ => { c with root := some root }

/-- The file can be looked into: what keeps it from being read, if anything does, is an answer of the
file system. -/
def Readable (d : Disk) (c : ProjectConfig) : Prop :=
  (∃ name, c.fileName = .str name) ∧ ∀ path, c.path = some path → ∀ fault, ¬ d.Refuses path.text fault

theorem directed_loaded (root : PathName) (c : ProjectConfig) :
    (c.directed root).loaded = c.loaded := by
  unfold directed
  split <;> rfl

theorem directed_enabled (root : PathName) (c : ProjectConfig) :
    (c.directed root).enabled = c.enabled := by
  unfold directed
  split <;> rfl

theorem directed_fileName (root : PathName) (c : ProjectConfig) :
    (c.directed root).fileName = c.fileName := by
  unfold directed
  split <;> rfl

theorem find_eq_error {path : String} :
    ConfigFile.find path d = .error fault ↔ d.Refuses path fault := by
  unfold ConfigFile.find Disk.Refuses
  cases hr : d.readText path with
  | ok text => simp [ConfigFile.ofText_eq_error_iff]
  | error f =>
    cases f with
    | file problem opened =>
      have hfile : ¬ (Fault.file problem opened = fault ∧
          ∀ p o, fault ≠ Fault.file p o) := fun h => h.2 problem opened h.1.symm
      cases problem <;> simpa using hfile
    | _ => grind

theorem load_of_fault {path : PathName} (hp : c.path = some path)
    (hf : ConfigFile.find path.text d = .error fault) : load d c = ⟨.error fault, c, []⟩ := by
  simp only [load, hp, hf]

theorem load_of_file {path : PathName} {file : ConfigFile} (hp : c.path = some path)
    (hf : ConfigFile.find path.text d = .ok file) :
    load d c = ⟨.ok file.fields?, { c with loaded := file.fields? },
      (file.complaint? path.text).toList⟩ := by
  simp only [load, hp, hf]

/-- Where the file can be looked into, loading answers with what is loaded then; where not, it ends in
the fault of reading and leaves everything as it was. -/
theorem load_cases (d : Disk) (c : ProjectConfig) :
    (∃ fields?, (load d c).outcome = .ok fields? ∧
      (load d c).config = { c with loaded := fields? }) ∨
    ∃ path fault, c.path = some path ∧ (load d c).outcome = .error fault ∧
      (load d c).config = c ∧ d.Refuses path.text fault := by
  rcases Option.eq_none_or_eq_some c.path with hp | ⟨path, hp⟩
  · exact .inl ⟨none, by simp only [load, hp], by simp only [load, hp]⟩
  · cases hf : ConfigFile.find path.text d with
    | ok file => exact .inl ⟨file.fields?, by rw [load_of_file hp hf], by rw [load_of_file hp hf]⟩
    | error f =>
      refine .inr ⟨path, f, hp, ?_, ?_, find_eq_error.1 hf⟩
      · rw [load_of_fault hp hf]
      · rw [load_of_fault hp hf]

theorem load_of_error (h : (load d c).outcome = .error fault) : (load d c).config = c := by
  rcases load_cases d c with ⟨fields?, ho, -⟩ | ⟨_, _, -, -, hc, -⟩
  · rw [ho] at h
    cases h
  · exact hc

theorem openRoot_of_str {root : PathName} {name : String} (hn : c.fileName = .str name) :
    openRoot root d c =
      if c.enabled then (load d (c.directed root)).map fun _ => ()
      else ⟨.ok (), c.directed root, []⟩ := by
  simp only [openRoot, directed, hn]

theorem openRoot_of_not_str {root : PathName} (hn : ∀ name, c.fileName ≠ .str name) :
    (openRoot root d c).outcome = .error (.fileNameKind c.fileName.kind) ∧
      (openRoot root d c).config = c.directed root := by
  cases hv : c.fileName with
  | str name => exact absurd hv (hn name)
  | null | bool | int | float | list | object => simp [openRoot, directed, hv]

theorem openRoot_fails_iff {root : PathName} (hon : c.enabled = true) :
    (∃ fault, (openRoot root d c).outcome = .error fault) ↔ ¬ (c.directed root).Readable d := by
  by_cases hn : ∃ name, c.fileName = .str name
  · obtain ⟨name, hn⟩ := hn
    rw [openRoot_of_str hn, if_pos hon]
    have hname : ∃ name, (c.directed root).fileName = .str name :=
      ⟨name, (directed_fileName root c).trans hn⟩
    rcases load_cases d (c.directed root) with ⟨fields?, ho, -⟩ | ⟨path, fault, hp, ho, -, hrefuses⟩
    · simp only [Reaction.map, ho, Except.map, reduceCtorEq, exists_false, false_iff, not_not]
      refine ⟨hname, fun path hp fault hrefuses => ?_⟩
      rw [load_of_fault hp (find_eq_error.2 hrefuses)] at ho
      cases ho
    · simp only [Reaction.map, ho, Except.map]
      exact ⟨fun _ hreadable => hreadable.2 path hp fault hrefuses, fun _ => ⟨fault, rfl⟩⟩
  · have hn' : ∀ name, c.fileName ≠ .str name := fun name e => hn ⟨name, e⟩
    refine ⟨fun _ hreadable => hn ?_, fun _ => ⟨_, (openRoot_of_not_str hn').1⟩⟩
    exact directed_fileName root c ▸ hreadable.1

/-- Opening a project only directs the configuration there, or loads once it is directed. -/
theorem openRoot_cases (root : PathName) (d : Disk) (c : ProjectConfig) :
    (openRoot root d c).config = c.directed root ∨
      c.enabled = true ∧ openRoot root d c = (load d (c.directed root)).map fun _ => () := by
  by_cases hn : ∃ name, c.fileName = .str name
  · obtain ⟨name, hn⟩ := hn
    rw [openRoot_of_str hn]
    by_cases hon : c.enabled = true
    · exact .inr ⟨hon, if_pos hon⟩
    · exact .inl (by rw [if_neg hon])
  · exact .inl (openRoot_of_not_str fun name e => hn ⟨name, e⟩).2

theorem openRoot_of_error {root : PathName} (h : (openRoot root d c).outcome = .error fault) :
    (openRoot root d c).config = c.directed root := by
  rcases openRoot_cases root d c with hc | ⟨-, hload⟩
  · exact hc
  · rw [hload] at h ⊢
    cases ho : (load d (c.directed root)).outcome with
    | ok fields? => simp [Reaction.map, ho, Except.map] at h
    | error f => exact load_of_error ho

theorem documentSaved_of_error {path : Value} (h : (documentSaved path d c).outcome = .error fault) :
    (documentSaved path d c).config = c := by
  unfold documentSaved at h ⊢
  split
  · rename_i hwatching
    rw [if_pos hwatching] at h
    cases path with
    | str path =>
      simp only at h ⊢
      split at h
      · rename_i hpath
        rw [if_pos hpath]
        rcases load_cases d c with ⟨_, ho, -⟩ | ⟨_, _, -, ho, hc, -⟩
        · simp [Reaction.map, ho, Except.map] at h
        · exact hc
      · cases h
    | null | bool | int | float | list | object => rfl
  · rfl

/-- Switching fails only on the way to loading, which leaves inspection switched on and nothing
loaded. -/
theorem setEnabled_of_error {enabled : Bool} (h : (setEnabled enabled d c).outcome = .error fault) :
    enabled = true ∧ c.loaded = none ∧
      (setEnabled enabled d c).config = { c with enabled := true } := by
  cases enabled with
  | false => cases h
  | true =>
    simp only [setEnabled, if_true] at h ⊢
    split at h
    · rename_i hload
      rw [if_pos hload]
      refine ⟨trivial, Option.isNone_iff_eq_none.1 hload.2, ?_⟩
      rcases load_cases d { c with enabled := true } with ⟨_, ho, -⟩ | ⟨_, _, -, ho, hc, -⟩
      · simp [Reaction.map, ho, Except.map] at h
      · exact hc
    · cases h

theorem openProject_enabled (root : Value) (d : Disk) (c : ProjectConfig) :
    (openProject root d c).config.enabled = c.enabled := by
  cases root with
  | str root =>
    rcases openRoot_cases (PathName.ofString root) d c with hc | ⟨-, hload⟩
    · exact (congrArg enabled hc).trans (directed_enabled _ c)
    · calc (openRoot (PathName.ofString root) d c).config.enabled
          = (load d (c.directed (PathName.ofString root))).config.enabled := by rw [hload]; rfl
        _ = (c.directed (PathName.ofString root)).enabled := load_enabled _ _
        _ = c.enabled := directed_enabled _ c
  | null | bool | int | float | list | object => rfl

theorem openProject_of_disabled (root : Value) (d : Disk) (hoff : c.enabled = false) :
    (openProject root d c).config.loaded = c.loaded := by
  cases root with
  | str root =>
    rcases openRoot_cases (PathName.ofString root) d c with hc | ⟨hon, -⟩
    · exact (congrArg loaded hc).trans (directed_loaded _ c)
    · rw [hoff] at hon
      cases hon
  | null | bool | int | float | list | object => rfl

theorem documentSaved_enabled (path : Value) (d : Disk) (c : ProjectConfig) :
    (documentSaved path d c).config.enabled = c.enabled := by
  unfold documentSaved
  split
  · split
    · split
      · exact load_enabled _ _
      · rfl
    · rfl
  · rfl

theorem documentSaved_of_disabled (path : Value) (d : Disk) (hoff : c.enabled = false) :
    documentSaved path d c = ⟨.ok false, c, []⟩ := by
  simp [documentSaved, hoff]

theorem setEnabled_enabled (enabled : Bool) (d : Disk) (c : ProjectConfig) :
    (setEnabled enabled d c).config.enabled = enabled := by
  cases enabled with
  | false => rfl
  | true =>
    simp only [setEnabled, if_true]
    split
    · exact load_enabled _ _
    · rfl

end ProjectConfig

namespace ConfigEvent

variable {c : ProjectConfig} {d : Disk} {fault : Fault} {e : ConfigEvent}

/-- What an event makes of a configuration; the answer to a save is left out. -/
def react : ConfigEvent → Disk → ProjectConfig → Reaction Unit
  | opened root, d, c => c.openProject root d
  | saved path, d, c => (c.documentSaved path d).map fun _ => ()
  | switched enabled, d, c => c.setEnabled enabled d

/-- Only the opening of a project directs the configuration elsewhere. -/
def directed : ConfigEvent → ProjectConfig → ProjectConfig
  | opened (.str root), c => c.directed (PathName.ofString root)
  | _, c => c

/-- An event that fails with inspection switched on has directed the configuration and done nothing
else. -/
theorem react_of_error (hon : c.enabled = true) (h : (e.react d c).outcome = .error fault) :
    (e.react d c).config = e.directed c := by
  cases e with
  | opened root =>
    cases root with
    | str root => exact ProjectConfig.openRoot_of_error h
    | null | bool | int | float | list | object => rfl
  | saved path =>
    cases ho : (c.documentSaved path d).outcome with
    | ok b => simp [react, Reaction.map, ho, Except.map] at h
    | error f => exact ProjectConfig.documentSaved_of_error ho
  | switched enabled =>
    obtain ⟨-, -, hc⟩ := ProjectConfig.setEnabled_of_error h
    exact hc.trans (by rw [← hon]; rfl)

/-- When a failed event leaves the configuration as it was or with nothing loaded: always, but for
the opening of another project whose file cannot be looked into while options are loaded. -/
theorem failure_is_clean_iff (hon : c.enabled = true) :
    (∀ fault, (e.react d c).outcome = .error fault →
        (e.react d c).config = c ∨ (e.react d c).config.loaded = none) ↔
      ∀ root, e = .opened (.str root) →
        c.loaded = none ∨ c.directed (PathName.ofString root) = c ∨
          (c.directed (PathName.ofString root)).Readable d := by
  constructor
  · rintro hclean root rfl
    by_cases hr : (c.directed (PathName.ofString root)).Readable d
    · exact .inr (.inr hr)
    · obtain ⟨fault, hf⟩ := (ProjectConfig.openRoot_fails_iff hon).2 hr
      have hc : (react (.opened (.str root)) d c).config = c.directed (PathName.ofString root) :=
        react_of_error hon hf
      rcases hclean fault hf with h | h
      · exact .inr (.inl (hc.symm.trans h))
      · rw [hc, ProjectConfig.directed_loaded] at h
        exact .inl h
  · intro hexact fault hf
    have hc := react_of_error hon hf
    rw [hc]
    cases e with
    | opened root =>
      cases root with
      | str root =>
        rcases hexact root rfl with h | h | h
        · exact .inr ((ProjectConfig.directed_loaded _ c).trans h)
        · exact .inl h
        · exact absurd h ((ProjectConfig.openRoot_fails_iff hon).1 ⟨fault, hf⟩)
      | null | bool | int | float | list | object => exact .inl rfl
    | saved path => exact .inl rfl
    | switched enabled => exact .inl rfl

/-- Two projects, of which only the first has a file that is text, and a third without one. -/
def twoProjects : Disk :=
  .listing
    ⟨[("/a/.jslint.json", Utf8.encode "\x7b\"node\": true\x7d".toList), ("/b/.jslint.json", [0xff])],
      ["/", "/a", "/b", "/c"]⟩

def firstOpened : ProjectConfig :=
  (react (.opened (.str "/a")) twoProjects (.new (.str ProjectConfig.standardName))).config

/-- The folder without a file can always be opened. -/
theorem failure_is_clean_in_empty_folder :
    firstOpened.enabled = true ∧
      ∀ fault, (react (.opened (.str "/c")) twoProjects firstOpened).outcome = .error fault →
        (react (.opened (.str "/c")) twoProjects firstOpened).config = firstOpened ∨
          (react (.opened (.str "/c")) twoProjects firstOpened).config.loaded = none := by
  refine ⟨rfl, (failure_is_clean_iff rfl).2 fun root hroot => .inr (.inr ?_)⟩
  cases hroot
  refine ⟨⟨".jslint.json", rfl⟩, fun path hpath fault hrefuses => ?_⟩
  have hmissing : ConfigFile.find path.text twoProjects = .ok .absent := by
    cases hpath
    rfl
  rw [ProjectConfig.find_eq_error.2 hrefuses] at hmissing
  cases hmissing

/-- The second project cannot be opened, and yet the options of the first are in force under its
path. -/
theorem stale_options_under_new_path :
    firstOpened.enabled = true ∧
      (react (.opened (.str "/b")) twoProjects firstOpened).outcome =
        .error (.badBytes ⟨0xff, 0, 0, .startByte⟩) ∧
      (react (.opened (.str "/b")) twoProjects firstOpened).config.path =
        some (PathName.ofString "/b/.jslint.json") ∧
      (react (.opened (.str "/b")) twoProjects firstOpened).config.loaded =
        some [("node", .bool true)] ∧
      ¬ ∀ fault, (react (.opened (.str "/b")) twoProjects firstOpened).outcome = .error fault →
        (react (.opened (.str "/b")) twoProjects firstOpened).config = firstOpened ∨
          (react (.opened (.str "/b")) twoProjects firstOpened).config.loaded = none := by
  have hloaded : (react (.opened (.str "/b")) twoProjects firstOpened).config.loaded =
      some [("node", .bool true)] := rfl
  have hpath : (react (.opened (.str "/b")) twoProjects firstOpened).config.path ≠
      firstOpened.path := by
    decide +kernel
  refine ⟨rfl, rfl, rfl, hloaded, fun hclean => ?_⟩
  rcases hclean _ rfl with h | h
  · exact hpath (congrArg ProjectConfig.path h)
  · rw [hloaded] at h
    cases h

end ConfigEvent

end LintRelay
