import LintRelay.Proofs.ConfigEvents

/-!
# The history of a project configuration

A configuration is moved by calls that come one after the other, each of which finds the files as they
are by then. Some calls read the file of the project anew. While inspection is on and a project is
open, what is loaded is what that file held at the latest of them; otherwise nothing is loaded.
-/
namespace LintRelay

/-- The options that a file holds: none, unless it can be read and is a JSON object. -/
def Disk.optionsAt (path : String) (d : Disk) : Option Fields :=
  match d.readText path with
  | .error _ => none
  | .ok text =>
    match Json.read text with
    | .ok (.object fields) => some fields
    | _ => none

theorem ConfigFile.fields?_of_ofText {room : Nat} {text : String} {file : ConfigFile}
    (hfile : ofText room text = .ok file) :
    file.fields? =
      match Json.read text with
      | .ok (.object fields) => some fields
      | _ => none := by
  obtain ⟨-, rfl⟩ := ofText_eq_ok_iff.1 hfile
  split
  · rename_i hempty
    rw [hempty]
    rfl
  · cases Json.read text with
    | error e => rfl
    | ok v => cases v <;> rfl

theorem ConfigFile.fields?_of_find {path : String} {d : Disk} {file : ConfigFile}
    (hfile : find path d = .ok file) : file.fields? = d.optionsAt path := by
  unfold find at hfile
  unfold Disk.optionsAt
  cases hr : d.readText path with
  | ok text =>
    rw [hr] at hfile
    exact fields?_of_ofText hfile
  | error fault =>
    rw [hr] at hfile
    cases fault with
    | file problem opened => cases problem <;> cases hfile <;> rfl
    | _ => cases hfile

namespace ProjectConfig

def optionsOn (d : Disk) (c : ProjectConfig) : Option Fields :=
  c.path.bind fun path => d.optionsAt path.text

theorem load_of_ok {d : Disk} {c : ProjectConfig} {fields? : Option Fields}
    (h : (load d c).outcome = .ok fields?) : (load d c).config = { c with loaded := c.optionsOn d } := by
  cases hp : c.path with
  | none => simp only [load, hp, optionsOn, Option.bind_none]
  | some path =>
    cases hf : ConfigFile.find path.text d with
    | ok file =>
      rw [load_of_file hp hf, ConfigFile.fields?_of_find hf]
      simp only [optionsOn, hp, Option.bind_some]
    | error fault =>
      rw [load_of_fault hp hf] at h
      cases h

end ProjectConfig

def Value.pathName? : Value → Option PathName
  | .str path => some (PathName.ofString path)
  | _ => none

namespace ConfigEvent

variable {c : ProjectConfig} {d : Disk} {e : ConfigEvent}

/-- An event reads the file of the project anew: a project is opened, or its file is saved, while
inspection is on, or inspection is switched on where a file is known and nothing is loaded. -/
def Reloads (c : ProjectConfig) : ConfigEvent → Prop
  | opened _ => c.enabled = true
  | saved path => c.enabled = true ∧ c.path.isSome = true ∧ path.pathName? = c.path
  | switched enabled => enabled = true ∧ c.path.isSome = true ∧ c.loaded = none

instance (c : ProjectConfig) : (e : ConfigEvent) → Decidable (e.Reloads c)
  | opened _ => inferInstanceAs (Decidable (c.enabled = true))
  | saved path => inferInstanceAs (Decidable (_ ∧ _ ∧ path.pathName? = c.path))
  | switched enabled => inferInstanceAs (Decidable (enabled = true ∧ _ ∧ c.loaded = none))

def opens : ConfigEvent → Bool
  | opened _ => true
  | _ => false

def turned (c : ProjectConfig) : ConfigEvent → ProjectConfig
  | opened root => (opened root).directed c
  | saved _ => c
  | switched true => { c with enabled := true }
  | switched false => { c with enabled := false, loaded := none }

theorem outcome_of_map {α β : Type} {f : α → β} {r : Reaction α} {b : β}
    (h : (r.map f).outcome = .ok b) : ∃ a, r.outcome = .ok a := by
  cases ho : r.outcome with
  | ok a => exact ⟨a, rfl⟩
  | error fault => simp [Reaction.map, ho, Except.map] at h

theorem documentSaved_eq (path : Value) (hnot : ¬ (saved path).Reloads c) :
    (c.documentSaved path d).config = c := by
  unfold ProjectConfig.documentSaved
  split
  · rename_i hwatching
    cases path with
    | str path =>
      have hpath : c.path ≠ some (PathName.ofString path) := fun hp =>
        hnot ⟨hwatching.1, hwatching.2, hp.symm⟩
      dsimp only
      rw [if_neg hpath]
    | null | bool | int | float | list | object => rfl
  · rfl

theorem setEnabled_eq (enabled : Bool) (hnot : ¬ (switched enabled).Reloads c) :
    (c.setEnabled enabled d).config = (switched enabled).turned c := by
  cases enabled with
  | false => rfl
  | true =>
    have hload : ¬ (c.path.isSome = true ∧ c.loaded.isNone = true) := fun h =>
      hnot ⟨rfl, h.1, Option.isNone_iff_eq_none.1 h.2⟩
    simp only [ProjectConfig.setEnabled, if_true]
    rw [if_neg hload]
    rfl

theorem fileName_of_opened {root : String}
    (h : ((opened (.str root)).react d c).outcome = .ok ()) : ∃ name, c.fileName = .str name := by
  by_contra hn
  have hnot : ∀ name, c.fileName ≠ .str name := fun name e => hn ⟨name, e⟩
  have hfault : (c.openRoot (PathName.ofString root) d).outcome =
      .error (.fileNameKind c.fileName.kind) :=
    (ProjectConfig.openRoot_of_not_str hnot).1
  have hok : (c.openRoot (PathName.ofString root) d).outcome = .ok () := h
  rw [hfault] at hok
  cases hok

theorem react_of_not_reloads (h : (e.react d c).outcome = .ok ()) (hnot : ¬ e.Reloads c) :
    (e.react d c).config = e.turned c := by
  cases e with
  | opened root =>
    cases root with
    | str root =>
      rcases ProjectConfig.openRoot_cases (PathName.ofString root) d c with hc | ⟨hon, -⟩
      · exact hc
      · exact absurd hon hnot
    | null | bool | int | float | list | object => cases h
  | saved path => exact documentSaved_eq path hnot
  | switched enabled => exact setEnabled_eq enabled hnot

theorem react_of_reloads (h : (e.react d c).outcome = .ok ()) (hreload : e.Reloads c) :
    (e.react d c).config = { e.turned c with loaded := (e.turned c).optionsOn d } := by
  cases e with
  | opened root =>
    cases root with
    | str root =>
      obtain ⟨name, hname⟩ := fileName_of_opened h
      simp only [react, ProjectConfig.openProject] at h ⊢
      have hon : c.enabled = true := hreload
      rw [ProjectConfig.openRoot_of_str hname, if_pos hon] at h ⊢
      obtain ⟨fields?, hok⟩ := outcome_of_map h
      exact ProjectConfig.load_of_ok hok
    | null | bool | int | float | list | object => cases h
  | saved path =>
    obtain ⟨hon, hknown, hpath⟩ := hreload
    cases path with
    | str path =>
      have hsame : c.path = some (PathName.ofString path) := hpath.symm
      simp only [react, ProjectConfig.documentSaved] at h ⊢
      rw [if_pos ⟨hon, hknown⟩, if_pos hsame] at h ⊢
      obtain ⟨b, hsaved⟩ := outcome_of_map h
      obtain ⟨fields?, hok⟩ := outcome_of_map hsaved
      exact ProjectConfig.load_of_ok hok
    | null | bool | int | float | list | object =>
      rw [← hpath] at hknown
      cases hknown
  | switched enabled =>
    obtain ⟨rfl, hknown, hloaded⟩ := hreload
    have hload : c.path.isSome = true ∧ c.loaded.isNone = true := ⟨hknown, by rw [hloaded]; rfl⟩
    simp only [react, ProjectConfig.setEnabled, if_true] at h ⊢
    rw [if_pos hload] at h ⊢
    obtain ⟨fields?, hok⟩ := outcome_of_map h
    exact ProjectConfig.load_of_ok hok

theorem enabled_of_reloads (hreload : e.Reloads c) : (e.turned c).enabled = true := by
  cases e with
  | opened root =>
    have hon : c.enabled = true := hreload
    cases root with
    | str root => exact (ProjectConfig.directed_enabled _ c).trans hon
    | null | bool | int | float | list | object => exact hon
  | saved path => exact hreload.1
  | switched enabled =>
    obtain ⟨rfl, -, -⟩ := hreload
    rfl

theorem path_of_ok (h : (e.react d c).outcome = .ok ()) :
    (e.react d c).config.path = (e.turned c).path := by
  by_cases hreload : e.Reloads c
  · rw [react_of_reloads h hreload]
  · rw [react_of_not_reloads h hreload]

theorem loaded_of_not_reloads (hnot : ¬ e.Reloads c) (hoff : e ≠ .switched false) :
    (e.react d c).config.loaded = c.loaded := by
  cases e with
  | opened root => exact ProjectConfig.openProject_of_disabled root d (by simpa [Reloads] using hnot)
  | saved path => exact congrArg ProjectConfig.loaded (documentSaved_eq path hnot)
  | switched enabled =>
    cases enabled with
    | true =>
      have hturned : ((switched true).react d c).config = (switched true).turned c :=
        setEnabled_eq true hnot
      rw [hturned]
      rfl
    | false => exact absurd rfl hoff

end ConfigEvent

/-- An event and the files that it finds. -/
structure ConfigCall where
  event : ConfigEvent
  disk : Disk

namespace ConfigCall

def react (call : ConfigCall) (c : ProjectConfig) : Reaction Unit := call.event.react call.disk c

end ConfigCall

namespace ProjectConfig

/-- The configuration after some calls, none of which fails. -/
def replay (c : ProjectConfig) : List ConfigCall → Except Fault ProjectConfig
  | [] => .ok c
  | call :: rest => (call.react c).outcome.bind fun _ => (call.react c).config.replay rest

/-- The files as they were at the latest call that read the file of the project. -/
def latestReload (c : ProjectConfig) : List ConfigCall → Option Disk
  | [] => none
  | call :: rest =>
    ((call.react c).config.latestReload rest).or
      (if call.event.Reloads c then some call.disk else none)

variable {c c' : ProjectConfig} {latest : Option Disk} {call : ConfigCall} {calls : List ConfigCall}

theorem replay_cons_ok (h : c.replay (call :: calls) = .ok c') :
    (call.react c).outcome = .ok () ∧ (call.react c).config.replay calls = .ok c' := by
  unfold replay at h
  cases ho : (call.react c).outcome with
  | ok u =>
    rw [ho] at h
    exact ⟨rfl, h⟩
  | error fault =>
    rw [ho] at h
    cases h

/-- What is loaded comes from the files of the latest reload, and from the file that is known by now. -/
structure Sourced (latest : Option Disk) (c : ProjectConfig) : Prop where
  unloaded : c.enabled = false ∨ c.path = none → c.loaded = none
  loaded : c.enabled = true → c.path.isSome = true → ∃ d, latest = some d ∧ c.loaded = c.optionsOn d

theorem Sourced.turned (hs : c.Sourced latest) {e : ConfigEvent} (hnot : ¬ e.Reloads c) :
    (e.turned c).Sourced latest := by
  cases e with
  | opened root =>
    -- a project opened while inspection is off: nothing was loaded, and nothing is
    have hoff : c.enabled = false := by simpa [ConfigEvent.Reloads] using hnot
    have hnone := hs.unloaded (.inl hoff)
    cases root with
    | str root =>
      refine ⟨fun _ => (directed_loaded _ c).trans hnone, fun hon => ?_⟩
      have hcon : c.enabled = true := (directed_enabled _ c).symm.trans hon
      rw [hoff] at hcon
      cases hcon
    | null | bool | int | float | list | object => exact hs
  | saved path => exact hs
  | switched enabled =>
    cases enabled with
    | false => exact ⟨fun _ => rfl, fun hon => by cases hon⟩
    | true =>
      refine ⟨fun h => ?_, fun _ hknown => ?_⟩
      · rcases h with h | h
        · cases h
        · exact hs.unloaded (.inr h)
      · -- something is loaded already, so inspection was on before
        have hloaded : c.loaded ≠ none := fun hnone => hnot ⟨rfl, hknown, hnone⟩
        have hon : c.enabled = true := by
          by_contra hoff
          exact hloaded (hs.unloaded (.inl (by simpa using hoff)))
        exact hs.loaded hon hknown

/-- One call: a reload renews the source, any other call keeps it. -/
theorem Sourced.react (hs : c.Sourced latest) (hok : (call.react c).outcome = .ok ()) :
    (call.react c).config.Sourced
      ((if call.event.Reloads c then some call.disk else none).or latest) := by
  by_cases hreload : call.event.Reloads c
  · have hc : (call.react c).config = _ := ConfigEvent.react_of_reloads hok hreload
    rw [if_pos hreload, Option.some_or, hc]
    refine ⟨fun h => ?_, fun _ _ => ⟨call.disk, rfl, rfl⟩⟩
    rcases h with hoff | hnone
    · have hon := ConfigEvent.enabled_of_reloads hreload
      rw [hoff] at hon
      cases hon
    · simp only at hnone
      simp only [optionsOn, hnone, Option.bind_none]
  · have hc : (call.react c).config = _ := ConfigEvent.react_of_not_reloads hok hreload
    rw [if_neg hreload, Option.none_or, hc]
    exact hs.turned hreload

/-- A run of calls: the latest reload among them is the source, or else the one before. -/
theorem Sourced.replay (hs : c.Sourced latest) (hrun : c.replay calls = .ok c') :
    c'.Sourced ((c.latestReload calls).or latest) := by
  induction calls generalizing c latest with
  | nil =>
    obtain rfl : c = c' := by simpa [ProjectConfig.replay] using hrun
    simpa [latestReload] using hs
  | cons call rest ih =>
    obtain ⟨hok, hrest⟩ := replay_cons_ok hrun
    have hnext := ih (hs.react hok) hrest
    rw [latestReload, Option.or_assoc]
    exact hnext

theorem new_sourced (fileName : Value) : (new fileName).Sourced none :=
  ⟨fun _ => rfl, fun _ hknown => by cases hknown⟩

theorem known_react_iff (hok : (call.react c).outcome = .ok ()) :
    (call.react c).config.path.isSome = true ↔
      c.path.isSome = true ∨ call.event.opens = true := by
  obtain ⟨e, d⟩ := call
  have hpath : (ConfigCall.react ⟨e, d⟩ c).config.path = (e.turned c).path :=
    ConfigEvent.path_of_ok hok
  rw [hpath]
  cases e with
  | opened root =>
    cases root with
    | str root =>
      obtain ⟨name, hname⟩ := ConfigEvent.fileName_of_opened hok
      simp [ConfigEvent.turned, ConfigEvent.directed, directed, hname, ConfigEvent.opens]
    | null | bool | int | float | list | object => cases hok
  | saved path => simp [ConfigEvent.turned, ConfigEvent.opens]
  | switched enabled => cases enabled <;> simp [ConfigEvent.turned, ConfigEvent.opens]

theorem known_replay_iff (hrun : c.replay calls = .ok c') :
    c'.path.isSome = true ↔
      c.path.isSome = true ∨ ∃ call ∈ calls, call.event.opens = true := by
  induction calls generalizing c with
  | nil =>
    obtain rfl : c = c' := by simpa [replay] using hrun
    simp
  | cons call rest ih =>
    obtain ⟨hok, hrest⟩ := replay_cons_ok hrun
    rw [ih hrest, known_react_iff hok]
    simp only [List.mem_cons, exists_eq_or_imp, or_assoc]

theorem loaded_of_switched_twice {d d' : Disk}
    (hrun : c.replay [⟨.switched false, d⟩, ⟨.switched true, d'⟩] = .ok c') :
    c'.loaded = c.optionsOn d' := by
  obtain ⟨-, hrest⟩ := replay_cons_ok hrun
  obtain ⟨hok, hend⟩ := replay_cons_ok hrest
  obtain rfl := Except.ok.inj hend
  set off : ProjectConfig := { c with enabled := false, loaded := none }
  have hok' : ((ConfigEvent.switched true).react d' off).outcome = .ok () := hok
  show ((ConfigEvent.switched true).react d' off).config.loaded = _
  cases hp : c.path with
  | none =>
    have hnot : ¬ (ConfigEvent.switched true).Reloads off := fun h => by
      have hknown : c.path.isSome = true := h.2.1
      rw [hp] at hknown
      cases hknown
    rw [ConfigEvent.loaded_of_not_reloads hnot (by simp)]
    simp only [optionsOn, hp, Option.bind_none]
    rfl
  | some path =>
    have hknown : c.path.isSome = true := by rw [hp]; rfl
    rw [ConfigEvent.react_of_reloads hok' ⟨rfl, hknown, rfl⟩]
    rfl

/-- After any calls on a new configuration of which none fails: nothing is loaded while it is switched
off or before a project is opened; otherwise it holds what the file of the open project held at the
latest reload. What does not reload keeps what is loaded, except switching off, and switching off and on
again takes up what the file holds by then. -/
theorem loaded_follows_file (fileName : Value) (calls : List ConfigCall)
    (hrun : (new fileName).replay calls = .ok c) :
    ((c.enabled = false ∨ ∀ call ∈ calls, call.event.opens = false) → c.loaded = none) ∧
      (c.enabled = true → (∃ call ∈ calls, call.event.opens = true) →
        ∃ path d, c.path = some path ∧ (new fileName).latestReload calls = some d ∧
          c.loaded = d.optionsAt path.text) ∧
      (∀ call : ConfigCall, ¬ call.event.Reloads c → call.event ≠ .switched false →
        (call.react c).config.loaded = c.loaded) ∧
      ∀ d d' c', c.replay [⟨.switched false, d⟩, ⟨.switched true, d'⟩] = .ok c' →
        c'.loaded = c.optionsOn d' := by
  have hs := (new_sourced fileName).replay hrun
  rw [Option.or_none] at hs
  have hknown := known_replay_iff hrun
  refine ⟨fun h => ?_, fun hon hopened => ?_, fun call => ?_, fun d d' c' => ?_⟩
  · rcases h with hoff | hunopened
    · exact hs.unloaded (.inl hoff)
    · refine hs.unloaded (.inr ?_)
      by_contra hpath
      rcases hknown.1 (Option.isSome_iff_ne_none.2 hpath) with hnew | ⟨call, hmem, hopens⟩
      · cases hnew
      · rw [hunopened call hmem] at hopens
        cases hopens
  · have hsome := hknown.2 (.inr hopened)
    obtain ⟨d, hlatest, hloaded⟩ := hs.loaded hon hsome
    obtain ⟨path, hpath⟩ := Option.isSome_iff_exists.1 hsome
    refine ⟨path, d, hpath, hlatest, ?_⟩
    rw [hloaded, optionsOn, hpath, Option.bind_some]
  · exact ConfigEvent.loaded_of_not_reloads
  · exact loaded_of_switched_twice

def diskWith (text : String) : Disk :=
  .listing ⟨[("/a/.jslint.json", Utf8.encode text.toList)], ["/", "/a"]⟩

/-- A project is opened; inspection is switched off, the file is saved meanwhile, and inspection is
switched on again. -/
def savedWhileOff : List ConfigCall :=
  [⟨.opened (.str "/a"), diskWith "\x7b\"node\": true\x7d"⟩,
    ⟨.switched false, diskWith "\x7b\"node\": true\x7d"⟩,
    ⟨.saved (.str "/a/.jslint.json"), diskWith "\x7b\"couch\": true\x7d"⟩,
    ⟨.switched true, diskWith "\x7b\"couch\": true\x7d"⟩]

theorem loaded_follows_file_saved_while_off :
    ∃ c path d, (new (.str standardName)).replay savedWhileOff = .ok c ∧ c.path = some path ∧
      (new (.str standardName)).latestReload savedWhileOff = some d ∧
      c.loaded = d.optionsAt path.text ∧ c.loaded = some [("couch", .bool true)] := by
  have hrun : (new (.str standardName)).replay savedWhileOff =
      .ok ⟨.str standardName, some ⟨.slash, ["a"]⟩, some ⟨.slash, ["a", ".jslint.json"]⟩,
        some [("couch", .bool true)], true⟩ := by
    decide +kernel
  have hopened : ∃ call ∈ savedWhileOff, call.event.opens = true :=
    ⟨_, List.mem_cons_self, rfl⟩
  obtain ⟨-, hsource, -⟩ := loaded_follows_file (.str standardName) savedWhileOff hrun
  obtain ⟨path, d, hpath, hlatest, hloaded⟩ := hsource rfl hopened
  exact ⟨_, path, d, hrun, hpath, hlatest, hloaded, rfl⟩

end ProjectConfig

end LintRelay
