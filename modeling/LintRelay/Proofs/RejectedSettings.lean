import LintRelay.Proofs.Coverage
import LintRelay.Proofs.Session
import LintRelay.Proofs.Traversal

/-!
# Settings are applied in whole or not at all

Of all that settings can say, only what they say of the indentation can be wrong, and it is settled before
anything is changed. So settings that are rejected leave the host as it was, whatever else is in them, and
all others are applied part by part, however the run that new options ask for ends.
-/
namespace LintRelay

/-- A value that counts as true where an object is wanted. -/
def Value.IsMisfit (v : Value) : Prop := v.isTruthy = true ∧ ∀ fields, v ≠ .object fields

theorem Value.isTruthy_of_get? {name : String} {fields : Fields} {v : Value}
    (h : Entries.get? name fields = some v) : (Value.object fields).isTruthy = true := by
  cases fields with
  | nil => cases h
  | cons p rest => rfl

namespace Indentation

/-- A width is given, and it denotes no whole number. -/
def BadWidth (name : String) (fields : Fields) (fault : Fault) : Prop :=
  ∃ width, Entries.get? name fields = some width ∧ width.whole? = .error fault

/-- Why what is said of the indentation is rejected. The width of a tab comes before that of a level of
spaces. -/
inductive Rejected : Value → Fault → Prop
  | kind {v : Value} : v.IsMisfit → Rejected v (.noMember v.kind "get")
  | tabSize {fields : Fields} {fault : Fault} :
    BadWidth "tabSize" fields fault → Rejected (.object fields) fault
  | spaceUnits {fields : Fields} {fault : Fault} : (∀ other, ¬ BadWidth "tabSize" fields other) →
    BadWidth "spaceUnits" fields fault → Rejected (.object fields) fault

variable {v : Value} {fields : Fields} {fault : Fault}

theorem width_eq_error_iff {name : String} {n : Int} :
    ((Entries.get? name fields).getD (.int n)).whole? = .error fault ↔ BadWidth name fields fault := by
  unfold BadWidth
  cases Entries.get? name fields <;> simp [Value.whole?]

theorem ofFields_eq_error_iff :
    ofFields fields = .error fault ↔ Rejected (.object fields) fault := by
  unfold ofFields
  rw [bind_eq_error_iff, width_eq_error_iff]
  constructor
  · rintro (htab | ⟨tabSize, htab, hunits⟩)
    · exact .tabSize htab
    · have hgood : ∀ other, ¬ BadWidth "tabSize" fields other := by
        intro other hbad
        rw [width_eq_error_iff.2 hbad] at htab
        cases htab
      rw [bind_eq_error_iff, width_eq_error_iff] at hunits
      rcases hunits with hunits | ⟨units, -, hnone⟩
      · exact .spaceUnits hgood hunits
      · cases hnone
  · intro h
    cases h with
    | kind hmisfit => exact absurd rfl (hmisfit.2 fields)
    | tabSize htab => exact .inl htab
    | spaceUnits hgood hunits =>
      right
      cases htab : ((Entries.get? "tabSize" fields).getD (.int standard.tabSize)).whole? with
      | error other => exact absurd (width_eq_error_iff.1 htab) (hgood other)
      | ok tabSize => exact ⟨tabSize, rfl, bind_eq_error_iff.2 (.inl (width_eq_error_iff.2 hunits))⟩

theorem ofValue_object (fields : Fields) : ofValue (.object fields) = ofFields fields := by
  cases fields <;> rfl

theorem ofValue_eq_error_iff : ofValue v = .error fault ↔ Rejected v fault := by
  by_cases hobject : ∃ fields, v = .object fields
  · obtain ⟨fields, rfl⟩ := hobject
    rw [ofValue_object, ofFields_eq_error_iff]
  · have hnone := not_exists.1 hobject
    unfold ofValue
    constructor
    · intro h
      split at h
      · rename_i htruthy
        split at h
        · exact absurd rfl (hnone _)
        · exact Except.error.inj h ▸ .kind ⟨htruthy, hnone⟩
      · cases h
    · intro h
      cases h with
      | kind hmisfit =>
        rw [if_pos hmisfit.1]
        cases v with
        | object fields => exact absurd rfl (hnone fields)
        | null | bool | int | float | str | list => rfl
      | tabSize | spaceUnits => exact absurd rfl (hnone _)

theorem rejected_iff :
    (∃ fault, Rejected v fault) ↔
      v.IsMisfit ∨ ∃ fields, v = .object fields ∧
        ∃ name ∈ ["tabSize", "spaceUnits"], ∃ fault, BadWidth name fields fault := by
  constructor
  · rintro ⟨fault, h⟩
    cases h with
    | kind hmisfit => exact .inl hmisfit
    | tabSize htab => exact .inr ⟨_, rfl, "tabSize", by simp, fault, htab⟩
    | spaceUnits _ hunits => exact .inr ⟨_, rfl, "spaceUnits", by simp, fault, hunits⟩
  · rintro (hmisfit | ⟨fields, rfl, name, hname, fault, hbad⟩)
    · exact ⟨_, .kind hmisfit⟩
    · by_cases htab : ∃ other, BadWidth "tabSize" fields other
      · obtain ⟨other, htab⟩ := htab
        exact ⟨other, .tabSize htab⟩
      · rcases List.mem_pair.1 hname with rfl | rfl
        · exact absurd ⟨fault, hbad⟩ htab
        · exact ⟨fault, .spaceUnits (not_exists.1 htab) hbad⟩

end Indentation

namespace Settings

/-- What settings say is in their section, or in themselves where they have none. -/
inductive Carries : Value → Value → Prop
  | inSection {fields : Fields} {content : Value} :
    Entries.get? "jslint" fields = some content → Carries (.object fields) content
  | bare {fields : Fields} :
    Entries.get? "jslint" fields = none → Carries (.object fields) (.object fields)

/-- Why settings are rejected. -/
inductive Rejected : Value → Fault → Prop
  | kind {settings : Value} : settings.IsMisfit → Rejected settings (.noMember settings.kind "get")
  | editor {settings editor : Value} {content : Fields} {fault : Fault} :
    Carries settings (.object content) → Entries.get? "editor" content = some editor →
    Indentation.Rejected editor fault → Rejected settings fault

/-- Settings that say nothing. -/
inductive Ignored : Value → Prop
  | nothing {settings : Value} : settings.isTruthy = false → Ignored settings
  | content {settings content : Value} :
    Carries settings content → (∀ fields, content ≠ .object fields) → Ignored settings

/-- Between two hosts, everything that a section says has been applied. What it does not say stays, and
an empty executable says nothing. -/
structure Applied (content : Fields) (h h' : Host) : Prop where
  indentation : (Entries.get? "editor" content).elim (.ok h.inspector.indentation) Indentation.ofValue =
    .ok h'.inspector.indentation
  executable : h'.inspector.engine.executable =
    if (Value.fieldOrNull "path" content).isTruthy then Value.fieldOrNull "path" content
    else h.inspector.engine.executable
  preferences : h'.inspector.preferences =
    (Entries.get? "options" content).getD h.inspector.preferences

theorem carries_object (fields : Fields) :
    Carries (.object fields) ((Entries.get? "jslint" fields).getD (.object fields)) := by
  cases h : Entries.get? "jslint" fields with
  | none => exact .bare h
  | some content => exact .inSection h

theorem Carries.isObject {settings v : Value} (h : Carries settings v) :
    ∃ fields, settings = .object fields := by
  cases h with
  | inSection => exact ⟨_, rfl⟩
  | bare => exact ⟨_, rfl⟩

theorem Carries.content_eq {fields : Fields} {content : Value} (h : Carries (.object fields) content) :
    (Entries.get? "jslint" fields).getD (.object fields) = content := by
  cases h with
  | inSection hcontent => rw [hcontent]; rfl
  | bare hnone => rw [hnone]; rfl

theorem Carries.unique {settings v w : Value} (hv : Carries settings v) (hw : Carries settings w) :
    v = w := by
  obtain ⟨fields, rfl⟩ := hv.isObject
  rw [← hv.content_eq, hw.content_eq]

theorem Carries.isTruthy {settings v : Value} {content : Fields} {name : String}
    (h : Carries settings (.object content)) (hgiven : Entries.get? name content = some v) :
    settings.isTruthy = true := by
  cases h with
  | inSection hcontent => exact Value.isTruthy_of_get? hcontent
  | bare => exact Value.isTruthy_of_get? hgiven

theorem rejected_iff_of_editor {settings editor : Value} {content : Fields} {fault : Fault}
    (hcarries : Carries settings (.object content))
    (heditor : Entries.get? "editor" content = some editor) :
    Rejected settings fault ↔ Indentation.Rejected editor fault := by
  constructor
  · intro h
    cases h with
    | kind hmisfit =>
      obtain ⟨fields, rfl⟩ := hcarries.isObject
      exact absurd rfl (hmisfit.2 fields)
    | editor hother hgiven hfault =>
      obtain rfl := Value.object.inj (hother.unique hcarries)
      obtain rfl := Option.some.inj (hgiven.symm.trans heditor)
      exact hfault
  · exact .editor hcarries heditor

end Settings

namespace Action

variable {settings : Value} {content : Fields} {fault : Fault} {h : Host}

theorem applySettings_of_falsy (hfalsy : settings.isTruthy = false) (h : Host) :
    applySettings settings h = (.ok (), h) := by
  unfold applySettings
  rw [hfalsy]
  rfl

theorem applySettings_of_misfit (hmisfit : settings.IsMisfit) (h : Host) :
    applySettings settings h = (.error (.noMember settings.kind "get"), h) := by
  obtain ⟨htruthy, hnone⟩ := hmisfit
  unfold applySettings
  rw [if_pos htruthy]
  cases settings with
  | object fields => exact absurd rfl (hnone fields)
  | null | bool | int | float | str | list => rfl

theorem applySettings_of_section (htruthy : settings.isTruthy = true)
    (hc : Settings.Carries settings (.object content)) (h : Host) :
    applySettings settings h = applySection content h := by
  obtain ⟨fields, rfl⟩ := hc.isObject
  unfold applySettings
  rw [if_pos htruthy]
  simp only [hc.content_eq]

theorem applySettings_of_no_section {v : Value} (hc : Settings.Carries settings v)
    (hnone : ∀ fields, v ≠ .object fields) (h : Host) : applySettings settings h = (.ok (), h) := by
  cases htruthy : settings.isTruthy with
  | false => exact applySettings_of_falsy htruthy h
  | true =>
    obtain ⟨fields, rfl⟩ := hc.isObject
    unfold applySettings
    rw [if_pos htruthy]
    simp only [hc.content_eq]
    cases v with
    | object fields => exact absurd rfl (hnone fields)
    | null | bool | int | float | str | list => rfl

/-- What is wrong about the indentation is found before anything is changed. -/
theorem applySection_of_rejected {editor : Value} (hgiven : Entries.get? "editor" content = some editor)
    (hrejected : Indentation.Rejected editor fault) (h : Host) :
    applySection content h = (.error fault, h) := by
  have hfirst : applyIndentation (Entries.get? "editor" content) h = (.error fault, h) := by
    rw [hgiven]
    exact ofExcept_bind_error (Indentation.ofValue_eq_error_iff.2 hrejected) _ h
  exact bind_error hfirst _

theorem applyIndentation_apply {section? : Option Value} {i : Indentation}
    (hi : section?.elim (.ok h.inspector.indentation) Indentation.ofValue = .ok i) :
    applyIndentation section? h =
      (.ok (), { h with inspector := { h.inspector with indentation := i } }) := by
  cases section? with
  | none =>
    obtain rfl : h.inspector.indentation = i := Except.ok.inj hi
    rfl
  | some v => exact ofExcept_bind_ok hi _ h

theorem applyExecutable_apply (executable : Value) (h : Host) :
    applyExecutable executable h = (.ok (),
      { h with
        inspector := { h.inspector with
          engine := { h.inspector.engine with
            executable := if executable.isTruthy then executable
              else h.inspector.engine.executable } } }) := by
  unfold applyExecutable
  split <;> rfl

theorem applyOptions_inspected (options? : Option Value) (h : Host) :
    Inspected (fun _ => True)
      { h with inspector := { h.inspector with
          preferences := options?.getD h.inspector.preferences } }
      (applyOptions options? h).2 := by
  cases options? with
  | none => exact Inspected.refl h
  | some options =>
    have hchanged : Keeps (Inspected fun _ => True) (preferencesChanged rerunForEditor) := by
      refine keeps_host_bind fun g => ?_
      split
      · exact Inspected.refl g
      · exact rerunOpenDocuments_anywhere g
    exact hchanged.times h.inspector.watchers _

theorem applySection_applied (hgood : ∀ editor, Entries.get? "editor" content = some editor →
      ∀ fault, ¬ Indentation.Rejected editor fault) (h : Host) :
    Settings.Applied content h (applySection content h).2 := by
  obtain ⟨i, hi⟩ : ∃ i, (Entries.get? "editor" content).elim (.ok h.inspector.indentation)
      Indentation.ofValue = .ok i := by
    cases hgiven : Entries.get? "editor" content with
    | none => exact ⟨_, rfl⟩
    | some editor =>
      cases hi : Indentation.ofValue editor with
      | ok i => exact ⟨i, hi⟩
      | error fault =>
        exact absurd (Indentation.ofValue_eq_error_iff.1 hi) (hgood editor hgiven fault)
  let settled : Host := { h with inspector := { h.inspector with indentation := i } }
  let path := Value.fieldOrNull "path" content
  have hfirst : applyIndentation (Entries.get? "editor" content) h = (.ok (), settled) :=
    applyIndentation_apply hi
  have hsecond : applyExecutable path settled = (.ok (), (applyExecutable path settled).2) := by
    rw [applyExecutable_apply]
  have hsection : applySection content h =
      applyOptions (Entries.get? "options" content) (applyExecutable path settled).2 :=
    (bind_ok hfirst _).trans (bind_ok hsecond _)
  have hrun : Inspected _ _ (applySection content h).2 :=
    hsection ▸ applyOptions_inspected (Entries.get? "options" content) (applyExecutable path settled).2
  rw [applyExecutable_apply] at hrun
  refine ⟨?_, ?_, hrun.preferences⟩
  · rw [hi, hrun.settings]
  · rw [hrun.settings]

/-- Settings that count as true and are no object are rejected, and so are those whose section says of the
indentation something of that kind or a width that denotes no whole number. The message then ends in a
fault and the host stays as it was in all its parts. Settings that say nothing are ignored, and all others
are applied in whole. -/
theorem rejected_settings_change_nothing (settings : Value) (h : Host) :
    let handled := (Message.configured settings).handle h
    ((settings.IsMisfit ∨
        ∃ content editor, Settings.Carries settings (.object content) ∧
          Entries.get? "editor" content = some editor ∧
            (editor.IsMisfit ∨ ∃ fields, editor = .object fields ∧
              ∃ name ∈ ["tabSize", "spaceUnits"], ∃ fault, Indentation.BadWidth name fields fault)) →
        ∃ fault, Settings.Rejected settings fault ∧ handled = (.error fault, h)) ∧
      (Settings.Ignored settings → handled = (.ok (), h)) ∧
      ((∀ fault, ¬ Settings.Rejected settings fault) → ¬ Settings.Ignored settings →
        ∃ content, Settings.Carries settings (.object content) ∧
          Settings.Applied content h handled.2) := by
  intro handled
  refine ⟨fun hrejected => ?_, fun hignored => ?_, fun hgood hheeded => ?_⟩
  · rcases hrejected with hmisfit | ⟨content, editor, hcarries, heditor, hbad⟩
    · exact ⟨_, .kind hmisfit, applySettings_of_misfit hmisfit h⟩
    · obtain ⟨fault, hfault⟩ := Indentation.rejected_iff.2 hbad
      refine ⟨fault, .editor hcarries heditor hfault, ?_⟩
      calc handled = applySection content h :=
            applySettings_of_section (hcarries.isTruthy heditor) hcarries h
        _ = (.error fault, h) := applySection_of_rejected heditor hfault h
  · cases hignored with
    | nothing hfalsy => exact applySettings_of_falsy hfalsy h
    | content hcarries hnone => exact applySettings_of_no_section hcarries hnone h
  · have htruthy : settings.isTruthy = true := by
      by_contra hfalsy
      exact hheeded (.nothing (Bool.eq_false_iff.2 hfalsy))
    obtain ⟨fields, rfl⟩ : ∃ fields, settings = .object fields := by
      by_contra hnone
      exact hgood _ (.kind ⟨htruthy, not_exists.1 hnone⟩)
    obtain ⟨content, hcontent⟩ : ∃ content,
        (Entries.get? "jslint" fields).getD (.object fields) = .object content := by
      by_contra hnone
      exact hheeded (.content (Settings.carries_object fields) (not_exists.1 hnone))
    have hcarries : Settings.Carries (.object fields) (.object content) :=
      hcontent ▸ Settings.carries_object fields
    refine ⟨content, hcarries, ?_⟩
    rw [show handled = applySection content h from applySettings_of_section htruthy hcarries h]
    exact applySection_applied (fun editor heditor fault hfault =>
      hgood fault (.editor hcarries heditor hfault)) h

def spacedBy (width : Value) : Fields := [("tabSize", .int 2), ("spaceUnits", width)]

def sectionSpacedBy (width : Value) : Fields :=
  [("path", .str "/opt/jslint"), ("options", .object [("node", .bool true)]),
    ("editor", .object (spacedBy width))]

def settingsSpacedBy (width : Value) : Value :=
  .object [("jslint", .object (sectionSpacedBy width))]

def scriptOpened : Host :=
  after EditorStep.perform [.message (.opened "file:///a.js" "javascript" "x")] Host.bareEditor

/-- With a width that is no numeral nothing is changed, with a numeral all is. -/
theorem rejected_settings_change_nothing_of_wide :
    (Message.configured (settingsSpacedBy (.str "wide"))).handle scriptOpened =
        (.error (.badNumeral "wide"), scriptOpened) ∧
      (Message.configured (.object [("jslint", .null)])).handle scriptOpened = (.ok (), scriptOpened) ∧
      Settings.Applied (sectionSpacedBy (.str "8")) scriptOpened
        ((Message.configured (settingsSpacedBy (.str "8"))).handle scriptOpened).2 := by
  have hcarries (width : Value) :
      Settings.Carries (settingsSpacedBy width) (.object (sectionSpacedBy width)) := .inSection rfl
  have hrejected (width : Value) (fault : Fault) :
      Settings.Rejected (settingsSpacedBy width) fault ↔
        Indentation.ofFields (spacedBy width) = .error fault :=
    (Settings.rejected_iff_of_editor (hcarries width) rfl).trans
      Indentation.ofFields_eq_error_iff.symm
  have hwide := rejected_settings_change_nothing (settingsSpacedBy (.str "wide")) scriptOpened
  have hnull := rejected_settings_change_nothing (.object [("jslint", .null)]) scriptOpened
  have hfine := rejected_settings_change_nothing (settingsSpacedBy (.str "8")) scriptOpened
  refine ⟨?_, ?_, ?_⟩
  · have hbad : Indentation.BadWidth "spaceUnits" (spacedBy (.str "wide")) (.badNumeral "wide") :=
      ⟨.str "wide", rfl, by decide +kernel⟩
    obtain ⟨fault, hfault, hhandled⟩ := hwide.1 (.inr ⟨_, _, hcarries _, rfl, .inr
      ⟨_, rfl, "spaceUnits", by simp, _, hbad⟩⟩)
    have hconverted : Indentation.ofFields (spacedBy (.str "wide")) = .error (.badNumeral "wide") := by
      decide +kernel
    obtain rfl : fault = .badNumeral "wide" :=
      Except.error.inj (((hrejected _ _).1 hfault).symm.trans hconverted)
    exact hhandled
  · exact hnull.2.1 (.content (.inSection rfl) (by simp))
  · have hconverted : Indentation.ofFields (spacedBy (.str "8")) = .ok ⟨false, 2, 8⟩ := by
      decide +kernel
    obtain ⟨content, hcontent, happlied⟩ := hfine.2.2
      (fun fault hfault => by cases ((hrejected _ _).1 hfault).symm.trans hconverted)
      (fun hignored => by
        cases hignored with
        | nothing hfalsy => cases hfalsy
        | content hc hnone => exact hnone _ (hc.unique (hcarries _)))
    obtain rfl := Value.object.inj (hcontent.unique (hcarries _))
    exact happlied

end Action

end LintRelay
