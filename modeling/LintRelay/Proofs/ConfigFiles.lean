import LintRelay.Proofs.ConfigHistory
import LintRelay.Proofs.EncodedText
import LintRelay.Proofs.ReadingLimits

/-!
# What loading makes of a configuration file

Whatever stands where the file of a project is looked for, loading answers with the options in it or with
none, unless it cannot be asked for by this name or holds no text. Nothing that was loaded before plays a
part. There is one complaint about a file that should hold options and does not, and none about a file
that is missing or empty.
-/
namespace LintRelay

namespace Disk

variable {path text : String} {d : Disk}

/-- The file at a path can be read, and this is its text with one form of line end. -/
def Holds (path text : String) (d : Disk) : Prop :=
  ∃ cs, d.readBytes path = .ok (Utf8.encode cs) ∧ text = String.ofList (LineEnds.unify cs)

/-- No file can be asked for by this path, or the one that can be read there holds no text. -/
def Unloadable (path : String) (d : Disk) : Prop :=
  '\x00' ∈ path.toList ∨ ∃ bytes, d.readBytes path = .ok bytes ∧ ¬ Utf8.IsText bytes

/-- The text at the path goes beyond what there is room for, before anything in it is found not to be
JSON. -/
def Overruns (path : String) (d : Disk) : Prop :=
  ∃ text, d.Holds path text ∧ ∃ fault, Json.excess? d.room text = some fault

/-- What stands at the path should hold options and does not: the file system refuses to read it, though it
is not missing, or there is a text in it, and this is no JSON object. -/
def Spoiled (path : String) (d : Disk) : Prop :=
  (∃ problem, d.readBytes path = .error (.file problem path) ∧ problem ≠ .missing) ∨
    ∃ text, d.Holds path text ∧ text ≠ "" ∧ ∀ fields, Json.read text ≠ .ok (.object fields)

theorem readBytes_of_null (hnull : '\x00' ∈ path.toList) :
    d.readBytes path = .error .nullCharacter := by
  obtain ⟨files, room⟩ := d
  cases files with
  | listing files => exact if_pos hnull
  | tree root => exact if_pos hnull

theorem readBytes_cases (d : Disk) (hplain : '\x00' ∉ path.toList) :
    (∃ bytes, d.readBytes path = .ok bytes) ∨
      ∃ problem, d.readBytes path = .error (.file problem path) := by
  obtain ⟨files, room⟩ := d
  cases files with
  | listing files =>
    simp only [readBytes, FileListing.read, if_neg hplain]
    split
    · exact .inr ⟨_, rfl⟩
    · split
      · exact .inl ⟨_, rfl⟩
      · split <;> exact .inr ⟨_, rfl⟩
  | tree root =>
    simp only [readBytes, FileTree.read, if_neg hplain]
    split
    · exact .inl ⟨_, rfl⟩
    · exact .inr ⟨_, rfl⟩
    · exact .inl ⟨_, rfl⟩
    · exact .inr ⟨_, rfl⟩

theorem readText_eq_ok_iff : d.readText path = .ok text ↔ d.Holds path text := by
  unfold Holds
  cases hbytes : d.readBytes path with
  | ok bytes => simp [readText_of_bytes hbytes, decodeText_eq_ok_iff]
  | error fault => simp [readText_of_fault hbytes]

theorem decodeText_of_not_text {bytes : List UInt8} (hbytes : ¬ Utf8.IsText bytes) :
    ∃ fault, decodeText bytes = .error (.badBytes fault) := by
  obtain ⟨fault, hfault⟩ := Utf8.decode_fails_iff.2 hbytes
  exact ⟨fault, by rw [decodeText, hfault]⟩

/-- A path cannot be loaded from, or the file system refuses it, or a text is read there. -/
theorem reading_cases (path : String) (d : Disk) :
    (d.Unloadable path ∧ ∃ fault, d.readText path = .error fault ∧
        ∀ problem opened, fault ≠ .file problem opened) ∨
      (∃ problem, d.readBytes path = .error (.file problem path)) ∨ ∃ text, d.Holds path text := by
  by_cases hnull : '\x00' ∈ path.toList
  · exact .inl ⟨.inl hnull, _, readText_of_fault (readBytes_of_null hnull), by simp⟩
  rcases d.readBytes_cases hnull with ⟨bytes, hbytes⟩ | hproblem
  · by_cases htext : Utf8.IsText bytes
    · obtain ⟨cs, rfl⟩ := htext
      exact .inr (.inr ⟨_, cs, hbytes, rfl⟩)
    · obtain ⟨fault, hfault⟩ := decodeText_of_not_text htext
      refine .inl ⟨.inr ⟨bytes, hbytes, htext⟩, .badBytes fault, ?_, by simp⟩
      rw [readText_of_bytes hbytes, hfault]
  · exact .inr (.inl hproblem)

theorem Unloadable.not_problem (h : d.Unloadable path) (problem : FileProblem) :
    d.readBytes path ≠ .error (.file problem path) := by
  rcases h with hnull | ⟨bytes, hbytes, -⟩
  · rw [readBytes_of_null hnull]
    simp
  · rw [hbytes]
    simp

theorem Unloadable.not_holds (h : d.Unloadable path) : ¬ d.Holds path text := by
  rintro ⟨cs, hcs, -⟩
  rcases h with hnull | ⟨bytes, hbytes, hnone⟩
  · rw [readBytes_of_null hnull] at hcs
    cases hcs
  · rw [hcs] at hbytes
    exact hnone ⟨cs, (Except.ok.inj hbytes).symm⟩

theorem Holds.unique {other : String} (h : d.Holds path text) (h' : d.Holds path other) :
    text = other :=
  Except.ok.inj ((readText_eq_ok_iff.2 h).symm.trans (readText_eq_ok_iff.2 h'))

theorem overruns_of_holds (h : d.Holds path text) :
    d.Overruns path ↔ ∃ fault, Json.excess? d.room text = some fault := by
  constructor
  · rintro ⟨other, hother, hexcess⟩
    rwa [h.unique hother]
  · exact fun hexcess => ⟨text, h, hexcess⟩

theorem optionsAt_eq_some_iff {fields : Fields} :
    d.optionsAt path = some fields ↔
      ∃ text, d.Holds path text ∧ Json.read text = .ok (.object fields) := by
  simp only [← readText_eq_ok_iff]
  unfold optionsAt
  cases d.readText path with
  | error fault => simp
  | ok text =>
    cases hread : Json.read text with
    | error e => simp [hread]
    | ok v => cases v <;> simp [hread]

theorem spoiled_of_problem {problem : FileProblem}
    (h : d.readBytes path = .error (.file problem path)) :
    d.Spoiled path ↔ problem ≠ .missing := by
  unfold Spoiled Holds
  simp [h]

theorem spoiled_of_holds (h : d.Holds path text) :
    d.Spoiled path ↔ text ≠ "" ∧ ∀ fields, Json.read text ≠ .ok (.object fields) := by
  have hread := readText_eq_ok_iff.2 h
  obtain ⟨cs, hbytes, -⟩ := h
  unfold Spoiled
  simp only [← readText_eq_ok_iff, hread, hbytes]
  simp

end Disk

namespace ConfigFile

variable {path text : String} {d : Disk}

theorem find_of_problem {problem : FileProblem}
    (h : d.readBytes path = .error (.file problem path)) :
    find path d = .ok (if problem = .missing then absent else unreadable problem path) := by
  rw [find, Disk.readText_of_fault h]
  cases problem <;> rfl

theorem find_of_holds (h : d.Holds path text) : find path d = ofText d.room text := by
  rw [find, Disk.readText_eq_ok_iff.2 h]

theorem find_fails_iff :
    (∃ fault, find path d = .error fault) ↔ d.Unloadable path ∨ d.Overruns path := by
  rcases Disk.reading_cases path d with ⟨hbad, fault, hfault⟩ | ⟨problem, hproblem⟩ | ⟨text, htext⟩
  · exact iff_of_true ⟨fault, ProjectConfig.find_eq_error.2 (.inl hfault)⟩ (.inl hbad)
  · rw [find_of_problem hproblem]
    refine iff_of_false (by simp) ?_
    rintro (hbad | ⟨text, ⟨cs, hcs, -⟩, -⟩)
    · exact hbad.not_problem problem hproblem
    · rw [hproblem] at hcs
      cases hcs
  · have hgood : ¬ d.Unloadable path := fun hbad => hbad.not_holds htext
    simp only [find_of_holds htext, ofText_eq_error_iff, Disk.overruns_of_holds htext, hgood, false_or]

theorem complaint?_ofText_isSome (path : String) {room : Nat} {file : ConfigFile}
    (hfile : ofText room text = .ok file) :
    (file.complaint? path).isSome = true ↔
      text ≠ "" ∧ ∀ fields, Json.read text ≠ .ok (.object fields) := by
  obtain ⟨-, rfl⟩ := ofText_eq_ok_iff.1 hfile
  split_ifs with hempty
  · simp [complaint?, hempty]
  · cases hread : Json.read text with
    | error e => simp [ofRead, complaint?, hempty]
    | ok v => cases v <;> simp [ofRead, complaint?, hempty]

theorem complaint?_isSome_iff {file : ConfigFile} (hfile : find path d = .ok file) :
    (file.complaint? path).isSome = true ↔ d.Spoiled path := by
  rcases Disk.reading_cases path d with ⟨hbad, -⟩ | ⟨problem, hproblem⟩ | ⟨text, htext⟩
  · obtain ⟨fault, hfault⟩ := find_fails_iff.2 (.inl hbad)
    rw [hfault] at hfile
    cases hfile
  · rw [find_of_problem hproblem] at hfile
    obtain rfl := Except.ok.inj hfile
    rw [Disk.spoiled_of_problem hproblem]
    cases problem <;> simp [complaint?]
  · rw [find_of_holds htext] at hfile
    rw [Disk.spoiled_of_holds htext, complaint?_ofText_isSome path hfile]

end ConfigFile

namespace ProjectConfig

variable {d : Disk} {c : ProjectConfig}

theorem load_fails_iff :
    (∃ fault, (load d c).outcome = .error fault) ↔
      ∃ path, c.path = some path ∧ (d.Unloadable path.text ∨ d.Overruns path.text) := by
  cases hp : c.path with
  | none => simp [load, hp]
  | some path =>
    cases hf : ConfigFile.find path.text d with
    | error fault =>
      have hbad := ConfigFile.find_fails_iff.1 ⟨fault, hf⟩
      simpa [load_of_fault hp hf] using hbad
    | ok file =>
      have hgood : ¬ (d.Unloadable path.text ∨ d.Overruns path.text) := by
        rw [← ConfigFile.find_fails_iff, hf]
        simp
      simpa [load_of_file hp hf] using hgood

theorem load_answer {fields? : Option Fields} (h : (load d c).outcome = .ok fields?) :
    fields? = c.optionsOn d := by
  rcases load_cases d c with ⟨answer, hanswer, hconfig⟩ | ⟨_, fault, -, hfault, -⟩
  · rw [h] at hanswer
    rw [load_of_ok h] at hconfig
    exact (Except.ok.inj hanswer).trans (congrArg loaded hconfig).symm
  · rw [h] at hfault
    cases hfault

theorem optionsOn_eq_some_iff {fields : Fields} :
    c.optionsOn d = some fields ↔
      ∃ path text, c.path = some path ∧ d.Holds path.text text ∧
        Json.read text = .ok (.object fields) := by
  simp only [optionsOn, Option.bind_eq_some_iff, Disk.optionsAt_eq_some_iff]
  grind

theorem load_of_other_loaded {fields? : Option Fields} (h : (load d c).outcome = .ok fields?)
    (earlier : Option Fields) : load d { c with loaded := earlier } = load d c := by
  cases hp : c.path with
  | none => simp only [load, hp]
  | some path =>
    cases hf : ConfigFile.find path.text d with
    | ok file => simp only [load, hp, hf]
    | error fault =>
      rw [load_of_fault hp hf] at h
      cases h

/-- The file of the open project should hold options and does not. -/
def FindsSpoiled (d : Disk) (c : ProjectConfig) : Prop :=
  ∃ path, c.path = some path ∧ d.Spoiled path.text

theorem load_complaints {fields? : Option Fields} (h : (load d c).outcome = .ok fields?) :
    (c.FindsSpoiled d → ∃ complaint, (load d c).complaints = [complaint]) ∧
      (¬ c.FindsSpoiled d → (load d c).complaints = []) := by
  unfold FindsSpoiled
  cases hp : c.path with
  | none => simp [load, hp]
  | some path =>
    cases hf : ConfigFile.find path.text d with
    | error fault =>
      rw [load_of_fault hp hf] at h
      cases h
    | ok file =>
      have hiff := ConfigFile.complaint?_isSome_iff hf
      rw [load_of_file hp hf]
      cases hcomplaint : file.complaint? path.text with
      | some complaint =>
        rw [hcomplaint] at hiff
        refine ⟨fun _ => ⟨complaint, rfl⟩, fun hnot => ?_⟩
        exact absurd ⟨path, rfl, hiff.1 rfl⟩ hnot
      | none =>
        rw [hcomplaint] at hiff
        refine ⟨?_, fun _ => rfl⟩
        rintro ⟨other, hother, hspoiled⟩
        obtain rfl := Option.some.inj hother
        cases hiff.2 hspoiled

/-- Options that are loaded keep to the room there is for reading them. -/
theorem loaded_fits {fields : Fields} (h : (load d c).outcome = .ok (some fields)) :
    (Value.object fields).Fits d.room := by
  obtain ⟨path, text, hp, htext, hread⟩ := optionsOn_eq_some_iff.1 (load_answer h).symm
  refine Json.fits_of_read (Option.eq_none_iff_forall_not_mem.2 fun fault hfault => ?_) hread
  obtain ⟨f, hf⟩ := load_fails_iff.2 ⟨path, hp, .inr ⟨text, htext, fault, hfault⟩⟩
  rw [h] at hf
  cases hf

/-- Loading answers unless the file cannot be asked for by its path, holds no text, or goes beyond what can
be read, and then changes and says nothing. Its answer is what is loaded from then on, whatever was loaded
before, and nothing else changes: the options, where a file holds an object, and none otherwise. There is
one complaint where the file should hold options and does not, and none otherwise. -/
theorem load_classifies_files (d : Disk) (c : ProjectConfig) :
    ((∃ fault, (load d c).outcome = .error fault) ↔
        ∃ path, c.path = some path ∧ (d.Unloadable path.text ∨ d.Overruns path.text)) ∧
      (∀ fault, (load d c).outcome = .error fault → load d c = ⟨.error fault, c, []⟩) ∧
      ∀ fields?, (load d c).outcome = .ok fields? →
        (load d c).config = { c with loaded := fields? } ∧
          (∀ earlier, load d { c with loaded := earlier } = load d c) ∧
          (∀ fields, fields? = some fields ↔
            ∃ path text, c.path = some path ∧ d.Holds path.text text ∧
              Json.read text = .ok (.object fields)) ∧
          (∀ fields, fields? = some fields → (Value.object fields).Fits d.room) ∧
          (c.FindsSpoiled d → ∃ complaint, (load d c).complaints = [complaint]) ∧
          (¬ c.FindsSpoiled d → (load d c).complaints = []) := by
  refine ⟨load_fails_iff, fun fault h => ?_, fun fields? h => ?_⟩
  · obtain ⟨path, hp, -⟩ := load_fails_iff.1 ⟨fault, h⟩
    cases hf : ConfigFile.find path.text d with
    | ok file =>
      rw [load_of_file hp hf] at h
      cases h
    | error f =>
      rw [load_of_fault hp hf] at h ⊢
      obtain rfl := Except.error.inj h
      rfl
  · have hanswer := load_answer h
    refine ⟨?_, load_of_other_loaded h, fun fields => ?_, ?_, load_complaints h⟩
    · rw [load_of_ok h, hanswer]
    · rw [hanswer, optionsOn_eq_some_iff]
    · rintro fields rfl
      exact loaded_fits h

def loadedBefore : ProjectConfig :=
  ⟨.str standardName, some ⟨.slash, ["a"]⟩, some ⟨.slash, ["a", ".jslint.json"]⟩,
    some [("node", .bool true)], true⟩

/-- A list takes the place of the options, with a complaint. Bytes that are no text leave them. -/
theorem load_classifies_files_of_list :
    ((load (diskWith "[1]") loadedBefore).config = { loadedBefore with loaded := none } ∧
        ∃ complaint, (load (diskWith "[1]") loadedBefore).complaints = [complaint]) ∧
      ∃ fault, load (.listing ⟨[("/a/.jslint.json", [0xff])], ["/", "/a"]⟩) loadedBefore =
        ⟨.error fault, loadedBefore, []⟩ := by
  have hlist : (load (diskWith "[1]") loadedBefore).outcome = .ok none := by decide +kernel
  have hspoiled : loadedBefore.FindsSpoiled (diskWith "[1]") := by
    refine ⟨_, rfl, .inr ⟨"[1]", ⟨"[1]".toList, by decide +kernel, by decide +kernel⟩, by simp, ?_⟩⟩
    intro fields hfields
    have hread : Json.read "[1]" = .ok (.list [.int 1]) := by decide +kernel
    rw [hread] at hfields
    cases hfields
  obtain ⟨-, -, hclassified⟩ := load_classifies_files (diskWith "[1]") loadedBefore
  obtain ⟨hconfig, -, -, -, hcomplaint, -⟩ := hclassified none hlist
  obtain ⟨hfails, hkept, -⟩ := load_classifies_files
    (.listing ⟨[("/a/.jslint.json", [0xff])], ["/", "/a"]⟩) loadedBefore
  have hnone : ¬ Utf8.IsText [0xff] := Utf8.decode_fails_iff.1
    ⟨⟨0xff, 0, 0, .startByte⟩, by decide +kernel⟩
  obtain ⟨fault, hfault⟩ := hfails.2 ⟨_, rfl, .inl (.inr ⟨[0xff], by decide +kernel, hnone⟩)⟩
  exact ⟨⟨hconfig, hcomplaint hspoiled⟩, fault, hkept fault hfault⟩

theorem holds_diskWith {text : String} (hreturn : '\r' ∉ text.toList) :
    (diskWith text).Holds "/a/.jslint.json" text := by
  refine ⟨text.toList, rfl, ?_⟩
  rw [LineEnds.unify_of_not_mem hreturn, String.ofList_toList]

/-- A disk whose file holds nothing but a number that is not read. -/
def longNumberDisk : Disk := diskWith (Json.write (.int Json.longNumber))

/-- The file is a text, and JSON, yet there is neither an answer nor a complaint, and the options of before
stay in force. -/
theorem long_number_is_not_loaded :
    longNumberDisk.Holds "/a/.jslint.json" (Json.write (.int Json.longNumber)) ∧
      Json.read (Json.write (.int Json.longNumber)) = .ok (.int Json.longNumber) ∧
      load longNumberDisk loadedBefore =
        ⟨.error (.tooManyDigits (Fault.mostDigits + 1)), loadedBefore, []⟩ ∧
      ¬ ((∃ fault, (load longNumberDisk loadedBefore).outcome = .error fault) ↔
        ∃ path, loadedBefore.path = some path ∧ longNumberDisk.Unloadable path.text) := by
  have hpath : (⟨.slash, ["a", ".jslint.json"]⟩ : PathName).text = "/a/.jslint.json" := by decide +kernel
  have hholds : longNumberDisk.Holds "/a/.jslint.json" (Json.write (.int Json.longNumber)) :=
    holds_diskWith (Json.Plain.int Json.longNumber).return_not_mem
  have hfind : ConfigFile.find "/a/.jslint.json" longNumberDisk =
      .error (.tooManyDigits (Fault.mostDigits + 1)) :=
    find_eq_error.2 (.inr ⟨_, Disk.readText_eq_ok_iff.2 hholds, Json.excess?_longNumber _⟩)
  have hload : load longNumberDisk loadedBefore =
      ⟨.error (.tooManyDigits (Fault.mostDigits + 1)), loadedBefore, []⟩ :=
    load_of_fault rfl (hpath ▸ hfind)
  refine ⟨hholds, Json.read_longNumber, hload, fun hiff => ?_⟩
  obtain ⟨path, hp, hbad⟩ := hiff.1 ⟨_, by rw [hload]⟩
  obtain rfl := Option.some.inj hp
  rw [hpath] at hbad
  exact hbad.not_holds hholds

end ProjectConfig

end LintRelay
