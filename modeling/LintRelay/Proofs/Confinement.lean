import LintRelay.Proofs.AnnouncedOptions
import LintRelay.Proofs.JoinedNames

/-!
# Confined commands

Texts, options and paths come from outside as they please. Whatever they are, a lint run starts at most
one process: the executable with flags that cannot be taken for files, on one file that lies in the
folder made for the run. Where no such file can be had, the run ends before a process is started.
-/
namespace LintRelay

namespace PathName

/-- The last part of a path is what follows its last slash, or all of it. -/
def EndsIn (path last : String) : Prop :=
  '/' ∉ last.toList ∧ (path = last ∨ ∃ before, path = before ++ "/" ++ last)

theorem baseName_eq_rtakeWhile (cs : List Char) : baseName cs = cs.rtakeWhile (· ≠ '/') := rfl

theorem endsIn_iff {path last : String} :
    EndsIn path last ↔ last = String.ofList (baseName path.toList) := by
  constructor
  · rintro ⟨hlast, rfl | ⟨before, rfl⟩⟩
    · rw [baseName_eq_rtakeWhile, rtakeWhile_of_not_mem hlast, String.ofList_toList]
    · have hchars : (before ++ "/" ++ last).toList = before.toList ++ '/' :: last.toList := by simp
      rw [baseName_eq_rtakeWhile, hchars, rtakeWhile_append_stop hlast, String.ofList_toList]
  · rintro rfl
    refine ⟨by simpa using slash_not_mem_baseName path.toList, ?_⟩
    have hcases := eq_or_append_rtakeWhile '/' path.toList
    rw [← baseName_eq_rtakeWhile] at hcases
    rcases hcases with hall | ⟨before, hbefore⟩
    · left
      rw [← hall, String.ofList_toList]
    · right
      refine ⟨String.ofList before, String.toList_injective ?_⟩
      simpa using hbefore

end PathName

namespace Flags

theorem ofOption_dashed (name : String) (v : Value) :
    ∀ flag ∈ ofOption name v, ['-', '-'] <+: flag.toList := by
  intro flag hflag
  cases v with
  | null => cases hflag
  | bool b =>
    cases b with
    | true => simp_all [ofOption]
    | false => simp_all [ofOption]
  | list items =>
    obtain ⟨item, -, rfl⟩ := List.mem_map.1 hflag
    simp [assignment]
  | int | float | str | object => simp_all [ofOption, assignment]

theorem ofFields_dashed (options : Fields) :
    ∀ flag ∈ ofFields options, ['-', '-'] <+: flag.toList := by
  intro flag hflag
  obtain ⟨p, -, hp⟩ := List.mem_flatMap.1 hflag
  exact ofOption_dashed p.1 p.2 flag hp

end Flags

namespace Engine

variable {name path : String}

/-- Names that a file in a folder cannot be given. -/
def Unusable (name : String) : Prop :=
  name = "." ∨ name = ".." ∨ longestName < name.utf8ByteSize ∨ '\x00' ∈ name.toList

theorem nameFault?_eq_none_iff : nameFault? name = none ↔ ¬ Unusable name := by
  unfold nameFault? Unusable
  by_cases hnull : '\x00' ∈ name.toList
  · simp [hnull]
  · by_cases hdots : name = "." ∨ name = ".."
    · simp [hnull, hdots, ← or_assoc]
    · by_cases hlong : longestName < name.utf8ByteSize <;> simp [hnull, hdots, hlong]

theorem fileName_ne_empty (path : String) : fileName path ≠ "" := by
  unfold fileName
  dsimp only
  split
  · decide
  · assumption

theorem slash_not_mem_fileName (path : String) : '/' ∉ (fileName path).toList := by
  unfold fileName
  dsimp only
  split
  · decide
  · simpa using PathName.slash_not_mem_baseName path.toList

end Engine

namespace Action

variable {h : Host} {executable path : String}

/-- A run whose file cannot be written ends with nothing done. -/
theorem lint_of_unusable (hname : Engine.Unusable (Engine.fileName path)) (text options : Value) :
    ∃ fault, lint text options (.str path) h = (.error fault, h) := by
  cases hfault : Engine.nameFault? (Engine.fileName path) with
  | none => exact absurd hname (Engine.nameFault?_eq_none_iff.1 hfault)
  | some fault =>
    refine ⟨fault, ?_⟩
    have hlaunch : h.inspector.engine.launch text options (.str path) = .error fault := by
      unfold Engine.launch
      dsimp only
      rw [hfault]
    rw [lint_apply, ofExcept_bind_error hlaunch]

/-- The text's file is named by the last part of the path, or is the standard one if that is empty. If
this is no name for a file the run ends with nothing done; otherwise one process is started: the
executable with flags only, on the file of this name in the folder of the run, which holds the text. -/
theorem command_is_confined (hexecutable : h.inspector.engine.executable = .str executable)
    (text : String) (options : Fields) (path : String) :
    ∃ last name, PathName.EndsIn path last ∧ name = (if last = "" then "input.js" else last) ∧
      name ≠ "" ∧ '/' ∉ name.toList ∧
      (Engine.Unusable name →
        ∃ fault, lint (.str text) (.object options) (.str path) h = (.error fault, h)) ∧
      (¬ Engine.Unusable name →
        name ≠ "." ∧ name ≠ ".." ∧
          ∃ flags, Flags.ofOptions (.object options) = .ok flags ∧
            (∀ flag ∈ flags, ['-', '-'] <+: flag.toList) ∧
            started ((lint (.str text) (.object options) (.str path)).recorded h) =
              [⟨.str executable, "--json" :: flags ++ [Engine.folder ++ "/" ++ name],
                h.inspector.engine.timeout, some text⟩]) := by
  refine ⟨_, Engine.fileName path, PathName.endsIn_iff.2 rfl, rfl, Engine.fileName_ne_empty path,
    Engine.slash_not_mem_fileName path, fun hname => lint_of_unusable hname _ _, fun hname => ?_⟩
  refine ⟨fun e => hname (.inl e), fun e => hname (.inr (.inl e)), Flags.ofFields options, rfl,
    Flags.ofFields_dashed options, ?_⟩
  have hstarted := started_lint hexecutable (Engine.nameFault?_eq_none_iff.2 hname) text options
  obtain ⟨more, hmore, -⟩ := lint_startsOnly (.str text) (.object options) (.str path) h
  rw [hmore, started_append, List.append_cancel_left_eq] at hstarted
  rw [recorded_of_append hmore, hstarted, Engine.command, hexecutable]
  rfl

def hostileOptions : Fields :=
  [("", .bool false), ("../b.js", .str "/etc"), ("-rf", .list [.str "c.js", .null])]

/-- A path that goes up is confined to its last part, and one that ends above starts nothing. -/
theorem command_is_confined_hostile :
    started ((lint (.str "x") (.object hostileOptions) (.str "/p/../a.js")).recorded
        Host.bareEditor) =
      [⟨.str "jslint", ["--json", "--no-", "--../b.js=/etc", "---rf=c.js", "---rf=None", "<tmp>/a.js"],
        .int 30, some "x"⟩] ∧
      ∃ fault, lint (.str "x") (.object hostileOptions) (.str "/p/..") Host.bareEditor =
        (.error fault, Host.bareEditor) := by
  have hconfined := command_is_confined (h := Host.bareEditor) rfl "x" hostileOptions
  constructor
  · obtain ⟨last, name, hlast, hname, -, -, -, hstarted⟩ := hconfined "/p/../a.js"
    obtain rfl : name = "a.js" := by
      rw [hname, PathName.endsIn_iff.1 hlast]
      decide +kernel
    have husable : ¬ Engine.Unusable "a.js" := Engine.nameFault?_eq_none_iff.1 (by decide +kernel)
    obtain ⟨-, -, flags, hflags, -, hstarted⟩ := hstarted husable
    obtain rfl : flags = ["--no-", "--../b.js=/etc", "---rf=c.js", "---rf=None"] :=
      Except.ok.inj (hflags.symm.trans (by decide +kernel))
    exact hstarted
  · obtain ⟨last, name, hlast, hname, -, -, hfault, -⟩ := hconfined "/p/.."
    have hdots : name = ".." := by
      rw [hname, PathName.endsIn_iff.1 hlast]
      decide +kernel
    exact hfault (.inr (.inl hdots))

end Action

end LintRelay
