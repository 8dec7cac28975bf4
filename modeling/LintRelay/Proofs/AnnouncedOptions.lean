import LintRelay.Endpoint
import LintRelay.Proofs.QuietChange

/-!
# The options that are announced

Whoever asks for the options in force gets them completed, and a scan completes them once more for the
linter. Both find the same, whatever happened before: the flags of a scan are those of the announced
options, and where there are none to announce, the linter is not started.
-/
namespace LintRelay

namespace LintOptions

end LintOptions

namespace Inspector

variable {i j : Inspector} {project : Fields}

end Inspector

theorem StartsOnly.started_eq {h h' : Host} (i : StartsOnly (fun _ => False) h h') :
    started h'.events = started h.events := by
  obtain ⟨more, hmore, hnone⟩ := i
  have hidle : started more = [] :=
    List.eq_nil_iff_forall_not_mem.2 fun l hl => hnone l (launched_mem_of_started hl)
  rw [hmore, started_append, hidle, List.append_nil]

namespace Action

variable {h : Host} {executable path : String}

theorem scanFile_eq (text : String) (path : Value) (h : Host) :
    scanFile (.str text) path h =
      (ofExcept h.inspector.effectiveOptions >>= fun options =>
        lint (.str (BlankLines.emptiedText text)) (.object options) path >>= fun report =>
          ofExcept (concludeReport report)) (noteRun path h) := rfl

/-- A run of the linter on a text whose file can be written starts this one process. -/
theorem started_lint (hexecutable : h.inspector.engine.executable = .str executable)
    (hname : Engine.nameFault? (Engine.fileName path) = none) (text : String) (options : Fields) :
    started (lint (.str text) (.object options) (.str path) h).2.events =
      started h.events ++ [h.inspector.engine.command text options path] := by
  have hidle : StartsOnly (fun _ => False)
      (launching (h.inspector.engine.command text options path) h)
      (lint (.str text) (.object options) (.str path) h).2 := by
    rw [lint_eq_conclude hexecutable hname]
    exact ((keeps_ofExcept _).bind deliver_startsOnly) _
  rw [hidle.started_eq, launching, started_append, started_launched]

theorem started_scanFile (hexecutable : h.inspector.engine.executable = .str executable)
    (hname : Engine.nameFault? (Engine.fileName path) = none) {options : Fields}
    (hoptions : h.inspector.effectiveOptions = .ok options) (text : String) :
    started (scanFile (.str text) (.str path) h).2.events =
      started h.events ++
        [h.inspector.engine.command (BlankLines.emptiedText text) options path] := by
  have hnoted : started (noteRun (.str path) h).events = started h.events := by
    rw [noteRun, started_append]
    exact List.append_nil _
  rw [scanFile_eq, ofExcept_bind_ok hoptions, bind_idle_snd fun _ _ => rfl, ← hnoted]
  exact started_lint (h := noteRun (.str path) h) hexecutable hname _ options

theorem scanFile_effectiveOptions (text : String) (path : Value) (h : Host) :
    (scanFile (.str text) path h).2.inspector.effectiveOptions = h.inspector.effectiveOptions := by
  have hallows : Allows (Inspected fun _ => True) := inspected_allows
  have i := hallows.keeps_scanFile (.str text) path h
  rw [Inspector.effectiveOptions, i.currentOptions, i.settings]
  rfl

end Action

end LintRelay
