import LintRelay.Editor
import LintRelay.Proofs.Keeping

/-!
# The steps of an inspection

An inspection changes the host in four ways only: it notes a run, it starts the linter, it complains,
and it records that another provider was asked. A relation between hosts that allows each of them
holds between the host that an inspection finds and the one it leaves.
-/
namespace LintRelay.Action

variable {R : Host → Host → Prop}

/-- From here on the inspection counts: its options are those of the last run. -/
def noteRun (path : Value) (h : Host) : Host :=
  { h with
    inspector := { h.inspector with lastRun := h.inspector.currentOptions }
    events := h.events ++ [.inspecting path h.inspector.currentOptions] }

/-- What follows in an inspection once its run is noted. -/
def runLinter (text path current : Value) (indent : Int) : Action (Option Inspection) := do
  let options ← ofExcept (LintOptions.normalize current (.int indent))
  let report ← lint text (.object options) path
  ofExcept (concludeReport report)

theorem scanFile_text (text : String) (path : Value) (h : Host) :
    scanFile (.str text) path h =
      runLinter (.str (BlankLines.emptiedText text)) path h.inspector.currentOptions
        h.inspector.indentation.size (noteRun path h) := rfl

theorem sourceText_snd (s : Subject) (h : Host) : (sourceText s h).2 = h := by
  unfold sourceText
  cases s.text <;> rfl

section Linting

variable [IsPreorder Host R]

theorem keeps_lint (hlaunched : ∀ l, Keeps R (launch l))
    (hcomplained : ∀ text, Keeps R (emit (.complained text))) (text options path : Value) :
    Keeps R (lint text options path) := by
  refine keeps_host_bind fun h => ?_
  refine Keeps.bind (keeps_ofExcept _) (fun l => ?_) h
  refine (hlaunched l).bind fun outcome => ?_
  refine (keeps_ofExcept _).bind fun verdict => ?_
  refine Keeps.bind ?_ fun _ => keeps_pure _
  cases verdict.complaint with
  | none => exact keeps_pure ()
  | some complaint => exact hcomplained complaint

theorem keeps_runLinter (hlaunched : ∀ l, Keeps R (launch l))
    (hcomplained : ∀ text, Keeps R (emit (.complained text))) (text path current : Value)
    (indent : Int) : Keeps R (runLinter text path current indent) := by
  refine (keeps_ofExcept _).bind fun options => ?_
  exact (keeps_lint hlaunched hcomplained _ _ _).bind fun report => keeps_ofExcept _

end Linting

/-- All that an inspection does to a host is within a relation. -/
structure Allows (R : Host → Host → Prop) : Prop where
  noted : ∀ path h, R h (noteRun path h)
  launched : ∀ l, Keeps R (launch l)
  complained : ∀ text, Keeps R (emit (.complained text))
  scanned : ∀ name text path, Keeps R (emit (.scanned name text path))

namespace Allows

variable [IsPreorder Host R]

theorem keeps_runLinter (ha : Allows R) (text path current : Value) (indent : Int) :
    Keeps R (runLinter text path current indent) :=
  Action.keeps_runLinter ha.launched ha.complained text path current indent

theorem keeps_scanFile (ha : Allows R) (text path : Value) : Keeps R (scanFile text path) := by
  intro h
  cases text with
  | str text =>
    rw [scanFile_text]
    exact IsTrans.trans _ _ _ (ha.noted path h) (ha.keeps_runLinter _ _ _ _ _)
  | null | bool | int | float | list | object => exact Std.Refl.refl h

theorem keeps_consult (ha : Allows R) (text path : Value) (p : Provider) :
    Keeps R (consult text path p) := by
  unfold consult
  split
  · exact ha.keeps_scanFile text path
  · refine (ha.scanned _ _ _).bind fun _ => ?_
    split
    · exact keeps_pure _
    · exact keeps_fail _

theorem keeps_consultAll (ha : Allows R) (text path : Value) (ps : List Provider)
    (results : Entries (Option Inspection)) :
    Keeps R (consultAll (consult text path) ps results) := by
  induction ps generalizing results with
  | nil => exact keeps_pure _
  | cons p rest ih => exact (ha.keeps_consult text path p).bind fun r => ih _

theorem keeps_inspect (ha : Allows R) (language : Option String) (text path : Value) :
    Keeps R (inspect language text path) := by
  refine keeps_host_bind fun h => ?_
  split
  · exact ha.keeps_consultAll _ _ _ _ h
  · exact Std.Refl.refl h

theorem keeps_inspectSubject (ha : Allows R) (s : Subject) : Keeps R (inspectSubject s) := by
  refine Keeps.bind (fun h => ?_) fun text => ha.keeps_inspect _ _ _
  rw [sourceText_snd]
  exact Std.Refl.refl h

end Allows

end LintRelay.Action
