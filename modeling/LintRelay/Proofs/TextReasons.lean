import LintRelay.Proofs.MappedReports
import LintRelay.Proofs.Totals

/-!
# Reasons that can be shown

A problem has the reason of its entry whatever kind of value that is, while showing it needs a text. Only
a missing reason is replaced by one, a null is not. Showing a mapped report therefore succeeds exactly
where every reason in the report is a text, and otherwise it ends after the summary.
-/
namespace LintRelay

/-- Every reason that an entry of the report has is a text. -/
def TextReasons (entries : List Value) : Prop :=
  ∀ fields, .object fields ∈ entries →
    ∀ reason, Entries.get? "reason" fields = some reason → ∃ text, reason = .str text

namespace Problem

variable {p : Problem} {fields : Fields}

theorem Tells.text_iff (h : p.Tells fields) :
    (∃ text, p.message = .str text) ↔
      ∀ reason, Entries.get? "reason" fields = some reason → ∃ text, reason = .str text := by
  rw [h.message]
  cases Entries.get? "reason" fields <;> simp

end Problem

namespace Inspection

variable {entries : List Value} {r : Inspection}

theorem texts_iff_of_told {problems : List Problem}
    (h : List.Forall₂ (fun entry p => ∃ fields, entry = .object fields ∧ Problem.Tells fields p)
      entries problems) :
    (∀ p ∈ problems, ∃ text, p.message = .str text) ↔ TextReasons entries := by
  induction h with
  | nil => simp [TextReasons]
  | cons hfirst _ ih =>
    obtain ⟨fields, rfl, htells⟩ := hfirst
    rw [List.forall_mem_cons, ih, htells.text_iff]
    simp [TextReasons, or_imp, forall_and]

theorem textReasons_filter : TextReasons (entries.filter (!·.isNull)) ↔ TextReasons entries := by
  simp [TextReasons, Value.isNull]

theorem Maps.texts_iff (h : r.Maps entries) :
    (∀ p ∈ r.problems, ∃ text, p.message = .str text) ↔ TextReasons entries :=
  (texts_iff_of_told h.told).trans textReasons_filter

end Inspection

namespace Results

variable {results : Results} {fault : Fault}

/-- A fault in showing results, which names the kind of a message that is no text. -/
def Unshowable (problems : List Problem) (fault : Fault) : Prop :=
  ∃ p ∈ problems, (∀ text, p.message ≠ .str text) ∧ fault = .searchedKind p.message.kind

theorem Unshowable.mono {problems more : List Problem} (h : Unshowable problems fault)
    (hsub : problems ⊆ more) : Unshowable more fault := by
  obtain ⟨p, hp, hnone⟩ := h
  exact ⟨p, hsub hp, hnone⟩

theorem row_error {path : String} {p : Problem} (h : row path p = .error fault) :
    Unshowable [p] fault := by
  by_cases htext : ∃ text, p.message = .str text
  · obtain ⟨shown, hrow⟩ := row_ok_iff.2 htext
    rw [hrow] at h
    cases h
  · refine ⟨p, List.mem_singleton_self p, not_exists.1 htext, ?_⟩
    unfold row at h
    split at h
    · exact absurd ⟨_, ‹_›⟩ htext
    · exact (Except.error.inj h).symm

theorem rows_error (h : rows results = .error fault) :
    Unshowable (results.flatMap fun p => problemsOf p.2) fault := by
  rw [rows_eq_mapM] at h
  obtain ⟨earlier, found, later, hsplit, -, hrow⟩ := mapM_eq_error_iff.1 h
  have hfound : found ∈ results.problems := by rw [hsplit]; simp
  obtain ⟨result, hresult, -, hp⟩ := mem_problems_iff.1 hfound
  have hmem : found.2 ∈ results.flatMap fun p => problemsOf p.2 :=
    List.mem_flatMap.2 ⟨result, hresult, hp⟩
  exact (row_error hrow).mono (by simpa using hmem)

theorem shown_error (h : results.shown.1 = .error fault) :
    results.shown = (.error fault, [.panel "JSLint Summary" results.summaryText]) ∧
      Unshowable (results.flatMap fun p => problemsOf p.2) fault := by
  unfold shown at h ⊢
  split at h
  · cases h
  · rename_i hsome
    split at h
    · rename_i other hrows
      obtain rfl : other = fault := Except.error.inj h
      refine ⟨?_, rows_error hrows⟩
      exact if_neg hsome
    · cases h

/-- Some results have this one among them, and all messages of the others are texts. -/
structure TextsBeside (results : Results) (r : Inspection) : Prop where
  mem : ∃ path, (path, some r) ∈ results
  others : ∀ p ∈ results, p.2 ≠ some r →
    ∀ problem ∈ problemsOf p.2, ∃ text, problem.message = .str text

variable {r : Inspection} {entries : List Value}

theorem TextsBeside.shown_ok_iff (h : results.TextsBeside r) :
    results.shown.1 = .ok () ↔ ∀ problem ∈ r.problems, ∃ text, problem.message = .str text := by
  rw [Results.shown_ok_iff]
  constructor
  · intro hall
    obtain ⟨path, hpath⟩ := h.mem
    exact hall (path, some r) hpath
  · intro htexts p hp
    by_cases hsame : p.2 = some r
    · rw [hsame]
      exact htexts
    · exact h.others p hp hsame

theorem TextsBeside.unshowable (h : results.TextsBeside r)
    (hfault : Unshowable (results.flatMap fun p => problemsOf p.2) fault) :
    Unshowable r.problems fault := by
  obtain ⟨problem, hproblem, hnone, hkind⟩ := hfault
  obtain ⟨p, hp, hin⟩ := List.mem_flatMap.1 hproblem
  by_cases hsame : p.2 = some r
  · rw [hsame] at hin
    exact ⟨problem, hin, hnone, hkind⟩
  · obtain ⟨text, htext⟩ := h.others p hp hsame problem hin
    exact absurd htext (hnone text)

/-- The positions of a mapped report are counted from zero, and its messages are texts exactly where the
reasons of the report are. So where nothing else of some results is in the way, they are shown exactly
then; otherwise only the summary is, and the fault names the kind of a reason that is no text. -/
theorem mapped_report_is_shown_iff (h : Inspection.ofReport entries = .ok r) :
    (∀ p ∈ r.problems, 0 ≤ p.line ∧ 0 ≤ p.character) ∧
      ((∀ p ∈ r.problems, ∃ text, p.message = .str text) ↔ TextReasons entries) ∧
      ∀ results : Results, results.TextsBeside r →
        (results.shown.1 = .ok () ↔ TextReasons entries) ∧
          (¬ TextReasons entries → ∃ fault, Unshowable r.problems fault ∧
            results.shown = (.error fault, [.panel "JSLint Summary" results.summaryText])) := by
  have hmaps := Inspection.ofReport_maps h
  refine ⟨hmaps.nonneg, hmaps.texts_iff, fun results hbeside => ?_⟩
  have hshown := hbeside.shown_ok_iff.trans hmaps.texts_iff
  refine ⟨hshown, fun hnone => ?_⟩
  cases hresult : results.shown.1 with
  | ok u => exact absurd (hshown.1 hresult) hnone
  | error fault =>
    obtain ⟨hall, hfault⟩ := shown_error hresult
    exact ⟨fault, hbeside.unshowable hfault, hall⟩

def silentReport : List Value := [.object [], .null]

def silentInspection : Inspection := ⟨[⟨0, 0, .str "", .notice⟩], true⟩

/-- A missing reason is an empty text, which is shown beside a file without a result. -/
theorem mapped_report_is_shown_silent :
    Inspection.ofReport silentReport = .ok silentInspection ∧
      shown [("b.js", none), ("a.js", some silentInspection)] =
        (.ok (), [.panel "JSLint Summary"
            "Total Files: 2\nClean Files: 1\nProblems: 1\nStopped Early: 1",
          .table "Problems" columns ⟨[["a.js", "1", "1", "meta", ""]], ["dim"]⟩]) := by
  have hmapped : Inspection.ofReport silentReport = .ok silentInspection := by decide
  obtain ⟨-, -, hshown⟩ := mapped_report_is_shown_iff hmapped
  have htexts : TextReasons silentReport := by
    simp [TextReasons, silentReport, Entries.get?]
  have hbeside : TextsBeside [("b.js", none), ("a.js", some silentInspection)] silentInspection :=
    ⟨⟨"a.js", by simp⟩, by simp [problemsOf]⟩
  have hsucceeds := (hshown _ hbeside).1.2 htexts
  exact ⟨hmapped, Prod.ext hsucceeds (by decide +kernel)⟩

def nullReasonReport : List Value :=
  [.object [("line", .int 1), ("character", .int 1), ("reason", .null)]]

/-- A null for a reason is no text, and the table of problems is not shown. -/
theorem null_reason_is_not_shown :
    Json.read "[\x7b\"line\": 1, \"character\": 1, \"reason\": null\x7d]" =
        .ok (.list nullReasonReport) ∧
      Inspection.ofReport nullReasonReport = .ok ⟨[⟨0, 0, .null, .warning⟩], false⟩ ∧
      shown [("a.js", some ⟨[⟨0, 0, .null, .warning⟩], false⟩)] =
        (.error (.searchedKind .null), [.panel "JSLint Summary"
          "Total Files: 1\nClean Files: 0\nProblems: 1\nStopped Early: 0"]) := by
  decide +kernel

end Results

end LintRelay
