import LintRelay.Diagnostic
import LintRelay.Proofs.Traversal
import LintRelay.Summary

/-!
# What can be shown

An editor shows a problem whose position lies in its range and whose message is a text. The results of
an inspection become diagnostics exactly where all their problems can be shown.
-/
namespace LintRelay

/-- A problem that an editor accepts. -/
structure Problem.Showable (p : Problem) : Prop where
  line : 0 ≤ p.line ∧ p.line ≤ Fault.greatestPosition
  character : 0 ≤ p.character ∧ p.character ≤ Fault.greatestPosition
  message : ∃ text, p.message = .str text

def Inspection.Showable (r : Inspection) : Prop := ∀ p ∈ r.problems, p.Showable

namespace Results

/-- The problems of some results in turn, each with the name of its result. -/
def problems (results : Results) : List (String × Problem) :=
  results.flatMap fun result => (problemsOf result.2).map (Prod.mk result.1)

theorem problems_cons (result : String × Option Inspection) (rest : Results) :
    problems (result :: rest) = (problemsOf result.2).map (Prod.mk result.1) ++ problems rest :=
  List.flatMap_cons

theorem forall_problemsOf_iff {r? : Option Inspection} {P : Problem → Prop} :
    (∀ p ∈ problemsOf r?, P p) ↔ ∀ r, r? = some r → ∀ p ∈ r.problems, P p := by
  cases r? <;> simp [problemsOf]

theorem mem_problems_iff {results : Results} {found : String × Problem} :
    found ∈ results.problems ↔
      ∃ result ∈ results, result.1 = found.1 ∧ found.2 ∈ problemsOf result.2 := by
  obtain ⟨name, p⟩ := found
  simp only [problems, List.mem_flatMap, List.mem_map, Prod.mk.injEq]
  constructor
  · rintro ⟨result, hresult, q, hq, hname, rfl⟩
    exact ⟨result, hresult, hname, hq⟩
  · rintro ⟨result, hresult, hname, hp⟩
    exact ⟨result, hresult, p, hp, hname, rfl⟩

theorem forall_problems_iff {results : Results} {P : Problem → Prop} :
    (∀ found ∈ results.problems, P found.2) ↔
      ∀ result ∈ results, ∀ p ∈ problemsOf result.2, P p := by
  constructor
  · intro h result hresult p hp
    exact h (result.1, p) (mem_problems_iff.2 ⟨result, hresult, rfl, hp⟩)
  · intro h found hfound
    obtain ⟨result, hresult, -, hp⟩ := mem_problems_iff.1 hfound
    exact h result hresult found.2 hp

end Results

namespace Diagnostic

variable {source : String} {p : Problem}

theorem inRange_iff {n : Int} : inRange n = true ↔ 0 ≤ n ∧ n ≤ Fault.greatestPosition := by
  simp [inRange]

theorem ofProblem_ok_iff :
    (∃ d, ofProblem source p = .ok d) ↔ p.Showable := by
  unfold ofProblem
  by_cases hline : inRange p.line = true
  · by_cases hcharacter : inRange p.character = true
    · simp only [hline, hcharacter, Bool.not_true, Bool.false_eq_true, if_false]
      have hpos := inRange_iff.1 hline
      have hpos' := inRange_iff.1 hcharacter
      cases hm : p.message with
      | str text => exact ⟨fun _ => ⟨hpos, hpos', text, hm⟩, fun _ => ⟨_, rfl⟩⟩
      | null | bool | int | float | list | object =>
        refine ⟨fun ⟨d, hd⟩ => (by cases hd), fun h => ?_⟩
        obtain ⟨text, htext⟩ := h.message
        rw [hm] at htext
        cases htext
    · simp only [hline, hcharacter, Bool.not_true, Bool.not_false, Bool.false_eq_true, if_false, if_true]
      exact ⟨fun ⟨d, hd⟩ => (by cases hd), fun h => absurd (inRange_iff.2 h.character) hcharacter⟩
  · simp only [hline, Bool.not_false, if_true]
    exact ⟨fun ⟨d, hd⟩ => (by cases hd), fun h => absurd (inRange_iff.2 h.line) hline⟩

theorem ofProblems_eq_mapM (source : String) (problems : List Problem) :
    ofProblems source problems = problems.mapM (ofProblem source) := by
  induction problems with
  | nil => rfl
  | cons p rest ih => rw [ofProblems, ih, mapM_cons_eq]

theorem ofInspection_eq_mapM (source : String) (r? : Option Inspection) :
    ofInspection source r? = (Results.problemsOf r?).mapM (ofProblem source) := by
  cases r? with
  | none => rfl
  | some r => exact ofProblems_eq_mapM source r.problems

/-- Several results are converted as one list of problems. -/
theorem ofResults_eq_mapM (results : Results) :
    ofResults results = results.problems.mapM fun found => ofProblem found.1 found.2 := by
  induction results with
  | nil => rfl
  | cons result rest ih =>
    rw [ofResults, ofInspection_eq_mapM, ih, Results.problems_cons, mapM_append_eq, List.mapM_map]
    rfl

theorem ofResults_ok_iff {results : Results} :
    (∃ ds, ofResults results = .ok ds) ↔
      ∀ result ∈ results, ∀ r, result.2 = some r → r.Showable := by
  rw [ofResults_eq_mapM, mapM_succeeds_iff]
  simp only [ofProblem_ok_iff, Results.forall_problems_iff, Results.forall_problemsOf_iff]
  rfl

end Diagnostic

end LintRelay
