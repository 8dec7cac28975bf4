import LintRelay.Commands
import LintRelay.Proofs.EncodedText
import LintRelay.Proofs.WrittenValues
import Mathlib.Data.List.Basic

/-!
# The saved report, read again

A report loses nothing of the results that it is made from. It is a text of plain characters alone,
and reading it as JSON gives back each path with what was found there, in the same order, so no two
result maps have the same report.
-/
namespace LintRelay

theorem ProblemKind.identifier_injective : Function.Injective ProblemKind.identifier := by
  intro a b h
  cases a <;> cases b <;> first | rfl | exact absurd h (by decide)

theorem Problem.toValue_injective : Function.Injective Problem.toValue := by
  rintro ⟨line, character, message, kind⟩ ⟨line', character', message', kind'⟩ h
  simp only [toValue, Value.object.injEq, List.cons.injEq, Prod.mk.injEq, Value.int.injEq,
    Value.str.injEq, true_and, and_true] at h
  obtain ⟨⟨rfl, rfl⟩, rfl, hkind⟩ := h
  rw [ProblemKind.identifier_injective hkind]

namespace Inspection

theorem toValue_injective : Function.Injective Inspection.toValue := by
  rintro ⟨problems, aborted⟩ ⟨problems', aborted'⟩ h
  simp only [toValue, Value.object.injEq, List.cons.injEq, Prod.mk.injEq, Value.list.injEq,
    Value.bool.injEq, true_and, and_true] at h
  rw [List.map_injective_iff.2 Problem.toValue_injective h.1, h.2]

theorem optionToValue_injective : Function.Injective optionToValue := by
  intro r r' h
  cases r with
  | none =>
    cases r' with
    | none => rfl
    | some => cases h
  | some =>
    cases r' with
    | none => cases h
    | some => rw [toValue_injective h]

end Inspection

namespace Results

/-- Each path is entered once, and every message is a text. -/
structure Savable (results : Results) : Prop where
  paths : (Entries.names results).Nodup
  messages : ∀ p ∈ results, ∀ problem ∈ problemsOf p.2, ∃ text, problem.message = .str text

theorem toValue_injective : Function.Injective Results.toValue := by
  intro results results' h
  have hentries : Function.Injective fun p : String × Option Inspection =>
      (p.1, Inspection.optionToValue p.2) := by
    intro p p' e
    obtain ⟨hpath, hresult⟩ := Prod.mk.inj e
    exact Prod.ext hpath (Inspection.optionToValue_injective hresult)
  exact List.map_injective_iff.2 hentries (Value.object.inj h)

end Results

namespace Json

theorem plain_problem {problem : Problem} {text : String} (h : problem.message = .str text) :
    Plain problem.toValue := by
  have hposition : Plain (.object [("line", .int problem.line), ("ch", .int problem.character)]) := by
    refine .object (by simp [Entries.names]) fun p hp => ?_
    simp only [List.mem_cons, List.not_mem_nil, or_false] at hp
    obtain rfl | rfl := hp <;> exact .int _
  refine .object (by simp [Entries.names]) fun p hp => ?_
  simp only [List.mem_cons, List.not_mem_nil, or_false] at hp
  obtain rfl | rfl | rfl := hp
  · exact hposition
  · rw [h]
    exact .str text
  · exact .str _

theorem plain_optionToValue {r : Option Inspection}
    (h : ∀ problem ∈ Results.problemsOf r, ∃ text, problem.message = .str text) :
    Plain (Inspection.optionToValue r) := by
  cases r with
  | none => exact .null
  | some r =>
    have hproblems : Plain (.list (r.problems.map Problem.toValue)) := by
      refine .list fun v hv => ?_
      obtain ⟨problem, hmem, rfl⟩ := List.mem_map.1 hv
      obtain ⟨text, htext⟩ := h problem hmem
      exact plain_problem htext
    refine .object (by simp [Entries.names]) fun p hp => ?_
    simp only [List.mem_cons, List.not_mem_nil, or_false] at hp
    obtain rfl | rfl := hp
    · exact hproblems
    · exact .bool _

theorem plain_results {results : Results} (h : results.Savable) : Plain results.toValue := by
  refine .object ?_ fun p hp => ?_
  · have hnames : Entries.names (results.map fun p => (p.1, Inspection.optionToValue p.2)) =
        Entries.names results := by
      simp [Entries.names]
    rw [hnames]
    exact h.paths
  · obtain ⟨q, hq, rfl⟩ := List.mem_map.1 hp
    exact plain_optionToValue (h.messages q hq)

end Json

namespace Results

variable {results : Results}

theorem read_report (h : results.Savable) : Json.read results.report = .ok results.toValue :=
  (Json.plain_results h).read_write

theorem isWritten_of_mem_report (h : results.Savable) {c : Char} (hc : c ∈ results.report.toList) :
    c = '\n' ∨ 32 ≤ c.toNat ∧ c.toNat < 127 := by
  rw [report, Json.write, String.toList_ofList] at hc
  have hwritten := List.all_eq_true.1 ((Json.plain_results h).all_isWritten 0) c hc
  simpa [Json.isWritten] using hwritten

theorem decodeText_report (h : results.Savable) :
    Disk.decodeText (Utf8.encode results.report.toList) = .ok results.report := by
  have hreturn : '\r' ∉ results.report.toList := (Json.plain_results h).return_not_mem
  rw [Disk.decodeText_encode, LineEnds.unify_of_not_mem hreturn, String.ofList_toList]

end Results

namespace Action

theorem print_disk (style markup : String) (h : Host) : (print style markup h).2.disk = h.disk := by
  unfold print printMarkup
  cases Markup.shown (Markup.styled style markup) <;> rfl

/-- Saving leaves the report's bytes on the disk, or else a fault and nothing else. -/
theorem save_writes (results : Results) {output : String} (houtput : output ≠ "") (h : Host) :
    (∃ fault, h.disk.write output (Utf8.encode results.report.toList) = .error fault ∧
        save results (some output) h = (.error fault, h)) ∨
      h.disk.write output (Utf8.encode results.report.toList) =
        .ok (save results (some output) h).2.disk := by
  have hhost : host h = (.ok h, h) := rfl
  unfold save
  dsimp only
  rw [if_neg houtput, bind_ok hhost]
  cases h.disk.write output (Utf8.encode results.report.toList) with
  | error fault => exact .inl ⟨fault, rfl, bind_error rfl _⟩
  | ok disk =>
    have hwritten : ofExcept (.ok disk) h = (.ok disk, h) := rfl
    have hupdated : update (fun h => { h with disk := disk }) h = (.ok (), { h with disk := disk }) :=
      rfl
    rw [bind_ok hwritten, bind_ok hupdated, print_disk]
    exact .inr rfl

end Action

namespace Results

/-- What is saved is plain text, and read as JSON it is an object with the same paths in the same order,
null where nothing was found and all of a result otherwise. So no other results have this report. -/
theorem report_is_lossless {results : Results} (hsavable : results.Savable) :
    (∀ c ∈ results.report.toList, c.toNat < 128) ∧
      Json.read results.report =
        .ok (.object (results.map fun p => (p.1, Inspection.optionToValue p.2))) ∧
      (∀ other : Results, other.Savable → other.report = results.report → other = results) ∧
      ∃ bytes, Disk.decodeText bytes = .ok results.report ∧
        ∀ (output : String) (h : Host), output ≠ "" →
          (∃ fault, h.disk.write output bytes = .error fault ∧
              Action.save results (some output) h = (.error fault, h)) ∨
            h.disk.write output bytes = .ok (Action.save results (some output) h).2.disk := by
  have hread := read_report hsavable
  refine ⟨fun c hc => ?_, hread, fun other hother hsame => ?_, _, decodeText_report hsavable,
    fun output h houtput => Action.save_writes results houtput h⟩
  · obtain rfl | ⟨-, hbound⟩ := isWritten_of_mem_report hsavable hc
    · decide
    · omega
  · have hvalues : other.toValue = results.toValue := by
      rw [← hsame, read_report hother] at hread
      exact Except.ok.inj hread
    exact toValue_injective hvalues

def oddResults : Results :=
  [("/\"a\"\\b.js", none),
   ("/é😀.js", some ⟨[⟨0, 0, .str "", .error⟩,
      ⟨-1, 1000000000000000000000000000000, .str "tab\tzero\x00", .notice⟩], true⟩),
   ("/clean.js", some ⟨[], false⟩)]

theorem oddResults_savable : oddResults.Savable where
  paths := by decide
  messages := by
    intro p hp problem hproblem
    simp only [oddResults, List.mem_cons, List.not_mem_nil, or_false] at hp
    obtain rfl | rfl | rfl := hp
    · exact absurd hproblem List.not_mem_nil
    · simp only [problemsOf, List.mem_cons, List.not_mem_nil, or_false] at hproblem
      obtain rfl | rfl := hproblem <;> exact ⟨_, rfl⟩
    · exact absurd hproblem List.not_mem_nil

theorem report_is_lossless_of_odd_results :
    Json.read oddResults.report =
        .ok (.object (oddResults.map fun p => (p.1, Inspection.optionToValue p.2))) ∧
      report oddResults.reverse ≠ oddResults.report := by
  have hreversed : Savable oddResults.reverse :=
    ⟨by decide, fun p hp => oddResults_savable.messages p (List.mem_reverse.1 hp)⟩
  obtain ⟨-, hread, hunique, -⟩ := report_is_lossless oddResults_savable
  have hother : oddResults.reverse ≠ oddResults := by decide
  exact ⟨hread, fun hsame => hother (hunique _ hreversed hsame)⟩

end Results

end LintRelay
