import LintRelay.Diagnostic
import LintRelay.Proofs.EscapedMarkup
import LintRelay.Proofs.Showing
import LintRelay.Summary

/-!
# One inspection on three surfaces

The remarks of a lint report become diagnostics for an editor, an answer over HTTP and rows of a printed
table. All three hold the same remarks in the order of the report, at the same places, and tell alike
which of them is the notice that the linter gave up. The table escapes its texts: a message shows in it
as it is where it is literal.
-/
namespace LintRelay

/-- What a lint report says of a place, counted from one. -/
structure Remark where
  line : Int
  character : Int
  reason : String

/-- An editor can show the place. -/
def Remark.Placed (remark : Remark) : Prop :=
  (1 ≤ remark.line ∧ remark.line ≤ 2147483648) ∧
    1 ≤ remark.character ∧ remark.character ≤ 2147483648

/-- A remark as an entry of a report has it. -/
structure Remark.SaidIn (fields : Fields) (remark : Remark) : Prop where
  line : Entries.get? "line" fields = some (.int remark.line)
  character : Entries.get? "character" fields = some (.int remark.character)
  reason : Entries.get? "reason" fields = some (.str remark.reason)
  placed : remark.Placed

/-- Entries that make some remarks, in this order, with nulls between them in any places. -/
def Reports (entries : List Value) (said : List Remark) : Prop :=
  List.Forall₂ (fun entry remark => ∃ fields, entry = .object fields ∧ remark.SaidIn fields)
    (entries.filter (!·.isNull)) said

/-- Each remark, and whether it is the notice that the linter gave up. -/
def marked (stopped : Bool) (said : List Remark) : List (Remark × Bool) :=
  said.mapIdx fun i remark => (remark, stopped && i + 1 == said.length)

theorem map_fst_marked (stopped : Bool) (said : List Remark) :
    (marked stopped said).map Prod.fst = said :=
  List.ext_getElem (by simp [marked]) (by simp [marked])

theorem marked_ne_nil {stopped : Bool} {said : List Remark} (h : said ≠ []) :
    marked stopped said ≠ [] := by
  simpa [marked] using h

namespace Results

/-- What a cell shows of a text. -/
def cellText (text : String) : String :=
  match cell text with
  | .ok shown => shown
  | .error _ => ""

theorem cell_eq (text : String) : cell text = .ok (cellText text) := by
  obtain ⟨shown, hshown⟩ := Markup.exists_shown_escape text
  have hcell : cell text = .ok shown := hshown
  rw [cellText, hcell]

theorem cellText_of_literal {text : String} (h : Markup.Literal text) : cellText text = text := by
  have hcell : cell text = .ok text := Markup.shown_escape_of_literal h
  rw [cellText, hcell]

/-- What a row of the table shows of a problem. -/
def shownCells (path : String) (p : Problem) : List String :=
  [cellText path, toString (p.line + 1), toString (p.character + 1), p.kind.word,
    cellText p.message.text]

theorem row_of_text {path text : String} {p : Problem} (h : p.message = .str text) :
    row path p = .ok (shownCells path p) := by
  unfold row shownCells
  rw [h]
  dsimp only
  rw [cell_eq, cell_eq]
  rfl

theorem rowsOf_of_texts {path : String} {problems : List Problem}
    (h : ∀ p ∈ problems, ∃ text, p.message = .str text) :
    rowsOf path problems = .ok (problems.map (shownCells path)) := by
  induction problems with
  | nil => rfl
  | cons p rest ih =>
    obtain ⟨⟨text, htext⟩, hrest⟩ := List.forall_mem_cons.1 h
    rw [rowsOf, row_of_text htext, ih hrest]
    rfl

end Results

namespace Remark

def problem (remark : Remark) (ending : Bool) : Problem :=
  ⟨remark.line - 1, remark.character - 1, .str remark.reason, if ending then .notice else .warning⟩

def diagnostic (source : String) (remark : Remark) (ending : Bool) : Diagnostic :=
  ⟨remark.line - 1, remark.character - 1, remark.reason,
    if ending then .information else .warning, source⟩

def answer (remark : Remark) (ending : Bool) : Value :=
  .object
    [("pos", .object [("line", .int (remark.line - 1)), ("ch", .int (remark.character - 1))]),
     ("message", .str remark.reason),
     ("type", .str (if ending then "problem_type_meta" else "problem_type_warning"))]

def cells (path : String) (remark : Remark) (ending : Bool) : List String :=
  [Results.cellText path, toString remark.line, toString remark.character,
    if ending then "meta" else "warning", Results.cellText remark.reason]

theorem position?_of_counted {n : Int} (h : 1 ≤ n) : Problem.position? (.int n) = .ok (n - 1) := by
  have hne : n ≠ 0 := by omega
  have hmax : max (n - 1) 0 = n - 1 := by omega
  simp [Problem.position?, Value.isTruthy, hne, Value.whole?, Except.map, hmax]

theorem SaidIn.ofEntry {fields : Fields} {remark : Remark} (h : remark.SaidIn fields) :
    Problem.ofEntry (.object fields) = .ok (remark.problem false) := by
  have hline := position?_of_counted h.placed.1.1
  have hcharacter := position?_of_counted h.placed.2.1
  simp [Problem.ofEntry, Value.fieldOrNull, Problem.reason, h.line, h.character, h.reason,
    hline, hcharacter, Except.bind, problem]

theorem inRange_of_counted {n : Int} (h : 1 ≤ n ∧ n ≤ 2147483648) :
    Diagnostic.inRange (n - 1) = true := by
  have hlow : 0 ≤ n - 1 := by omega
  have hhigh : n - 1 ≤ 2147483647 := by omega
  exact Diagnostic.inRange_iff.2 ⟨hlow, hhigh⟩

variable {remark : Remark}

theorem Placed.ofProblem (h : remark.Placed) (source : String) (ending : Bool) :
    Diagnostic.ofProblem source (remark.problem ending) =
      .ok (remark.diagnostic source ending) := by
  have hline := inRange_of_counted h.1
  have hcharacter := inRange_of_counted h.2
  cases ending <;> simp [Diagnostic.ofProblem, problem, hline, hcharacter, diagnostic,
    ProblemKind.severity]

theorem toValue_problem (ending : Bool) : (remark.problem ending).toValue = remark.answer ending := by
  cases ending <;> rfl

theorem shownCells_problem (path : String) (ending : Bool) :
    Results.shownCells path (remark.problem ending) = remark.cells path ending := by
  have hback (n : Int) : n - 1 + 1 = n := by omega
  cases ending <;>
    simp [Results.shownCells, problem, hback, cells, ProblemKind.word, Value.text]

end Remark

def problemsOf (remarks : List (Remark × Bool)) : List Problem :=
  remarks.map fun p => p.1.problem p.2

theorem Reports.placed {entries : List Value} {said : List Remark} (h : Reports entries said) :
    ∀ remark ∈ said, remark.Placed := by
  unfold Reports at h
  generalize entries.filter (!·.isNull) = present at h
  induction h with
  | nil => simp
  | cons hfirst _ ih =>
    obtain ⟨_, -, hsaid⟩ := hfirst
    exact List.forall_mem_cons.2 ⟨hsaid.placed, ih⟩

theorem Reports.ofEntries {entries : List Value} {said : List Remark} (h : Reports entries said) :
    Problem.ofEntries (entries.filter (!·.isNull)) = .ok (said.map (·.problem false)) := by
  unfold Reports at h
  generalize entries.filter (!·.isNull) = present at h ⊢
  induction h with
  | nil => rfl
  | cons hfirst _ ih =>
    obtain ⟨fields, rfl, hsaid⟩ := hfirst
    simp [Problem.ofEntries, hsaid.ofEntry, ih, Except.bind, Except.map]

theorem markLast_problems (said : List Remark) :
    Problem.markLast (said.map (·.problem false)) = problemsOf (marked true said) := by
  induction said with
  | nil => rfl
  | cons remark rest ih =>
    cases rest with
    | nil => rfl
    | cons next more =>
      have hmore : problemsOf (marked true (remark :: next :: more)) =
          remark.problem false :: problemsOf (marked true (next :: more)) := by
        simp [problemsOf, marked, List.mapIdx_cons]
      rw [hmore, ← ih]
      rfl

theorem unmarked_problems (said : List Remark) :
    said.map (·.problem false) = problemsOf (marked false said) := by
  conv_lhs => rw [← map_fst_marked false said]
  rw [problemsOf, List.map_map]
  refine List.map_congr_left fun p hp => ?_
  obtain ⟨i, hi, rfl⟩ := List.mem_mapIdx.1 hp
  rfl

theorem Reports.ofReport {entries : List Value} {said : List Remark} (h : Reports entries said) :
    Inspection.ofReport entries =
      .ok ⟨problemsOf (marked (entries.any Value.isNull) said), entries.any Value.isNull⟩ := by
  rw [Inspection.ofReport, h.ofEntries, Except.map]
  cases entries.any Value.isNull with
  | false => rw [if_neg Bool.false_ne_true, unmarked_problems]
  | true => rw [if_pos rfl, markLast_problems]

section

variable {remarks : List (Remark × Bool)}

theorem ofProblems_problemsOf (source : String) (h : ∀ p ∈ remarks, p.1.Placed) :
    Diagnostic.ofProblems source (problemsOf remarks) =
      .ok (remarks.map fun p => p.1.diagnostic source p.2) := by
  induction remarks with
  | nil => rfl
  | cons p rest ih =>
    obtain ⟨hfirst, hrest⟩ := List.forall_mem_cons.1 h
    have hcons : problemsOf (p :: rest) = p.1.problem p.2 :: problemsOf rest := rfl
    rw [hcons, Diagnostic.ofProblems, hfirst.ofProblem, ih hrest]
    rfl

theorem toValue_problemsOf (remarks : List (Remark × Bool)) :
    (problemsOf remarks).map Problem.toValue = remarks.map fun p => p.1.answer p.2 := by
  rw [problemsOf, List.map_map]
  exact List.map_congr_left fun p _ => Remark.toValue_problem p.2

theorem rowsOf_problemsOf (path : String) (remarks : List (Remark × Bool)) :
    Results.rowsOf path (problemsOf remarks) =
      .ok (remarks.map fun p => p.1.cells path p.2) := by
  have htexts : ∀ problem ∈ problemsOf remarks, ∃ text, problem.message = .str text := by
    intro problem hproblem
    obtain ⟨p, -, rfl⟩ := List.mem_map.1 hproblem
    exact ⟨p.1.reason, rfl⟩
  rw [Results.rowsOf_of_texts htexts, problemsOf, List.map_map]
  exact congrArg Except.ok (List.map_congr_left fun p _ => Remark.shownCells_problem path p.2)

end

theorem shown_problemsOf (path : String) {remarks : List (Remark × Bool)} (h : remarks ≠ [])
    (aborted : Bool) :
    let results : Results := [(path, some ⟨problemsOf remarks, aborted⟩)]
    results.shown =
      (.ok (), [.panel "JSLint Summary" results.summaryText,
        .table "Problems" Results.columns
          ⟨remarks.map fun p => p.1.cells path p.2,
            remarks.map fun p => if p.2 then "dim" else "yellow"⟩]) := by
  intro results
  have hcount : results.problemCount ≠ 0 := by
    simpa [results, Results.problemCount, Results.problemsOf, problemsOf] using h
  have hrows : results.rows = .ok (remarks.map fun p => p.1.cells path p.2) := by
    simp only [results, Results.rows, Results.problemsOf, rowsOf_problemsOf, Except.bind, Except.map,
      List.append_nil]
  have hstyles : results.styles = remarks.map fun p => if p.2 then "dim" else "yellow" := by
    simp only [results, Results.styles, Results.problemsOf, problemsOf, List.flatMap_cons,
      List.flatMap_nil, List.append_nil, List.map_map]
    refine List.map_congr_left fun p _ => ?_
    obtain ⟨remark, ending⟩ := p
    cases ending <;> rfl
  simp only [Results.shown, if_neg hcount, hrows, hstyles]

/-- The remarks of a report on the three surfaces. The table shows a message as it is where the message
is literal. -/
theorem surfaces_agree {entries : List Value} {said : List Remark} (h : Reports entries said)
    (source path : String) :
    let stopped := entries.any Value.isNull
    let remarks := marked stopped said
    ∃ r, Inspection.ofReport entries = .ok r ∧
      Diagnostic.ofInspection source (some r) =
        .ok (remarks.map fun p => p.1.diagnostic source p.2) ∧
      r.toValue =
        .object [("errors", .list (remarks.map fun p => p.1.answer p.2)), ("aborted", .bool stopped)] ∧
      (said ≠ [] →
        Results.shown [(path, some r)] =
          (.ok (), [.panel "JSLint Summary" (Results.summaryText [(path, some r)]),
            .table "Problems" Results.columns
              ⟨remarks.map fun p => p.1.cells path p.2,
                remarks.map fun p => if p.2 then "dim" else "yellow"⟩])) ∧
      ∀ remark ∈ said, Markup.Literal remark.reason →
        Results.cellText remark.reason = remark.reason := by
  intro stopped remarks
  have hplaced : ∀ p ∈ remarks, p.1.Placed := fun p hp =>
    h.placed p.1 (by rw [← map_fst_marked stopped said]; exact List.mem_map_of_mem hp)
  refine ⟨⟨problemsOf remarks, stopped⟩, h.ofReport, ofProblems_problemsOf source hplaced, ?_,
    fun hsome => shown_problemsOf path (marked_ne_nil hsome) stopped,
    fun _ _ => Results.cellText_of_literal⟩
  rw [Inspection.toValue, toValue_problemsOf]

def stoppedReport : List Value :=
  [.object [("line", .int 1), ("character", .int 5), ("reason", .str "Expected '[b]'.")],
    .object [("line", .int 7), ("character", .int 2147483648), ("reason", .str "Stopping.")], .null]

/-- A report whose last remark tells that the linter gave up. -/
theorem surfaces_agree_on_notice :
    ∃ r, Inspection.ofReport stoppedReport = .ok r ∧
      Diagnostic.ofInspection "JSLint" (some r) =
        .ok [⟨0, 4, "Expected '[b]'.", .warning, "JSLint"⟩,
          ⟨6, 2147483647, "Stopping.", .information, "JSLint"⟩] ∧
      Results.shown [("[id].js", some r)] =
        (.ok (), [.panel "JSLint Summary"
            "Total Files: 1\nClean Files: 0\nProblems: 2\nStopped Early: 1",
          .table "Problems" Results.columns
            ⟨[["[id].js", "1", "5", "warning", "Expected '[b]'."],
              ["[id].js", "7", "2147483648", "meta", "Stopping."]], ["yellow", "dim"]⟩]) := by
  have hreports : Reports stoppedReport
      [⟨1, 5, "Expected '[b]'."⟩, ⟨7, 2147483648, "Stopping."⟩] :=
    .cons ⟨_, rfl, rfl, rfl, rfl, by decide, by decide⟩
      (.cons ⟨_, rfl, rfl, rfl, rfl, by decide, by decide⟩ .nil)
  obtain ⟨r, hr, hdiagnostics, hanswer, hshown, hliteral⟩ :=
    surfaces_agree hreports "JSLint" "[id].js"
  have hfirst := hliteral _ List.mem_cons_self (.of_plain (by decide +kernel))
  have hlast := hliteral _ (List.mem_cons_of_mem _ List.mem_cons_self) (.of_plain (by decide +kernel))
  have hpath : Results.cellText "[id].js" = "[id].js" :=
    Results.cellText_of_literal (.of_plain (by decide +kernel))
  refine ⟨r, hr, hdiagnostics, (hshown (List.cons_ne_nil _ _)).trans ?_⟩
  obtain rfl := Except.ok.inj (hr.symm.trans hreports.ofReport)
  simp only [marked, List.mapIdx_cons, List.mapIdx_nil, List.map_cons, List.map_nil, Remark.cells,
    hpath, hfirst, hlast]
  rfl

def thumbReport : List Value :=
  [.object [("line", .int 1), ("character", .int 1), ("reason", .str "Unexpected ':+1:'.")]]

/-- The table puts an emoji where a message has its name, and the other surfaces keep the message. -/
theorem named_emoji_is_replaced :
    Reports thumbReport [⟨1, 1, "Unexpected ':+1:'."⟩] ∧
      ∃ r, Inspection.ofReport thumbReport = .ok r ∧
        Diagnostic.ofInspection "JSLint" (some r) =
          .ok [⟨0, 0, "Unexpected ':+1:'.", .warning, "JSLint"⟩] ∧
        r.toValue =
          .object [("errors", .list [.object
            [("pos", .object [("line", .int 0), ("ch", .int 0)]),
              ("message", .str "Unexpected ':+1:'."), ("type", .str "problem_type_warning")]]),
            ("aborted", .bool false)] ∧
        Results.rows [("a.js", some r)] =
          .ok [["a.js", "1", "1", "warning", "Unexpected '👍'."]] :=
  ⟨.cons ⟨_, rfl, rfl, rfl, rfl, by decide, by decide⟩ .nil,
    ⟨[⟨0, 0, .str "Unexpected ':+1:'.", .warning⟩], false⟩, rfl, rfl, rfl, by decide +kernel⟩

end LintRelay
