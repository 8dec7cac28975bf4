import LintRelay.Proofs.CleanFiles
import LintRelay.Proofs.SavedReport
import LintRelay.Proofs.Surfaces
import Mathlib.Algebra.GroupWithZero.Nat

/-!
# What is counted and shown of a run

The counts of the summary, the rows of the table, the saved report and the exit code are taken from the
results one by one. They agree: every problem has its row, in the order of the files and of the problems
in a file, and the command fails exactly where there is one. A row shows a path and a message as they are
exactly where escaping keeps them.
-/
namespace LintRelay

namespace Results

def cells (path : String) (p : Problem) : List String :=
  [path, toString (p.line + 1), toString (p.character + 1), p.kind.word, p.message.text]

/-- A row for every problem, file by file. -/
def tableOf (cellsOf : String → Problem → List String) (results : Results) : List (List String) :=
  results.flatMap fun p => (problemsOf p.2).map (cellsOf p.1)

/-- The table shows every path with problems, and every message, as it is. -/
def ShownAsWritten (results : Results) : Prop :=
  ∀ p ∈ results, ∀ problem ∈ problemsOf p.2,
    cellText p.1 = p.1 ∧ cellText problem.message.text = problem.message.text

variable {results : Results}

theorem rows_of_texts
    (h : ∀ p ∈ results, ∀ problem ∈ problemsOf p.2, ∃ text, problem.message = .str text) :
    rows results = .ok (tableOf shownCells results) := by
  induction results with
  | nil => rfl
  | cons p rest ih =>
    obtain ⟨hfirst, hrest⟩ := List.forall_mem_cons.1 h
    rw [rows, rowsOf_of_texts hfirst, ih hrest]
    rfl

theorem problemCount_eq_sum (results : Results) :
    problemCount results = (results.map fun p => (problemsOf p.2).length).sum := by
  induction results with
  | nil => rfl
  | cons p rest ih => rw [List.map_cons, List.sum_cons, ← ih]; rfl

theorem length_tableOf (cellsOf : String → Problem → List String) (results : Results) :
    (tableOf cellsOf results).length = problemCount results := by
  simp [tableOf, List.length_flatMap, problemCount_eq_sum]

theorem problemCount_eq_zero_iff :
    problemCount results = 0 ↔ ∀ p ∈ results, problemsOf p.2 = [] := by
  induction results with
  | nil => simp [problemCount]
  | cons p rest ih =>
    have hcons : problemCount (p :: rest) = (problemsOf p.2).length + problemCount rest := rfl
    rw [hcons, Nat.add_eq_zero_iff, List.length_eq_zero_iff, ih, List.forall_mem_cons]

theorem hasProblems_iff : hasProblems results = true ↔ 0 < problemCount results := by
  rw [Nat.pos_iff_ne_zero, Ne, problemCount_eq_zero_iff]
  simp [hasProblems, isClean]

theorem cleanCount_add (results : Results) :
    cleanCount results + results.countP (fun p => 0 < (problemsOf p.2).length) = results.length := by
  rw [List.length_eq_countP_add_countP fun p : String × Option Inspection => isClean p.2, cleanCount]
  congr 1
  refine List.countP_congr fun p _ => ?_
  cases h : problemsOf p.2 <;> simp [isClean, h]

theorem abortedCount_eq (results : Results) :
    abortedCount results = results.countP fun p => p.2.any (·.aborted) := by
  refine List.countP_congr fun p _ => ?_
  cases p.2 <;> rfl

theorem summaryText_of_counts {clean problems aborted : Nat} (hclean : cleanCount results = clean)
    (hproblems : problemCount results = problems) (haborted : abortedCount results = aborted) :
    results.summaryText = s!"Total Files: {results.length}\nClean Files: {clean}\n" ++
      s!"Problems: {problems}\nStopped Early: {aborted}" := by
  subst hclean hproblems haborted
  rfl

theorem shownCells_eq_iff {path : String} {p : Problem} :
    shownCells path p = cells path p ↔
      cellText path = path ∧ cellText p.message.text = p.message.text := by
  simp [shownCells, cells]

theorem tableOf_shownCells_eq_iff :
    tableOf shownCells results = tableOf cells results ↔ ShownAsWritten results := by
  induction results with
  | nil => simp [tableOf, ShownAsWritten]
  | cons p rest ih =>
    have hcons (cellsOf : String → Problem → List String) : tableOf cellsOf (p :: rest) =
        (problemsOf p.2).map (cellsOf p.1) ++ tableOf cellsOf rest := List.flatMap_cons
    -- the rows of the first file are as many in both tables, so the tables agree part by part
    have hparts : tableOf shownCells (p :: rest) = tableOf cells (p :: rest) ↔
        (problemsOf p.2).map (shownCells p.1) = (problemsOf p.2).map (cells p.1) ∧
          tableOf shownCells rest = tableOf cells rest := by
      rw [hcons, hcons]
      constructor
      · intro hsame
        exact List.append_inj hsame (by simp)
      · rintro ⟨hfirst, hrest⟩
        rw [hfirst, hrest]
    rw [hparts, ih, List.map_inj_left]
    simp only [shownCells_eq_iff, ShownAsWritten, List.forall_mem_cons]

theorem shown_of_texts
    (h : ∀ p ∈ results, ∀ problem ∈ problemsOf p.2, ∃ text, problem.message = .str text) :
    results.shown = (.ok (), [.panel "JSLint Summary" results.summaryText,
      if problemCount results = 0 then .printed "No problems found" (some "green")
      else .table "Problems" columns ⟨tableOf shownCells results, styles results⟩]) := by
  unfold shown
  rw [rows_of_texts h]
  split <;> simp_all

theorem row_ok_iff {path : String} {p : Problem} :
    (∃ shown, row path p = .ok shown) ↔ ∃ text, p.message = .str text := by
  constructor
  · rintro ⟨shown, hrow⟩
    unfold row at hrow
    split at hrow
    · exact ⟨_, ‹_›⟩
    · cases hrow
  · rintro ⟨text, htext⟩
    exact ⟨_, row_of_text htext⟩

theorem rowsOf_eq_mapM (path : String) (problems : List Problem) :
    rowsOf path problems = problems.mapM (row path) := by
  induction problems with
  | nil => rfl
  | cons p rest ih => rw [rowsOf, ih, mapM_cons_eq]

theorem rows_eq_mapM (results : Results) :
    rows results = results.problems.mapM fun found => row found.1 found.2 := by
  induction results with
  | nil => rfl
  | cons p rest ih =>
    rw [rows, rowsOf_eq_mapM, ih, problems_cons, mapM_append_eq, List.mapM_map]
    rfl

theorem rows_ok_iff :
    (∃ shown, rows results = .ok shown) ↔
      ∀ p ∈ results, ∀ problem ∈ problemsOf p.2, ∃ text, problem.message = .str text := by
  rw [rows_eq_mapM, mapM_succeeds_iff]
  simp only [row_ok_iff]
  exact forall_problems_iff (P := fun p => ∃ text, p.message = .str text)

/-- Showing results succeeds exactly where every message is a text. -/
theorem shown_ok_iff :
    results.shown.1 = .ok () ↔
      ∀ p ∈ results, ∀ problem ∈ problemsOf p.2, ∃ text, problem.message = .str text := by
  constructor
  · intro hshown
    unfold shown at hshown
    split at hshown
    · rename_i hnone
      intro p hp problem hproblem
      rw [problemCount_eq_zero_iff.1 hnone p hp] at hproblem
      cases hproblem
    · refine rows_ok_iff.1 ?_
      split at hshown
      · cases hshown
      · exact ⟨_, ‹_›⟩
  · intro h
    exact congrArg Prod.fst (shown_of_texts h)

end Results

/-- The lint command inspects the files it finds and comes to results. -/
def LintArguments.Reaches (a : LintArguments) (h : Host) (results : Results) (h' : Host) : Prop :=
  ∃ g g' files,
    Action.prepare (some a.project) a.options (Action.commandIndentation a.indent a.useTabs)
        a.executable h = (.ok (), g) ∧
      Action.isAvailable g = (.ok true, g') ∧
      g'.disk.root.collect a.paths = .ok files ∧ files ≠ [] ∧
      Action.lintFiles files [] g' = (.ok results, h')

namespace Action

variable {a : LintArguments} {h h' : Host} {results : Results} {output : Option String}

theorem lintCommand_of_reaches (hreaches : a.Reaches h results h') :
    lintCommand a h = concludeLint results a.output h' := by
  obtain ⟨g, g', files, hprepared, havailable, hcollected, hsome, hrun⟩ := hreaches
  have hattempt : attempt (lintFiles files []) g' = (.ok (.ok results), h') := by
    rw [attempt, hrun]
  rw [lintCommand_eq, bind_ok hprepared, lintPrepared, bind_ok havailable, if_pos rfl,
    lintFound_eq hcollected hsome, bind_ok hattempt]

theorem concludeLint_fst (hshown : results.shown.1 = .ok ()) :
    (concludeLint results output h).1 =
      (save results output (present results h).2).1.map fun _ =>
        if 0 < results.problemCount then 1 else 0 := by
  have hpresent : present results h = (.ok (), (present results h).2) := Prod.ext hshown rfl
  have hcode : (if results.hasProblems = true then 1 else 0) =
      if 0 < results.problemCount then 1 else 0 := by
    simp only [Results.hasProblems_iff]
  unfold concludeLint
  rw [bind_ok hpresent]
  cases hsaved : save results output (present results h).2 with
  | mk r g =>
    cases r with
    | error fault => rw [bind_error hsaved]; rfl
    | ok u =>
      rw [bind_ok hsaved]
      exact congrArg Except.ok hcode

end Action

namespace Results

/-- What is shown of results whose messages are texts, what is saved, and how the command ends. Total and
clean files differ by the files with problems, the problems are counted as many as the rows of the table,
and the command fails exactly where there are any. The rows hold the paths and messages themselves
exactly where each is shown as it is written, as literal texts are. -/
theorem totals_agree {results : Results} (hsavable : results.Savable) :
    let faulty := results.countP fun p => 0 < (problemsOf p.2).length
    let problems := (results.map fun p => (problemsOf p.2).length).sum
    let aborted := results.countP fun p => p.2.any (·.aborted)
    (∃ clean, clean + faulty = results.length ∧
        results.shown = (.ok (), [.panel "JSLint Summary"
            (s!"Total Files: {results.length}\nClean Files: {clean}\n" ++
              s!"Problems: {problems}\nStopped Early: {aborted}"),
          if problems = 0 then .printed "No problems found" (some "green")
          else .table "Problems" columns ⟨tableOf shownCells results, styles results⟩])) ∧
      (tableOf shownCells results).length = problems ∧
      (tableOf shownCells results = tableOf cells results ↔ ShownAsWritten results) ∧
      ((∀ p ∈ results, ∀ problem ∈ problemsOf p.2,
        Markup.Literal p.1 ∧ Markup.Literal problem.message.text) → ShownAsWritten results) ∧
      Json.read results.report = .ok results.toValue ∧
      ∀ a h h', LintArguments.Reaches a h results h' →
        (Action.lintCommand a h).1 =
          (Action.save results a.output (Action.present results h').2).1.map fun _ =>
            if 0 < problems then 1 else 0 := by
  intro faulty problems aborted
  have hproblems : problemCount results = problems := problemCount_eq_sum results
  have hshown := shown_of_texts hsavable.messages
  refine ⟨⟨cleanCount results, cleanCount_add results, ?_⟩, ?_, tableOf_shownCells_eq_iff, ?_,
    read_report hsavable, fun a h h' hreaches => ?_⟩
  · rw [hshown, summaryText_of_counts rfl hproblems (abortedCount_eq results), hproblems]
  · rw [length_tableOf, hproblems]
  · intro hliteral p hp problem hproblem
    obtain ⟨hpath, hmessage⟩ := hliteral p hp problem hproblem
    exact ⟨cellText_of_literal hpath, cellText_of_literal hmessage⟩
  · rw [Action.lintCommand_of_reaches hreaches, ← hproblems]
    exact Action.concludeLint_fst (congrArg Prod.fst hshown)

def remarkLinter (_ : Nat) (l : Launch) : Outcome :=
  .finished (if l.text = none then ""
    else "[\"\", [\x7b\"line\": 1, \"character\": 2, \"reason\": \"Bad.\"\x7d, null]]") "" 0

def remarkFolder : Host := { folderWith "a.js" with tool := remarkLinter }

def remarkResults : Results := [("a.js", some ⟨[⟨0, 1, .str "Bad.", .notice⟩], true⟩)]

theorem remarkResults_savable : remarkResults.Savable where
  paths := by decide
  messages := by
    intro p hp problem hproblem
    obtain rfl := List.mem_singleton.1 hp
    obtain rfl := List.mem_singleton.1 hproblem
    exact ⟨_, rfl⟩

theorem remarkFolder_reaches :
    ∃ h, (lintOf "a.js").Reaches remarkFolder remarkResults h := by
  set g := (Action.prepare (some ".") none (Action.commandIndentation none false) "jslint"
    remarkFolder).2
  set g' := (Action.isAvailable g).2
  have hprepared : (Action.prepare (some ".") none (Action.commandIndentation none false) "jslint"
      remarkFolder).1 = .ok () := by
    decide +kernel
  have havailable : (Action.isAvailable g).1 = .ok true := by decide +kernel
  have hcollected : g'.disk.root.collect (lintOf "a.js").paths = .ok ["a.js"] := by decide +kernel
  have hrun : (Action.lintFiles ["a.js"] [] g').1 = .ok remarkResults := by decide +kernel
  exact ⟨_, g, g', ["a.js"], Prod.ext hprepared rfl, Prod.ext havailable rfl, hcollected,
    List.cons_ne_nil _ _, Prod.ext hrun rfl⟩

/-- One remark of a linter that gives up, on the screen and as the end of the command. -/
theorem totals_agree_on_remark :
    remarkResults.shown = (.ok (), [.panel "JSLint Summary"
        "Total Files: 1\nClean Files: 0\nProblems: 1\nStopped Early: 1",
      .table "Problems" columns ⟨[["a.js", "1", "2", "meta", "Bad."]], ["dim"]⟩]) ∧
      (Action.lintCommand (lintOf "a.js") remarkFolder).1 = .ok 1 := by
  obtain ⟨⟨clean, hclean, hshown⟩, -, hwritten, hliteral, -, hends⟩ :=
    totals_agree remarkResults_savable
  obtain ⟨h, hreaches⟩ := remarkFolder_reaches
  have hpath : Markup.Literal "a.js" := .of_plain (by decide +kernel)
  have hmessage : Markup.Literal "Bad." := .of_plain (by decide +kernel)
  have hall : tableOf shownCells remarkResults = tableOf cells remarkResults := by
    refine hwritten.2 (hliteral fun p hp problem hproblem => ?_)
    obtain rfl := List.mem_singleton.1 hp
    obtain rfl := List.mem_singleton.1 hproblem
    exact ⟨hpath, hmessage⟩
  obtain rfl : clean = 0 := Nat.add_right_cancel (hclean.trans (by decide : 1 = 0 + 1))
  rw [hall] at hshown
  exact ⟨hshown, hends _ _ _ hreaches⟩

def thumbResults : Results :=
  [("a.js", some ⟨[⟨0, 0, .str "Unexpected ':+1:'.", .warning⟩], false⟩)]

/-- A row shows an emoji where the message has its name. -/
theorem named_emoji_in_row_is_replaced :
    thumbResults.Savable ∧
      thumbResults.rows = .ok [["a.js", "1", "1", "warning", "Unexpected '👍'."]] ∧
      thumbResults.rows ≠ .ok (tableOf cells thumbResults) := by
  have hrows : thumbResults.rows = .ok [["a.js", "1", "1", "warning", "Unexpected '👍'."]] := by
    decide +kernel
  refine ⟨⟨by decide, ?_⟩, hrows, ?_⟩
  · intro p hp problem hproblem
    obtain rfl := List.mem_singleton.1 hp
    obtain rfl := List.mem_singleton.1 hproblem
    exact ⟨_, rfl⟩
  · rw [hrows]
    decide +kernel

end Results

end LintRelay
