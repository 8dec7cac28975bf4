import LintRelay.BlankLines
import Mathlib.Tactic.Common

/-!
# Emptied lines

Emptying the blank lines of a text goes line by line: each line that holds spaces and tabs only becomes
empty, every other one stays at its place as it is. So what the linter says of a line that shows
something is said of the same line of the text that was given.
-/
namespace LintRelay

/-- The lines of a text, which line feeds separate. There is none behind the last one. -/
def linesOf (cs : List Char) : List (List Char) := cs.splitOn '\n'

section Lines

variable {line rest : List Char}

theorem linesOf_line (hline : '\n' ∉ line) : linesOf line = [line] :=
  List.splitOn_eq_singleton hline

theorem linesOf_append (hline : '\n' ∉ line) (rest : List Char) :
    linesOf (line ++ '\n' :: rest) = line :: linesOf rest := by
  rw [linesOf, List.splitOn_append_cons_self, ← linesOf, linesOf_line hline]
  rfl

theorem linesOf_ne_nil (cs : List Char) : linesOf cs ≠ [] := List.splitOn_ne_nil '\n' cs

/-- A text is its last line, or a first line and, behind a line feed, another text. -/
theorem lines_induction {P : List Char → Prop} (last : ∀ line, '\n' ∉ line → P line)
    (more : ∀ line rest, '\n' ∉ line → P rest → P (line ++ '\n' :: rest)) (cs : List Char) : P cs := by
  have hfrom : ∀ cs line, '\n' ∉ line → P (line ++ cs) := by
    intro cs
    induction cs with
    | nil =>
      intro line hline
      simpa using last line hline
    | cons c cs ih =>
      intro line hline
      by_cases hc : c = '\n'
      · subst hc
        exact more line cs hline (by simpa using ih [] (by simp))
      · have hlonger : '\n' ∉ line ++ [c] := by simp [hline, Ne.symm hc]
        simpa using ih (line ++ [c]) hlonger
  simpa using hfrom cs [] (by simp)

end Lines

namespace BlankLines

/-- A line that holds something, and spaces and tabs only. -/
def IsBlankLine (line : List Char) : Prop := line ≠ [] ∧ ∀ c ∈ line, c = ' ' ∨ c = '\t'

-- the characters of the line are looked at, not all that there are
instance (line : List Char) : Decidable (IsBlankLine line) :=
  decidable_of_iff (line ≠ [] ∧ line.all isBlank = true) (by simp [IsBlankLine, isBlank])

def emptiedLine (line : List Char) : List Char := if IsBlankLine line then [] else line

variable {waiting line behind : List Char} {text : String}

theorem isBlank_iff {c : Char} : isBlank c = true ↔ c = ' ' ∨ c = '\t' := by
  simp [isBlank]

theorem emptiedLine_of_blanks (hblank : ∀ c ∈ line, c = ' ' ∨ c = '\t') : emptiedLine line = [] := by
  by_cases hnil : line = []
  · simp [emptiedLine, hnil]
  · have hline : IsBlankLine line := ⟨hnil, hblank⟩
    rw [emptiedLine, if_pos hline]

theorem emptiedLine_of_mem {c : Char} (hc : c ∈ line) (hshown : ¬ (c = ' ' ∨ c = '\t')) :
    emptiedLine line = line := by
  have hnot : ¬ IsBlankLine line := fun h => hshown (h.2 c hc)
  rw [emptiedLine, if_neg hnot]

/-- The end of a line: of the text, or at a line feed. -/
def EndsLine (behind : List Char) : Prop := behind = [] ∨ ∃ rest, behind = '\n' :: rest

theorem emptiedFrom_ending (hbehind : EndsLine behind) (place : Place) :
    emptiedFrom place behind = emptied behind := by
  rcases hbehind with rfl | ⟨rest, rfl⟩
  · cases place <;> rfl
  · cases place <;> simp [emptied, emptiedFrom]

theorem emptiedFrom_inLine (hline : '\n' ∉ line) (hbehind : EndsLine behind) :
    emptiedFrom .inLine (line ++ behind) = line ++ emptied behind := by
  induction line with
  | nil => exact emptiedFrom_ending hbehind .inLine
  | cons c line ih =>
    obtain ⟨hc, hrest⟩ : '\n' ≠ c ∧ '\n' ∉ line := by simpa using hline
    simp [emptiedFrom, Ne.symm hc, ih hrest]

/-- From the start of a line on, the blanks that wait there count as part of it. -/
theorem emptiedFrom_lineStart (hwaiting : ∀ c ∈ waiting, c = ' ' ∨ c = '\t') (hline : '\n' ∉ line)
    (hbehind : EndsLine behind) :
    emptiedFrom (.lineStart waiting) (line ++ behind) =
      emptiedLine (waiting ++ line) ++ emptied behind := by
  induction line generalizing waiting with
  | nil =>
    rw [List.nil_append, List.append_nil, emptiedLine_of_blanks hwaiting]
    exact emptiedFrom_ending hbehind (.lineStart waiting)
  | cons c line ih =>
    obtain ⟨hc, hrest⟩ : '\n' ≠ c ∧ '\n' ∉ line := by simpa using hline
    by_cases hblank : isBlank c = true
    · have hlonger : ∀ d ∈ waiting ++ [c], d = ' ' ∨ d = '\t' := by
        intro d hd
        rcases List.mem_append.1 hd with hd | hd
        · exact hwaiting d hd
        · obtain rfl := List.mem_singleton.1 hd
          exact isBlank_iff.1 hblank
      have hnext := ih hlonger hrest
      simp [emptiedFrom, Ne.symm hc, hblank, hnext]
    · have hshown : ¬ (c = ' ' ∨ c = '\t') := fun h => hblank (isBlank_iff.2 h)
      have hwhole : emptiedLine (waiting ++ c :: line) = waiting ++ c :: line :=
        emptiedLine_of_mem (by simp) hshown
      rw [hwhole]
      simp [emptiedFrom, Ne.symm hc, hblank, emptiedFrom_inLine hrest hbehind]

theorem emptied_line (hline : '\n' ∉ line) : emptied line = emptiedLine line := by
  have hnone : ∀ c ∈ ([] : List Char), c = ' ' ∨ c = '\t' := by simp
  have h := emptiedFrom_lineStart hnone hline (.inl rfl)
  simpa [emptied, emptiedFrom] using h

theorem emptied_append (hline : '\n' ∉ line) (rest : List Char) :
    emptied (line ++ '\n' :: rest) = emptiedLine line ++ '\n' :: emptied rest := by
  have hnone : ∀ c ∈ ([] : List Char), c = ' ' ∨ c = '\t' := by simp
  have h := emptiedFrom_lineStart hnone hline (.inr ⟨rest, rfl⟩)
  have hfeed : emptied ('\n' :: rest) = '\n' :: emptied rest := by simp [emptied, emptiedFrom]
  rw [hfeed] at h
  exact h

theorem not_mem_emptiedLine {c : Char} (hline : c ∉ line) : c ∉ emptiedLine line := by
  unfold emptiedLine
  split_ifs
  · simp
  · exact hline

theorem linesOf_emptied (cs : List Char) : linesOf (emptied cs) = (linesOf cs).map emptiedLine := by
  induction cs using lines_induction with
  | last line hline =>
    have hempty := not_mem_emptiedLine hline
    rw [emptied_line hline, linesOf_line hline, linesOf_line hempty, List.map_singleton]
  | more line rest hline ih =>
    have hempty := not_mem_emptiedLine hline
    rw [emptied_append hline, linesOf_append hline, linesOf_append hempty, ih, List.map_cons]

theorem emptiedLine_emptiedLine (line : List Char) :
    emptiedLine (emptiedLine line) = emptiedLine line := by
  by_cases h : IsBlankLine line
  · have hempty : emptiedLine line = [] := if_pos h
    rw [hempty, emptiedLine_of_blanks (by simp)]
  · have hsame : emptiedLine line = line := if_neg h
    rw [hsame, hsame]

theorem emptied_emptied (cs : List Char) : emptied (emptied cs) = emptied cs := by
  induction cs using lines_induction with
  | last line hline =>
    rw [emptied_line hline, emptied_line (not_mem_emptiedLine hline), emptiedLine_emptiedLine]
  | more line rest hline ih =>
    rw [emptied_append hline, emptied_append (not_mem_emptiedLine hline),
      emptiedLine_emptiedLine, ih]

theorem eq_of_emptiedLine (hsome : emptiedLine line ≠ []) : emptiedLine line = line := by
  by_cases h : IsBlankLine line
  · exact absurd (if_pos h) hsome
  · exact if_neg h

theorem toList_emptiedText (text : String) : (emptiedText text).toList = emptied text.toList :=
  String.toList_ofList

/-- Emptying blank lines keeps the number of lines; a line that holds spaces and tabs only becomes empty,
any other one stays, and so a line of the result that holds anything is the line at the same place before,
column by column. Emptying them again changes nothing. -/
theorem lines_keep_their_places (text : String) :
    (linesOf (emptiedText text).toList).length = (linesOf text.toList).length ∧
      (∀ (k : Nat) (line : List Char), (linesOf text.toList)[k]? = some line →
        (linesOf (emptiedText text).toList)[k]? = some (if IsBlankLine line then [] else line)) ∧
      (∀ (k : Nat) (line : List Char), (linesOf (emptiedText text).toList)[k]? = some line →
        line ≠ [] → (linesOf text.toList)[k]? = some line) ∧
      emptiedText (emptiedText text) = emptiedText text := by
  have hlines := linesOf_emptied text.toList
  simp only [toList_emptiedText, hlines, List.length_map, List.getElem?_map]
  refine ⟨trivial, ?_, ?_, ?_⟩
  · intro k line hline
    rw [hline]
    rfl
  · intro k line hline hsome
    obtain ⟨before, hbefore, rfl⟩ := Option.map_eq_some_iff.1 hline
    rw [hbefore, eq_of_emptiedLine hsome]
  · apply String.toList_injective
    rw [toList_emptiedText, toList_emptiedText, emptied_emptied]

theorem lines_keep_their_places_around_blanks :
    (linesOf (emptiedText "a\n \t\n b").toList)[1]? = some [] ∧
      (linesOf "a\n \t\n b".toList)[2]? = some [' ', 'b'] := by
  obtain ⟨-, hemptied, hback, -⟩ := lines_keep_their_places "a\n \t\n b"
  have hblank : (linesOf "a\n \t\n b".toList)[1]? = some [' ', '\t'] := by decide
  have hshown : (linesOf (emptiedText "a\n \t\n b").toList)[2]? = some [' ', 'b'] := by decide
  exact ⟨hemptied 1 _ hblank, hback 2 _ hshown (by decide)⟩

end BlankLines

end LintRelay
