import LintRelay.Entries

/-!
# Words that resemble each other

How much of two texts agrees: their longest common run, and then, in the same way, what stands
before it in both and what stands behind it in both. Texts resemble each other when at least three
fifths of all their characters agree so.
-/
namespace LintRelay.Resemblance

def shared : List Char → List Char → Nat
  | a :: as, b :: bs => if a = b then shared as bs + 1 else 0
  | _, _ => 0

/-- A run of characters that stands in two texts, by its place in each. -/
structure Run where
  first : Nat
  second : Nat
  length : Nat
  deriving DecidableEq

def longer (best r : Run) : Run := if best.length < r.length then r else best

/-- The longest run that begins at the beginning of a text and anywhere in another. -/
def longestFrom (i : Nat) (as : List Char) : Nat → List Char → Run → Run
  | _, [], best => best
  | j, b :: bs, best => longestFrom i as (j + 1) bs (longer best ⟨i, j, shared as (b :: bs)⟩)

/-- The longest common run; of several the first in the first text, then in the second. -/
def longestIn (bs : List Char) : Nat → List Char → Run → Run
  | _, [], best => best
  | i, a :: as, best => longestIn bs (i + 1) as (longestFrom i (a :: as) 0 bs best)

def longest (as bs : List Char) : Run := longestIn bs 0 as ⟨0, 0, 0⟩

def agreeing (as bs : List Char) : Nat :=
  match longest as bs with
  | ⟨i, j, n⟩ =>
    if _inside : 0 < n ∧ i + n ≤ as.length then
      agreeing (as.take i) (bs.take j) + n + agreeing (as.drop (i + n)) (bs.drop (j + n))
    else 0
termination_by as.length
decreasing_by all_goals simp only [List.length_take, List.length_drop]; omega

/-- A word with what it has in common with a given one: so many characters of so many on each
side together. -/
structure Candidate where
  word : String
  agreeing : Nat
  total : Nat

namespace Candidate

def of (given word : List Char) : Candidate :=
  ⟨String.ofList word, Resemblance.agreeing word given, word.length + given.length⟩

def isClose (c : Candidate) : Bool := 3 * c.total ≤ 5 * (2 * c.agreeing)

/-- The order of preference: the greater part that agrees, then the later name. -/
def isBetter (c d : Candidate) : Bool :=
  d.agreeing * c.total < c.agreeing * d.total ||
    (c.agreeing * d.total = d.agreeing * c.total &&
      Entries.precedes d.word.toList c.word.toList)

/-- Put a candidate in its place among better and worse ones. -/
def place (c : Candidate) : List Candidate → List Candidate
  | [] => [c]
  | d :: rest => if c.isBetter d then c :: d :: rest else d :: place c rest

def ranked : List Candidate → List Candidate
  | [] => []
  | c :: rest => place c (ranked rest)

end Candidate

/-- Texts of too different a length cannot resemble each other. -/
def mayResemble (given word : List Char) : Bool :=
  3 * (word.length + given.length) ≤ 5 * (2 * min word.length given.length)

def mostSuggested : Nat := 3

def suggestions (given : String) (words : List String) : List String :=
  let given := given.toList
  let candidates := (words.map String.toList).filter (mayResemble given)
  let close := (candidates.map (Candidate.of given)).filter Candidate.isClose
  Entries.names (Entries.sorted
    (((Candidate.ranked close).take mostSuggested).map fun c => (c.word, ())))

end LintRelay.Resemblance
