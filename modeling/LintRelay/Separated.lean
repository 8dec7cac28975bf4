/-!
# Separated text

The pieces of a text between separating characters.
-/
namespace LintRelay

/-- The pieces between separating characters, empty ones included; there is always one more than
there are separators. -/
def piecesAt (separates : Char → Bool) : List Char → List (List Char)
  | [] => [[]]
  | c :: rest =>
    if separates c then [] :: piecesAt separates rest
    else
      match piecesAt separates rest with
      | [] => [[c]]
      | piece :: more => (c :: piece) :: more

theorem length_piecesAt (separates : Char → Bool) (cs : List Char) :
    (piecesAt separates cs).length = cs.countP separates + 1 := by
  induction cs with
  | nil => simp [piecesAt]
  | cons c rest ih =>
    by_cases h : separates c = true
    · simp [piecesAt, h, ih]
    · cases e : piecesAt separates rest with
      | nil => simp [e] at ih
      | cons piece more => simp_all [piecesAt]

theorem piecesAt_of_none {separates : Char → Bool} {cs : List Char}
    (h : ∀ c ∈ cs, separates c = false) : piecesAt separates cs = [cs] := by
  induction cs with
  | nil => rfl
  | cons c rest ih => simp [piecesAt, h c (by simp), ih fun d hd => h d (by simp [hd])]

end LintRelay
