/-!
# Line ends

A text read from a file has one form of line end: a carriage return with or without a line feed
behind it becomes a line feed.
-/
namespace LintRelay.LineEnds

def unify : List Char → List Char
  | [] => []
  | '\r' :: '\n' :: rest => '\n' :: unify rest
  | c :: rest => (if c = '\r' then '\n' else c) :: unify rest

theorem unify_of_not_mem {cs : List Char} (h : '\r' ∉ cs) : unify cs = cs := by
  induction cs with
  | nil => rfl
  | cons c rest ih =>
    have hc : c ≠ '\r' := fun e => h (e ▸ List.mem_cons_self)
    have hr : '\r' ∉ rest := fun m => h (List.mem_cons_of_mem c m)
    rw [unify, if_neg hc, ih hr]
    intro r e
    exact absurd e hc

end LintRelay.LineEnds
