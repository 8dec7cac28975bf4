import LintRelay.LiteralToken
import LintRelay.LiteralTree
import Std.Data.HashMap

/-!
# Readers of literals

A reader looks for something at a place among the tokens. It finds it and goes on behind it, finds
nothing, or refuses the whole literal for a mistake. What was found by a rule at a place is
remembered, so that another attempt takes no time. On a second reading readers are strict: they
also look for shapes that are known to be mistaken.
-/
namespace LintRelay.Literal

inductive Rule where
  | expression
  | starExpression
  | disjunction
  | conjunction
  | inversion
  | bitOr
  | bitXor
  | bitAnd
  | shift
  | sum
  | term
  | factor
  | awaited
  | primary
  | arguments
  | starTarget
  | target
  | targetPrimary
  | texts
  | mistakenNamed
  deriving DecidableEq, Hashable, Repr

inductive Found (α : Type) where
  | found (a : α)
  | nothing
  | refused (mistake : Mistake)

structure Setting where
  tokens : Array Token
  ending : Mistake

/-- The place of the next token, how many tokens have been looked at, whether the reading is strict,
and what rules have found. -/
structure Progress where
  place : Nat
  reached : Nat
  strict : Bool
  known : Std.HashMap (Rule × Nat) (Option (Tree × Nat))

abbrev Reader (α : Type) := Setting → Progress → Found α × Progress

namespace Reader

variable {α β : Type}

def give (a : α) : Reader α := fun _ p => (.found a, p)

def fail : Reader α := fun _ p => (.nothing, p)

def refuse (mistake : Mistake) : Reader α := fun _ p => (.refused mistake, p)

def andThen (r : Reader α) (f : α → Reader β) : Reader β := fun setting p =>
  match r setting p with
  | (.found a, p) => f a setting p
  | (.nothing, p) => (.nothing, p)
  | (.refused mistake, p) => (.refused mistake, p)

instance : Monad Reader where
  pure := give
  bind := andThen

/-- Where one reader finds nothing, another one begins at the same place. -/
def orElse (r : Reader α) (other : Unit → Reader α) : Reader α := fun setting p =>
  match r setting p with
  | (.nothing, q) => other () setting { q with place := p.place }
  | answer => answer

instance : OrElse (Reader α) := ⟨orElse⟩

def optional (r : Reader α) : Reader (Option α) := (some <$> r) <|> give none

/-- Look whether something follows, without going on. -/
def ahead (r : Reader α) : Reader Unit := fun setting p =>
  match r setting p with
  | (.found _, q) => (.found (), { q with place := p.place })
  | (.nothing, q) => (.nothing, q)
  | (.refused mistake, q) => (.refused mistake, q)

def notAhead (r : Reader α) : Reader Unit := fun setting p =>
  match r setting p with
  | (.found _, q) => (.nothing, q)
  | (.nothing, q) => (.found (), { q with place := p.place })
  | (.refused mistake, q) => (.refused mistake, q)

/-- As often as it is found, but no more often than there are tokens. -/
def manyUpTo : Nat → Reader α → Reader (List α)
  | 0, _ => give []
  | n + 1, r => do
    match ← optional r with
    | some a => return a :: (← manyUpTo n r)
    | none => return []

def many (r : Reader α) : Reader (List α) := fun setting =>
  manyUpTo (setting.tokens.size + 1) r setting

def several (r : Reader α) : Reader (List α) := do return (← r) :: (← many r)

def token (wanted : Token → Bool) : Reader Token := fun setting p =>
  let q := { p with reached := max p.reached (p.place + 1) }
  match setting.tokens[p.place]? with
  | some t => if wanted t then (.found t, { q with place := p.place + 1 }) else (.nothing, q)
  | none => (.refused setting.ending, q)

def mark (written : String) : Reader Unit := do
  let _ ← token fun t => (t.kind = .operator || t.kind = .keyword) && t.written = written

def anyMark (marks : List String) : Reader String := do
  let t ← token fun t => t.kind = .operator && t.written ∈ marks
  return t.written

def name : Reader String := do return (← token fun t => t.kind = .name).written

def listed (r : Reader α) : Reader (List α) := do
  return (← r) :: (← many (do mark ","; r))

def depth : Reader Nat := fun setting p =>
  (.found ((setting.tokens[p.place - 1]?.map Token.depth).getD 0), p)

/-- On a strict reading, look for a mistaken shape; then go on as if nothing had been read. -/
def strictly (r : Reader Unit) : Reader Unit := fun setting p =>
  if p.strict then
    match r setting p with
    | (.refused mistake, q) => (.refused mistake, q)
    | (_, q) => (.found (), { q with place := p.place })
  else (.found (), p)

def leniently (r : Reader α) : Reader α := fun setting p =>
  let (a, q) := r setting { p with strict := false }
  (a, { q with strict := p.strict })

/-- What a rule finds at a place is looked for only once. -/
def remembered (rule : Rule) (r : Reader Tree) : Reader Tree := fun setting p =>
  match p.known[(rule, p.place)]? with
  | some (some (t, place)) => (.found t, { p with place := place })
  | some none => (.nothing, p)
  | none =>
    match r setting p with
    | (.found t, q) =>
      (.found t, { q with known := q.known.insert (rule, p.place) (some (t, q.place)) })
    | (.nothing, q) => (.nothing, { q with known := q.known.insert (rule, p.place) none })
    | (.refused mistake, q) => (.refused mistake, q)

end Reader

end LintRelay.Literal
