/-!
# Named entries in order of arrival

A list of named values in which every name keeps the place of its first arrival and holds the value
of its last one. Objects, result maps, provider tables and open documents are all kept this way.
-/
namespace LintRelay

abbrev Entries (α : Type) := List (String × α)

namespace Entries

variable {α β : Type}

def get? (name : String) : Entries α → Option α
  | [] => none
  | (n, a) :: rest => if n = name then some a else get? name rest

def names (entries : Entries α) : List String := entries.map Prod.fst

def has (name : String) (entries : Entries α) : Bool := (get? name entries).isSome

/-- A known name keeps its place; a new one goes to the end. -/
def put (name : String) (a : α) : Entries α → Entries α
  | [] => [(name, a)]
  | (n, b) :: rest => if n = name then (n, a) :: rest else (n, b) :: put name a rest

def erase (name : String) : Entries α → Entries α
  | [] => []
  | (n, b) :: rest => if n = name then rest else (n, b) :: erase name rest

def ofList (pairs : List (String × α)) : Entries α :=
  pairs.foldl (fun entries p => put p.1 p.2 entries) []

/-- Texts are ordered by their code points; a proper beginning comes first. -/
def precedes : List Char → List Char → Bool
  | _, [] => false
  | [], _ :: _ => true
  | a :: as, b :: bs => a.toNat < b.toNat || (a.toNat = b.toNat && precedes as bs)

def place (p : String × α) : Entries α → Entries α
  | [] => [p]
  | q :: rest => if precedes q.1.toList p.1.toList then q :: place p rest else p :: q :: rest

def sorted : Entries α → Entries α
  | [] => []
  | p :: rest => place p (sorted rest)

theorem get?_put_self (name : String) (a : α) (entries : Entries α) :
    get? name (put name a entries) = some a := by
  induction entries with
  | nil => simp [put, get?]
  | cons p rest ih => by_cases h : p.1 = name <;> simp [put, get?, h, ih]

theorem get?_put_of_ne {name other : String} (h : other ≠ name) (a : α) (entries : Entries α) :
    get? other (put name a entries) = get? other entries := by
  induction entries with
  | nil => simp [put, get?, h.symm]
  | cons p rest ih => grind [put, get?]

/-- Writing a name changes the list of names only by adding a new one at the end. -/
theorem names_put (name : String) (a : α) (entries : Entries α) :
    names (put name a entries) =
      if name ∈ names entries then names entries else names entries ++ [name] := by
  induction entries with
  | nil => simp [put, names]
  | cons p rest ih =>
    by_cases h : p.1 = name
    · simp [put, names, h]
    · have h' : ¬ name = p.1 := fun e => h e.symm
      simp only [names] at ih
      by_cases hm : name ∈ rest.map Prod.fst <;> simp [put, names, h, h', ih, hm]

theorem put_of_not_mem {name : String} (a : α) {entries : Entries α} (h : name ∉ names entries) :
    put name a entries = entries ++ [(name, a)] := by
  induction entries with
  | nil => rfl
  | cons p rest ih =>
    obtain ⟨hne, hrest⟩ := not_or.1 fun hmem => h (List.mem_cons.2 hmem)
    rw [put, if_neg fun e => hne e.symm, ih hrest]
    rfl

theorem nodup_names_put (name : String) (a : α) {entries : Entries α}
    (h : (names entries).Nodup) : (names (put name a entries)).Nodup := by
  rw [names_put]
  split
  · exact h
  · rename_i hn
    exact List.nodup_append.2
      ⟨h, by simp, fun x hx y hy e => hn (by rw [List.mem_singleton] at hy; rwa [← hy, ← e])⟩

theorem has_iff (name : String) (entries : Entries α) :
    has name entries = true ↔ name ∈ names entries := by
  induction entries with
  | nil => simp [has, get?, names]
  | cons p rest ih =>
    by_cases h : p.1 = name
    · simp [has, get?, names, h]
    · have h' : ¬ name = p.1 := fun e => h e.symm
      simp only [has, names] at ih
      simp [has, get?, names, h, h', ih]

theorem mem_names_put {name other : String} {a : α} {entries : Entries α} :
    other ∈ names (put name a entries) ↔ other = name ∨ other ∈ names entries := by
  rw [names_put]
  split
  · rename_i hname
    exact ⟨.inr, fun h => h.elim (fun e => e ▸ hname) id⟩
  · rw [List.mem_append, List.mem_singleton, or_comm]

theorem mem_names_erase_of_ne {name other : String} (h : other ≠ name)
    {entries : Entries α} (hmem : other ∈ names entries) : other ∈ names (erase name entries) := by
  induction entries with
  | nil => cases hmem
  | cons p rest ih => grind [erase, names]

theorem mem_put {name : String} {a : α} {entries : Entries α} {p : String × α}
    (hp : p ∈ put name a entries) : p = (name, a) ∨ p ∈ entries := by
  induction entries with
  | nil => exact .inl (List.mem_singleton.1 hp)
  | cons q rest ih => grind [put]

theorem mem_of_get? {name : String} {a : α} {entries : Entries α}
    (ha : get? name entries = some a) : (name, a) ∈ entries := by
  induction entries with
  | nil => cases ha
  | cons q rest ih => grind [get?]

end Entries

end LintRelay
