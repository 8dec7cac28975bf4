import LintRelay.Fault
import Mathlib.Data.List.Forall2
import Mathlib.Tactic.Common

/-!
# Conversions of lists

A list is converted item by item, and the first item that cannot be converted ends the conversion with its
fault. So a conversion succeeds exactly where it does for every item, its results stand in the order of the
items, and of several faults the first one counts.
-/
namespace LintRelay

variable {α β : Type} {fault : Fault}

section Steps

variable {x : Except Fault α} {b : β}

theorem bind_eq_ok_iff {f : α → Except Fault β} :
    x.bind f = .ok b ↔ ∃ a, x = .ok a ∧ f a = .ok b := by
  cases x <;> simp [Except.bind]

theorem bind_eq_error_iff {f : α → Except Fault β} :
    x.bind f = .error fault ↔ x = .error fault ∨ ∃ a, x = .ok a ∧ f a = .error fault := by
  cases x <;> simp [Except.bind]

theorem map_eq_ok_iff {f : α → β} : x.map f = .ok b ↔ ∃ a, x = .ok a ∧ f a = b := by
  cases x <;> simp [Except.map]

theorem map_eq_error_iff {f : α → β} : x.map f = .error fault ↔ x = .error fault := by
  cases x <;> simp [Except.map]

end Steps

section Lists

variable {f : α → Except Fault β} {items : List α} {results : List β}

theorem mapM_cons_eq (a : α) (rest : List α) :
    (a :: rest).mapM f = (f a).bind fun b => (rest.mapM f).map (b :: ·) := by
  rw [List.mapM_cons]
  simp only [bind_pure_comp]
  rfl

theorem mapM_append_eq (items more : List α) :
    (items ++ more).mapM f = (items.mapM f).bind fun bs => (more.mapM f).map (bs ++ ·) := by
  rw [List.mapM_append]
  simp only [bind_pure_comp]
  rfl

theorem mapM_eq_ok_iff :
    items.mapM f = .ok results ↔ List.Forall₂ (fun a b => f a = .ok b) items results := by
  induction items generalizing results with
  | nil =>
    rw [List.forall₂_nil_left_iff, List.mapM_nil]
    show Except.ok [] = Except.ok results ↔ _
    simp [eq_comm]
  | cons a rest ih =>
    rw [mapM_cons_eq, bind_eq_ok_iff, List.forall₂_cons_left_iff]
    simp only [map_eq_ok_iff, ih]
    grind

/-- The first item that cannot be converted decides. -/
theorem mapM_eq_error_iff :
    items.mapM f = .error fault ↔
      ∃ earlier a later, items = earlier ++ a :: later ∧
        (∀ e ∈ earlier, ∃ b, f e = .ok b) ∧ f a = .error fault := by
  induction items with
  | nil =>
    rw [List.mapM_nil]
    show Except.ok [] = Except.error fault ↔ _
    simp
  | cons first rest ih =>
    rw [mapM_cons_eq, bind_eq_error_iff]
    simp only [map_eq_error_iff, ih]
    constructor
    · rintro (hfirst | ⟨b, hb, earlier, a, later, rfl, hearlier, ha⟩)
      · exact ⟨[], first, rest, rfl, by simp, hfirst⟩
      · exact ⟨first :: earlier, a, later, rfl, List.forall_mem_cons.2 ⟨⟨b, hb⟩, hearlier⟩, ha⟩
    · rintro ⟨earlier, a, later, hsplit, hearlier, ha⟩
      cases earlier with
      | nil =>
        obtain ⟨rfl, rfl⟩ := List.cons.inj hsplit
        exact .inl ha
      | cons other earlier =>
        obtain ⟨rfl, rfl⟩ := List.cons.inj hsplit
        obtain ⟨⟨b, hb⟩, hrest⟩ := List.forall_mem_cons.1 hearlier
        exact .inr ⟨b, hb, earlier, a, later, rfl, hrest, ha⟩

theorem mapM_succeeds_iff :
    (∃ results, items.mapM f = .ok results) ↔ ∀ a ∈ items, ∃ b, f a = .ok b := by
  induction items with
  | nil => exact ⟨fun _ a ha => absurd ha List.not_mem_nil, fun _ => ⟨[], rfl⟩⟩
  | cons a rest ih =>
    rw [List.forall_mem_cons, ← ih, mapM_cons_eq]
    simp only [bind_eq_ok_iff, map_eq_ok_iff]
    grind

theorem mapM_fails_iff :
    (∃ fault, items.mapM f = .error fault) ↔ ∃ a ∈ items, ∃ fault, f a = .error fault := by
  constructor
  · rintro ⟨fault, hfails⟩
    obtain ⟨earlier, a, later, rfl, -, ha⟩ := mapM_eq_error_iff.1 hfails
    exact ⟨a, by simp, fault, ha⟩
  · rintro ⟨a, hmem, fault, ha⟩
    cases h : items.mapM f with
    | error other => exact ⟨other, rfl⟩
    | ok results =>
      obtain ⟨b, hb⟩ := mapM_succeeds_iff.1 ⟨results, h⟩ a hmem
      rw [ha] at hb
      cases hb

end Lists

end LintRelay
