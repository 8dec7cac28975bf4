import LintRelay.Inspection
import LintRelay.Proofs.Traversal

/-!
# What the entries of a report become

Every entry of a report but the nulls becomes one problem, in the order of the report, at the place that
the entry names. The first entry that names no place ends the mapping with a fault. A null anywhere says
that the linter gave up, and the last problem is then the notice of it; neither the number of the nulls
nor their places matter.
-/
namespace LintRelay

namespace Value

/-- What a value says where lines and characters are counted from one. One that does not count as true
says one. -/
inductive Says : Value → Int → Prop
  | number {v : Value} {n : Int} : v.isTruthy = true → v.whole? = .ok n → Says v n
  | nothing {v : Value} : v.isTruthy = false → Says v 1

/-- A value that counts as true and denotes no whole number. -/
def Refused (v : Value) (fault : Fault) : Prop := v.isTruthy = true ∧ v.whole? = .error fault

variable {v : Value}

theorem isNull_iff : v.isNull = true ↔ v = .null := by
  cases v <;> simp [isNull]

theorem any_isNull_iff {entries : List Value} : entries.any isNull = true ↔ .null ∈ entries := by
  simp [isNull_iff]

theorem says_iff_of_truthy (h : v.isTruthy = true) {n : Int} : v.Says n ↔ v.whole? = .ok n := by
  constructor
  · intro hsays
    cases hsays with
    | number _ hwhole => exact hwhole
    | nothing hempty => rw [h] at hempty; cases hempty
  · exact .number h

theorem says_iff_of_falsy (h : v.isTruthy = false) {n : Int} : v.Says n ↔ n = 1 := by
  constructor
  · intro hsays
    cases hsays with
    | number hcounts _ => rw [h] at hcounts; cases hcounts
    | nothing => rfl
  · rintro rfl
    exact .nothing h

end Value

namespace Problem

/-- Why an entry becomes no problem. Its line comes before its character. -/
inductive Unmapped : Value → Fault → Prop
  | kind {v : Value} : (∀ fields, v ≠ .object fields) → Unmapped v (.noMember v.kind "get")
  | line {fields : Fields} {fault : Fault} :
    (Value.fieldOrNull "line" fields).Refused fault → Unmapped (.object fields) fault
  | character {fields : Fields} {fault : Fault} {n : Int} :
    (Value.fieldOrNull "line" fields).Says n →
      (Value.fieldOrNull "character" fields).Refused fault → Unmapped (.object fields) fault

/-- A problem is where the fields of an entry place it, counted from zero, and has their reason. -/
structure Tells (fields : Fields) (p : Problem) : Prop where
  line : ∃ n, (Value.fieldOrNull "line" fields).Says n ∧ p.line = max (n - 1) 0
  character : ∃ n, (Value.fieldOrNull "character" fields).Says n ∧ p.character = max (n - 1) 0
  message : p.message = (Entries.get? "reason" fields).getD (.str "")

variable {v : Value} {p : Problem} {fault : Fault} {fields : Fields}

theorem position?_of_truthy (h : v.isTruthy = true) :
    position? v = v.whole?.map fun n => max (n - 1) 0 := by
  unfold position?
  rw [if_pos h]

theorem position?_of_falsy (h : v.isTruthy = false) : position? v = .ok 0 := by
  unfold position?
  rw [h]
  rfl

theorem position?_eq_ok_iff {m : Int} :
    position? v = .ok m ↔ ∃ n, v.Says n ∧ m = max (n - 1) 0 := by
  cases h : v.isTruthy with
  | false => simp [position?_of_falsy h, Value.says_iff_of_falsy h, eq_comm]
  | true =>
    rw [position?_of_truthy h, map_eq_ok_iff]
    simp only [Value.says_iff_of_truthy h, eq_comm]

theorem position?_eq_error_iff : position? v = .error fault ↔ v.Refused fault := by
  cases h : v.isTruthy with
  | false => simp [position?_of_falsy h, Value.Refused, h]
  | true => rw [position?_of_truthy h, map_eq_error_iff, Value.Refused, h, eq_self, true_and]

theorem ofEntry_of_not_object (h : ∀ fields, v ≠ .object fields) :
    ofEntry v = .error (.noMember v.kind "get") := by
  cases v with
  | object fields => exact absurd rfl (h fields)
  | null | bool | int | float | str | list => rfl

theorem ofEntry_object_eq_ok_iff :
    ofEntry (.object fields) = .ok p ↔ p.Tells fields ∧ p.kind = .warning := by
  simp only [ofEntry, bind_eq_ok_iff, Except.ok.injEq]
  constructor
  · rintro ⟨line, hline, character, hcharacter, rfl⟩
    exact ⟨⟨position?_eq_ok_iff.1 hline, position?_eq_ok_iff.1 hcharacter, rfl⟩, rfl⟩
  · rintro ⟨htells, hkind⟩
    refine ⟨p.line, position?_eq_ok_iff.2 htells.line, p.character,
      position?_eq_ok_iff.2 htells.character, ?_⟩
    rw [← hkind, reason, ← htells.message]

theorem ofEntry_object_eq_error_iff :
    ofEntry (.object fields) = .error fault ↔ Unmapped (.object fields) fault := by
  simp only [ofEntry, bind_eq_error_iff, position?_eq_error_iff, position?_eq_ok_iff, reduceCtorEq,
    and_false, exists_false, or_false]
  constructor
  · rintro (hline | ⟨_, ⟨n, hsays, -⟩, hcharacter⟩)
    · exact .line hline
    · exact .character hsays hcharacter
  · intro h
    cases h with
    | kind hkind => exact absurd rfl (hkind fields)
    | line hline => exact .inl hline
    | character hsays hcharacter => exact .inr ⟨_, ⟨_, hsays, rfl⟩, hcharacter⟩

theorem ofEntry_eq_ok_iff :
    ofEntry v = .ok p ↔ (∃ fields, v = .object fields ∧ p.Tells fields) ∧ p.kind = .warning := by
  by_cases hobject : ∃ fields, v = .object fields
  · obtain ⟨fields, rfl⟩ := hobject
    simp [ofEntry_object_eq_ok_iff]
  · rw [ofEntry_of_not_object (not_exists.1 hobject)]
    constructor
    · intro h
      cases h
    · rintro ⟨⟨fields, hfields, -⟩, -⟩
      exact absurd ⟨fields, hfields⟩ hobject

theorem ofEntry_eq_error_iff : ofEntry v = .error fault ↔ Unmapped v fault := by
  by_cases hobject : ∃ fields, v = .object fields
  · obtain ⟨fields, rfl⟩ := hobject
    exact ofEntry_object_eq_error_iff
  · have hnone := not_exists.1 hobject
    rw [ofEntry_of_not_object hnone]
    constructor
    · intro h
      exact Except.error.inj h ▸ .kind hnone
    · intro h
      cases h with
      | kind => rfl
      | line | character => exact absurd ⟨_, rfl⟩ hobject

theorem mapped_iff : (∃ p, ofEntry v = .ok p) ↔ ∀ fault, ¬ Unmapped v fault := by
  cases h : ofEntry v with
  | ok p => simp [← ofEntry_eq_error_iff, h]
  | error fault => simp [← ofEntry_eq_error_iff, h]

variable {entries : List Value} {problems : List Problem}

theorem ofEntries_eq_mapM (entries : List Value) : ofEntries entries = entries.mapM ofEntry := by
  induction entries with
  | nil => rfl
  | cons entry rest ih => rw [ofEntries, ih, mapM_cons_eq]

theorem ofEntries_eq_ok_iff :
    ofEntries entries = .ok problems ↔
      List.Forall₂ (fun entry p => ofEntry entry = .ok p) entries problems := by
  rw [ofEntries_eq_mapM, mapM_eq_ok_iff]

/-- The first entry that becomes no problem decides. -/
theorem ofEntries_eq_error_iff :
    ofEntries entries = .error fault ↔
      ∃ earlier entry later, entries = earlier ++ entry :: later ∧
        (∀ e ∈ earlier, ∃ p, ofEntry e = .ok p) ∧ ofEntry entry = .error fault := by
  rw [ofEntries_eq_mapM, mapM_eq_error_iff]

theorem exists_says_or_refused (v : Value) : (∃ n, v.Says n) ∨ ∃ fault, v.Refused fault := by
  cases h : position? v with
  | ok m =>
    obtain ⟨n, hsays, -⟩ := position?_eq_ok_iff.1 h
    exact .inl ⟨n, hsays⟩
  | error fault => exact .inr ⟨fault, position?_eq_error_iff.1 h⟩

theorem unmapped_iff :
    (∃ fault, Unmapped v fault) ↔
      (∀ fields, v ≠ .object fields) ∨
        ∃ fields, v = .object fields ∧
          ∃ name ∈ ["line", "character"], ∃ fault, (Value.fieldOrNull name fields).Refused fault := by
  constructor
  · rintro ⟨fault, h⟩
    cases h with
    | kind hkind => exact .inl hkind
    | line hline => exact .inr ⟨_, rfl, "line", by simp, fault, hline⟩
    | character _ hcharacter => exact .inr ⟨_, rfl, "character", by simp, fault, hcharacter⟩
  · rintro (hkind | ⟨fields, rfl, name, hname, fault, hrefused⟩)
    · exact ⟨_, .kind hkind⟩
    · rcases exists_says_or_refused (Value.fieldOrNull "line" fields) with ⟨n, hsays⟩ | ⟨other, hline⟩
      · rcases List.mem_pair.1 hname with rfl | rfl
        · exact ⟨fault, .line hrefused⟩
        · exact ⟨fault, .character hsays hrefused⟩
      · exact ⟨other, .line hline⟩

theorem ofEntries_fails_iff :
    (∃ fault, ofEntries entries = .error fault) ↔
      ∃ entry ∈ entries, ∃ fault, Unmapped entry fault := by
  simp only [ofEntries_eq_mapM, mapM_fails_iff, ofEntry_eq_error_iff]

theorem kind_of_ofEntries (h : ofEntries entries = .ok problems) :
    ∀ p ∈ problems, p.kind = .warning := by
  have hall := ofEntries_eq_ok_iff.1 h
  clear h
  induction hall with
  | nil => simp
  | cons hfirst _ ih => exact List.forall_mem_cons.2 ⟨(ofEntry_eq_ok_iff.1 hfirst).2, ih⟩

theorem getElem?_markLast (problems : List Problem) (i : Nat) :
    (markLast problems)[i]? =
      problems[i]?.map fun p =>
        if i + 1 = problems.length then { p with kind := .notice } else p := by
  induction problems generalizing i with
  | nil => rfl
  | cons p rest ih =>
    cases rest with
    | nil => cases i <;> simp [markLast]
    | cons q more =>
      cases i with
      | zero => simp [markLast]
      | succ i => simp [markLast, ih]

theorem forall₂_markLast {α : Type} {R : α → Problem → Prop}
    (hR : ∀ a p, R a p → R a { p with kind := .notice }) {items : List α}
    (h : List.Forall₂ R items problems) : List.Forall₂ R items (markLast problems) := by
  induction h with
  | nil => exact .nil
  | cons hfirst hrest ih =>
    cases hrest with
    | nil => exact .cons (hR _ _ hfirst) .nil
    | cons => exact .cons hfirst ih

theorem withKind_eq {kind : ProblemKind} (h : p.kind = kind) : { p with kind := kind } = p := by
  rw [← h]

theorem Tells.ofKind (h : p.Tells fields) (kind : ProblemKind) :
    Tells fields { p with kind := kind } := ⟨h.line, h.character, h.message⟩

theorem Tells.nonneg (h : p.Tells fields) : 0 ≤ p.line ∧ 0 ≤ p.character := by
  obtain ⟨n, -, hline⟩ := h.line
  obtain ⟨m, -, hcharacter⟩ := h.character
  exact ⟨hline ▸ Int.le_max_right _ _, hcharacter ▸ Int.le_max_right _ _⟩

end Problem

namespace Inspection

/-- What a report is mapped to: a problem for each entry but the nulls, in order, of which the last is a
notice where there was a null. -/
structure Maps (entries : List Value) (r : Inspection) : Prop where
  told : List.Forall₂ (fun entry p => ∃ fields, entry = .object fields ∧ Problem.Tells fields p)
    (entries.filter (!·.isNull)) r.problems
  aborted : r.aborted = true ↔ .null ∈ entries
  kinds : ∀ i p, r.problems[i]? = some p →
    p.kind = if r.aborted = true ∧ i + 1 = r.problems.length then .notice else .warning

variable {entries : List Value} {r : Inspection}

theorem ofReport_eq_error_iff {fault : Fault} :
    ofReport entries = .error fault ↔
      Problem.ofEntries (entries.filter (!·.isNull)) = .error fault := by
  rw [ofReport, map_eq_error_iff]

theorem ofReport_maps (h : ofReport entries = .ok r) : r.Maps entries := by
  rw [ofReport, map_eq_ok_iff] at h
  obtain ⟨problems, hproblems, rfl⟩ := h
  have hwarnings := Problem.kind_of_ofEntries hproblems
  have htold : List.Forall₂ (fun entry p => ∃ fields, entry = .object fields ∧ Problem.Tells fields p)
      (entries.filter (!·.isNull)) problems :=
    (Problem.ofEntries_eq_ok_iff.1 hproblems).imp fun _ _ hentry =>
      (Problem.ofEntry_eq_ok_iff.1 hentry).1
  cases hstopped : entries.any Value.isNull with
  | false =>
    refine ⟨htold, ?_, fun i p hp => ?_⟩
    · rw [← Value.any_isNull_iff, hstopped]
      rfl
    · exact hwarnings p (List.mem_of_getElem? hp)
  | true =>
    refine ⟨Problem.forall₂_markLast ?_ htold, ?_, fun i p hp => ?_⟩
    · rintro entry p ⟨fields, rfl, htells⟩
      exact ⟨fields, rfl, htells.ofKind _⟩
    · rw [← Value.any_isNull_iff, hstopped]
      rfl
    · rw [if_pos rfl] at hp ⊢
      rw [Problem.getElem?_markLast, Option.map_eq_some_iff] at hp
      obtain ⟨q, hq, rfl⟩ := hp
      have hwarning := hwarnings q (List.mem_of_getElem? hq)
      rw [length_markLast]
      split <;> simp_all

theorem Maps.ofReport (h : r.Maps entries) : Inspection.ofReport entries = .ok r := by
  obtain ⟨problems, aborted⟩ := r
  have hproblems : Problem.ofEntries (entries.filter (!·.isNull)) =
      .ok (problems.map fun p => { p with kind := .warning }) := by
    rw [Problem.ofEntries_eq_ok_iff, List.forall₂_map_right_iff]
    refine h.told.imp fun entry p htold => Problem.ofEntry_eq_ok_iff.2 ⟨?_, rfl⟩
    obtain ⟨fields, rfl, htells⟩ := htold
    exact ⟨fields, rfl, htells.ofKind _⟩
  have hstopped : entries.any Value.isNull = aborted :=
    Bool.eq_iff_iff.2 (Value.any_isNull_iff.trans h.aborted.symm)
  rw [Inspection.ofReport, hproblems, hstopped, Except.map]
  have hkind := h.kinds
  cases aborted with
  | false =>
    rw [if_neg Bool.false_ne_true]
    congr 2
    refine (List.map_congr_left fun p hp => ?_).trans (List.map_id problems)
    obtain ⟨i, hi⟩ := List.getElem?_of_mem hp
    exact Problem.withKind_eq (hkind i p hi)
  | true =>
    rw [if_pos rfl]
    congr 2
    refine List.ext_getElem? fun i => ?_
    rw [Problem.getElem?_markLast, List.getElem?_map, Option.map_map]
    cases hi : problems[i]? with
    | none => rfl
    | some p =>
      have hp : p.kind = if i + 1 = problems.length then .notice else .warning := by
        simpa using hkind i p hi
      simp only [Option.map_some, Function.comp_apply, List.length_map]
      by_cases hlast : i + 1 = problems.length
      · rw [if_pos hlast] at hp ⊢
        rw [Problem.withKind_eq hp]
      · rw [if_neg hlast] at hp ⊢
        rw [Problem.withKind_eq hp]

theorem ofReport_eq_ok_iff : ofReport entries = .ok r ↔ r.Maps entries :=
  ⟨ofReport_maps, Maps.ofReport⟩

theorem Maps.entries_null (h : r.Maps entries) (hnone : r.problems = []) :
    ∀ entry ∈ entries, entry.isNull = true := by
  have hpresent : entries.filter (!·.isNull) = [] := List.forall₂_nil_right_iff.1 (hnone ▸ h.told)
  simpa using hpresent

theorem Maps.nonneg (h : r.Maps entries) : ∀ p ∈ r.problems, 0 ≤ p.line ∧ 0 ≤ p.character := by
  intro p hp
  obtain ⟨i, hi, rfl⟩ := List.getElem_of_mem hp
  obtain ⟨fields, -, htells⟩ := h.told.get (h.told.length_eq ▸ hi) hi
  exact htells.nonneg

/-- Each entry but the nulls becomes a problem, in order, unless one of them is no object or its line or
character denotes no number; then the first such entry decides how the mapping fails. The places of the
nulls and their number do not matter. -/
theorem entries_are_mapped_in_order (entries : List Value) :
    let present := entries.filter (!·.isNull)
    ((∃ fault, ofReport entries = .error fault) ↔
        ∃ entry ∈ entries, entry ≠ .null ∧
          ((∀ fields, entry ≠ .object fields) ∨
            ∃ fields, entry = .object fields ∧ ∃ name ∈ ["line", "character"], ∃ fault,
              (Value.fieldOrNull name fields).Refused fault)) ∧
      (∀ fault, ofReport entries = .error fault ↔
        ∃ earlier entry later, present = earlier ++ entry :: later ∧
          (∀ e ∈ earlier, ∀ other, ¬ Problem.Unmapped e other) ∧ Problem.Unmapped entry fault) ∧
      (∀ r, ofReport entries = .ok r ↔ r.Maps entries) ∧
      (∀ r, ofReport entries = .ok r →
        r.problems.length = present.length ∧ ∀ p ∈ r.problems, 0 ≤ p.line ∧ 0 ≤ p.character) ∧
      ∀ other, other.filter (!·.isNull) = present → (.null ∈ other ↔ .null ∈ entries) →
        ofReport other = ofReport entries := by
  intro present
  have hmem {entry : Value} : entry ∈ present ↔ entry ∈ entries ∧ entry ≠ .null := by
    rw [List.mem_filter, Bool.not_eq_true', ← Bool.not_eq_true, Value.isNull_iff]
  refine ⟨?_, fun fault => ?_, fun r => ofReport_eq_ok_iff, fun r hr => ?_, fun other hsame hnull => ?_⟩
  · simp only [ofReport_eq_error_iff, Problem.ofEntries_fails_iff, Problem.unmapped_iff]
    constructor
    · rintro ⟨entry, hentry, hunmapped⟩
      exact ⟨entry, (hmem.1 hentry).1, (hmem.1 hentry).2, hunmapped⟩
    · rintro ⟨entry, hentry, hsome, hunmapped⟩
      exact ⟨entry, hmem.2 ⟨hentry, hsome⟩, hunmapped⟩
  · rw [ofReport_eq_error_iff, Problem.ofEntries_eq_error_iff]
    simp only [Problem.mapped_iff, Problem.ofEntry_eq_error_iff]
    rfl
  · have hmaps := ofReport_maps hr
    exact ⟨hmaps.told.length_eq.symm, hmaps.nonneg⟩
  · have hstopped : other.any Value.isNull = entries.any Value.isNull :=
      Bool.eq_iff_iff.2 ((Value.any_isNull_iff.trans hnull).trans Value.any_isNull_iff.symm)
    rw [ofReport, ofReport, hstopped, hsame]

/-- Nulls at the beginning and between entries, a line in words, and an entry that names no place. -/
def scatteredReport : List Value :=
  [.null, .object [("line", .str " 3 "), ("character", .bool true), ("reason", .str "a")], .null,
    .object [("line", .int (-5)), ("reason", .null)]]

/-- The notice is the last problem wherever the nulls are. -/
theorem entries_are_mapped_in_order_of_scattered :
    ofReport scatteredReport = .ok ⟨[⟨2, 0, .str "a", .warning⟩, ⟨0, 0, .null, .notice⟩], true⟩ ∧
      ofReport (scatteredReport.filter (!·.isNull) ++ [.null]) = ofReport scatteredReport := by
  have hgathered := (entries_are_mapped_in_order scatteredReport).2.2.2.2
    (scatteredReport.filter (!·.isNull) ++ [.null])
  exact ⟨by decide +kernel, hgathered (by decide +kernel) (by decide +kernel)⟩

end Inspection

end LintRelay
