import LintRelay.Entries
import Mathlib.Tactic.Common

/-!
# Entries in the order of their names

Sorting brings entries of distinct names into ascending order. It is stable: entries of one name keep
their order, so looking a name up, writing it and telling which names there are all come out as if nothing
had been sorted. Entries are known from their names in order and what they are when sorted.
-/
namespace LintRelay.Entries

variable {α β : Type} {entries others : Entries α} {name : String}

theorem precedes_irrefl (cs : List Char) : precedes cs cs = false := by
  induction cs with
  | nil => rfl
  | cons c rest ih => simp [precedes, ih]

theorem ne_of_precedes {m n : String} (h : precedes m.toList n.toList = true) : m ≠ n := by
  rintro rfl
  rw [precedes_irrefl] at h
  cases h

theorem precedes_trans {as bs cs : List Char} (hab : precedes as bs = true)
    (hbc : precedes bs cs = true) : precedes as cs = true := by
  induction as generalizing bs cs with
  | nil =>
    cases cs with
    | nil => simp [precedes] at hbc
    | cons c cs => rfl
  | cons a as ih =>
    cases bs with
    | nil => simp [precedes] at hab
    | cons b bs =>
      cases cs with
      | nil => simp [precedes] at hbc
      | cons c cs => grind [precedes]

theorem precedes_asymm {as bs : List Char} (hab : precedes as bs = true) : precedes bs as = false := by
  by_contra hba
  have hself := precedes_trans hab (by simpa using hba)
  rw [precedes_irrefl] at hself
  cases hself

theorem precedes_total {as bs : List Char} (hne : as ≠ bs) :
    precedes as bs = true ∨ precedes bs as = true := by
  induction as generalizing bs with
  | nil =>
    cases bs with
    | nil => exact absurd rfl hne
    | cons b bs => exact .inl rfl
  | cons a as ih =>
    cases bs with
    | nil => exact .inr rfl
    | cons b bs =>
      by_cases hc : a.toNat = b.toNat
      · obtain rfl : a = b := Char.toNat_inj.1 hc
        have hrest : as ≠ bs := fun e => hne (by rw [e])
        simpa [precedes] using ih hrest
      · simp only [precedes, Bool.or_eq_true, Bool.and_eq_true, decide_eq_true_eq]
        omega

theorem precedes_iff_lt {as bs : List Char} : precedes as bs = true ↔ as < bs := by
  induction as generalizing bs with
  | nil => cases bs <;> simp [precedes]
  | cons a as ih =>
    cases bs with
    | nil => simp [precedes]
    | cons b bs =>
      have hhead : a < b ↔ a.toNat < b.toNat := Iff.rfl
      simp only [precedes, Bool.or_eq_true, Bool.and_eq_true, decide_eq_true_eq, ih, Char.toNat_inj,
        List.cons_lt_cons_iff, hhead]

theorem place_perm (p : String × α) (entries : Entries α) : (place p entries).Perm (p :: entries) := by
  induction entries with
  | nil => exact .refl _
  | cons q rest ih =>
    unfold place
    split
    · exact (ih.cons q).trans (.swap p q rest)
    · exact .refl _

theorem sorted_perm (entries : Entries α) : (sorted entries).Perm entries := by
  induction entries with
  | nil => exact .refl _
  | cons p rest ih => exact (place_perm p _).trans (ih.cons p)

theorem mem_names_sorted : name ∈ names (sorted entries) ↔ name ∈ names entries :=
  ((sorted_perm entries).map Prod.fst).mem_iff

theorem pairwise_place {p : String × α} (hp : p.1 ∉ names entries)
    (hsorted : entries.Pairwise fun a b => a.1 < b.1) :
    (place p entries).Pairwise fun a b => a.1 < b.1 := by
  induction entries with
  | nil => exact List.pairwise_singleton _ p
  | cons q rest ih =>
    obtain ⟨hq, hrest⟩ := List.pairwise_cons.1 hsorted
    obtain ⟨hne, hnotin⟩ : p.1 ≠ q.1 ∧ p.1 ∉ names rest := by simpa [names] using hp
    unfold place
    split
    · rename_i hbefore
      have hless : q.1 < p.1 := precedes_iff_lt.1 hbefore
      refine List.pairwise_cons.2 ⟨fun r hr => ?_, ih hnotin hrest⟩
      rcases List.mem_cons.1 ((place_perm p rest).mem_iff.1 hr) with rfl | hr
      · exact hless
      · exact hq r hr
    · rename_i hbefore
      have hchars : p.1.toList ≠ q.1.toList := fun e => hne (String.toList_injective e)
      have hless : p.1 < q.1 := precedes_iff_lt.1 ((precedes_total hchars).resolve_right hbefore)
      refine List.pairwise_cons.2 ⟨fun r hr => ?_, hsorted⟩
      rcases List.mem_cons.1 hr with rfl | hr
      · exact hless
      · exact precedes_iff_lt.1 (precedes_trans (precedes_iff_lt.2 hless) (precedes_iff_lt.2 (hq r hr)))

theorem pairwise_sorted (hnodup : (names entries).Nodup) :
    (sorted entries).Pairwise fun a b => a.1 < b.1 := by
  induction entries with
  | nil => exact .nil
  | cons p rest ih =>
    obtain ⟨hp, hrest⟩ := List.nodup_cons.1 hnodup
    exact pairwise_place (mem_names_sorted.not.2 hp) (ih hrest)

theorem get?_place_self (p : String × α) (entries : Entries α) :
    get? p.1 (place p entries) = some p.2 := by
  induction entries with
  | nil => simp [place, get?]
  | cons q rest ih =>
    unfold place
    split
    · rename_i hbefore
      have hne := ne_of_precedes hbefore
      rw [get?, if_neg hne]
      exact ih
    · simp [get?]

theorem get?_place_of_ne {p : String × α} (hne : name ≠ p.1) (entries : Entries α) :
    get? name (place p entries) = get? name entries := by
  induction entries with
  | nil => simp [place, get?, hne.symm]
  | cons q rest ih => grind [place, get?]

theorem get?_sorted (name : String) (entries : Entries α) :
    get? name (sorted entries) = get? name entries := by
  induction entries with
  | nil => rfl
  | cons p rest ih =>
    rw [sorted, get?]
    split
    · rename_i hname
      rw [← hname]
      exact get?_place_self p _
    · rename_i hname
      rw [get?_place_of_ne (Ne.symm hname), ih]

theorem erase_place_self (p : String × α) (entries : Entries α) :
    erase p.1 (place p entries) = entries := by
  induction entries with
  | nil => simp [place, erase]
  | cons q rest ih =>
    unfold place
    split
    · rename_i hbefore
      have hne := ne_of_precedes hbefore
      rw [erase, if_neg hne, ih]
    · simp [erase]

/-- Entries of two lists with one order of names are the same where they are when sorted. -/
theorem eq_of_sorted_eq (hnames : names entries = names others)
    (hsorted : sorted entries = sorted others) : entries = others := by
  induction entries generalizing others with
  | nil => exact (List.map_eq_nil_iff.1 hnames.symm).symm
  | cons p rest ih =>
    cases others with
    | nil => cases hnames
    | cons q others =>
      obtain ⟨hname, hnames⟩ : p.1 = q.1 ∧ names rest = names others := by
        simpa [names] using hnames
      have hvalue : some p.2 = some q.2 := by
        rw [← get?_place_self p (sorted rest), ← get?_place_self q (sorted others), ← hname]
        exact congrArg (get? p.1) hsorted
      have hrest : sorted rest = sorted others := by
        rw [← erase_place_self p (sorted rest), ← erase_place_self q (sorted others), ← hname]
        exact congrArg (erase p.1) hsorted
      rw [Prod.ext hname (Option.some.inj hvalue), ih hnames hrest]

theorem place_comm {p q : String × α} (hne : p.1 ≠ q.1) (entries : Entries α) :
    place p (place q entries) = place q (place p entries) := by
  have hchars : p.1.toList ≠ q.1.toList := fun e => hne (String.toList_injective e)
  -- whichever comes first finds its place first, with the other behind it
  rcases precedes_total hchars with hpq | hqp
  · have hqp := precedes_asymm hpq
    induction entries with
    | nil => simp [place, hpq, hqp]
    | cons r rest ih => grind [place, → precedes_trans]
  · have hpq := precedes_asymm hqp
    induction entries with
    | nil => simp [place, hpq, hqp]
    | cons r rest ih => grind [place, → precedes_trans]

theorem put_place_self (p : String × α) (a : α) (entries : Entries α) :
    put p.1 a (place p entries) = place (p.1, a) entries := by
  induction entries with
  | nil => simp [place, put]
  | cons q rest ih =>
    by_cases hbefore : precedes q.1.toList p.1.toList = true
    · have hne := ne_of_precedes hbefore
      simp [place, put, hbefore, hne, ih]
    · simp [place, put, hbefore]

/-- Where a name is known, its entry is written in its place, which does not depend on the value. -/
theorem put_place_of_ne {p : String × α} (hne : p.1 ≠ name) (a : α) (hname : name ∈ names entries) :
    put name a (place p entries) = place p (put name a entries) := by
  induction entries with
  | nil => cases hname
  | cons q rest ih =>
    by_cases hq : q.1 = name
    · subst hq
      by_cases hbefore : precedes q.1.toList p.1.toList = true
      · simp [place, put, hbefore]
      · simp [place, put, hbefore, hne]
    · have hrest : name ∈ names rest := by simpa [names, Ne.symm hq] using hname
      by_cases hbefore : precedes q.1.toList p.1.toList = true
      · simp [place, put, hbefore, hq, ih hrest]
      · simp [place, put, hbefore, hne, hq]

theorem sorted_put (name : String) (a : α) (entries : Entries α) :
    sorted (put name a entries) =
      if name ∈ names entries then put name a (sorted entries)
      else place (name, a) (sorted entries) := by
  induction entries with
  | nil => simp [put, sorted, names]
  | cons p rest ih =>
    by_cases hp : p.1 = name
    · subst hp
      have hmem : p.1 ∈ names (p :: rest) := List.mem_cons_self
      rw [if_pos hmem, put, if_pos rfl, sorted, sorted, put_place_self]
    · have hmem : name ∈ names (p :: rest) ↔ name ∈ names rest := by simp [names, Ne.symm hp]
      rw [put, if_neg hp, sorted, ih, sorted]
      by_cases hrest : name ∈ names rest
      · rw [if_pos hrest, if_pos (hmem.2 hrest)]
        exact (put_place_of_ne hp a (mem_names_sorted.2 hrest)).symm
      · rw [if_neg hrest, if_neg (hmem.not.2 hrest)]
        exact place_comm hp _

theorem mem_names_of_sorted_eq (hsorted : sorted entries = sorted others) :
    name ∈ names entries ↔ name ∈ names others := by
  rw [← mem_names_sorted, hsorted, mem_names_sorted]

theorem sorted_put_congr (hsorted : sorted entries = sorted others) (name : String) (a : α) :
    sorted (put name a entries) = sorted (put name a others) := by
  rw [sorted_put, sorted_put, hsorted]
  simp only [mem_names_of_sorted_eq hsorted]

theorem get?_of_sorted_eq (hsorted : sorted entries = sorted others) (name : String) :
    get? name entries = get? name others := by
  rw [← get?_sorted, hsorted, get?_sorted]

theorem put_put (name : String) (a b : α) (entries : Entries α) :
    put name b (put name a entries) = put name b entries := by
  induction entries with
  | nil => simp [put]
  | cons p rest ih => by_cases hp : p.1 = name <;> simp [put, hp, ih]

section Mapped

variable (f : α → β)

def mapped (entries : Entries α) : Entries β := entries.map fun p => (p.1, f p.2)

theorem names_mapped (entries : Entries α) : names (mapped f entries) = names entries := by
  simp [names, mapped, Function.comp_def]

theorem get?_mapped (name : String) (entries : Entries α) :
    get? name (mapped f entries) = (get? name entries).map f := by
  induction entries with
  | nil => rfl
  | cons p rest ih =>
    by_cases hp : p.1 = name
    · simp [mapped, get?, hp]
    · simpa [mapped, get?, hp] using ih

theorem mapped_put (name : String) (a : α) (entries : Entries α) :
    mapped f (put name a entries) = put name (f a) (mapped f entries) := by
  induction entries with
  | nil => rfl
  | cons p rest ih =>
    by_cases hp : p.1 = name
    · simp [mapped, put, hp]
    · simpa [mapped, put, hp] using ih

theorem mapped_place (p : String × α) (entries : Entries α) :
    mapped f (place p entries) = place (p.1, f p.2) (mapped f entries) := by
  induction entries with
  | nil => rfl
  | cons q rest ih =>
    by_cases hbefore : precedes q.1.toList p.1.toList = true
    · simpa [mapped, place, hbefore] using ih
    · simp [mapped, place, hbefore]

theorem sorted_mapped (entries : Entries α) : sorted (mapped f entries) = mapped f (sorted entries) := by
  induction entries with
  | nil => rfl
  | cons p rest ih =>
    rw [sorted, mapped_place, ← ih]
    rfl

end Mapped

end LintRelay.Entries
