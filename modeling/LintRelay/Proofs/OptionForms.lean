import LintRelay.Flags
import LintRelay.LintOptions
import LintRelay.OptionEquality
import LintRelay.Proofs.SortedEntries

/-!
# Options that say the same and are written alike

Equality of options forgets how a number is written and in which order an object's names come, and the
flags of the linter do not. Signatures can be read from the front, so equal ones agree part by part:
options that say the same are the same, up to the order of their own names, where they are also written
alike. An indentation that is replaced in any case need not be.
-/
namespace LintRelay

/-- The number of parts that follow an atom in a signature. -/
def Atom.arity : Atom → Nat
  | listOf count => count
  | objectOf count => 2 * count
  | _ => 0

def Atom.isTruthy : Atom → Bool
  | null => false
  | number x => x != .zero
  | text s => s != ""
  | listOf count => count != 0
  | objectOf count => count != 0
  | _ => true

/-- What is left when so many parts are read. -/
def unread : Nat → List Atom → List Atom
  | 0, atoms => atoms
  | _ + 1, [] => []
  | count + 1, a :: rest => unread (count + a.arity) rest

/-- Atoms that are one part, whatever follows them. -/
def IsPart (atoms : List Atom) : Prop :=
  ∀ count more, unread (count + 1) (atoms ++ more) = unread count more

theorem unread_zero (atoms : List Atom) : unread 0 atoms = atoms := by
  cases atoms <;> rfl

theorem isPart_singleton {a : Atom} (ha : a.arity = 0) : IsPart [a] := by
  intro count more
  rw [List.singleton_append, unread, ha, Nat.add_zero]

/-- Parts can be told from what follows them. -/
theorem IsPart.append_inj {a b s t : List Atom} (ha : IsPart a) (hb : IsPart b)
    (h : a ++ s = b ++ t) : a = b ∧ s = t := by
  have hrest : s = t := by
    calc s = unread 1 (a ++ s) := by rw [ha 0, unread_zero]
      _ = unread 1 (b ++ t) := by rw [h]
      _ = t := by rw [hb 0, unread_zero]
  subst hrest
  exact ⟨List.append_cancel_right h, rfl⟩

namespace Value

theorem whole_injective {m n : Int} (h : whole m = whole n) : m = n := by
  have hdyadic : Dyadic.ofIntWithPrec m 0 = Dyadic.ofIntWithPrec n 0 := by simpa [whole] using h
  have hrat := congrArg Dyadic.toRat hdyadic
  simp only [Dyadic.toRat_ofIntWithPrec_eq_mul_two_pow] at hrat
  simpa using hrat

theorem fieldSignatures_eq_mapped (fields : Fields) :
    fieldSignatures fields = Entries.mapped signature fields := by
  induction fields with
  | nil => rfl
  | cons p rest ih => rw [fieldSignatures, ih]; rfl

def written (parts : Entries (List Atom)) : List Atom := parts.flatMap fun p => .name p.1 :: p.2

theorem written_cons (p : String × List Atom) (parts : Entries (List Atom)) :
    written (p :: parts) = .name p.1 :: (p.2 ++ written parts) := List.flatMap_cons

theorem unread_written {parts : Entries (List Atom)} (hparts : ∀ p ∈ parts, IsPart p.2)
    (count : Nat) (more : List Atom) :
    unread (count + 2 * parts.length) (written parts ++ more) = unread count more := by
  induction parts with
  | nil => rfl
  | cons p rest ih =>
    have hlength : count + 2 * (p :: rest).length = count + 2 * rest.length + 1 + 1 := by
      rw [List.length_cons]
      omega
    rw [hlength, written_cons, List.cons_append, List.append_assoc]
    -- a name is one part and its value another
    calc unread (count + 2 * rest.length + 1 + 1) (.name p.1 :: (p.2 ++ (written rest ++ more)))
      _ = unread (count + 2 * rest.length + 1) (p.2 ++ (written rest ++ more)) := rfl
      _ = unread (count + 2 * rest.length) (written rest ++ more) :=
        hparts p List.mem_cons_self _ _
      _ = unread count more := ih fun q hq => hparts q (List.mem_cons_of_mem p hq)

theorem written_injective {parts others : Entries (List Atom)} (hparts : ∀ p ∈ parts, IsPart p.2)
    (hothers : ∀ p ∈ others, IsPart p.2) (h : written parts = written others) : parts = others := by
  induction parts generalizing others with
  | nil =>
    cases others with
    | nil => rfl
    | cons q others => simp [written] at h
  | cons p rest ih =>
    cases others with
    | nil => simp [written] at h
    | cons q others =>
      rw [written_cons, written_cons] at h
      obtain ⟨hname, hvalues⟩ : p.1 = q.1 ∧ p.2 ++ written rest = q.2 ++ written others := by
        simpa using h
      obtain ⟨hvalue, hrest⟩ :=
        (hparts p List.mem_cons_self).append_inj (hothers q List.mem_cons_self) hvalues
      rw [Prod.ext hname hvalue]
      exact congrArg (q :: ·) (ih (fun r hr => hparts r (List.mem_cons_of_mem p hr))
        (fun r hr => hothers r (List.mem_cons_of_mem q hr)) hrest)

theorem length_sorted_fieldSignatures (fields : Fields) :
    (Entries.sorted (fieldSignatures fields)).length = fields.length := by
  rw [(Entries.sorted_perm _).length_eq, fieldSignatures_eq_mapped, Entries.mapped, List.length_map]

mutual

theorem isPart_signature : ∀ v : Value, IsPart (signature v)
  | null => isPart_singleton rfl
  | bool _ => isPart_singleton rfl
  | int _ => isPart_singleton rfl
  | float x => isPart_singleton (by cases x <;> rfl)
  | str _ => isPart_singleton rfl
  | list items => unread_itemSignature items
  | object fields => by
    intro count more
    have hparts : ∀ p ∈ Entries.sorted (fieldSignatures fields), IsPart p.2 := fun p hp =>
      isPart_fieldSignatures fields p ((Entries.sorted_perm _).mem_iff.1 hp)
    have hread := unread_written hparts count more
    rw [length_sorted_fieldSignatures] at hread
    exact hread

theorem unread_itemSignature : ∀ (items : List Value) (count : Nat) (more : List Atom),
    unread (count + items.length) (itemSignature items ++ more) = unread count more
  | [], _, _ => rfl
  | v :: rest, count, more => by
    rw [itemSignature, List.append_assoc, List.length_cons, ← Nat.add_assoc, isPart_signature v]
    exact unread_itemSignature rest count more

theorem isPart_fieldSignatures : ∀ (fields : List (String × Value)),
    ∀ p ∈ fieldSignatures fields, IsPart p.2
  | [], p, hp => by cases hp
  | (name, v) :: rest, p, hp => by
    rcases List.mem_cons.1 hp with rfl | hp
    · exact isPart_signature v
    · exact isPart_fieldSignatures rest p hp

end

/-- Objects that say the same have, when sorted, the same names with the same signatures. -/
theorem sorted_fieldSignatures_of_signature {fs gs : Fields}
    (h : signature (object fs) = signature (object gs)) :
    Entries.sorted (fieldSignatures fs) = Entries.sorted (fieldSignatures gs) := by
  have hparts (fields : Fields) : ∀ p ∈ Entries.sorted (fieldSignatures fields), IsPart p.2 :=
    fun p hp => isPart_fieldSignatures fields p ((Entries.sorted_perm _).mem_iff.1 hp)
  have hwritten : written (Entries.sorted (fieldSignatures fs)) =
      written (Entries.sorted (fieldSignatures gs)) :=
    (List.cons.inj h).2
  exact written_injective (hparts fs) (hparts gs) hwritten

mutual

/-- Values written alike: of one kind throughout, zeros of one sign, and the names of objects in one
order. -/
def isAlike : Value → Value → Bool
  | float a, float b => (a == .negativeZero) == (b == .negativeZero)
  | list as, list bs => itemsAlike as bs
  | object fs, object gs => fieldsAlike fs gs
  | a, b => a.kind == b.kind

def itemsAlike : List Value → List Value → Bool
  | [], [] => true
  | a :: as, b :: bs => isAlike a b && itemsAlike as bs
  | _, _ => false

def fieldsAlike : List (String × Value) → List (String × Value) → Bool
  | [], [] => true
  | (m, a) :: fs, (n, b) :: gs => m == n && isAlike a b && fieldsAlike fs gs
  | _, _ => false

end

theorem names_of_fieldsAlike {fs gs : Fields} (h : fieldsAlike fs gs = true) :
    Entries.names fs = Entries.names gs := by
  induction fs generalizing gs with
  | nil =>
    cases gs with
    | nil => rfl
    | cons q gs => simp [fieldsAlike] at h
  | cons p fs ih =>
    cases gs with
    | nil => simp [fieldsAlike] at h
    | cons q gs =>
      simp only [fieldsAlike, Bool.and_eq_true, beq_iff_eq] at h
      have hrest := ih h.2
      simp only [Entries.names, List.map_cons] at hrest ⊢
      rw [h.1.1, hrest]

theorem kind_of_isAlike {a b : Value} (h : isAlike a b = true) : a.kind = b.kind := by
  cases a <;> cases b <;> first | rfl | simp [isAlike, kind] at h

mutual

/-- Values that say the same and are written alike are the same. -/
theorem eq_of_isAlike : ∀ {a b : Value}, isAlike a b = true → signature a = signature b → a = b
  | null, b, h, hs => by
    cases b with
    | null => rfl
    | bool | int | float | str | list | object => cases kind_of_isAlike h
  | bool x, b, h, hs => by
    cases b with
    | bool y =>
      have hwhole := whole_injective (List.cons.inj hs).1
      cases x <;> cases y <;> first | rfl | simp at hwhole
    | null | int | float | str | list | object => cases kind_of_isAlike h
  | int m, b, h, hs => by
    cases b with
    | int n => rw [whole_injective (List.cons.inj hs).1]
    | null | bool | float | str | list | object => cases kind_of_isAlike h
  | float x, b, h, hs => by
    cases b with
    | float y =>
      have hatom : numberAtom x = numberAtom y := (List.cons.inj hs).1
      have hzeros : (x == .negativeZero) = (y == .negativeZero) := by simpa [isAlike] using h
      cases x <;> cases y <;> simp_all [numberAtom, whole]
    | null | bool | int | str | list | object => cases kind_of_isAlike h
  | str s, b, h, hs => by
    cases b with
    | str t =>
      have htext : s = t := by simpa [signature] using hs
      rw [htext]
    | null | bool | int | float | list | object => cases kind_of_isAlike h
  | list as, b, h, hs => by
    cases b with
    | list bs => rw [eq_of_itemsAlike h (List.cons.inj hs).2]
    | null | bool | int | float | str | object => cases kind_of_isAlike h
  | object fs, b, h, hs => by
    cases b with
    | object gs =>
      have hnames : Entries.names (fieldSignatures fs) = Entries.names (fieldSignatures gs) := by
        rw [fieldSignatures_eq_mapped, fieldSignatures_eq_mapped, Entries.names_mapped,
          Entries.names_mapped]
        exact names_of_fieldsAlike h
      have hsorted := sorted_fieldSignatures_of_signature hs
      -- with the names in one order, what is equal when sorted is equal as it stands
      rw [eq_of_fieldsAlike h (Entries.eq_of_sorted_eq hnames hsorted)]
    | null | bool | int | float | str | list => cases kind_of_isAlike h

theorem eq_of_itemsAlike : ∀ {as bs : List Value}, itemsAlike as bs = true →
    itemSignature as = itemSignature bs → as = bs
  | [], [], _, _ => rfl
  | [], _ :: _, h, _ => by cases h
  | _ :: _, [], h, _ => by cases h
  | a :: as, b :: bs, h, hs => by
    obtain ⟨ha, has⟩ : isAlike a b = true ∧ itemsAlike as bs = true := by
      simpa [itemsAlike] using h
    obtain ⟨hfirst, hrest⟩ := (isPart_signature a).append_inj (isPart_signature b) hs
    rw [eq_of_isAlike ha hfirst, eq_of_itemsAlike has hrest]

theorem eq_of_fieldsAlike : ∀ {fs gs : List (String × Value)}, fieldsAlike fs gs = true →
    fieldSignatures fs = fieldSignatures gs → fs = gs
  | [], [], _, _ => rfl
  | [], _ :: _, h, _ => by cases h
  | _ :: _, [], h, _ => by cases h
  | (m, a) :: fs, (n, b) :: gs, h, hs => by
    obtain ⟨⟨rfl, ha⟩, hrest⟩ : (m = n ∧ isAlike a b = true) ∧ fieldsAlike fs gs = true := by
      simpa [fieldsAlike] using h
    obtain ⟨hfirst, hs⟩ := List.cons.inj hs
    rw [eq_of_isAlike ha (Prod.ext_iff.1 hfirst).2, eq_of_fieldsAlike hrest hs]

end

theorem isTruthy_whole (n : Int) : (whole n).isTruthy = (n != 0) := by
  show (Dyadic.ofIntWithPrec n 0 != .zero) = (n != 0)
  unfold Dyadic.ofIntWithPrec
  split
  · rename_i hzero
    rw [hzero]
    rfl
  · rename_i hn
    have hne : (n != 0) = true := bne_iff_ne.2 hn
    rw [hne]
    rfl

theorem isTruthy_head (v : Value) : (signature v).head?.map Atom.isTruthy = some v.isTruthy := by
  cases v with
  | null => rfl
  | bool b =>
    cases b with
    | true => exact congrArg some (isTruthy_whole 1)
    | false => exact congrArg some (isTruthy_whole 0)
  | int n => exact congrArg some (isTruthy_whole n)
  | float x =>
    cases x with
    | negativeZero => exact congrArg some (isTruthy_whole 0)
    | nan | infinite | finite => rfl
  | str s => rfl
  | list items => cases items <;> rfl
  | object fields => cases fields <;> rfl

theorem isTruthy_of_signature {a b : Value} (h : signature a = signature b) :
    a.isTruthy = b.isTruthy := by
  have hhead := isTruthy_head a
  rw [h, isTruthy_head b] at hhead
  exact (Option.some.inj hhead).symm

end Value

namespace LintOptions

open Value (signature fieldSignatures fieldsAlike)

variable {fs gs : Fields} {indent : Value}

/-- Objects of options say the same: sorted, they have the same names with the same signatures. -/
def SaySame (fs gs : Fields) : Prop :=
  Entries.sorted (fieldSignatures fs) = Entries.sorted (fieldSignatures gs)

theorem SaySame.put (h : SaySame fs gs) (name : String) (v : Value) :
    SaySame (Entries.put name v fs) (Entries.put name v gs) := by
  unfold SaySame at h ⊢
  rw [Value.fieldSignatures_eq_mapped, Value.fieldSignatures_eq_mapped] at h ⊢
  rw [Entries.mapped_put, Entries.mapped_put]
  exact Entries.sorted_put_congr h name (signature v)

theorem SaySame.get? (h : SaySame fs gs) (name : String) :
    (Entries.get? name fs).map signature = (Entries.get? name gs).map signature := by
  unfold SaySame at h
  rw [Value.fieldSignatures_eq_mapped, Value.fieldSignatures_eq_mapped] at h
  have hget := Entries.get?_of_sorted_eq h name
  rwa [Entries.get?_mapped, Entries.get?_mapped] at hget

theorem SaySame.indent_isTruthy (h : SaySame fs gs) :
    (Value.fieldOrNull "indent" fs).isTruthy = (Value.fieldOrNull "indent" gs).isTruthy := by
  have hget := h.get? "indent"
  unfold Value.fieldOrNull
  cases hf : Entries.get? "indent" fs with
  | none =>
    cases hg : Entries.get? "indent" gs with
    | none => rfl
    | some b => simp [hf, hg] at hget
  | some a =>
    cases hg : Entries.get? "indent" gs with
    | none => simp [hf, hg] at hget
    | some b =>
      have hsame : signature a = signature b := by simpa [hf, hg] using hget
      exact Value.isTruthy_of_signature hsame

theorem SaySame.withIndent (h : SaySame fs gs) (indent : Value) :
    SaySame (withIndent indent fs) (withIndent indent gs) := by
  unfold LintOptions.withIndent
  rw [h.indent_isTruthy]
  split
  · exact h
  · exact h.put "indent" indent

/-- Options written alike, in any order of their own names. An indentation that does not count as true
plays no part, since it is replaced. -/
def isAlike (fs gs : Fields) : Bool :=
  fieldsAlike (Entries.sorted (withIndent .null fs)) (Entries.sorted (withIndent .null gs))

theorem withIndent_eq_of_falsy (h : (Value.fieldOrNull "indent" fs).isTruthy = false)
    (indent : Value) : withIndent indent fs = Entries.put "indent" indent (withIndent .null fs) := by
  unfold withIndent
  rw [h]
  exact (Entries.put_put "indent" _ _ fs).symm

theorem withIndent_eq_of_truthy (h : (Value.fieldOrNull "indent" fs).isTruthy = true)
    (indent : Value) : withIndent indent fs = fs := if_pos h

theorem sorted_withIndent (h : SaySame fs gs) (ha : isAlike fs gs = true) (indent : Value) :
    Entries.sorted (withIndent indent fs) = Entries.sorted (withIndent indent gs) := by
  have hsame := h.withIndent .null
  unfold SaySame at hsame
  rw [Value.fieldSignatures_eq_mapped, Value.fieldSignatures_eq_mapped, Entries.sorted_mapped,
    Entries.sorted_mapped, ← Value.fieldSignatures_eq_mapped, ← Value.fieldSignatures_eq_mapped]
    at hsame
  have hsorted := Value.eq_of_fieldsAlike ha hsame
  have htruthy := h.indent_isTruthy
  cases hf : (Value.fieldOrNull "indent" fs).isTruthy with
  | true =>
    rw [hf] at htruthy
    rw [withIndent_eq_of_truthy hf, withIndent_eq_of_truthy htruthy.symm] at hsorted ⊢
    exact hsorted
  | false =>
    rw [hf] at htruthy
    rw [withIndent_eq_of_falsy hf, withIndent_eq_of_falsy htruthy.symm]
    exact Entries.sorted_put_congr hsorted "indent" indent

theorem hasEnvironment_of_sorted_eq (h : Entries.sorted fs = Entries.sorted gs) :
    hasEnvironment fs = hasEnvironment gs := by
  unfold hasEnvironment Entries.has
  simp only [Entries.get?_of_sorted_eq h]

theorem sorted_withEnvironment (h : Entries.sorted fs = Entries.sorted gs) :
    Entries.sorted (withEnvironment fs) = Entries.sorted (withEnvironment gs) := by
  unfold withEnvironment
  rw [hasEnvironment_of_sorted_eq h]
  split
  · exact h
  · exact Entries.sorted_put_congr h "browser" (.bool true)

theorem complete_perm (h : SaySame fs gs) (ha : isAlike fs gs = true) (indent : Value) :
    (complete indent fs).Perm (complete indent gs) := by
  have hsorted := sorted_withEnvironment (sorted_withIndent h ha indent)
  exact (Entries.sorted_perm _).symm.trans ((List.Perm.of_eq hsorted).trans (Entries.sorted_perm _))

theorem fieldsOf_object (fs : Fields) : fieldsOf (.object fs) = .ok fs := by
  cases fs <;> rfl

/-- Options values written alike; of objects, in any order of their own names. -/
def areAlike : Value → Value → Bool
  | .object fs, .object gs => isAlike fs gs
  | a, b => a.kind == b.kind

/-- The linter is run with the same options, up to their order, for options values that say the same and
are written alike. -/
theorem normalize_perm {a b : Value} (ha : a = .null ∨ ∃ fs, a = .object fs)
    (hsame : signature a = signature b) (halike : areAlike a b = true) (indent : Value) :
    ∃ now given, normalize a indent = .ok now ∧ normalize b indent = .ok given ∧ now.Perm given := by
  rcases ha with rfl | ⟨fs, rfl⟩
  · cases b with
    | null => exact ⟨_, _, rfl, rfl, .refl _⟩
    | bool | int | float | str | list | object => cases halike
  · cases b with
    | object gs =>
      refine ⟨complete indent fs, complete indent gs, ?_, ?_, ?_⟩
      · rw [normalize, fieldsOf_object]
        rfl
      · rw [normalize, fieldsOf_object]
        rfl
      · exact complete_perm (Value.sorted_fieldSignatures_of_signature hsame) halike indent
    | null | bool | int | float | str | list => cases halike

end LintOptions

theorem Flags.ofFields_perm {fs gs : Fields} (h : fs.Perm gs) :
    (ofFields fs).Perm (ofFields gs) := h.flatMap_right _

end LintRelay
