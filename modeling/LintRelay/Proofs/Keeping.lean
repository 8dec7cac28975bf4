import LintRelay.Host
import Mathlib.Order.Defs.Unbundled
import Mathlib.Tactic.Common

/-!
# What actions keep and ensure

A reflexive and transitive relation between hosts holds between the host an action finds and the
host it leaves as soon as it does so for the action's parts. How an action ends plays no part, so
whatever is kept is also kept by an action that breaks off halfway. What an action ensures, on the
other hand, is said only of where it succeeds.
-/
namespace LintRelay.Action

variable {α β : Type} {R S : Host → Host → Prop}

/-- The host left behind is related to the host found, however the action ends. -/
def Keeps (R : Host → Host → Prop) (x : Action α) : Prop := ∀ h, R h (x h).2

def Stays (P : Host → Prop) (h h' : Host) : Prop := P h → P h'

instance (P : Host → Prop) : IsPreorder Host (Stays P) where
  refl _ := id
  trans _ _ _ hab hbc := hbc ∘ hab

theorem Keeps.mono {x : Action α} (hx : Keeps R x) (hRS : ∀ h h', R h h' → S h h') :
    Keeps S x := fun h => hRS h _ (hx h)

theorem keeps_pure [Std.Refl R] (a : α) : Keeps R (pure a) := fun h => Std.Refl.refl h

theorem keeps_fail [Std.Refl R] (fault : Fault) : Keeps R (fail fault : Action α) :=
  fun h => Std.Refl.refl h

theorem keeps_ofExcept [Std.Refl R] (r : Except Fault α) : Keeps R (ofExcept r) :=
  fun h => Std.Refl.refl h

theorem ofExcept_bind_ok {r : Except Fault α} {a : α} (e : r = .ok a) (f : α → Action β)
    (h : Host) : (ofExcept r >>= f) h = f a h := by
  rw [e]
  rfl

theorem ofExcept_bind_error {r : Except Fault α} {fault : Fault} (e : r = .error fault)
    (f : α → Action β) (h : Host) : (ofExcept r >>= f) h = (.error fault, h) := by
  rw [e]
  rfl

theorem bind_snd (x : Action α) (f : α → Action β) (h : Host) :
    ((x >>= f) h).2 = (x h).2 ∨ ∃ a, ((x >>= f) h).2 = (f a (x h).2).2 := by
  cases e : x h with
  | mk r h₁ =>
    cases r with
    | ok a => exact .inr ⟨a, by rw [bind_ok e]⟩
    | error fault => exact .inl (by rw [bind_error e])

theorem Keeps.bind [IsTrans Host R] {x : Action α} {f : α → Action β} (hx : Keeps R x)
    (hf : ∀ a, Keeps R (f a)) : Keeps R (x >>= f) := by
  intro h
  rcases bind_snd x f h with e | ⟨a, e⟩ <;> rw [e]
  · exact hx h
  · exact IsTrans.trans _ _ _ (hx h) (hf a _)

theorem bind_stays {P : Host → Prop} {x : Action α} {f : α → Action β} {h : Host}
    (hx : P (x h).2) (hf : ∀ a, Keeps (Stays P) (f a)) : P ((x >>= f) h).2 := by
  rcases bind_snd x f h with e | ⟨a, e⟩ <;> rw [e]
  · exact hx
  · exact hf a _ hx

theorem bind_idle_snd {f : α → Action β} (hf : ∀ a h, (f a h).2 = h) (x : Action α) (h : Host) :
    ((x >>= f) h).2 = (x h).2 := by
  rcases bind_snd x f h with e | ⟨a, e⟩
  · exact e
  · rw [e, hf]

theorem bind_pure_snd (x : Action α) (b : β) (h : Host) :
    ((x >>= fun _ => pure b) h).2 = (x h).2 := bind_idle_snd (fun _ _ => rfl) x h

theorem ignore_snd (x : Action α) (h : Host) : (ignore x h).2 = (x h).2 :=
  bind_pure_snd x () h

theorem Keeps.ignore {x : Action α} (hx : Keeps R x) :
    Keeps R (ignore x) := fun h => by
  rw [ignore_snd]
  exact hx h

/-- What an action does with the host it looks at is known at that host alone. -/
theorem keeps_host_bind {f : Host → Action α} (hf : ∀ h, R h (f h h).2) :
    Keeps R (host >>= f) := hf

theorem Keeps.attempt {x : Action α} (hx : Keeps R x) : Keeps R (attempt x) := hx

theorem Keeps.times [IsPreorder Host R] {x : Action Unit} (hx : Keeps R x) :
    ∀ n, Keeps R (times n x)
  | 0 => keeps_pure ()
  | n + 1 => hx.bind fun _ => Keeps.times hx n

theorem keeps_each [IsPreorder Host R] {act : α → Action Unit} {items : List α}
    (hact : ∀ a ∈ items, Keeps R (act a)) : Keeps R (each act items) := by
  induction items with
  | nil => exact keeps_pure ()
  | cons a rest ih =>
    have hrest := ih fun b hb => hact b (List.mem_cons_of_mem a hb)
    exact (hact a List.mem_cons_self).bind fun _ => hrest

theorem each_cons_ok {act : α → Action Unit} {a : α} {rest : List α} {h : Host}
    (ha : (act a h).1 = .ok ()) : each act (a :: rest) h = each act rest (act a h).2 :=
  bind_ok (Prod.ext ha rfl) fun _ => each act rest

theorem each_cons_error {act : α → Action Unit} {a : α} {rest : List α} {h : Host}
    {fault : Fault} (ha : (act a h).1 = .error fault) :
    each act (a :: rest) h = (.error fault, (act a h).2) :=
  bind_error (Prod.ext ha rfl) fun _ => each act rest

theorem each_ok {act : α → Action Unit} {items : List α}
    (hact : ∀ a ∈ items, ∀ h, (act a h).1 = .ok ()) (h : Host) :
    (each act items h).1 = .ok () := by
  induction items generalizing h with
  | nil => rfl
  | cons a rest ih =>
    rw [each_cons_ok (hact a List.mem_cons_self h)]
    exact ih (fun b hb => hact b (List.mem_cons_of_mem a hb)) _

theorem each_ok_at {act : α → Action Unit} {earlier later : List α} {a : α} {h : Host}
    (hok : (each act (earlier ++ a :: later) h).1 = .ok ()) :
    (act a (each act earlier h).2).1 = .ok () := by
  induction earlier generalizing h with
  | nil =>
    cases ha : (act a h).1 with
    | ok u => exact ha
    | error fault =>
      rw [List.nil_append, each_cons_error ha] at hok
      cases hok
  | cons b rest ih =>
    rw [List.cons_append] at hok
    cases hb : (act b h).1 with
    | ok u =>
      rw [each_cons_ok hb] at hok ⊢
      exact ih hok
    | error fault =>
      rw [each_cons_error hb] at hok
      cases hok

theorem bind_eq_ok {x : Action α} {f : α → Action β} {h h' : Host} {b : β}
    (e : (x >>= f) h = (.ok b, h')) : ∃ a h₁, x h = (.ok a, h₁) ∧ f a h₁ = (.ok b, h') := by
  cases e₁ : x h with
  | mk r h₁ =>
    cases r with
    | ok a => exact ⟨a, h₁, rfl, by rwa [bind_ok e₁] at e⟩
    | error fault => simp [bind_error e₁] at e

/-- An action that succeeds at a host with a property leaves another one, which may speak of the
answer. -/
def Ensures (P : Host → Prop) (x : Action α) (Q : α → Host → Prop) : Prop :=
  ∀ h a h', P h → x h = (.ok a, h') → Q a h'

section Success

variable {P P' : Host → Prop} {Q : α → Host → Prop} {Q' : β → Host → Prop} {x : Action α}

theorem Ensures.bind {f : α → Action β} (hx : Ensures P x Q) (hf : ∀ a, Ensures (Q a) (f a) Q') :
    Ensures P (x >>= f) Q' := by
  intro h b h' hP e
  obtain ⟨a, h₁, e₁, e₂⟩ := bind_eq_ok e
  exact hf a h₁ b h' (hx h a h₁ hP e₁) e₂

theorem Keeps.ensures (hx : Keeps R x) {P' : Host → Prop} (hR : ∀ h h', R h h' → P h → P' h') :
    Ensures P x fun _ => P' := by
  intro h a h' hP e
  obtain rfl : (x h).2 = h' := congrArg Prod.snd e
  exact hR h _ (hx h) hP

end Success

end LintRelay.Action
