import LintRelay.Editor
import LintRelay.Proofs.Keeping

/-!
# The record is not read

The record of events is kept for whoever looks at a session from outside. What inspects documents does
not read it: on hosts that differ in their records alone it ends alike, changes the same and adds the
same events.
-/
namespace LintRelay

def Host.recording (events : List Event) (h : Host) : Host := { h with events := events }

@[simp] theorem Host.recording_recording (h : Host) (events more : List Event) :
    (h.recording events).recording more = h.recording more := rfl

@[simp] theorem Host.recording_self (h : Host) : h.recording h.events = h := rfl

namespace Action

variable {α β : Type}

/-- An action adds the same events to any record, and nothing else about it depends on the record. -/
def Blind (x : Action α) : Prop :=
  ∀ h, ∃ more, ∀ events,
    x (h.recording events) = ((x h).1, (x h).2.recording (events ++ more))

theorem blind_ofExcept (r : Except Fault α) : Blind (ofExcept r) := fun h =>
  ⟨[], fun events => by rw [List.append_nil]; rfl⟩

theorem blind_pure (a : α) : Blind (pure a) := blind_ofExcept (.ok a)

theorem blind_fail (fault : Fault) : Blind (fail fault : Action α) := blind_ofExcept (.error fault)

theorem blind_emit (e : Event) : Blind (emit e) := fun _ => ⟨[e], fun _ => rfl⟩

theorem blind_launch (l : Launch) : Blind (launch l) := fun _ => ⟨[.launched l], fun _ => rfl⟩

theorem blind_updateInspector (f : Inspector → Inspector) : Blind (updateInspector f) := fun _ =>
  ⟨[], fun events => by rw [List.append_nil]; rfl⟩

theorem Blind.bind {x : Action α} {f : α → Action β} (hx : Blind x) (hf : ∀ a, Blind (f a)) :
    Blind (x >>= f) := by
  intro h
  obtain ⟨more, hmore⟩ := hx h
  cases e : x h with
  | mk r g =>
    rw [e] at hmore
    cases r with
    | error fault => exact ⟨more, fun events => by rw [bind_error (hmore events), bind_error e]⟩
    | ok a =>
      obtain ⟨later, hlater⟩ := hf a g
      refine ⟨more ++ later, fun events => ?_⟩
      rw [bind_ok (hmore events), bind_ok e, hlater, List.append_assoc]

/-- What is read of the host must not be its record. -/
theorem blind_host_bind {f : Host → Action α} (hread : ∀ h events, f (h.recording events) = f h)
    (hf : ∀ h, Blind (f h)) : Blind (host >>= f) := by
  intro h
  obtain ⟨more, hmore⟩ := hf h h
  refine ⟨more, fun events => ?_⟩
  show f (h.recording events) (h.recording events) = _
  rw [hread]
  exact hmore events

theorem Blind.attempt {x : Action α} (hx : Blind x) : Blind (attempt x) := by
  intro h
  obtain ⟨more, hmore⟩ := hx h
  exact ⟨more, fun events => by simp only [Action.attempt, hmore]⟩

theorem blind_each {act : α → Action Unit} {items : List α} (hact : ∀ a ∈ items, Blind (act a)) :
    Blind (each act items) := by
  induction items with
  | nil => exact blind_pure ()
  | cons a rest ih =>
    have hrest := ih fun b hb => hact b (List.mem_cons_of_mem a hb)
    exact (hact a List.mem_cons_self).bind fun _ => hrest

theorem blind_onConfig (event : Disk → ProjectConfig → Reaction α) : Blind (onConfig event) :=
  fun h => ⟨(event h.disk h.inspector.config).complaints.map .complained, fun _ => rfl⟩

theorem blind_lint (text options path : Value) : Blind (lint text options path) := by
  refine blind_host_bind (fun _ _ => rfl) fun h => ?_
  refine (blind_ofExcept _).bind fun l => (blind_launch l).bind fun outcome => ?_
  refine (blind_ofExcept _).bind fun verdict => Blind.bind ?_ fun _ => blind_pure _
  cases verdict.complaint with
  | none => exact blind_pure ()
  | some text => exact blind_emit _

theorem blind_scanFile (text path : Value) : Blind (scanFile text path) := by
  refine (blind_ofExcept _).bind fun text => blind_host_bind (fun _ _ => rfl) fun h => ?_
  refine (blind_updateInspector _).bind fun _ => (blind_emit _).bind fun _ => ?_
  refine (blind_ofExcept _).bind fun options => (blind_lint _ _ _).bind fun report => ?_
  exact blind_ofExcept _

theorem blind_consult (text path : Value) (p : Provider) : Blind (consult text path p) := by
  unfold consult
  split
  · exact blind_scanFile text path
  · refine (blind_emit _).bind fun _ => ?_
    split
    · exact blind_pure _
    · exact blind_fail _

theorem blind_consultAll {ask : Provider → Action (Option Inspection)} (hask : ∀ p, Blind (ask p))
    (ps : List Provider) (results : Entries (Option Inspection)) :
    Blind (consultAll ask ps results) := by
  induction ps generalizing results with
  | nil => exact blind_pure _
  | cons p rest ih => exact (hask p).bind fun r => ih _

theorem blind_inspect (language : Option String) (text path : Value) :
    Blind (inspect language text path) := by
  refine blind_host_bind (fun _ _ => rfl) fun h => ?_
  split
  · exact blind_consultAll (blind_consult text path) _ _
  · exact blind_pure _

theorem blind_sourceText (s : Subject) : Blind (sourceText s) := by
  unfold sourceText
  cases s.text with
  | some text => exact blind_pure text
  | none => exact fun h => ⟨[], fun events => by rw [List.append_nil]; rfl⟩

theorem blind_publishSubject (s : Subject) : Blind (publishSubject s) := by
  refine Blind.bind (blind_host_bind (fun _ _ => rfl) fun h => blind_pure _) fun provided => ?_
  split
  · refine Blind.bind (Blind.attempt ?_) fun r => ?_
    · exact (blind_sourceText s).bind fun text => blind_inspect _ _ _
    · cases r with
      | error fault => exact blind_emit _
      | ok results => exact (blind_ofExcept _).bind fun diagnostics => blind_emit _
  · exact blind_pure ()

theorem blind_rerunOpenDocuments : Blind rerunOpenDocuments :=
  blind_host_bind (fun _ _ => rfl) fun _ => blind_each fun _ _ => blind_publishSubject _

end Action

end LintRelay
