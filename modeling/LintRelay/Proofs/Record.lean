import LintRelay.Event
import Mathlib.Tactic.Common

/-!
# Reading the record of events

The record is read backwards: what counts is the latest event of a kind. Three readings are used, the
options that a path was last inspected with, the diagnostics that an address last got, and the
processes started so far.
-/
namespace LintRelay

namespace Event

variable {β : Type} {events more : List Event}

/-- What the latest event tells of those that tell something. -/
def latest (read : Event → Option β) (events : List Event) : Option β :=
  events.reverse.findSome? read

theorem latest_append (read : Event → Option β) (events more : List Event) :
    latest read (events ++ more) = (latest read more).or (latest read events) := by
  simp [latest, List.reverse_append, List.findSome?_append]

theorem mem_of_latest {read : Event → Option β} {b : β} (h : latest read events = some b) :
    ∃ e ∈ events, read e = some b := by
  obtain ⟨e, he, hb⟩ := List.exists_of_findSome?_eq_some h
  exact ⟨e, List.mem_reverse.1 he, hb⟩

theorem latest_append_cases (read : Event → Option β) (events more : List Event) :
    latest read (events ++ more) = latest read events ∨
      ∃ e ∈ more, ∃ b, read e = some b ∧ latest read (events ++ more) = some b := by
  rw [latest_append]
  cases h : latest read more with
  | none => exact .inl rfl
  | some b =>
    obtain ⟨e, he, hb⟩ := mem_of_latest h
    exact .inr ⟨e, he, b, hb, rfl⟩

theorem latest_append_of_mem (read : Event → Option β) {e : Event} (events : List Event)
    (he : e ∈ more) (hr : (read e).isSome) :
    ∃ e ∈ more, ∃ b, read e = some b ∧ latest read (events ++ more) = some b := by
  have hsome : (latest read more).isSome := by
    simp only [latest, List.findSome?_isSome_iff, List.mem_reverse]
    exact ⟨e, he, hr⟩
  obtain ⟨b, hb⟩ := Option.isSome_iff_exists.1 hsome
  obtain ⟨e', he', hb'⟩ := mem_of_latest hb
  exact ⟨e', he', b, hb', by rw [latest_append, hb, Option.some_or]⟩

def takenUp? (path : String) : Event → Option Value
  | inspecting (.str p) options => if p = path then some options else none
  | _ => none

/-- The diagnostics that an address gets. -/
def publishedTo? (uri : String) : Event → Option (List Diagnostic)
  | published u diagnostics => if u = uri then some diagnostics else none
  | _ => none

def launch? : Event → Option Launch
  | launched l => some l
  | _ => none

theorem eq_inspecting_of_takenUp {path : String} {e : Event} {options : Value}
    (h : e.takenUp? path = some options) : e = .inspecting (.str path) options := by
  unfold takenUp? at h
  split at h
  · split at h
    · simp_all
    · cases h
  · cases h

theorem eq_published_of_publishedTo {uri : String} {e : Event} {diagnostics : List Diagnostic}
    (h : e.publishedTo? uri = some diagnostics) : e = .published uri diagnostics := by
  unfold publishedTo? at h
  split at h
  · split at h
    · simp_all
    · cases h
  · cases h

end Event

/-- The options that the latest inspection of a path took up. -/
def lastTakenUp (path : String) (events : List Event) : Option Value :=
  Event.latest (Event.takenUp? path) events

/-- What an editor shows at an address: the list published last, nothing before the first one. -/
def shown (uri : String) (events : List Event) : List Diagnostic :=
  (Event.latest (Event.publishedTo? uri) events).getD []

def started (events : List Event) : List Launch := events.filterMap Event.launch?

theorem lastTakenUp_append_cases (path : String) (events more : List Event) :
    lastTakenUp path (events ++ more) = lastTakenUp path events ∨
      ∃ options, .inspecting (.str path) options ∈ more ∧
        lastTakenUp path (events ++ more) = some options := by
  rcases Event.latest_append_cases (Event.takenUp? path) events more with h | ⟨e, he, o, ho, h⟩
  · exact .inl h
  · exact .inr ⟨o, Event.eq_inspecting_of_takenUp ho ▸ he, h⟩

theorem shown_append_cases (uri : String) (events more : List Event) :
    shown uri (events ++ more) = shown uri events ∨
      .published uri (shown uri (events ++ more)) ∈ more := by
  unfold shown
  rcases Event.latest_append_cases (Event.publishedTo? uri) events more with h | ⟨e, he, d, hd, h⟩
  · exact .inl (by rw [h])
  · exact .inr (by rw [h]; exact Event.eq_published_of_publishedTo hd ▸ he)

theorem shown_append_mem {uri : String} {diagnostics : List Diagnostic} (events : List Event)
    {more : List Event} (hmem : .published uri diagnostics ∈ more) :
    .published uri (shown uri (events ++ more)) ∈ more := by
  obtain ⟨e, he, ds, heds, hlatest⟩ := Event.latest_append_of_mem (Event.publishedTo? uri)
    events hmem (by simp [Event.publishedTo?])
  rw [Event.eq_published_of_publishedTo heds] at he
  rw [shown, hlatest]
  exact he

theorem shown_append_published (uri : String) (diagnostics : List Diagnostic)
    (events : List Event) : shown uri (events ++ [.published uri diagnostics]) = diagnostics := by
  simp [shown, Event.latest, Event.publishedTo?]

theorem started_append (events more : List Event) :
    started (events ++ more) = started events ++ started more := List.filterMap_append

theorem started_launched (l : Launch) : started [.launched l] = [l] := rfl

theorem launched_mem_of_started {events : List Event} {l : Launch} (h : l ∈ started events) :
    .launched l ∈ events := by
  obtain ⟨e, he, hlaunch⟩ := List.mem_filterMap.1 h
  cases e with
  | launched l' => exact Option.some.inj hlaunch ▸ he
  | _ => cases hlaunch

end LintRelay
