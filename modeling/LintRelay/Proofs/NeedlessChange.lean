import LintRelay.Proofs.QuietChange

/-!
# Changes of preferences that change nothing in force

The options of a project go before the preferences, and the options of the last run may be either. A
change of preferences is held against the options of the last run all the same. So while a project's
options are in force, new preferences ask for a run that would repeat the last one, unless they happen
to say what the project says.
-/
namespace LintRelay

/-- A change of preferences replaces them and does nothing else, whatever a new run would do. -/
def Host.TakesQuietly (options : Value) (h : Host) : Prop :=
  ∀ rerun, Action.setPreferences rerun options h =
    (.ok (), { h with inspector := { h.inspector with preferences := options } })

namespace Action

theorem times_preferencesChanged_of_same {h : Host}
    (hsame : Value.same h.inspector.preferences h.inspector.lastRun = true)
    (rerun : String → Action Unit) (n : Nat) :
    times n (preferencesChanged rerun) h = (.ok (), h) := by
  have hfirst : preferencesChanged rerun h = (.ok (), h) := by
    show (if Value.same h.inspector.preferences h.inspector.lastRun then pure ()
      else rerun Inspector.name : Action Unit) h = _
    rw [if_pos hsame]
    rfl
  induction n with
  | zero => rfl
  | succ n ih =>
    show (preferencesChanged rerun >>= fun _ => times n (preferencesChanged rerun)) h = _
    rw [bind_ok hfirst, ih]

theorem takesQuietly_of_same {h : Host} {options : Value}
    (hsame : Value.same options h.inspector.lastRun = true) : h.TakesQuietly options := fun rerun =>
  times_preferencesChanged_of_same
    (h := { h with inspector := { h.inspector with preferences := options } }) hsame rerun
    h.inspector.watchers

/-- Where somebody watches, no run is asked for exactly where the preferences become those of the last
run. -/
theorem unasked_iff_same {h : Host} {options : Value} (hwatched : 0 < h.inspector.watchers) :
    .rerunAsked Inspector.name ∉ (setPreferences recordRerun options).recorded h ↔
      Value.same options h.inspector.lastRun = true := by
  refine ⟨same_of_quiet hwatched, fun hsame => ?_⟩
  have hquiet := takesQuietly_of_same hsame recordRerun
  have hevents : (setPreferences recordRerun options h).2.events = h.events ++ [] := by
    rw [hquiet, List.append_nil]
  rw [recorded_of_append hevents]
  exact List.not_mem_nil

end Action

theorem Inspector.currentOptions_of_unloaded {i : Inspector} (h : i.config.loaded = none) :
    i.currentOptions = i.preferences := by
  rw [currentOptions, h]

/-- After the latest scan, a change of preferences that leaves the options in force the same as those of
the last run asks for no run exactly where these are the preferences, or where the new preferences are
the same as them, too. A change that asks for none does nothing but replace the preferences. -/
theorem change_is_quiet_iff {text path : String} {found now : Host} {options : Value}
    (hrun : LatestScan text path found now)
    (hafter : Value.same
        (Action.setPreferences Action.recordRerun options now).2.inspector.currentOptions
        now.inspector.lastRun = true) :
    (.rerunAsked Inspector.name ∉
          (Action.setPreferences Action.recordRerun options).recorded now ↔
        now.inspector.config.loaded = none ∨
          Value.same options now.inspector.lastRun = true) ∧
      (.rerunAsked Inspector.name ∉
          (Action.setPreferences Action.recordRerun options).recorded now →
        now.TakesQuietly options) := by
  have hquiet := @Action.unasked_iff_same now options hrun.watched
  refine ⟨hquiet.trans ⟨.inr, fun hcases => ?_⟩, fun hunasked =>
    Action.takesQuietly_of_same (hquiet.1 hunasked)⟩
  rcases hcases with hunloaded | hsame
  · -- the new preferences are then the options in force
    have hcurrent : (Action.setPreferences Action.recordRerun options
        now).2.inspector.currentOptions = options := by
      rw [Action.setPreferences_apply]
      exact Inspector.currentOptions_of_unloaded hunloaded
    rwa [hcurrent] at hafter
  · exact hsame

def nodeProject : Disk :=
  .listing ⟨[("/p/.jslint.json", Utf8.encode "\x7b\"node\": true\x7d".toList)], ["/", "/p"]⟩

def inNodeProject : Host :=
  after InspectorCall.perform [.configured (.opened (.str "/p"))]
    (Host.editing nodeProject (fun _ _ => .missing) Host.standardInspector)

def scannedInProject : Host := ((InspectorCall.scanned "x" "/a.js").perform inNodeProject).2

theorem scannedInProject_latestScan : LatestScan "x" "/a.js" inNodeProject scannedInProject :=
  ⟨⟨_, [.configured (.opened (.str "/p"))], rfl⟩, [], fun _ hc => absurd hc List.not_mem_nil, rfl⟩

/-- Preferences that repeat what the project says ask for no run. -/
theorem change_is_quiet_in_project :
    .rerunAsked Inspector.name ∉
        (Action.setPreferences Action.recordRerun nodeTrue).recorded scannedInProject ∧
      scannedInProject.TakesQuietly nodeTrue := by
  have hafter : Value.same
      (Action.setPreferences Action.recordRerun nodeTrue scannedInProject).2.inspector.currentOptions
      scannedInProject.inspector.lastRun = true := by
    decide +kernel
  have hiff := change_is_quiet_iff scannedInProject_latestScan hafter
  have hunasked := hiff.1.2 (.inr (by decide +kernel))
  exact ⟨hunasked, hiff.2 hunasked⟩

def browserTrue : Value := .object [("browser", .bool true)]

/-- Other preferences ask for one, although the options in force are the project's before and after, and
those of the last run. -/
theorem overridden_change_asks_for_run :
    LatestScan "x" "/a.js" inNodeProject scannedInProject ∧
      scannedInProject.inspector.config.loaded = some [("node", .bool true)] ∧
      Value.same scannedInProject.inspector.currentOptions
        scannedInProject.inspector.lastRun = true ∧
      Value.same
        (Action.setPreferences Action.recordRerun browserTrue
          scannedInProject).2.inspector.currentOptions scannedInProject.inspector.lastRun = true ∧
      .rerunAsked Inspector.name ∈
        (Action.setPreferences Action.recordRerun browserTrue).recorded scannedInProject :=
  ⟨scannedInProject_latestScan, by decide +kernel, by decide +kernel, by decide +kernel,
    by decide +kernel⟩

end LintRelay
