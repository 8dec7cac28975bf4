import LintRelay.Proofs.Conduct

/-!
# The switch for inspection

Inspection is switched in the registry, and the project configuration follows. Following can fail,
since to be switched on is to load a file, but it never fails before the configuration is switched.
So the two stand alike after any run, whatever ended in a fault on the way.
-/
namespace LintRelay

/-- The configuration is switched as said, and empty if it is switched off. -/
structure ProjectConfig.Follows (enabled : Bool) (c : ProjectConfig) : Prop where
  switched : c.enabled = enabled
  unloaded : enabled = false → c.loaded = none

theorem ProjectConfig.setEnabled_follows (enabled : Bool) (d : Disk) (c : ProjectConfig) :
    (setEnabled enabled d c).config.Follows enabled := by
  refine ⟨setEnabled_enabled enabled d c, fun hoff => ?_⟩
  subst hoff
  rfl

/-- The configuration follows the registry, and will be told of the next switch. -/
structure Host.InStep (h : Host) : Prop where
  follows : h.inspector.config.Follows h.registry.enabled
  told : .projectConfig ∈ h.registry.followers

def Host.switched (enabled : Bool) (h : Host) : Host :=
  { h with registry := { h.registry with enabled := enabled } }

/-- What telling the followers leaves alone. What it adds to the record is nothing to be shown. -/
structure Told (h h' : Host) : Prop where
  registry : h'.registry = h.registry
  documents : h'.documents = h.documents
  watchers : h'.inspector.watchers = h.inspector.watchers
  record : ∃ more, h'.events = h.events ++ more ∧
    ∀ uri diagnostics, .published uri diagnostics ∉ more

instance : IsPreorder Host Told where
  refl _ := ⟨rfl, rfl, rfl, [], by simp, by simp⟩
  trans _ _ _ i j := by
    obtain ⟨more, hmore, hunpublished⟩ := i.record
    obtain ⟨later, hlater, hunpublished'⟩ := j.record
    refine ⟨j.registry.trans i.registry, j.documents.trans i.documents,
      j.watchers.trans i.watchers, more ++ later, by rw [hlater, hmore, List.append_assoc], ?_⟩
    intro uri diagnostics hmem
    exact (List.mem_append.1 hmem).elim (hunpublished _ _) (hunpublished' _ _)

theorem Unswitched.inStep {h h' : Host} (i : Unswitched h h') (hin : h.InStep) : h'.InStep := by
  obtain ⟨⟨hs, hu⟩, ht⟩ := hin
  refine ⟨⟨?_, fun hoff => ?_⟩, ?_⟩
  · rw [i.following, i.registry]
    exact hs
  · rw [i.registry] at hoff
    rw [i.unloaded (hs.trans hoff)]
    exact hu hoff
  · rw [i.registry]
    exact ht

theorem Surrounding.change_unswitched (s : Surrounding) (h : Host) : Unswitched h (s.change h) := by
  cases s with
  | files disk => exact ⟨rfl, rfl, rfl, fun _ => rfl, fun _ => ⟨rfl, rfl, rfl⟩⟩
  | linter tool => exact ⟨rfl, rfl, rfl, fun _ => rfl, fun _ => ⟨rfl, rfl, rfl⟩⟩

namespace Action

theorem setConfigEnabled_follows (enabled : Bool) (h : Host) :
    (setConfigEnabled enabled h).2.inspector.config.Follows enabled :=
  ProjectConfig.setEnabled_follows enabled h.disk h.inspector.config

theorem tellFollower_stays (enabled : Bool) (f : Follower) :
    Keeps (Stays fun h => h.inspector.config.Follows enabled) (tellFollower enabled f) := by
  cases f with
  | host => exact fun h hc => hc
  | projectConfig => exact fun h _ => setConfigEnabled_follows enabled h

theorem tellFollower_told (enabled : Bool) (f : Follower) : Keeps Told (tellFollower enabled f) := by
  intro h
  cases f with
  | host => exact ⟨rfl, rfl, rfl, [.toggled enabled], rfl, by simp⟩
  | projectConfig => exact ⟨rfl, rfl, rfl, _, rfl, by simp⟩

theorem tellFollowers_follows (enabled : Bool) {followers : List Follower}
    (hf : .projectConfig ∈ followers) (h : Host) :
    (each (tellFollower enabled) followers h).2.inspector.config.Follows enabled := by
  induction followers generalizing h with
  | nil => cases hf
  | cons f rest ih =>
    cases f with
    | host =>
      -- telling the host cannot fail, so the configuration will be reached
      have hrest : .projectConfig ∈ rest := by simpa using hf
      exact ih hrest _
    | projectConfig =>
      -- it may fail and keep the others from being told, but it is switched
      have hrest : Keeps (Stays fun h => h.inspector.config.Follows enabled)
          (each (tellFollower enabled) rest) :=
        keeps_each fun f _ => tellFollower_stays enabled f
      exact bind_stays (P := fun h => h.inspector.config.Follows enabled)
        (setConfigEnabled_follows enabled h) fun _ => hrest

/-- The registry is switched first; what the followers do after that does not touch it. -/
theorem toggle_apply (wanted : Option Bool) (h : Host) :
    toggle wanted h =
      (each (tellFollower (wanted.getD !h.registry.enabled)) h.registry.followers >>= fun _ =>
        pure (wanted.getD !h.registry.enabled)) (h.switched (wanted.getD !h.registry.enabled)) := rfl

theorem toggle_snd (wanted : Option Bool) (h : Host) :
    (toggle wanted h).2 =
      (each (tellFollower (wanted.getD !h.registry.enabled)) h.registry.followers
        (h.switched (wanted.getD !h.registry.enabled))).2 := by
  rw [toggle_apply, bind_pure_snd]

theorem toggle_told (wanted : Option Bool) (h : Host) :
    Told (h.switched (wanted.getD !h.registry.enabled)) (toggle wanted h).2 := by
  rw [toggle_snd]
  exact keeps_each (fun f _ => tellFollower_told _ f) _

theorem toggle_inStep (wanted : Option Bool) : Keeps (Stays Host.InStep) (toggle wanted) := by
  intro h hin
  refine ⟨?_, ?_⟩
  · rw [(toggle_told wanted h).registry, toggle_snd]
    exact tellFollowers_follows _ hin.told _
  · rw [(toggle_told wanted h).registry]
    exact hin.told

theorem switchOver_eq :
    switchOver = toggle none >>= fun enabled =>
      (if enabled then rerunOpenDocuments else clearOpenDocuments) >>= fun _ => pure enabled := by
  show (toggle none >>= fun enabled => _) = _
  congr 1
  funext enabled
  split
  · rfl
  · rfl

theorem switchOver_inStep : Keeps (Stays Host.InStep) switchOver := by
  rw [switchOver_eq]
  refine (toggle_inStep none).bind fun enabled => Keeps.bind ?_ fun _ => keeps_pure _
  cases enabled with
  | true => exact rerunOpenDocuments_orderly.unswitched.mono fun _ _ i => i.inStep
  | false => exact clearOpenDocuments_orderly.unswitched.mono fun _ _ i => i.inStep

theorem register_inStep (h : Host) : (register h).2.InStep := by
  refine ⟨setConfigEnabled_follows _ _, ?_⟩
  show Follower.projectConfig ∈ _ ++ [Follower.projectConfig]
  simp

end Action

namespace SessionStep

theorem perform_unswitched {s : SessionStep} (hs : s.switches = false) :
    Action.Keeps Unswitched s.perform := by
  cases s with
  | editor s =>
    cases s with
    | message m => exact Action.handle_unswitched fun e => by simp [e, switches] at hs
    | around s => exact s.change_unswitched
  | request r => exact (Action.respond_orderly r).unswitched.ignore
  | toggled wanted => cases hs
  | projectOpened root => exact (Action.openProject_orderly root).unswitched

theorem perform_inStep (s : SessionStep) : Action.Keeps (Action.Stays Host.InStep) s.perform := by
  cases hs : s.switches with
  | false => exact (perform_unswitched hs).mono fun _ _ i => i.inStep
  | true =>
    cases s with
    | editor s =>
      cases s with
      | message m =>
        cases m with
        | switchedOver => exact Action.switchOver_inStep.ignore
        | _ => cases hs
      | around s => cases hs
    | toggled wanted => exact (Action.toggle_inStep wanted).ignore
    | request r => cases hs
    | projectOpened root => cases hs

end SessionStep

/-- From where an inspector is registered on, with any registry, the two switches stand alike, nothing
is loaded while they are off, and only switching brings the linter back to work. -/
theorem session_stays_in_step (h₀ : Host) (steps : List SessionStep) :
    let h := after SessionStep.perform steps (Action.register h₀).2
    h.inspector.config.enabled = h.registry.enabled ∧
      (h.registry.enabled = false → h.inspector.config.loaded = none) ∧
      ∀ s : SessionStep, s.switches = false → h.registry.enabled = false →
        started (s.perform h).2.events = started h.events ∧
          (s.perform h).2.launches = h.launches ∧
          (s.perform h).2.inspector.lastRun = h.inspector.lastRun := by
  intro h
  have hin : h.InStep :=
    after_stays SessionStep.perform_inStep steps (Action.register_inStep h₀)
  exact ⟨hin.follows.switched, hin.follows.unloaded, fun s hs =>
    (SessionStep.perform_unswitched hs h).idle⟩

end LintRelay
