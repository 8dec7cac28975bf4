import LintRelay.Proofs.EngineBoundary
import LintRelay.Proofs.Inspecting
import LintRelay.Proofs.OptionForms
import LintRelay.Proofs.Switch

/-!
# Changes of preferences that ask for no run

A change of preferences asks for no new run where it repeats the options of the last one. What the
linter was told then is kept by whatever is called in between, as long as nothing is inspected. So where
the new options are also written like the old ones, the linter would be told the same again.
-/
namespace LintRelay

/-- What is called on an inspector and its registry, and what changes around them. -/
inductive InspectorCall where
  | scanned (text path : String)
  | preferred (options : Value)
  | indented (indentation : Indentation)
  | executed (executable : Value)
  | configured (e : ConfigEvent)
  | toggled (wanted : Option Bool)
  | registered
  | around (s : Surrounding)

namespace InspectorCall

def perform : InspectorCall → Action Unit
  | scanned text path => Action.ignore (Action.scanFile (.str text) (.str path))
  | preferred options => Action.setPreferences Action.recordRerun options
  | indented indentation => Action.updateInspector fun i => { i with indentation := indentation }
  | executed executable =>
    Action.updateInspector fun i => { i with engine := { i.engine with executable := executable } }
  | configured e => Action.onConfig fun d c => e.react d c
  | toggled wanted => Action.ignore (Action.toggle wanted)
  | registered => Action.register
  | around s => Action.update s.change

def isScan : InspectorCall → Bool
  | scanned _ _ => true
  | _ => false

end InspectorCall

/-- Nothing was inspected in between, and whoever watched the preferences still does. -/
structure Unscanned (h h' : Host) : Prop where
  lastRun : h'.inspector.lastRun = h.inspector.lastRun
  watchers : h.inspector.watchers ≤ h'.inspector.watchers

instance : IsPreorder Host Unscanned where
  refl _ := ⟨rfl, Nat.le_refl _⟩
  trans _ _ _ i j := ⟨j.lastRun.trans i.lastRun, Nat.le_trans i.watchers j.watchers⟩

/-- Of the processes in what was added to the record, each meets a condition. -/
def StartsOnly (P : Launch → Prop) (h h' : Host) : Prop :=
  ∃ more, h'.events = h.events ++ more ∧ ∀ l, .launched l ∈ more → P l

instance (P : Launch → Prop) : IsPreorder Host (StartsOnly P) where
  refl h := ⟨[], (List.append_nil _).symm, by simp⟩
  trans _ _ _ i j := by
    obtain ⟨more, hmore, hfirst⟩ := i
    obtain ⟨later, hlater, hthen⟩ := j
    refine ⟨more ++ later, by rw [hlater, hmore, List.append_assoc], fun l hmem => ?_⟩
    exact (List.mem_append.1 hmem).elim (hfirst l) (hthen l)

theorem StartsOnly.mono {P Q : Launch → Prop} {h h' : Host} (i : StartsOnly P h h')
    (hPQ : ∀ l, P l → Q l) : StartsOnly Q h h' := by
  obtain ⟨more, hmore, hstarted⟩ := i
  exact ⟨more, hmore, fun l hmem => hPQ l (hstarted l hmem)⟩

namespace Action

variable {P : Launch → Prop}

def recorded {α : Type} (x : Action α) (h : Host) : List Event :=
  (x h).2.events.drop h.events.length

theorem recorded_of_append {α : Type} {x : Action α} {h : Host} {more : List Event}
    (e : (x h).2.events = h.events ++ more) : x.recorded h = more := by
  rw [recorded, e, List.drop_left]

theorem emit_startsOnly {e : Event} (he : ∀ l, e ≠ .launched l) : Keeps (StartsOnly P) (emit e) :=
  fun _ => ⟨[e], rfl, fun l hmem => absurd (List.mem_singleton.1 hmem).symm (he l)⟩

theorem launch_startsOnly {l : Launch} (hl : P l) : Keeps (StartsOnly P) (launch l) :=
  fun _ => ⟨[.launched l], rfl, fun l' hmem => by
    obtain rfl : l' = l := by simpa using hmem
    exact hl⟩

theorem deliver_startsOnly (verdict : Verdict) : Keeps (StartsOnly P) (deliver verdict) :=
  keeps_deliver (fun _ => emit_startsOnly (by simp)) verdict

theorem lint_startsOnly (text options path : Value) (h : Host) :
    StartsOnly (fun l => h.inspector.engine.launch text options path = .ok l) h
      (lint text options path h).2 := by
  rw [lint_apply]
  cases hl : h.inspector.engine.launch text options path with
  | error fault =>
    rw [ofExcept_bind_error rfl]
    exact Std.Refl.refl h
  | ok l =>
    rw [ofExcept_bind_ok rfl]
    have hlaunch : Keeps (StartsOnly fun l' => Except.ok l = (.ok l' : Except Fault Launch))
        (launch l) :=
      launch_startsOnly rfl
    exact (hlaunch.bind fun outcome => (keeps_ofExcept _).bind deliver_startsOnly) h

theorem runLinter_startsOnly (text path current : Value) (indent : Int) (h : Host) :
    StartsOnly (fun l => ∃ given, LintOptions.normalize current (.int indent) = .ok given ∧
        h.inspector.engine.launch text (.object given) path = .ok l)
      h (runLinter text path current indent h).2 := by
  unfold runLinter
  cases hgiven : LintOptions.normalize current (.int indent) with
  | error fault =>
    rw [ofExcept_bind_error rfl]
    exact Std.Refl.refl h
  | ok given =>
    rw [ofExcept_bind_ok rfl]
    have hidle := bind_idle_snd (fun report h => (rfl : (ofExcept (concludeReport report) h).2 = h))
      (lint text (.object given) path) h
    rw [hidle]
    exact (lint_startsOnly text (.object given) path h).mono fun l hl => ⟨given, rfl, hl⟩

/-- A scan takes up the options in force, and tells them to the linter if it starts it. -/
theorem scanFile_startsOnly (text : String) (path : Value) (h : Host) :
    StartsOnly (fun l => ∃ given, h.inspector.effectiveOptions = .ok given ∧
        h.inspector.engine.launch (.str (BlankLines.emptiedText text)) (.object given) path = .ok l)
      h (scanFile (.str text) path h).2 := by
  rw [scanFile_text]
  refine IsTrans.trans _ (noteRun path h) _ ⟨[_], rfl, by simp⟩ ?_
  exact runLinter_startsOnly _ path h.inspector.currentOptions h.inspector.indentation.size
    (noteRun path h)

theorem scanFile_lastRun (text : String) (path : Value) (h : Host) :
    (scanFile (.str text) path h).2.inspector.lastRun = h.inspector.currentOptions := by
  have hallows : Allows (Inspected fun _ => True) := inspected_allows
  have i := hallows.keeps_runLinter (.str (BlankLines.emptiedText text)) path
    h.inspector.currentOptions h.inspector.indentation.size (noteRun path h)
  rw [scanFile_text]
  rcases i.lastRun with e | e
  · exact e
  · exact e

/-- A change of preferences asks each watcher, and none asks for a run where the options repeat those
of the last one. -/
def askedFor (h : Host) (watchers : Nat) : List Event :=
  if Value.same h.inspector.preferences h.inspector.lastRun then []
  else List.replicate watchers (.rerunAsked Inspector.name)

theorem times_preferencesChanged (n : Nat) (h : Host) :
    times n (preferencesChanged recordRerun) h =
      (.ok (), { h with events := h.events ++ askedFor h n }) := by
  induction n generalizing h with
  | zero =>
    have hnone : askedFor h 0 = [] := by
      unfold askedFor
      split <;> rfl
    rw [hnone, List.append_nil]
    rfl
  | succ n ih =>
    have hfirst : preferencesChanged recordRerun h =
        (.ok (), { h with events := h.events ++ askedFor h 1 }) := by
      show (if Value.same h.inspector.preferences h.inspector.lastRun then pure ()
        else recordRerun Inspector.name : Action Unit) h = _
      unfold askedFor
      split
      · rw [List.append_nil]
        rfl
      · rfl
    have hasked : askedFor h (n + 1) = askedFor h 1 ++ askedFor h n := by
      unfold askedFor
      split
      · rfl
      · exact List.replicate_succ
    show (preferencesChanged recordRerun >>= fun _ => times n (preferencesChanged recordRerun)) h = _
    rw [bind_ok hfirst, ih, hasked, ← List.append_assoc]
    rfl

theorem setPreferences_apply (options : Value) (h : Host) :
    setPreferences recordRerun options h =
      let changed := { h with inspector := { h.inspector with preferences := options } }
      (.ok (), { changed with events := h.events ++ askedFor changed h.inspector.watchers }) :=
  times_preferencesChanged h.inspector.watchers
    { h with inspector := { h.inspector with preferences := options } }

/-- Watched preferences ask for no run only where they repeat the options of the last one. -/
theorem same_of_quiet {options : Value} {h : Host} (hwatched : 0 < h.inspector.watchers)
    (hquiet : .rerunAsked Inspector.name ∉ (setPreferences recordRerun options).recorded h) :
    Value.same options h.inspector.lastRun = true := by
  by_contra hdiffers
  refine hquiet ?_
  rw [recorded_of_append (congrArg (fun r => r.2.events) (setPreferences_apply options h)), askedFor,
    if_neg hdiffers]
  exact List.mem_replicate.2 ⟨Nat.pos_iff_ne_zero.1 hwatched, rfl⟩

end Action

theorem tellFollower_unscanned (enabled : Bool) (f : Follower) :
    Action.Keeps Unscanned (Action.tellFollower enabled f) := by
  intro h
  cases f with
  | host => exact ⟨rfl, Nat.le_refl _⟩
  | projectConfig => exact ⟨rfl, Nat.le_refl _⟩

namespace InspectorCall

theorem perform_unscanned {c : InspectorCall} (hc : c.isScan = false) :
    Action.Keeps Unscanned c.perform := by
  intro h
  cases c with
  | scanned text path => cases hc
  | preferred options =>
    show Unscanned h (Action.setPreferences Action.recordRerun options h).2
    rw [Action.setPreferences_apply]
    exact ⟨rfl, Nat.le_refl _⟩
  | toggled wanted =>
    show Unscanned h (Action.ignore (Action.toggle wanted) h).2
    rw [Action.ignore_snd, Action.toggle_snd]
    have hswitched : Unscanned h (h.switched (wanted.getD !h.registry.enabled)) :=
      ⟨rfl, Nat.le_refl _⟩
    exact IsTrans.trans _ _ _ hswitched
      (Action.keeps_each (fun f _ => tellFollower_unscanned _ f) _)
  | registered => exact ⟨rfl, Nat.le_succ _⟩
  | indented | executed | configured => exact ⟨rfl, Nat.le_refl _⟩
  | around s => cases s <;> exact ⟨rfl, Nat.le_refl _⟩

theorem perform_watched (c : InspectorCall) :
    Action.Keeps (Action.Stays fun h => 0 < h.inspector.watchers) c.perform := by
  intro h hwatched
  by_cases hc : c.isScan = true
  · cases c with
    | scanned text path =>
      show 0 < (Action.ignore (Action.scanFile (.str text) (.str path)) h).2.inspector.watchers
      have hallows : Action.Allows (Inspected fun _ => True) := Action.inspected_allows
      have i := hallows.keeps_scanFile (.str text) (.str path) h
      rw [Action.ignore_snd, i.watchers]
      exact hwatched
    | _ => cases hc
  · have i := perform_unscanned (Bool.eq_false_iff.2 hc) h
    exact Nat.lt_of_lt_of_le hwatched i.watchers

end InspectorCall

theorem InspectorCall.arguments_of_scanned {text path : String} {found : Host} {l : Launch}
    (hlaunched : .launched l ∈ (InspectorCall.scanned text path).perform.recorded found) :
    ∃ given, found.inspector.effectiveOptions = .ok given ∧
      l.arguments = "--json" :: Flags.ofFields given ++ [Engine.filePath (Engine.fileName path)] := by
  obtain ⟨more, hmore, hstarted⟩ := Action.scanFile_startsOnly text (.str path) found
  have hrecorded : (InspectorCall.scanned text path).perform.recorded found = more := by
    refine Action.recorded_of_append ?_
    rw [InspectorCall.perform, Action.ignore_snd]
    exact hmore
  rw [hrecorded] at hlaunched
  obtain ⟨given, hgiven, hlaunch⟩ := hstarted l hlaunched
  rw [Engine.eq_command_of_launch hlaunch]
  exact ⟨given, hgiven, rfl⟩

/-- A registered inspector on whatever host, after some calls: the host that the latest scan found, and
the host at the end. -/
structure LatestScan (text path : String) (found now : Host) : Prop where
  reached : ∃ h₀ before, found = after InspectorCall.perform before (Action.register h₀).2
  followed : ∃ later, (∀ c ∈ later, c.isScan = false) ∧
    now = after InspectorCall.perform later ((InspectorCall.scanned text path).perform found).2

namespace LatestScan

variable {text path : String} {found now : Host}

theorem watched (r : LatestScan text path found now) : 0 < now.inspector.watchers := by
  obtain ⟨h₀, before, rfl⟩ := r.reached
  obtain ⟨later, -, rfl⟩ := r.followed
  have hregistered : 0 < (Action.register h₀).2.inspector.watchers := Nat.succ_pos _
  have hfound := after_stays InspectorCall.perform_watched before hregistered
  exact after_stays InspectorCall.perform_watched later (InspectorCall.perform_watched _ _ hfound)

theorem lastRun (r : LatestScan text path found now) :
    now.inspector.lastRun = found.inspector.currentOptions := by
  obtain ⟨later, hlater, rfl⟩ := r.followed
  have hafter : Unscanned ((InspectorCall.scanned text path).perform found).2 (after _ later _) :=
    after_keeps (fun c hc => InspectorCall.perform_unscanned (hlater c hc)) _
  rw [hafter.lastRun, InspectorCall.perform, Action.ignore_snd]
  exact Action.scanFile_lastRun text (.str path) found

end LatestScan

/-- Where a change of preferences asks for no run, and the options are written like those of the last
run, the linter would now be told the flags that the latest scan told it, up to their order. -/
theorem quiet_change_keeps_flags {text path file : String} {found now : Host} {l : Launch}
    {flags : List String} {options : Value} (hrun : LatestScan text path found now)
    (hlaunched : .launched l ∈ (InspectorCall.scanned text path).perform.recorded found)
    (hflags : l.arguments = "--json" :: flags ++ [file])
    (hnow : now.inspector.config.loaded = none)
    (hindent : now.inspector.indentation.size = found.inspector.indentation.size)
    (hoptions : options = .null ∨ ∃ fields, options = .object fields)
    (hquiet : .rerunAsked Inspector.name ∉
      (Action.setPreferences Action.recordRerun options).recorded now)
    (halike : LintOptions.areAlike options now.inspector.lastRun = true) :
    ∃ fields, (Action.setPreferences Action.recordRerun options now).2.inspector.effectiveOptions =
        .ok fields ∧ (Flags.ofFields fields).Perm flags := by
  obtain ⟨given, hgiven, hgivenFlags⟩ := InspectorCall.arguments_of_scanned hlaunched
  have hsame := (Value.same_iff.1 (Action.same_of_quiet hrun.watched hquiet)).1
  obtain ⟨fields, given', hfields, hgiven', hperm⟩ :=
    LintOptions.normalize_perm hoptions hsame halike (.int now.inspector.indentation.size)
  -- what the scan took up, of the project or of the preferences, are the options of the last run
  have hscanned : found.inspector.effectiveOptions = .ok given' := by
    rw [Inspector.effectiveOptions, ← hrun.lastRun, ← hindent]
    exact hgiven'
  have heffective : (Action.setPreferences Action.recordRerun options now).2.inspector.effectiveOptions =
      .ok fields := by
    rw [Action.setPreferences_apply, Inspector.effectiveOptions, Inspector.currentOptions]
    simp only [hnow]
    exact hfields
  obtain rfl : given = given' := by simpa [hgiven] using hscanned
  rw [hgivenFlags] at hflags
  have hall : Flags.ofFields given = flags := by
    have htail := (List.cons.inj hflags).2
    exact (List.append_inj' htail rfl).1
  refine ⟨fields, heffective, ?_⟩
  rw [← hall]
  exact Flags.ofFields_perm hperm

def preferring (options : Value) : Host :=
  after InspectorCall.perform [.preferred options] Host.bareEditor

def scanning (options : Value) : Host :=
  ((InspectorCall.scanned "x" "/a.js").perform (preferring options)).2

theorem scanning_latestScan (options : Value) :
    LatestScan "x" "/a.js" (preferring options) (scanning options) :=
  ⟨⟨_, [.preferred options], rfl⟩, [], fun _ hc => absurd hc List.not_mem_nil, rfl⟩

def lengthAfterNode : Value := .object [("node", .bool true), ("maxlen", .int 80)]

def lengthBeforeNode : Value := .object [("maxlen", .int 80), ("node", .bool true)]

theorem quiet_change_keeps_flags_reordered :
    (Action.setPreferences Action.recordRerun lengthBeforeNode).recorded (scanning lengthAfterNode) =
        [] ∧
      ∃ fields, (Action.setPreferences Action.recordRerun lengthBeforeNode
          (scanning lengthAfterNode)).2.inspector.effectiveOptions = .ok fields ∧
        (Flags.ofFields fields).Perm ["--node", "--maxlen=80", "--indent=4"] := by
  have hquiet : (Action.setPreferences Action.recordRerun lengthBeforeNode).recorded
      (scanning lengthAfterNode) = [] := by
    decide +kernel
  have hlaunched : .launched ⟨.str "jslint",
      ["--json", "--node", "--maxlen=80", "--indent=4", "<tmp>/a.js"], .int 30, some "x"⟩ ∈
        (InspectorCall.scanned "x" "/a.js").perform.recorded (preferring lengthAfterNode) := by
    decide +kernel
  have halike : LintOptions.areAlike lengthBeforeNode
      (scanning lengthAfterNode).inspector.lastRun = true := by
    decide +kernel
  have hunasked : .rerunAsked Inspector.name ∉
      (Action.setPreferences Action.recordRerun lengthBeforeNode).recorded
        (scanning lengthAfterNode) := by
    rw [hquiet]
    exact List.not_mem_nil
  exact ⟨hquiet, quiet_change_keeps_flags (scanning_latestScan lengthAfterNode) hlaunched rfl
    (by decide +kernel) (by decide +kernel) (.inr ⟨_, rfl⟩) hunasked halike⟩

def nodeTrue : Value := .object [("node", .bool true)]

def nodeOne : Value := .object [("node", .int 1)]

/-- The change from one to the other is quiet, no project and no other indentation having come between,
and still the linter would be told another flag. -/
theorem number_for_truth_value_is_quiet :
    LatestScan "x" "/a.js" (preferring nodeTrue) (scanning nodeTrue) ∧
      .launched ⟨.str "jslint", ["--json", "--node", "--indent=4", "<tmp>/a.js"], .int 30,
        some "x"⟩ ∈ (InspectorCall.scanned "x" "/a.js").perform.recorded (preferring nodeTrue) ∧
      (preferring nodeTrue).inspector.config.loaded = none ∧
      (scanning nodeTrue).inspector.config.loaded = none ∧
      (scanning nodeTrue).inspector.indentation = (preferring nodeTrue).inspector.indentation ∧
      .rerunAsked Inspector.name ∉
        (Action.setPreferences Action.recordRerun nodeOne).recorded (scanning nodeTrue) ∧
      ¬ ∃ fields, (Action.setPreferences Action.recordRerun nodeOne
          (scanning nodeTrue)).2.inspector.effectiveOptions = .ok fields ∧
        (Flags.ofFields fields).Perm ["--node", "--indent=4"] := by
  refine ⟨scanning_latestScan nodeTrue, by decide +kernel, by decide +kernel, by decide +kernel,
    by decide +kernel, by decide +kernel, ?_⟩
  have heffective : (Action.setPreferences Action.recordRerun nodeOne
      (scanning nodeTrue)).2.inspector.effectiveOptions =
        .ok [("node", .int 1), ("indent", .int 4)] := by
    decide +kernel
  rintro ⟨fields, hfields, hperm⟩
  obtain rfl : [("node", .int 1), ("indent", .int 4)] = fields := by
    simpa [heffective] using hfields
  have hdiffer : ¬ (Flags.ofFields [("node", .int 1), ("indent", .int 4)]).Perm
      ["--node", "--indent=4"] := by
    decide +kernel
  exact hdiffer hperm

end LintRelay
