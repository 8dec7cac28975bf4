import LintRelay.Proofs.Handover
import LintRelay.Proofs.Inspecting
import LintRelay.Proofs.MappedReports
import LintRelay.Proofs.QuietChange

/-!
# Files that count as clean

The command that inspects files enters a result for every file it collects and counts a file as clean
where the result holds no problems. The result of a file with a linted ending comes from the linter. A
file that is named and has another ending is collected as well: there is no provider for it, so that it
counts as clean without having been read by the linter.
-/
namespace LintRelay

/-- A file was given to the linter, for the last time by this process, which came to this end. What is
noted right before a process tells the file. -/
def LinterRan (h h' : Host) (file : String) (l : Launch) (outcome : Outcome) : Prop :=
  ∃ before options after,
    h'.events = h.events ++ (before ++ .inspecting (.str file) options :: .launched l :: after) ∧
    outcome = h.tool (h.launches + (started before).length) l ∧
    ∀ e ∈ after, e.noted? ≠ some (.str file)

namespace LinterRan

variable {h g h' : Host} {file : String} {l : Launch} {outcome : Outcome}

theorem after_adds {permitted : Event → Prop} (i : Adds permitted h g)
    (hran : LinterRan g h' file l outcome) : LinterRan h h' file l outcome := by
  obtain ⟨more, hmore, hcount, -⟩ := i.record
  obtain ⟨before, options, after, hevents, houtcome, hlatest⟩ := hran
  refine ⟨more ++ before, options, after, ?_, ?_, hlatest⟩
  · rw [hevents, hmore]
    simp
  · rw [houtcome, i.tool, hcount, started_append, List.length_append, Nat.add_assoc]

theorem before_adds (hran : LinterRan h g file l outcome)
    (i : Adds (fun e => e.noted? ≠ some (.str file)) g h') : LinterRan h h' file l outcome := by
  obtain ⟨more, hmore, -, hother⟩ := i.record
  obtain ⟨before, options, after, hevents, houtcome, hlatest⟩ := hran
  refine ⟨before, options, after ++ more, ?_, houtcome, fun e he => ?_⟩
  · rw [hmore, hevents]
    simp
  · exact (List.mem_append.1 he).elim (hlatest e) (hother e)

theorem noted {permitted : Event → Prop} (hran : LinterRan h h' file l outcome)
    (i : Adds permitted h h') : ∃ e, permitted e ∧ e.noted? = some (.str file) := by
  obtain ⟨more, hmore, -, hpermitted⟩ := i.record
  obtain ⟨before, options, after, hevents, -, -⟩ := hran
  rw [hmore, List.append_cancel_left_eq] at hevents
  exact ⟨.inspecting (.str file) options, hpermitted _ (by simp [hevents]), rfl⟩

end LinterRan

def LintArguments.engine (a : LintArguments) : Engine :=
  { Engine.standard with executable := .str a.executable }

/-- The latest run of the linter on the content of a file came to this verdict. -/
def Judged (engine : Engine) (disk : Disk) (h h' : Host) (file : String) (verdict : Verdict) : Prop :=
  ∃ text options outcome, disk.readText file = .ok text ∧
    LinterRan h h' file (engine.command (BlankLines.emptiedText text) options file) outcome ∧
    engine.conclude disk.room file outcome = .ok verdict

/-- The linter was run on the content of a file, and its report held no diagnostic. -/
def FoundClean (engine : Engine) (disk : Disk) (h h' : Host) (file : String) : Prop :=
  ∃ verdict, Judged engine disk h h' file verdict ∧
    ∀ entry ∈ verdict.report.errors, entry.isNull = true

/-- What is entered for a file is the linter's result on the content of the file. -/
def Entered (engine : Engine) (disk : Disk) (h h' : Host) (file : String) (r : Option Inspection) :
    Prop :=
  ∃ verdict, Judged engine disk h h' file verdict ∧ Action.concludeReport verdict.report = .ok r

section

variable {engine : Engine} {disk : Disk} {h g h' : Host} {file : String} {r : Option Inspection}
  {verdict : Verdict}

theorem Judged.after_adds {permitted : Event → Prop} (hjudged : Judged engine disk g h' file verdict)
    (i : Adds permitted h g) : Judged engine disk h h' file verdict := by
  obtain ⟨text, options, outcome, htext, hran, hverdict⟩ := hjudged
  exact ⟨text, options, outcome, htext, hran.after_adds i, hverdict⟩

theorem Judged.extend (hjudged : Judged engine disk h g file verdict)
    (i : Adds (fun e => e.noted? ≠ some (.str file)) g h') : Judged engine disk h h' file verdict := by
  obtain ⟨text, options, outcome, htext, hran, hverdict⟩ := hjudged
  exact ⟨text, options, outcome, htext, hran.before_adds i, hverdict⟩

theorem Entered.extend (hentered : Entered engine disk h g file r)
    (i : Adds (fun e => e.noted? ≠ some (.str file)) g h') : Entered engine disk h h' file r := by
  obtain ⟨verdict, hjudged, hr⟩ := hentered
  exact ⟨verdict, hjudged.extend i, hr⟩

theorem entries_null_of_clean {outcome : Outcome} {room : Nat}
    (hverdict : engine.conclude room file outcome = .ok verdict)
    (hr : Action.concludeReport verdict.report = .ok r) (hclean : Results.isClean r = true) :
    ∀ entry ∈ verdict.report.errors, entry.isNull = true := by
  unfold Action.concludeReport at hr
  cases hpassed : verdict.report.passed with
  | true =>
    have hnone : verdict.report.errors = [] := by
      rw [Engine.passed_of_conclude hverdict] at hpassed
      exact List.isEmpty_iff.1 hpassed
    simp [hnone]
  | false =>
    rw [hpassed, if_neg Bool.false_ne_true, map_eq_ok_iff] at hr
    obtain ⟨inspection, hreport, rfl⟩ := hr
    exact (Inspection.ofReport_maps hreport).entries_null (List.isEmpty_iff.1 hclean)

theorem Entered.foundClean (hentered : Entered engine disk h h' file r)
    (hclean : Results.isClean r = true) : FoundClean engine disk h h' file := by
  obtain ⟨verdict, hjudged, hr⟩ := hentered
  obtain ⟨text, options, outcome, -, -, hverdict⟩ := id hjudged
  exact ⟨verdict, hjudged, entries_null_of_clean hverdict hr hclean⟩

end

def Event.NotesLinted (e : Event) : Prop :=
  ∀ p, e.noted? = some p → ∃ file, p = .str file ∧ (Language.ofPath file).isSome

/-- What was entered while files were inspected, from one host to another. -/
structure Accounted (engine : Engine) (disk : Disk) (h h' : Host) (results : Results) : Prop where
  adds : Adds (fun e => e.NotesLinted ∧ e.isPanel = false) h h'
  nodup : (Entries.names results).Nodup
  entered : ∀ p ∈ results, (Language.ofPath p.1).isSome → Entered engine disk h h' p.1 p.2

theorem mem_put_of_nodup {α : Type} {name : String} {a : α} {entries : Entries α}
    (hnodup : (Entries.names entries).Nodup) {p : String × α} (hp : p ∈ Entries.put name a entries) :
    p = (name, a) ∨ p ∈ entries ∧ p.1 ≠ name := by
  induction entries with
  | nil => exact .inl (List.mem_singleton.1 hp)
  | cons q rest ih =>
    obtain ⟨hq, hrest⟩ := List.nodup_cons.1 hnodup
    by_cases hname : q.1 = name
    · rw [Entries.put, if_pos hname] at hp
      rcases List.mem_cons.1 hp with rfl | hp
      · exact .inl (by rw [hname])
      · refine .inr ⟨List.mem_cons_of_mem q hp, fun e => hq ?_⟩
        rw [hname, ← e]
        exact List.mem_map_of_mem hp
    · rw [Entries.put, if_neg hname] at hp
      rcases List.mem_cons.1 hp with rfl | hp
      · exact .inr ⟨List.mem_cons_self, hname⟩
      · exact (ih hrest hp).imp id fun h => ⟨List.mem_cons_of_mem q h.1, h.2⟩

namespace Action

section

variable {path text : String} {r : Option Inspection} {h h' : Host} {options : Fields}
  {verdict : Verdict}

theorem Scanned.adds (hs : Scanned path text r h h' options verdict) :
    Adds (fun e => (∀ p, e.noted? = some p → p = .str path) ∧ e.isPanel = false) h h' := by
  refine ⟨hs.tool, _, hs.events, ?_, ?_⟩
  · rw [hs.launches]
    simp [started, Event.launch?, List.filterMap_cons]
  · simp [Event.noted?, Event.isPanel]

theorem Scanned.judged (hs : Scanned path text r h h' options verdict)
    (htext : h.disk.readText path = .ok text) :
    Judged h.inspector.engine h.disk h h' path verdict := by
  refine ⟨text, options, _, htext, ⟨[], _, _, hs.events, rfl, ?_⟩, hs.concluded⟩
  simp [Event.noted?]

end

variable {R : Host → Host → Prop} [IsPreorder Host R]

theorem Allows.keeps_lintFile (ha : Allows R) (path : String) (results : Results) :
    Keeps R (lintFile path results) := by
  refine keeps_host_bind fun h => ?_
  refine Keeps.bind (keeps_ofExcept _) (fun text => ?_) h
  exact (ha.keeps_inspect _ _ _).bind fun answers => keeps_pure _

theorem Allows.keeps_lintFiles (ha : Allows R) (files : List String) (results : Results) :
    Keeps R (lintFiles files results) := by
  induction files generalizing results with
  | nil => exact keeps_pure _
  | cons path rest ih => exact (ha.keeps_lintFile path results).bind fun _ => ih _

end Action

namespace Host.Lints

variable {engine : Engine} {disk : Disk} {h h' : Host}

theorem inspected {addressed : String → Prop} (hl : h.Lints engine disk)
    (i : Inspected addressed h h') : h'.Lints engine disk := by
  refine ⟨i.disk.trans hl.disk, ?_, ?_, ?_⟩
  · rw [i.settings]
    exact hl.engine
  · rw [i.registry]
    exact hl.enabled
  · rw [i.registry]
    exact hl.providers

end Host.Lints

section

variable {engine : Engine} {disk : Disk} {h₀ h h' : Host} {results results' : Results}

theorem Accounted.skipped {path : String} (ha : Accounted engine disk h₀ h results)
    (hunlinted : Language.ofPath path = none) :
    Accounted engine disk h₀ h (Entries.put path none results) := by
  refine ⟨ha.adds, Entries.nodup_names_put _ _ ha.nodup, fun p hp hlinted => ?_⟩
  rcases mem_put_of_nodup ha.nodup hp with rfl | ⟨hp, -⟩
  · rw [hunlinted] at hlinted
    cases hlinted
  · exact ha.entered p hp hlinted

/-- A file that is scanned. What was entered for the others stays true, since only this one is noted. -/
theorem Accounted.scanned {path text : String} {r : Option Inspection} {options : Fields}
    {verdict : Verdict} (ha : Accounted engine disk h₀ h results) (hl : h.Lints engine disk)
    (htext : disk.readText path = .ok text) (hlinted : (Language.ofPath path).isSome)
    (hs : Action.Scanned path text r h h' options verdict) :
    Accounted engine disk h₀ h' (Entries.put path r results) := by
  have hadds := hs.adds
  refine ⟨ha.adds.trans (hadds.mono fun e he => ⟨fun p hp => ⟨path, he.1 p hp, hlinted⟩, he.2⟩),
    Entries.nodup_names_put _ _ ha.nodup, fun p hp hends => ?_⟩
  rcases mem_put_of_nodup ha.nodup hp with rfl | ⟨hp, hne⟩
  · have hjudged := (hs.judged (hl.disk ▸ htext)).after_adds ha.adds
    rw [hl.engine, hl.disk] at hjudged
    exact ⟨verdict, hjudged, hs.result⟩
  · refine (ha.entered p hp hends).extend (hadds.mono fun e he hnoted => hne ?_)
    exact Value.str.inj (he.1 _ hnoted)

/-- One file more. -/
theorem Accounted.lintFile {path : String} (ha : Accounted engine disk h₀ h results)
    (hl : h.Lints engine disk) (e : Action.lintFile path results h = (.ok results', h')) :
    Accounted engine disk h₀ h' results' := by
  obtain ⟨text, r, htext, rfl, ⟨hunlinted, rfl, rfl⟩ | ⟨hlinted, options, verdict, hs⟩⟩ :=
    Action.lintFile_eq_ok hl e
  · exact ha.skipped hunlinted
  · exact ha.scanned hl htext hlinted hs

/-- A whole run enters every file. -/
theorem Accounted.lintFiles {files : List String} (ha : Accounted engine disk h₀ h results)
    (hl : h.Lints engine disk) (e : Action.lintFiles files results h = (.ok results', h')) :
    Accounted engine disk h₀ h' results' ∧
      ∀ file, file ∈ Entries.names results' ↔ file ∈ Entries.names results ∨ file ∈ files := by
  induction files generalizing results h with
  | nil =>
    obtain ⟨hresults, rfl⟩ := Prod.mk.inj e
    obtain rfl := Except.ok.inj hresults
    exact ⟨ha, by simp⟩
  | cons path rest ih =>
    obtain ⟨entered, g, hfirst, hrest⟩ := Action.bind_eq_ok e
    have hg : g.Lints engine disk := by
      have hkept : Action.Allows (Inspected fun _ => True) := Action.inspected_allows
      obtain rfl : (Action.lintFile path results h).2 = g := congrArg Prod.snd hfirst
      exact hl.inspected (hkept.keeps_lintFile path results h)
    obtain ⟨hall, hnames⟩ := ih (ha.lintFile hl hfirst) hg hrest
    obtain ⟨text, r, -, rfl, -⟩ := Action.lintFile_eq_ok hl hfirst
    refine ⟨hall, fun file => ?_⟩
    rw [hnames, Entries.mem_names_put, List.mem_cons]
    tauto

end

namespace Action

def IsAside (e : Event) : Prop := e.noted? = none ∧ e.isPanel = false

def equipped (options : Option Fields) (indentation : Indentation) (executable : String) (h : Host) :
    Host :=
  { h with
    inspector :=
      { Inspector.new { Engine.standard with executable := .str executable }
          (Value.ofFields? options) (.str ProjectConfig.standardName) indentation with
        watchers := 1 }
    registry := ((Registry.new true).registerAll Language.linted ⟨Inspector.name, .linter⟩).follow
      .projectConfig }

theorem prepare_apply (project : Option String) (options : Option Fields) (indentation : Indentation)
    (executable : String) (h : Host) :
    prepare project options indentation executable h =
      (setConfigEnabled true >>= fun _ =>
        match project with
        | some root => openProject (.str root)
        | none => pure ()) (equipped options indentation executable h) := rfl

theorem equipped_lints (options : Option Fields) (indentation : Indentation) (executable : String)
    (h : Host) :
    (equipped options indentation executable h).Lints
      { Engine.standard with executable := .str executable } h.disk :=
  ⟨rfl, rfl, rfl, List.forall_mem_cons.2 ⟨rfl, List.forall_mem_singleton.2 rfl⟩⟩

theorem equipped_adds (options : Option Fields) (indentation : Indentation) (executable : String)
    (h : Host) : Adds IsAside h (equipped options indentation executable h) :=
  ⟨rfl, [], (List.append_nil _).symm, rfl, by simp⟩

theorem prepare_lints (project : Option String) (options : Option Fields) (indentation : Indentation)
    (executable : String) (h : Host) :
    let g := (prepare project options indentation executable h).2
    g.Lints { Engine.standard with executable := .str executable } h.disk ∧ Adds IsAside h g := by
  set P : Host → Prop := fun g =>
    g.Lints { Engine.standard with executable := .str executable } h.disk ∧ Adds IsAside h g with hP
  have hconfig {α : Type} (event : Disk → ProjectConfig → Reaction α) :
      Keeps (Stays P) (onConfig event) := fun g hg =>
    ⟨⟨hg.1.disk, hg.1.engine, hg.1.enabled, hg.1.providers⟩,
      hg.2.trans (onConfig_adds (fun _ => ⟨rfl, rfl⟩) event g)⟩
  have hopen : Keeps (Stays P) (setConfigEnabled true >>= fun _ =>
      match project with
      | some root => openProject (.str root)
      | none => pure ()) := by
    refine Keeps.bind (hconfig _) fun _ => ?_
    cases project with
    | none => exact keeps_pure ()
    | some root => exact hconfig _
  rw [prepare_apply]
  exact hopen _ ⟨equipped_lints options indentation executable h,
    equipped_adds options indentation executable h⟩

theorem printMarkup_adds (style markup : String) : Keeps (Adds IsAside) (printMarkup style markup) :=
  (keeps_ofExcept _).bind fun _ => emit_adds ⟨rfl, rfl⟩ rfl

theorem print_adds (style markup : String) : Keeps (Adds IsAside) (print style markup) :=
  printMarkup_adds _ _

def Shows (results : Results) (e : Event) : Prop :=
  e.noted? = none ∧ ∀ title text, e = .panel title text → text = results.summaryText

theorem IsAside.shows {e : Event} (he : IsAside e) (results : Results) : Shows results e :=
  ⟨he.1, fun title text hpanel => by
    rw [IsAside, hpanel] at he
    cases he.2⟩

theorem present_adds (results : Results) : Keeps (Adds (Shows results)) (present results) := by
  intro h
  have hshown : started results.shown.2 = [] ∧ ∀ e ∈ results.shown.2, Shows results e := by
    unfold Results.shown
    dsimp only
    split
    · simp [started, Event.launch?, Shows, Event.noted?, List.filterMap_cons]
    · split <;> simp [started, Event.launch?, Shows, Event.noted?, List.filterMap_cons]
  refine ⟨rfl, results.shown.2, rfl, ?_, hshown.2⟩
  rw [hshown.1]
  rfl

theorem save_adds (results : Results) (output : Option String) :
    Keeps (Adds IsAside) (save results output) := by
  unfold save
  cases output with
  | none => exact keeps_pure ()
  | some path =>
    dsimp only
    split
    · exact keeps_pure ()
    · refine keeps_host_bind fun h => Keeps.bind (keeps_ofExcept _) (fun disk => ?_) h
      refine Keeps.bind (fun g => ?_) fun _ => print_adds _ _
      exact ⟨rfl, [], (List.append_nil _).symm, rfl, fun _ he => absurd he List.not_mem_nil⟩

theorem concludeLint_adds (results : Results) (output : Option String) :
    Keeps (Adds (Shows results)) (concludeLint results output) :=
  (present_adds results).bind fun _ =>
    ((save_adds results output).mono fun _ _ i => i.mono fun _ he => he.shows results).bind
      fun _ => keeps_pure _

theorem concludeLint_ok {results : Results} {output : Option String} {h : Host}
    (hok : (concludeLint results output h).1 = .ok 0) : ∀ p ∈ results, Results.isClean p.2 = true := by
  obtain ⟨_, g, -, e⟩ := bind_eq_ok (Prod.ext hok rfl)
  obtain ⟨_, g', -, e⟩ := bind_eq_ok e
  have hcode : (if results.hasProblems then 1 else 0) = 0 := Except.ok.inj (congrArg Prod.fst e)
  have hnone : results.hasProblems = false := by
    cases hproblems : results.hasProblems with
    | false => rfl
    | true => rw [hproblems] at hcode; cases hcode
  simpa [Results.hasProblems] using hnone

theorem print_return_one (style markup : String) (h : Host) :
    let x : Action Nat := print style markup >>= fun _ => pure 1
    (x h).1 ≠ .ok 0 ∧ Adds IsAside h (x h).2 := by
  intro x
  have hadds : Keeps (Adds IsAside) x := (print_adds style markup).bind fun _ => keeps_pure _
  constructor
  · intro e
    have hx : x h = (.ok 0, (x h).2) := Prod.ext e rfl
    obtain ⟨_, _, _, hreturn⟩ := bind_eq_ok hx
    cases congrArg Prod.fst hreturn
  · exact hadds h

def lintFound (a : LintArguments) : Action Nat := do
  let h ← host
  match ← ofExcept (h.disk.root.collect a.paths) with
  | [] => do
    print "yellow" "No JavaScript or JSON files found"
    return 0
  | files =>
    match ← attempt (lintFiles files []) with
    | .error fault => do
      print "red" s!"Error during lint: {Markup.escape fault.message}"
      return 1
    | .ok results => concludeLint results a.output

def lintPrepared (a : LintArguments) : Action Nat := do
  if ← isAvailable then
    lintFound a
  else
    print "red" s!"JSLint not available: {Markup.escape a.executable}"
    return 1

theorem lintCommand_eq (a : LintArguments) :
    lintCommand a =
      (prepare (some a.project) a.options (commandIndentation a.indent a.useTabs) a.executable >>=
        fun _ => lintPrepared a) := rfl

theorem panelless_allows : Allows (Adds fun e => e.isPanel = false) :=
  adds_allows (fun _ _ => rfl) (fun _ => rfl) (fun _ => rfl) fun _ _ _ => rfl

theorem lintFound_eq {a : LintArguments} {h : Host} {files : List String}
    (hcollected : h.disk.root.collect a.paths = .ok files) (hsome : files ≠ []) :
    lintFound a h =
      (attempt (lintFiles files []) >>= fun r =>
        match r with
        | .error fault =>
          print "red" s!"Error during lint: {Markup.escape fault.message}" >>= fun _ => pure 1
        | .ok results => concludeLint results a.output) h := by
  obtain ⟨file, more, rfl⟩ := List.exists_cons_of_ne_nil hsome
  show (ofExcept (h.disk.root.collect a.paths) >>= _) h = _
  rw [ofExcept_bind_ok hcollected]
  rfl

/-- All files are inspected before their results are shown. -/
theorem lintFound_cases {a : LintArguments} {h : Host} {files : List String}
    (hcollected : h.disk.root.collect a.paths = .ok files) (hsome : files ≠ []) :
    ((lintFound a h).1 ≠ .ok 0 ∧ Adds (fun e => e.isPanel = false) h (lintFound a h).2) ∨
      ∃ results g, lintFiles files [] h = (.ok results, g) ∧
        lintFound a h = concludeLint results a.output g := by
  have hadds := panelless_allows.keeps_lintFiles files [] h
  cases hrun : lintFiles files [] h with
  | mk r g =>
    have hattempt : attempt (lintFiles files []) h = (.ok r, g) := by
      rw [attempt, hrun]
    rw [hrun] at hadds
    rw [lintFound_eq hcollected hsome, bind_ok hattempt]
    cases r with
    | error fault =>
      obtain ⟨hcode, hprinted⟩ := print_return_one "red"
        s!"Error during lint: {Markup.escape fault.message}" g
      exact .inl ⟨hcode, hadds.trans (hprinted.mono fun _ he => he.2)⟩
    | ok results => exact .inr ⟨results, g, rfl, rfl⟩

/-- The linter is asked whether it is there before any file is inspected. -/
theorem lintPrepared_cases {a : LintArguments} {h : Host} {disk : Disk} {files : List String}
    (hl : h.Lints a.engine disk) (hcollected : disk.root.collect a.paths = .ok files)
    (hsome : files ≠ []) :
    ((lintPrepared a h).1 ≠ .ok 0 ∧ Adds (fun e => e.isPanel = false) h (lintPrepared a h).2) ∨
      ∃ results g g', g.Lints a.engine disk ∧ Adds IsAside h g ∧
        lintFiles files [] g = (.ok results, g') ∧
        lintPrepared a h = concludeLint results a.output g' := by
  have hready : (isAvailable h).2.Lints a.engine disk :=
    ⟨hl.disk, hl.engine, hl.enabled, hl.providers⟩
  have hasking : Adds IsAside h (isAvailable h).2 :=
    launch_adds (l := h.inspector.engine.versionLaunch) ⟨rfl, rfl⟩ h
  have hquiet := hasking.mono fun _ he => he.2
  unfold lintPrepared
  cases hasked : isAvailable h with
  | mk r g =>
    rw [hasked] at hready hasking hquiet
    cases r with
    | error fault =>
      rw [bind_error hasked]
      exact .inl ⟨by simp, hquiet⟩
    | ok available =>
      rw [bind_ok hasked]
      cases available with
      | false =>
        obtain ⟨hcode, hprinted⟩ := print_return_one "red"
          s!"JSLint not available: {Markup.escape a.executable}" g
        rw [if_neg Bool.false_ne_true]
        exact .inl ⟨hcode, hquiet.trans (hprinted.mono fun _ he => he.2)⟩
      | true =>
        rw [if_pos rfl]
        rw [← hready.disk] at hcollected
        rcases lintFound_cases hcollected hsome with ⟨hcode, hpanelless⟩ | ⟨results, g', hrun, e⟩
        · exact .inl ⟨hcode, hquiet.trans hpanelless⟩
        · exact .inr ⟨results, g, g', hready, hasking, hrun, e⟩

/-- Where there are files, a run of the command either ends before it shows results, and not well, or it
inspects all of them and concludes. -/
theorem lintCommand_cases {a : LintArguments} {h : Host} {files : List String}
    (hcollected : h.disk.root.collect a.paths = .ok files) (hsome : files ≠ []) :
    ((lintCommand a h).1 ≠ .ok 0 ∧
        Adds (fun e => e.isPanel = false) h (lintCommand a h).2) ∨
      ∃ results g g', g.Lints a.engine h.disk ∧ Adds IsAside h g ∧
        lintFiles files [] g = (.ok results, g') ∧
        lintCommand a h = concludeLint results a.output g' := by
  obtain ⟨hlints, hadds⟩ := prepare_lints (some a.project) a.options
    (commandIndentation a.indent a.useTabs) a.executable h
  have hquiet := hadds.mono fun _ he => he.2
  rw [lintCommand_eq]
  cases hprepared : prepare (some a.project) a.options (commandIndentation a.indent a.useTabs)
      a.executable h with
  | mk r g =>
    rw [hprepared] at hlints hadds hquiet
    cases r with
    | error fault =>
      rw [bind_error hprepared]
      exact .inl ⟨by simp, hquiet⟩
    | ok _ =>
      rw [bind_ok hprepared]
      rcases lintPrepared_cases hlints hcollected hsome with
        ⟨hcode, hpanelless⟩ | ⟨results, g₁, g', hready, hasking, hrun, e⟩
      · exact .inl ⟨hcode, hquiet.trans hpanelless⟩
      · exact .inr ⟨results, g₁, g', hready, hadds.trans hasking, hrun, e⟩

end Action

section

open LintRelay.Action

variable {engine : Engine} {disk : Disk} {h g h' : Host} {results : Results}

theorem Accounted.nil (i : Adds IsAside h g) : Accounted engine disk h g [] := by
  refine ⟨i.mono fun e he => ⟨fun p hp => ?_, he.2⟩, .nil, by simp⟩
  rw [he.1] at hp
  cases hp

/-- A clean file was found clean where its ending is linted. Showing the results changes nothing about
that, since no file is noted any more. -/
theorem Accounted.foundClean_iff (ha : Accounted engine disk h g results)
    (i : Adds (Shows results) g h') {p : String × Option Inspection} (hp : p ∈ results)
    (hclean : Results.isClean p.2 = true) :
    FoundClean engine disk h h' p.1 ↔ (Language.ofPath p.1).isSome := by
  constructor
  · intro hfound
    obtain ⟨_, ⟨_, _, _, _, hran, _⟩, _⟩ := hfound
    have hnoted : Adds Event.NotesLinted h h' :=
      (ha.adds.mono fun _ he => he.1).trans
        (i.mono fun e he p hp => by rw [he.1] at hp; cases hp)
    obtain ⟨event, hevent, hfile⟩ := hran.noted hnoted
    obtain ⟨file, hsame, hlinted⟩ := hevent _ hfile
    rwa [← Value.str.inj hsame] at hlinted
  · intro hlinted
    refine Entered.foundClean ((ha.entered p hp hlinted).extend ?_) hclean
    exact i.mono fun e he hsame => by rw [he.1] at hsame; cases hsame

end

open LintRelay.Action in
/-- Of the files of a run that ends well, exactly those with a linted ending were found clean by the
linter. The same goes for the files that are counted as clean wherever a run shows its counts. -/
theorem clean_files_were_linted_iff {a : LintArguments} {h : Host} {files : List String}
    (hcollected : h.disk.root.collect a.paths = .ok files) (hsome : files ≠ []) :
    ((lintCommand a h).1 = .ok 0 → ∀ file ∈ files,
        (FoundClean a.engine h.disk h (lintCommand a h).2 file ↔ (Language.ofPath file).isSome)) ∧
      ∀ text, .panel "JSLint Summary" text ∈ (lintCommand a).recorded h →
        ∃ results : Results, text = results.summaryText ∧ (Entries.names results).Nodup ∧
          (∀ file, file ∈ Entries.names results ↔ file ∈ files) ∧
          ∀ p ∈ results, Results.isClean p.2 = true →
            (FoundClean a.engine h.disk h (lintCommand a h).2 p.1 ↔
              (Language.ofPath p.1).isSome) := by
  rcases lintCommand_cases hcollected hsome with ⟨hcode, hpanelless⟩ | ⟨results, g, g', hl, haside, hrun, e⟩
  · refine ⟨fun hok => absurd hok hcode, fun text hpanel => ?_⟩
    obtain ⟨more, hmore, -, hnone⟩ := hpanelless.record
    rw [recorded_of_append hmore] at hpanel
    cases hnone _ hpanel
  obtain ⟨hall, hnames⟩ := (Accounted.nil haside).lintFiles hl hrun
  have hnames : ∀ file, file ∈ Entries.names results ↔ file ∈ files := fun file => by
    rw [hnames]
    simp [Entries.names]
  have hconclude : Adds (Shows results) g' (lintCommand a h).2 := by
    rw [e]
    exact concludeLint_adds results a.output g'
  have hiff : ∀ p ∈ results, Results.isClean p.2 = true →
      (FoundClean a.engine h.disk h (lintCommand a h).2 p.1 ↔ (Language.ofPath p.1).isSome) :=
    fun p hp hclean => hall.foundClean_iff hconclude hp hclean
  refine ⟨fun hok file hfile => ?_, fun text hpanel => ⟨results, ?_, hall.nodup, hnames, hiff⟩⟩
  · obtain ⟨p, hp, rfl⟩ := List.mem_map.1 ((hnames file).2 hfile)
    rw [e] at hok
    exact hiff p hp (concludeLint_ok hok p hp)
  · obtain ⟨early, hearly, -, hpanelless⟩ := hall.adds.record
    obtain ⟨late, hlate, -, hshows⟩ := hconclude.record
    have hevents : (lintCommand a h).2.events = h.events ++ (early ++ late) := by
      rw [hlate, hearly, List.append_assoc]
    rw [recorded_of_append hevents] at hpanel
    rcases List.mem_append.1 hpanel with hmem | hmem
    · cases (hpanelless _ hmem).2
    · exact (hshows _ hmem).2 _ _ rfl

def contentLinter (_ : Nat) (l : Launch) : Outcome :=
  .finished (if l.text = none then "" else "[\"\", []]") "" 0

def folderWith (name : String) : Host :=
  Host.new (.tree (.folder [(name, .file (Utf8.encode "a \x7b\x7d\n".toList))])) contentLinter
    Host.standardInspector (Registry.new true)

def lintOf (name : String) : LintArguments := ⟨[name], ".", none, none, false, "jslint", none⟩

/-- A script is found clean by the linter before the command ends well. -/
theorem clean_script_was_linted :
    (Action.lintCommand (lintOf "a.js") (folderWith "a.js")).1 = .ok 0 ∧
      FoundClean (lintOf "a.js").engine (folderWith "a.js").disk (folderWith "a.js")
        (Action.lintCommand (lintOf "a.js") (folderWith "a.js")).2 "a.js" := by
  have hcollected : (folderWith "a.js").disk.root.collect (lintOf "a.js").paths = .ok ["a.js"] := by
    decide +kernel
  have hok : (Action.lintCommand (lintOf "a.js") (folderWith "a.js")).1 = .ok 0 := by
    decide +kernel
  have hiff := (clean_files_were_linted_iff hcollected (List.cons_ne_nil _ _)).1 hok "a.js"
    List.mem_cons_self
  exact ⟨hok, hiff.2 (by decide +kernel)⟩

/-- A style sheet that is named is counted as clean, and the command ends well, with no other process
than the one that shows that the linter is there. -/
theorem clean_style_sheet_was_not_linted :
    (folderWith "style.css").disk.root.collect (lintOf "style.css").paths = .ok ["style.css"] ∧
      (Action.lintCommand (lintOf "style.css") (folderWith "style.css")).1 = .ok 0 ∧
      .panel "JSLint Summary" "Total Files: 1\nClean Files: 1\nProblems: 0\nStopped Early: 0" ∈
        (Action.lintCommand (lintOf "style.css")).recorded (folderWith "style.css") ∧
      ¬ FoundClean (lintOf "style.css").engine (folderWith "style.css").disk (folderWith "style.css")
        (Action.lintCommand (lintOf "style.css") (folderWith "style.css")).2 "style.css" := by
  have hstarted : started
      (Action.lintCommand (lintOf "style.css") (folderWith "style.css")).2.events =
        [Engine.standard.versionLaunch] := by
    decide +kernel
  refine ⟨by decide +kernel, by decide +kernel, by decide +kernel, ?_⟩
  rintro ⟨verdict, ⟨text, options, outcome, -, ⟨before, noted, after, hevents, -⟩, -⟩, -⟩
  have hlinted : Engine.command (lintOf "style.css").engine (BlankLines.emptiedText text) options
      "style.css" ∈ started
        (Action.lintCommand (lintOf "style.css") (folderWith "style.css")).2.events :=
    List.mem_filterMap.2 ⟨.launched _, by simp [hevents], rfl⟩
  rw [hstarted] at hlinted
  cases congrArg Launch.text (List.mem_singleton.1 hlinted)

end LintRelay
