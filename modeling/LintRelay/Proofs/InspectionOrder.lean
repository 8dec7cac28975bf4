import LintRelay.Proofs.AnnouncedOptions
import LintRelay.Proofs.CleanFiles

/-!
# The order of inspections

An inspection does not heed what earlier ones have left behind, which is the options of the last run, the
number of processes so far and the record. So where the linter answers the same at any time, documents
that are inspected in turn get the same answers in any order, and all is left the same. The files of one
command are all inspected with the same flags.
-/
namespace LintRelay

/-- What inspections leave behind. -/
structure Past where
  lastRun : Value
  launches : Nat
  events : List Event

/-- What is added to the past: events, and the options of a run if one is noted. -/
structure Trace where
  noted : Bool
  events : List Event

namespace Past

variable {current : Value} {p : Past}

def extended (current : Value) (t : Trace) (p : Past) : Past :=
  ⟨if t.noted then current else p.lastRun, p.launches + (started t.events).length,
    p.events ++ t.events⟩

theorem extended_idle : p.extended current ⟨false, []⟩ = p := by
  simp [extended, started]

theorem extended_extended (t u : Trace) :
    (p.extended current t).extended current u =
      p.extended current ⟨t.noted || u.noted, t.events ++ u.events⟩ := by
  obtain ⟨noted, events⟩ := t
  obtain ⟨noted', events'⟩ := u
  cases noted <;> cases noted' <;>
    simp [extended, started_append, Nat.add_assoc, List.append_assoc]

theorem lastRun_extended (t : Trace) :
    (p.extended current t).lastRun = p.lastRun ∨ (p.extended current t).lastRun = current := by
  unfold extended
  split
  · exact .inr rfl
  · exact .inl rfl

end Past

namespace Host

def past (h : Host) : Past := ⟨h.inspector.lastRun, h.launches, h.events⟩

def withPast (p : Past) (h : Host) : Host :=
  { h with
    inspector := { h.inspector with lastRun := p.lastRun }
    launches := p.launches
    events := p.events }

@[simp] theorem withPast_past (h : Host) : h.withPast h.past = h := rfl

/-- The linter answers a process the same whenever it is started. -/
def Steady (h : Host) : Prop := ∀ m n l, h.tool m l = h.tool n l

end Host

namespace Action

variable {α β : Type} {h : Host}

/-- Whatever the past of a host, the action ends the same and adds the same to it. -/
def Heedless (h : Host) (x : Action α) : Prop :=
  ∃ answer t, ∀ p,
    x (h.withPast p) = (answer, h.withPast (p.extended h.inspector.currentOptions t))

theorem heedless_ofExcept (r : Except Fault α) : Heedless h (ofExcept r) :=
  ⟨r, ⟨false, []⟩, fun p => by rw [Past.extended_idle]; rfl⟩

theorem heedless_pure (a : α) : Heedless h (pure a) := heedless_ofExcept (.ok a)

theorem heedless_fail (fault : Fault) : Heedless h (fail fault : Action α) :=
  heedless_ofExcept (.error fault)

theorem heedless_emit {e : Event} (he : e.launch? = none) : Heedless h (emit e) := by
  refine ⟨.ok (), ⟨false, [e]⟩, fun p => ?_⟩
  have hstarted : started [e] = [] := by simp [started, he]
  rw [Past.extended, hstarted]
  rfl

theorem heedless_launch (hsteady : h.Steady) (l : Launch) : Heedless h (launch l) := by
  refine ⟨.ok (h.tool 0 l), ⟨false, [.launched l]⟩, fun p => ?_⟩
  show (Except.ok (h.tool p.launches l), _) = _
  rw [hsteady p.launches 0 l]
  rfl

theorem Heedless.bind {x : Action α} {f : α → Action β} (hx : Heedless h x)
    (hf : ∀ a, Heedless h (f a)) : Heedless h (x >>= f) := by
  obtain ⟨answer, t, happly⟩ := hx
  cases answer with
  | error fault => exact ⟨.error fault, t, fun p => bind_error (happly p) f⟩
  | ok a =>
    obtain ⟨answer, u, hthen⟩ := hf a
    refine ⟨answer, ⟨t.noted || u.noted, t.events ++ u.events⟩, fun p => ?_⟩
    rw [bind_ok (happly p), hthen, Past.extended_extended]

/-- What is read of the host must not be its past. -/
theorem heedless_host_bind {f : Host → Action α} (hread : ∀ p, f (h.withPast p) = f h)
    (hf : Heedless h (f h)) : Heedless h (host >>= f) := by
  obtain ⟨answer, t, happly⟩ := hf
  refine ⟨answer, t, fun p => ?_⟩
  show f (h.withPast p) (h.withPast p) = _
  rw [hread, happly]

theorem heedless_lint (hsteady : h.Steady) (text options path : Value) :
    Heedless h (lint text options path) := by
  refine heedless_host_bind (fun _ => rfl) ?_
  refine (heedless_ofExcept _).bind fun l => (heedless_launch hsteady l).bind fun outcome => ?_
  refine (heedless_ofExcept _).bind fun verdict => Heedless.bind ?_ fun _ => heedless_pure _
  cases verdict.complaint with
  | none => exact heedless_pure ()
  | some text => exact heedless_emit rfl

theorem heedless_runLinter (hsteady : h.Steady) (text path current : Value) (indent : Int) :
    Heedless h (runLinter text path current indent) :=
  (heedless_ofExcept _).bind fun _ => (heedless_lint hsteady _ _ _).bind fun _ =>
    heedless_ofExcept _

/-- To note a run is to take up the current options, whatever those of the last run were. -/
theorem noteRun_withPast (path : Value) (h : Host) (p : Past) :
    noteRun path (h.withPast p) =
      h.withPast (p.extended h.inspector.currentOptions
        ⟨true, [.inspecting path h.inspector.currentOptions]⟩) := rfl

theorem heedless_scanFile (hsteady : h.Steady) (text path : Value) :
    Heedless h (scanFile text path) := by
  cases text with
  | str text =>
    obtain ⟨answer, t, happly⟩ := heedless_runLinter hsteady (.str (BlankLines.emptiedText text))
      path h.inspector.currentOptions h.inspector.indentation.size
    set noted : Trace := ⟨true, [.inspecting path h.inspector.currentOptions]⟩
    refine ⟨answer, ⟨noted.noted || t.noted, noted.events ++ t.events⟩, fun p => ?_⟩
    rw [scanFile_text, noteRun_withPast, ← Past.extended_extended]
    exact happly _
  | null | bool | int | float | list | object => exact heedless_fail _

theorem heedless_consult (hsteady : h.Steady) (text path : Value) (p : Provider) :
    Heedless h (consult text path p) := by
  unfold consult
  split
  · exact heedless_scanFile hsteady text path
  · refine (heedless_emit rfl).bind fun _ => ?_
    split
    · exact heedless_pure _
    · exact heedless_fail _

theorem heedless_consultAll {ask : Provider → Action (Option Inspection)}
    (hask : ∀ p, Heedless h (ask p)) (ps : List Provider) (results : Entries (Option Inspection)) :
    Heedless h (consultAll ask ps results) := by
  induction ps generalizing results with
  | nil => exact heedless_pure _
  | cons p rest ih => exact (hask p).bind fun r => ih _

theorem heedless_inspect (hsteady : h.Steady) (language : Option String) (text path : Value) :
    Heedless h (inspect language text path) := by
  refine heedless_host_bind (fun _ => rfl) ?_
  split
  · exact heedless_consultAll (heedless_consult hsteady text path) _ _
  · exact heedless_pure _

end Action

/-- A text that is handed in for inspection. -/
structure Submission where
  language : Option String
  text : String
  path : Value

/-- What a submission comes to: the results or the fault, and the processes started for it. -/
structure Answer where
  results : Except Fault (Entries (Option Inspection))
  launches : List Launch

namespace Submission

def inspect (s : Submission) : Action (Entries (Option Inspection)) :=
  Action.inspect s.language (.str s.text) s.path

def answer (h : Host) (s : Submission) : Answer := ⟨(s.inspect h).1, started (s.inspect.recorded h)⟩

/-- Submissions are inspected in turn, also after one that ends in a fault. -/
def inspectInTurn : List Submission → Host → List Answer × Host
  | [], h => ([], h)
  | s :: rest, h =>
    let later := inspectInTurn rest (s.inspect h).2
    (s.answer h :: later.1, later.2)

variable {h : Host}

def leaves (h : Host) (t : Trace) (s : Submission) : Prop :=
  ∀ p, s.inspect (h.withPast p) =
      ((s.inspect h).1, h.withPast (p.extended h.inspector.currentOptions t)) ∧
    s.answer (h.withPast p) = s.answer h

theorem exists_leaves (hsteady : h.Steady) (s : Submission) : ∃ t, s.leaves h t := by
  obtain ⟨results, t, happly⟩ := Action.heedless_inspect hsteady s.language (.str s.text) s.path
  have hresults : (s.inspect h).1 = results := congrArg Prod.fst (happly h.past)
  have hrecorded (p : Past) : s.inspect.recorded (h.withPast p) = t.events :=
    Action.recorded_of_append (congrArg (fun r => r.2.events) (happly p))
  have hanswer (p : Past) : s.answer (h.withPast p) = ⟨results, started t.events⟩ := by
    rw [answer, hrecorded, show s.inspect (h.withPast p) = _ from happly p]
  refine ⟨t, fun p => ⟨?_, ?_⟩⟩
  · rw [hresults]
    exact happly p
  · exact (hanswer p).trans (hanswer h.past).symm

def tracesOf (trace : Submission → Trace) (submissions : List Submission) : Trace :=
  ⟨submissions.any fun s => (trace s).noted, submissions.flatMap fun s => (trace s).events⟩

theorem inspectInTurn_apply {trace : Submission → Trace} (htrace : ∀ s, leaves h (trace s) s)
    (submissions : List Submission) (p : Past) :
    inspectInTurn submissions (h.withPast p) =
      (submissions.map (answer h),
        h.withPast (p.extended h.inspector.currentOptions (tracesOf trace submissions))) := by
  induction submissions generalizing p with
  | nil =>
    rw [tracesOf, List.any_nil, List.flatMap_nil, Past.extended_idle]
    rfl
  | cons s rest ih =>
    rw [inspectInTurn, (htrace s p).1, (htrace s p).2]
    dsimp only
    rw [ih, Past.extended_extended]
    rfl

theorem tracesOf_perm (trace : Submission → Trace) {first second : List Submission}
    (hperm : first.Perm second) :
    (tracesOf trace first).noted = (tracesOf trace second).noted ∧
      (tracesOf trace first).events.Perm (tracesOf trace second).events :=
  ⟨hperm.any_eq, hperm.flatMap_right _⟩

end Submission

/-- The process asks for the linter's version, or it tells the linter the announced options. -/
def Inspector.Tells (i : Inspector) (l : Launch) : Prop :=
  l = i.engine.versionLaunch ∨ ∃ options path, i.effectiveOptions = .ok options ∧
    l.arguments = "--json" :: Flags.ofFields options ++ [Engine.filePath (Engine.fileName path)]

/-- The linter is told the announced options only, and they stay announced. -/
structure Telling (h h' : Host) : Prop where
  engine : h'.inspector.engine = h.inspector.engine
  options : h'.inspector.effectiveOptions = h.inspector.effectiveOptions
  started : StartsOnly h.inspector.Tells h h'

theorem Telling.tells {h h' : Host} (i : Telling h h') : h'.inspector.Tells = h.inspector.Tells := by
  funext l
  rw [Inspector.Tells, Inspector.Tells, i.engine, i.options]

instance : IsPreorder Host Telling where
  refl h := ⟨rfl, rfl, Std.Refl.refl h⟩
  trans _ _ _ i j := ⟨j.engine.trans i.engine, j.options.trans i.options,
    IsTrans.trans _ _ _ i.started (j.started.mono fun _ hl => i.tells ▸ hl)⟩

theorem Telling.of_settings {h h' : Host} (i : StartsOnly h.inspector.Tells h h')
    (hsettings : h'.inspector = h.inspector) : Telling h h' :=
  ⟨by rw [hsettings], by rw [hsettings], i⟩

namespace Action

variable {h : Host}

theorem emit_telling {e : Event} (he : ∀ l, e ≠ .launched l) : Keeps Telling (emit e) := fun h =>
  .of_settings (emit_startsOnly he h) rfl

theorem scanFile_telling (text path : String) :
    Keeps Telling (scanFile (.str text) (.str path)) := by
  intro h
  have hallows : Allows (Inspected fun _ => True) := inspected_allows
  have i := hallows.keeps_scanFile (.str text) (.str path) h
  refine ⟨by rw [i.settings], scanFile_effectiveOptions text _ h,
    (scanFile_startsOnly text (.str path) h).mono fun l hl => ?_⟩
  obtain ⟨options, hoptions, hlaunch⟩ := hl
  rw [Engine.eq_command_of_launch hlaunch]
  exact .inr ⟨options, path, hoptions, rfl⟩

theorem consult_telling (text path : String) (p : Provider) :
    Keeps Telling (consult (.str text) (.str path) p) := by
  unfold consult
  split
  · exact scanFile_telling text path
  · refine (emit_telling (by simp)).bind fun _ => ?_
    split
    · exact keeps_pure _
    · exact keeps_fail _

theorem inspect_telling (language : Option String) (text path : String) :
    Keeps Telling (inspect language (.str text) (.str path)) := by
  have hall (ps : List Provider) (results : Entries (Option Inspection)) :
      Keeps Telling (consultAll (consult (.str text) (.str path)) ps results) := by
    induction ps generalizing results with
    | nil => exact keeps_pure _
    | cons p rest ih => exact (consult_telling text path p).bind fun r => ih _
  refine keeps_host_bind fun h => ?_
  split
  · exact hall _ _ h
  · exact Std.Refl.refl h

theorem lintFiles_telling (files : List String) (results : Results) :
    Keeps Telling (lintFiles files results) := by
  have hfile (path : String) (results : Results) : Keeps Telling (lintFile path results) := by
    refine keeps_host_bind fun h => Keeps.bind (keeps_ofExcept _) (fun text => ?_) h
    exact (inspect_telling _ text path).bind fun _ => keeps_pure _
  induction files generalizing results with
  | nil => exact keeps_pure _
  | cons path rest ih => exact (hfile path results).bind fun _ => ih _

theorem print_telling (style markup : String) : Keeps Telling (print style markup) :=
  (keeps_ofExcept _).bind fun _ => emit_telling (by simp)

theorem isAvailable_telling : Keeps Telling isAvailable := fun h =>
  .of_settings ((launch_startsOnly (.inl rfl)) h) rfl

theorem present_telling (results : Results) : Keeps Telling (present results) := fun h => by
  refine .of_settings ⟨results.shown.2, rfl, fun l hl => absurd hl ?_⟩ rfl
  unfold Results.shown
  dsimp only
  split
  · simp
  · split <;> simp

theorem save_telling (results : Results) (output : Option String) :
    Keeps Telling (save results output) := by
  unfold save
  cases output with
  | none => exact keeps_pure ()
  | some path =>
    dsimp only
    split
    · exact keeps_pure ()
    · refine keeps_host_bind fun h => Keeps.bind (keeps_ofExcept _) (fun disk => ?_) h
      refine Keeps.bind (fun g => ?_) fun _ => print_telling _ _
      exact .of_settings (Std.Refl.refl (r := StartsOnly _) g) rfl

theorem lintFound_telling (a : LintArguments) : Keeps Telling (lintFound a) := by
  refine keeps_host_bind fun h => Keeps.bind (keeps_ofExcept _) (fun files => ?_) h
  split
  · exact (print_telling _ _).bind fun _ => keeps_pure _
  · refine (lintFiles_telling _ _).attempt.bind fun r => ?_
    cases r with
    | error fault => exact (print_telling _ _).bind fun _ => keeps_pure _
    | ok results =>
      exact (present_telling results).bind fun _ => (save_telling results _).bind fun _ =>
        keeps_pure _

theorem lintPrepared_telling (a : LintArguments) : Keeps Telling (lintPrepared a) := by
  refine isAvailable_telling.bind fun available => ?_
  split
  · exact lintFound_telling a
  · exact (print_telling _ _).bind fun _ => keeps_pure _

theorem onConfig_startsOnly {α : Type} {P : Launch → Prop}
    (event : Disk → ProjectConfig → Reaction α) : Keeps (StartsOnly P) (onConfig event) := fun h =>
  ⟨(event h.disk h.inspector.config).complaints.map .complained, rfl, by simp⟩

theorem prepare_startsOnly {P : Launch → Prop} (project : Option String) (options : Option Fields)
    (indentation : Indentation) (executable : String) :
    Keeps (StartsOnly P) (prepare project options indentation executable) := by
  intro h
  rw [prepare_apply]
  refine (onConfig_startsOnly _).bind (fun _ => ?_) (equipped options indentation executable h)
  cases project with
  | none => exact keeps_pure ()
  | some root => exact onConfig_startsOnly _

theorem lintCommand_startsOnly (a : LintArguments) (h : Host) :
    ∃ flags, StartsOnly (fun l => l = a.engine.versionLaunch ∨ ∃ path,
      l.arguments = "--json" :: flags ++ [Engine.filePath (Engine.fileName path)])
      h (lintCommand a h).2 := by
  set g := (prepare (some a.project) a.options (commandIndentation a.indent a.useTabs)
    a.executable h).2 with hg
  have hlints := (prepare_lints (some a.project) a.options
    (commandIndentation a.indent a.useTabs) a.executable h).1
  refine ⟨(g.inspector.effectiveOptions.map Flags.ofFields).toOption.getD [], ?_⟩
  have hprepared := prepare_startsOnly (some a.project) a.options
    (commandIndentation a.indent a.useTabs) a.executable (P := g.inspector.Tells) h
  have hcommand : StartsOnly g.inspector.Tells h (lintCommand a h).2 := by
    rw [lintCommand_eq]
    rcases bind_snd (prepare (some a.project) a.options
      (commandIndentation a.indent a.useTabs) a.executable) (fun _ => lintPrepared a) h with e | ⟨_, e⟩
    · rw [e]
      exact hprepared
    · rw [e]
      exact IsTrans.trans _ _ _ hprepared (lintPrepared_telling a g).started
  refine hcommand.mono fun l hl => ?_
  rcases hl with hversion | ⟨options, path, hoptions, harguments⟩
  · exact .inl (hversion.trans (by rw [hlints.engine]; rfl))
  · refine .inr ⟨path, ?_⟩
    rw [harguments, hoptions]
    rfl

end Action

namespace Submission

variable {h : Host}

/-- Where the linter answers the same at any time, submissions get the same answers in any order, those
that each would get alone, and the host is left the same but for the order of the record; at most the
options of the last run are new. All processes that inspect files for one command carry the same
flags. -/
theorem inspection_order_does_not_matter (hsteady : h.Steady) {first second : List Submission}
    (hperm : first.Perm second) :
    (inspectInTurn first h).1 = first.map (answer h) ∧
      (inspectInTurn second h).1 = second.map (answer h) ∧
      (∃ lastRun more more', more'.Perm more ∧
        (lastRun = h.inspector.lastRun ∨ lastRun = h.inspector.currentOptions) ∧
        (inspectInTurn first h).2 =
          { h with
            inspector := { h.inspector with lastRun := lastRun }
            launches := h.launches + (started more).length
            events := h.events ++ more } ∧
        (inspectInTurn second h).2 =
          { (inspectInTurn first h).2 with events := h.events ++ more' }) ∧
      ∀ (a : LintArguments) (g : Host), ∃ flags, ∀ l ∈ started ((Action.lintCommand a).recorded g),
        l = a.engine.versionLaunch ∨ ∃ path,
          l.arguments = "--json" :: flags ++ [Engine.filePath (Engine.fileName path)] := by
  choose trace htrace using exists_leaves (h := h) hsteady
  have happly (submissions : List Submission) := inspectInTurn_apply htrace submissions h.past
  simp only [Host.withPast_past] at happly
  obtain ⟨hnoted, hevents⟩ := tracesOf_perm trace hperm
  refine ⟨by rw [happly], by rw [happly], ⟨_, (tracesOf trace first).events,
    (tracesOf trace second).events, hevents.symm, Past.lastRun_extended _, by rw [happly]; rfl, ?_⟩,
    fun a g => ?_⟩
  · have hcount : (started (tracesOf trace second).events).length =
        (started (tracesOf trace first).events).length :=
      (hevents.symm.filterMap Event.launch?).length_eq
    rw [happly, happly]
    simp only [Past.extended, hcount, hnoted]
    rfl
  · obtain ⟨flags, more, hmore, hflags⟩ := Action.lintCommand_startsOnly a g
    rw [Action.recorded_of_append hmore]
    exact ⟨flags, fun l hl => hflags l (launched_mem_of_started hl)⟩

def script : Submission := ⟨some "javascript", "x", .str "/a.js"⟩

def upward : Submission := ⟨some "json", "y", .str "/.."⟩

def sheet : Submission := ⟨some "css", "z", .str "/a.css"⟩

/-- A submission that ends in a fault changes nothing for the others. -/
theorem inspection_order_does_not_matter_with_fault :
    (upward.answer Host.bareEditor).results = .error (.file .isFolder "<tmp>/..") ∧
      (inspectInTurn [script, upward, sheet] Host.bareEditor).1 =
        [script, upward, sheet].map (answer Host.bareEditor) ∧
      (inspectInTurn [sheet, upward, script] Host.bareEditor).1 =
        [sheet, upward, script].map (answer Host.bareEditor) ∧
      (inspectInTurn [sheet, upward, script] Host.bareEditor).2.inspector =
        (inspectInTurn [script, upward, sheet] Host.bareEditor).2.inspector := by
  have hsteady : Host.bareEditor.Steady := fun _ _ _ => rfl
  have hperm : [script, upward, sheet].Perm [sheet, upward, script] :=
    (List.reverse_perm [script, upward, sheet]).symm
  obtain ⟨hfirst, hsecond, ⟨_, _, _, -, -, -, hleft⟩, -⟩ :=
    inspection_order_does_not_matter hsteady hperm
  exact ⟨by decide +kernel, hfirst, hsecond, by rw [hleft]⟩

end Submission

end LintRelay
