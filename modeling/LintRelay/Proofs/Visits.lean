import LintRelay.Proofs.Coverage
import LintRelay.Proofs.EngineBoundary
import LintRelay.Proofs.Switch

/-!
# Visits to documents

Work is what starts a process or publishes diagnostics. A document that is visited costs at most one
process, on its own text, and at most one list is published at its address. Every handler of an editor
session visits all open documents, in the order in which they were opened, or one document, or none:
what asks for a run does so once, and no document is visited a second time.
-/
namespace LintRelay

def Event.isWork : Event → Bool
  | launched _ => true
  | published _ _ => true
  | _ => false

/-- The record has grown, and the work in it has a property. -/
def Works (P : List Event → Prop) (h h' : Host) : Prop :=
  ∃ more, h'.events = h.events ++ more ∧ P (more.filter Event.isWork)

abbrev Idle : Host → Host → Prop := Works (· = [])

/-- A process on the text of a document, which reaches the linter under the name of its file. -/
def RunsOn (s : Subject) (l : Launch) : Prop :=
  l.arguments.getLast? = some (Engine.filePath (Engine.fileName s.path)) ∧
    ∀ text, s.text = some text → l.text = some (BlankLines.emptiedText text)

/-- At most one process for a document. -/
def Processed (s : Subject) (work : List Event) : Prop :=
  ∃ process : Option Launch, (∀ l ∈ process, RunsOn s l) ∧ work = process.toList.map .launched

/-- After at most one process, at most one list of diagnostics for a document. -/
def Visit (s : Subject) (work : List Event) : Prop :=
  ∃ (process : Option Launch) (publication : Option (List Diagnostic)),
    (∀ l ∈ process, RunsOn s l) ∧
      work = process.toList.map .launched ++ publication.toList.map (.published s.uri)

def Visits (subjects : List Subject) (work : List Event) : Prop :=
  ∃ visits, List.Forall₂ Visit subjects visits ∧ work = visits.flatten

def Host.openSubjects (h : Host) : List Subject := h.documents.map fun p => .ofDocument p.1 p.2

/-- All open documents in the order of their opening, or one document at most. -/
def Tour (h : Host) (work : List Event) : Prop :=
  ∃ subjects, (subjects.map Subject.uri).Nodup ∧
    (subjects = h.openSubjects ∨ subjects.length ≤ 1) ∧ Visits subjects work

namespace Works

variable {P Q : List Event → Prop} {h g h' : Host}

theorem mono (w : Works P h h') (hPQ : ∀ work, P work → Q work) : Works Q h h' := by
  obtain ⟨more, hmore, hP⟩ := w
  exact ⟨more, hmore, hPQ _ hP⟩

theorem append {S : List Event → Prop} (w : Works P h g) (w' : Works Q g h')
    (hS : ∀ a b, P a → Q b → S (a ++ b)) : Works S h h' := by
  obtain ⟨more, hmore, hP⟩ := w
  obtain ⟨later, hlater, hQ⟩ := w'
  refine ⟨more ++ later, by rw [hlater, hmore, List.append_assoc], ?_⟩
  rw [List.filter_append]
  exact hS _ _ hP hQ

theorem after_idle (w : Works P g h') (i : Idle h g) : Works P h h' :=
  i.append w fun _ _ ha hb => by rwa [ha]

theorem before_idle (w : Works P h g) (i : Idle g h') : Works P h h' :=
  w.append i fun _ _ ha hb => by rwa [hb, List.append_nil]

end Works

instance : IsPreorder Host Idle where
  refl h := ⟨[], (List.append_nil h.events).symm, rfl⟩
  trans _ _ _ i j := j.after_idle i

theorem Visit.nil (s : Subject) : Visit s [] := ⟨none, none, by simp, rfl⟩

theorem Visits.nil (subjects : List Subject) : Visits subjects [] := by
  induction subjects with
  | nil => exact ⟨[], .nil, rfl⟩
  | cons s rest ih =>
    obtain ⟨visits, hvisits, hwork⟩ := ih
    exact ⟨[] :: visits, .cons (Visit.nil s) hvisits, hwork⟩

theorem Visits.cons {s : Subject} {rest : List Subject} {a b : List Event} (ha : Visit s a)
    (hb : Visits rest b) : Visits (s :: rest) (a ++ b) := by
  obtain ⟨visits, hvisits, rfl⟩ := hb
  exact ⟨a :: visits, .cons ha hvisits, rfl⟩

theorem Visit.tour {s : Subject} {work : List Event} (hv : Visit s work) (h : Host) :
    Tour h work := by
  have hone := Visits.cons hv (Visits.nil [])
  rw [List.append_nil] at hone
  exact ⟨[s], by simp, .inr (Nat.le_refl 1), hone⟩

theorem tour_nil (h : Host) : Tour h [] := ⟨[], .nil, .inr (Nat.zero_le 1), Visits.nil []⟩

def publishedAt (uri : String) (work : List Event) : List Event :=
  work.filter fun e => (e.publishedTo? uri).isSome

theorem Visit.length_publishedAt {s : Subject} {work : List Event} (hv : Visit s work) (uri : String) :
    (publishedAt uri work).length ≤ if s.uri = uri then 1 else 0 := by
  obtain ⟨process, publication, -, rfl⟩ := hv
  have hprocess : publishedAt uri (process.toList.map .launched) = [] := by
    cases process <;> simp [publishedAt, Event.publishedTo?]
  rw [publishedAt, List.filter_append, ← publishedAt, ← publishedAt, hprocess, List.nil_append]
  by_cases hu : s.uri = uri
  · cases publication <;> simp [publishedAt, Event.publishedTo?, hu]
  · cases publication <;> simp [publishedAt, Event.publishedTo?, hu]

/-- Documents at different addresses are published for at most once each. -/
theorem Visits.published_once {subjects : List Subject} {work : List Event}
    (hnodup : (subjects.map Subject.uri).Nodup) (hv : Visits subjects work) (uri : String) :
    (publishedAt uri work).length ≤ 1 := by
  have hcount : (publishedAt uri work).length ≤ (subjects.map Subject.uri).count uri := by
    obtain ⟨visits, hvisits, rfl⟩ := hv
    clear hnodup
    induction hvisits with
    | nil => simp [publishedAt]
    | @cons s a rest more ha hrest ih =>
      have hfirst := ha.length_publishedAt uri
      rw [List.flatten_cons, publishedAt, List.filter_append, List.length_append, List.map_cons,
        List.count_cons]
      simp only [beq_iff_eq]
      rw [Nat.add_comm]
      exact Nat.add_le_add ih hfirst
  exact Nat.le_trans hcount (List.nodup_iff_count.1 hnodup uri)

namespace Action

theorem emit_idle {e : Event} (he : e.isWork = false) : Keeps Idle (emit e) := fun _ =>
  ⟨[e], rfl, by simp [he]⟩

theorem onConfig_idle {α : Type} (event : Disk → ProjectConfig → Reaction α) :
    Keeps Idle (onConfig event) := fun h => by
  refine ⟨(event h.disk h.inspector.config).complaints.map .complained, rfl, ?_⟩
  simp [Event.isWork]

theorem update_idle {f : Host → Host} (hf : ∀ h, (f h).events = h.events) : Keeps Idle (update f) :=
  fun h => ⟨[], (hf h).trans (List.append_nil h.events).symm, rfl⟩

theorem deliver_idle (verdict : Verdict) : Keeps Idle (deliver verdict) :=
  keeps_deliver (fun _ => emit_idle rfl) verdict

theorem bind_works {α β : Type} {P : List Event → Prop} {x : Action α} {f : α → Action β} {h : Host}
    (hx : Works P h (x h).2) (hf : ∀ a, Keeps Idle (f a)) : Works P h ((x >>= f) h).2 := by
  rcases bind_snd x f h with e | ⟨a, e⟩ <;> rw [e]
  · exact hx
  · exact hx.before_idle (hf a _)

theorem lint_works (text path : String) (options : Fields) (h : Host) :
    Works (fun work => work = [] ∨
        work = [.launched (h.inspector.engine.command text options path)])
      h (lint (.str text) (.object options) (.str path) h).2 := by
  rw [lint_apply]
  cases hl : h.inspector.engine.launch (.str text) (.object options) (.str path) with
  | error fault =>
    rw [ofExcept_bind_error rfl]
    exact ⟨[], (List.append_nil _).symm, .inl rfl⟩
  | ok l =>
    obtain rfl := Engine.eq_command_of_launch hl
    rw [ofExcept_bind_ok rfl]
    have hstarted : Works (fun work =>
        work = [.launched (h.inspector.engine.command text options path)]) h
          (launching (h.inspector.engine.command text options path) h) :=
      ⟨[.launched _], rfl, rfl⟩
    have hconcluded (outcome : Outcome) : Keeps Idle
        (ofExcept (h.inspector.engine.conclude h.disk.room (Value.str path).text outcome) >>= deliver) :=
      (keeps_ofExcept _).bind deliver_idle
    exact (hstarted.before_idle (hconcluded _ _)).mono fun _ => .inr

theorem scanFile_works (s : Subject) {text : String} (htext : ∀ t, s.text = some t → text = t)
    (h : Host) : Works (Processed s) h (scanFile (.str text) (.str s.path) h).2 := by
  have hnoted : Idle h (noteRun (.str s.path) h) := ⟨[.inspecting (.str s.path) _], rfl, rfl⟩
  rw [scanFile_text]
  refine Works.after_idle ?_ hnoted
  generalize noteRun (.str s.path) h = g
  unfold runLinter
  have hnone : Works (Processed s) g g := ⟨[], (List.append_nil _).symm, none, by simp, rfl⟩
  cases hoptions : LintOptions.normalize h.inspector.currentOptions
      (.int h.inspector.indentation.size) with
  | error fault =>
    rw [ofExcept_bind_error rfl]
    exact hnone
  | ok options =>
    rw [ofExcept_bind_ok rfl]
    have hlint : Works (Processed s) g
        (lint (.str (BlankLines.emptiedText text)) (.object options) (.str s.path) g).2 := by
      refine (lint_works _ _ _ g).mono fun work hwork => ?_
      rcases hwork with rfl | rfl
      · exact ⟨none, by simp, rfl⟩
      · refine ⟨some _, fun l hl => ?_, rfl⟩
        obtain rfl : Engine.command _ _ _ _ = l := by simpa using hl
        refine ⟨?_, fun t ht => by rw [Engine.command, htext t ht]⟩
        exact List.getLast?_concat
    exact bind_works hlint fun report => keeps_ofExcept _

end Action

/-- The linter is the only provider there is, and for no language is it registered twice. -/
def Registry.LintsOnce (r : Registry) : Prop :=
  ∀ language, r.providersFor language = [] ∨ r.providersFor language = [⟨Inspector.name, .linter⟩]

namespace Action

theorem inspectSubject_works (s : Subject) {h : Host} (hr : h.registry.LintsOnce) :
    Works (Processed s) h (inspectSubject s h).2 := by
  have hnone (g : Host) : Works (Processed s) g g :=
    ⟨[], (List.append_nil _).symm, none, by simp, rfl⟩
  unfold inspectSubject
  cases hsource : (sourceText s h).1 with
  | error fault =>
    rw [bind_error (Prod.ext hsource (sourceText_snd s h))]
    exact hnone h
  | ok text =>
    have htext : ∀ t, s.text = some t → text = t := fun t ht => by
      unfold sourceText at hsource
      rw [ht] at hsource
      exact (Except.ok.inj hsource).symm
    rw [bind_ok (Prod.ext hsource (sourceText_snd s h))]
    show Works (Processed s) h
      ((if h.registry.enabled then
        consultAll (consult (.str text) (.str s.path)) (h.registry.providersFor s.languageId) []
        else return []) h).2
    split
    · rcases hr s.languageId with e | e <;> rw [e]
      · exact hnone h
      · have hscan : Works (Processed s) h
            (consult (.str text) (.str s.path) ⟨Inspector.name, .linter⟩ h).2 :=
          scanFile_works s htext h
        exact bind_works hscan fun _ => keeps_pure _
    · exact hnone h

theorem publishOutcome_works (s : Subject) (r : Except Fault (Entries (Option Inspection))) (h : Host) :
    Works (fun work => ∃ publication : Option (List Diagnostic),
        work = publication.toList.map (.published s.uri))
      h (publishOutcome s r h).2 := by
  cases r with
  | error fault => exact ⟨[_], rfl, none, rfl⟩
  | ok results =>
    unfold publishOutcome
    dsimp only
    cases Diagnostic.ofResults results with
    | error fault =>
      rw [ofExcept_bind_error rfl]
      exact ⟨[], (List.append_nil _).symm, none, rfl⟩
    | ok diagnostics =>
      rw [ofExcept_bind_ok rfl]
      exact ⟨[.published s.uri diagnostics], rfl, some diagnostics, rfl⟩

theorem publishSubject_visit (s : Subject) {h : Host} (hr : h.registry.LintsOnce) :
    Works (Visit s) h (publishSubject s h).2 := by
  rw [publishSubject_apply]
  split
  · exact ⟨[], (List.append_nil _).symm, Visit.nil s⟩
  · refine (inspectSubject_works s hr).append (publishOutcome_works s _ _) ?_
    rintro _ _ ⟨process, hprocess, rfl⟩ ⟨publication, rfl⟩
    exact ⟨process, publication, hprocess, rfl⟩

/-- Visits in a row. The property of the host that they need is kept from one to the next; where one
breaks off, the later ones cost nothing. -/
theorem each_visits {α : Type} {act : α → Action Unit} {subject : α → Subject} {P : Host → Prop}
    {items : List α}
    (hact : ∀ a ∈ items, ∀ g, P g → Works (Visit (subject a)) g (act a g).2 ∧ P (act a g).2)
    {h : Host} (hP : P h) : Works (Visits (items.map subject)) h (each act items h).2 := by
  induction items generalizing h with
  | nil => exact ⟨[], (List.append_nil _).symm, Visits.nil []⟩
  | cons a rest ih =>
    obtain ⟨hfirst, hnext⟩ := hact a List.mem_cons_self h hP
    cases ha : (act a h).1 with
    | ok u =>
      rw [each_cons_ok ha]
      have hrest := ih (fun b hb => hact b (List.mem_cons_of_mem a hb)) hnext
      exact hfirst.append hrest fun _ _ => Visits.cons
    | error fault =>
      rw [each_cons_error ha]
      refine hfirst.mono fun work hwork => ?_
      rw [← List.append_nil work]
      exact Visits.cons hwork (Visits.nil _)

theorem rerunOpenDocuments_visits {h : Host} (hr : h.registry.LintsOnce) :
    Works (Visits h.openSubjects) h (rerunOpenDocuments h).2 :=
  each_visits (P := fun g => g.registry.LintsOnce) (fun _ _ g hg =>
    ⟨publishSubject_visit _ hg, (publishSubject_anywhere _ g).registry ▸ hg⟩) hr

theorem clearOpenDocuments_visits (h : Host) :
    Works (Visits h.openSubjects) h (clearOpenDocuments h).2 :=
  each_visits (P := fun _ => True) (fun p _ _ _ =>
    ⟨⟨[.published p.1 []], rfl, none, some [], by simp, rfl⟩, trivial⟩) trivial

end Action

/-- What holds between two messages of a session whose inspector was registered once. -/
structure Host.ServesOnce (h : Host) : Prop where
  lints : h.registry.LintsOnce
  watched : h.inspector.watchers = 1
  distinct : (Entries.names h.documents).Nodup

theorem Host.uris_openSubjects (h : Host) :
    h.openSubjects.map Subject.uri = Entries.names h.documents := by
  rw [openSubjects, List.map_map]
  rfl

theorem Tour.of_documents {h h' : Host} {work : List Event} (ht : Tour h work)
    (hdocuments : h'.documents = h.documents) : Tour h' work := by
  have hsame : h'.openSubjects = h.openSubjects := by
    rw [Host.openSubjects, hdocuments, Host.openSubjects]
  rw [Tour, hsame]
  exact ht

theorem Visits.tour {h : Host} {work : List Event} (hs : h.ServesOnce)
    (hv : Visits h.openSubjects work) : Tour h work :=
  ⟨h.openSubjects, by rw [h.uris_openSubjects]; exact hs.distinct, .inl rfl, hv⟩

theorem Unswitched.servesOnce {h h' : Host} (i : Unswitched h h')
    (hdistinct : (Entries.names h'.documents).Nodup) (hs : h.ServesOnce) : h'.ServesOnce :=
  ⟨by rw [i.registry]; exact hs.lints, i.watchers.trans hs.watched, hdistinct⟩

theorem Inspected.servesOnce {addressed : String → Prop} {h h' : Host} (i : Inspected addressed h h')
    (hs : h.ServesOnce) : h'.ServesOnce :=
  ⟨by rw [i.registry]; exact hs.lints, i.watchers.trans hs.watched, by rw [i.documents]; exact hs.distinct⟩

theorem Orderly.servesOnce {other : String → Prop} {h h' : Host} (i : Orderly other h h')
    (hs : h.ServesOnce) : h'.ServesOnce :=
  i.toUnswitched.servesOnce (by rw [i.documents]; exact hs.distinct) hs

/-- The handler visits all open documents or one document or none. -/
def Action.Tours (x : Action Unit) (h : Host) : Prop := Works (Tour (x h).2) h (x h).2

namespace Action

variable {α : Type} {h : Host}

theorem tours_of_idle {x : Action Unit} (hx : Idle h (x h).2) : Tours x h :=
  hx.mono fun _ hwork => hwork ▸ tour_nil _

theorem tours_of_visit {x : Action Unit} {s : Subject} (hx : Works (Visit s) h (x h).2) : Tours x h :=
  hx.mono fun _ hv => hv.tour _

theorem tours_bind {x : Action α} {f : α → Action Unit} (hs : h.ServesOnce) (hidle : Keeps Idle x)
    (horderly : Keeps (Orderly fun _ => True) x) (hf : ∀ a g, g.ServesOnce → Tours (f a) g) :
    Tours (x >>= f) h := by
  have hi := hidle h
  have hg := (horderly h).servesOnce hs
  unfold Tours
  cases e : x h with
  | mk r g =>
    rw [e] at hi hg
    cases r with
    | error fault =>
      rw [bind_error e]
      exact hi.mono fun _ hwork => hwork ▸ tour_nil _
    | ok a =>
      rw [bind_ok e]
      exact (hf a g hg).after_idle hi

theorem Tours.bind {x : Action Unit} {f : Unit → Action Unit} (hx : Tours x h)
    (hidle : ∀ a, Keeps Idle (f a)) (horderly : ∀ a, Keeps (Orderly fun _ => True) (f a)) :
    Tours (x >>= f) h := by
  unfold Tours
  rcases bind_snd x f h with e | ⟨a, e⟩ <;> rw [e]
  · exact hx
  · exact (hx.mono fun _ ht => ht.of_documents (horderly a _).documents).before_idle (hidle a _)

theorem rerunOpenDocuments_tours (hs : h.ServesOnce) : Tours rerunOpenDocuments h :=
  (rerunOpenDocuments_visits hs.lints).mono fun _ hv =>
    (hv.tour hs).of_documents (rerunOpenDocuments_anywhere h).documents

theorem setPreferences_tours (hs : h.ServesOnce) (options : Value) :
    Tours (setPreferences rerunForEditor options) h := by
  refine tours_bind hs (update_idle fun _ => rfl)
    (updateInspector_orderly (fun _ => rfl) (fun _ => rfl) fun _ => rfl) fun _ g hg => ?_
  have hchanged : Tours (preferencesChanged rerunForEditor) g := by
    show Tours (fun g => (if Value.same g.inspector.preferences g.inspector.lastRun then pure ()
      else rerunOpenDocuments : Action Unit) g) g
    unfold Tours
    dsimp only
    split
    · exact tours_of_idle (x := pure ()) (keeps_pure () g)
    · exact rerunOpenDocuments_tours hg
  show Tours (times g.inspector.watchers (preferencesChanged rerunForEditor)) g
  rw [hg.watched]
  exact hchanged.bind (fun _ => keeps_pure ()) fun _ => keeps_pure ()

theorem applyIndentation_idle (section? : Option Value) : Keeps Idle (applyIndentation section?) := by
  unfold applyIndentation
  split
  · exact keeps_pure ()
  · exact (keeps_ofExcept _).bind fun _ => update_idle fun _ => rfl

theorem applyExecutable_idle (executable : Value) : Keeps Idle (applyExecutable executable) := by
  unfold applyExecutable
  split
  · exact update_idle fun _ => rfl
  · exact keeps_pure ()

theorem applySection_tours (hs : h.ServesOnce) (fields : Fields) : Tours (applySection fields) h := by
  unfold applySection
  refine tours_bind hs (applyIndentation_idle _) (applyIndentation_orderly _) fun _ g hg => ?_
  refine tours_bind hg (applyExecutable_idle _) (applyExecutable_orderly _) fun _ g hg => ?_
  unfold applyOptions
  split
  · exact tours_of_idle (keeps_pure () g)
  · exact setPreferences_tours hg _

theorem applySettings_tours (hs : h.ServesOnce) (settings : Value) :
    Tours (applySettings settings) h := by
  have hnone : Tours (pure ()) h := tours_of_idle (keeps_pure () h)
  unfold applySettings
  split
  · split
    · split
      · exact applySection_tours hs _
      · exact hnone
    · exact tours_of_idle (keeps_fail _ h)
  · exact hnone

theorem openFolder_idle (uri : String) : Keeps Idle (openFolder uri) := by
  unfold openFolder
  refine (keeps_ofExcept _).bind fun root => ?_
  split
  · exact keeps_pure ()
  · exact (onConfig_idle _).bind fun _ => emit_idle rfl

theorem initialized_tours (hs : h.ServesOnce) (options : Value) (root : String)
    (folders : List String) : Tours (initialized options root folders) h := by
  unfold initialized
  refine (applySettings_tours hs options).bind (fun _ => ?_) fun _ => ?_
  · split
    · exact openFolder_idle root
    · cases folders with
      | nil => exact keeps_pure ()
      | cons folder rest => exact openFolder_idle folder
  · split
    · exact openFolder_orderly root
    · cases folders with
      | nil => exact keeps_pure ()
      | cons folder rest => exact openFolder_orderly folder

theorem opened_tours (hs : h.ServesOnce) (uri language text : String) :
    Tours (opened uri language text) h := by
  unfold Tours
  rw [opened_apply]
  cases Uri.path uri with
  | error fault => exact ⟨[], (List.append_nil _).symm, tour_nil _⟩
  | ok path =>
    set d : Document := ⟨path, language, text⟩
    set g : Host := { h with documents := Entries.put uri d h.documents }
    obtain ⟨more, hmore, hv⟩ := publishSubject_visit (.ofDocument uri d) (h := g) hs.lints
    exact ⟨more, hmore, hv.tour _⟩

theorem changed_tours (uri text : String) (h : Host) : Tours (changed uri text) h := by
  refine tours_of_idle (Keeps.bind (R := Idle) (x := host) (fun h => Std.Refl.refl h) (fun g => ?_) h)
  cases Entries.get? uri g.documents with
  | some d => exact update_idle fun _ => rfl
  | none => exact keeps_fail _

theorem closed_tours (uri : String) (h : Host) : Tours (closed uri) h :=
  tours_of_visit (s := ⟨uri, "", "", none⟩)
    ⟨[.published uri []], rfl, none, some [], by simp, rfl⟩

theorem saved_tours (hs : h.ServesOnce) (uri : String) : Tours (saved uri) h := by
  unfold saved
  rcases subjectFor_cases uri h with ⟨s, -, e⟩ | ⟨fault, e⟩
  · unfold Tours
    rw [bind_ok e]
    refine tours_bind hs (onConfig_idle _) (documentSaved_orderly _) fun reloaded g hg => ?_
    cases reloaded with
    | true => exact rerunOpenDocuments_tours hg
    | false => exact tours_of_visit (publishSubject_visit s hg.lints)
  · unfold Tours
    rw [bind_error e]
    exact ⟨[], (List.append_nil _).symm, tour_nil _⟩

theorem foldersAdded_tours (hs : h.ServesOnce) (folders : List String) :
    Tours (foldersAdded folders) h := by
  cases folders with
  | nil => exact tours_of_idle (keeps_pure () h)
  | cons folder rest =>
    exact tours_bind hs (openFolder_idle folder) (openFolder_orderly folder) fun _ g hg =>
      rerunOpenDocuments_tours hg

theorem reloadChanged_idle (uris : List String) : Keeps Idle (reloadChanged uris) := by
  induction uris with
  | nil => exact keeps_pure false
  | cons uri rest ih =>
    rw [reloadChanged_cons]
    refine (keeps_ofExcept _).bind fun path => Keeps.bind ?_ fun first => ?_
    · split
      · exact keeps_pure false
      · exact onConfig_idle _
    · exact ih.bind fun later => keeps_pure _

theorem filesChanged_tours (hs : h.ServesOnce) (uris : List String) : Tours (filesChanged uris) h := by
  refine tours_bind hs (reloadChanged_idle uris) (reloadChanged_orderly uris) fun reloaded g hg => ?_
  cases reloaded with
  | true => exact rerunOpenDocuments_tours hg
  | false => exact tours_of_idle (keeps_pure () g)

theorem tellFollower_idle (enabled : Bool) (f : Follower) : Keeps Idle (tellFollower enabled f) := by
  cases f with
  | host => exact emit_idle rfl
  | projectConfig => exact onConfig_idle _

theorem toggle_idle (wanted : Option Bool) : Keeps Idle (toggle wanted) := by
  intro h
  rw [toggle_snd]
  have hswitched : Idle h (h.switched (wanted.getD !h.registry.enabled)) :=
    ⟨[], (List.append_nil _).symm, rfl⟩
  exact (keeps_each (fun f _ => tellFollower_idle _ f) _ : Idle _ _).after_idle hswitched

theorem toggle_servesOnce (hs : h.ServesOnce) (wanted : Option Bool) :
    (toggle wanted h).2.ServesOnce := by
  have htold := toggle_told wanted h
  refine ⟨?_, htold.watchers.trans hs.watched, ?_⟩
  · rw [htold.registry]
    exact hs.lints
  · rw [htold.documents]
    exact hs.distinct

theorem switchOver_tours (hs : h.ServesOnce) : Tours (ignore switchOver) h := by
  unfold Tours
  rw [ignore_snd, switchOver_eq]
  have hidle := toggle_idle none h
  have hg := toggle_servesOnce hs none
  cases e : toggle none h with
  | mk r g =>
    rw [e] at hidle hg
    cases r with
    | error fault =>
      rw [bind_error e]
      exact hidle.mono fun _ hwork => hwork ▸ tour_nil _
    | ok enabled =>
      rw [bind_ok e, bind_pure_snd]
      refine Works.after_idle ?_ hidle
      cases enabled with
      | true => exact rerunOpenDocuments_tours hg
      | false =>
        have hcleared : Orderly (fun _ => True) g (clearOpenDocuments g).2 :=
          clearOpenDocuments_orderly g
        exact (clearOpenDocuments_visits g).mono fun _ hv =>
          (hv.tour hg).of_documents hcleared.documents

theorem handle_tours (m : Message) (hs : h.ServesOnce) : Tours m.handle h := by
  cases m with
  | initialized options root folders => exact initialized_tours hs _ _ _
  | opened uri language text => exact opened_tours hs _ _ _
  | changed uri text => exact changed_tours _ _ h
  | saved uri => exact saved_tours hs _
  | closed uri => exact closed_tours _ h
  | configured settings => exact applySettings_tours hs _
  | foldersAdded folders => exact foldersAdded_tours hs _
  | filesChanged uris => exact filesChanged_tours hs _
  | switchedOver => exact switchOver_tours hs

end Action

namespace Host.ServesOnce

variable {h : Host}

theorem withDocuments (hs : h.ServesOnce) {documents : Entries Document}
    (hdistinct : (Entries.names documents).Nodup) :
    ServesOnce { h with documents := documents } := ⟨hs.lints, hs.watched, hdistinct⟩

theorem names_erase_sublist {α : Type} (name : String) (entries : Entries α) :
    (Entries.names (Entries.erase name entries)).Sublist (Entries.names entries) := by
  induction entries with
  | nil => exact .slnil
  | cons p rest ih =>
    unfold Entries.erase
    split
    · exact List.sublist_cons_self _ _
    · exact ih.cons_cons _

theorem opened (hs : h.ServesOnce) (uri language text : String) :
    (Action.opened uri language text h).2.ServesOnce := by
  rw [Action.opened_apply]
  cases Uri.path uri with
  | error fault => exact hs
  | ok path =>
    have hput := hs.withDocuments (Entries.nodup_names_put uri ⟨path, language, text⟩ hs.distinct)
    have hpublished := Action.publishSubject_anywhere (.ofDocument uri ⟨path, language, text⟩)
      { h with documents := Entries.put uri ⟨path, language, text⟩ h.documents }
    exact hpublished.servesOnce hput

theorem changed (hs : h.ServesOnce) (uri text : String) :
    (Action.changed uri text h).2.ServesOnce := by
  unfold Action.changed
  refine Action.keeps_host_bind (R := Action.Stays ServesOnce) (fun h hs => ?_) h hs
  cases Entries.get? uri h.documents with
  | none => exact hs
  | some d => exact hs.withDocuments (Entries.nodup_names_put uri _ hs.distinct)

theorem closed (hs : h.ServesOnce) (uri : String) : (Action.closed uri h).2.ServesOnce := by
  have herased := hs.withDocuments (hs.distinct.sublist (names_erase_sublist uri h.documents))
  exact ⟨herased.lints, herased.watched, herased.distinct⟩

theorem switchOver (hs : h.ServesOnce) : (Action.ignore Action.switchOver h).2.ServesOnce := by
  rw [Action.ignore_snd, Action.switchOver_eq]
  refine Action.bind_stays (Action.toggle_servesOnce hs none) fun enabled => ?_
  refine Action.Keeps.bind ?_ fun _ => Action.keeps_pure _
  have hrest : Action.Keeps (Orderly fun _ => True)
      (if enabled then Action.rerunOpenDocuments else Action.clearOpenDocuments) := by
    split
    · exact Action.rerunOpenDocuments_orderly
    · exact Action.clearOpenDocuments_orderly
  exact hrest.mono fun _ _ i => i.servesOnce

theorem handle (hs : h.ServesOnce) (m : Message) : (m.handle h).2.ServesOnce := by
  have hkept {x : Action Unit} (hx : Action.Keeps (Orderly fun _ => True) x) : (x h).2.ServesOnce :=
    (hx h).servesOnce hs
  cases m with
  | initialized options root folders => exact hkept (Action.initialized_orderly _ _ _)
  | opened uri language text => exact hs.opened _ _ _
  | changed uri text => exact hs.changed _ _
  | saved uri => exact (Action.saved_orderly uri h).servesOnce hs
  | closed uri => exact hs.closed _
  | configured settings => exact hkept (Action.applySettings_orderly _)
  | foldersAdded folders => exact hkept (Action.foldersAdded_orderly _)
  | filesChanged uris => exact hkept (Action.filesChanged_orderly _)
  | switchedOver => exact hs.switchOver

end Host.ServesOnce

theorem EditorStep.perform_servesOnce (s : EditorStep) :
    Action.Keeps (Action.Stays Host.ServesOnce) s.perform := by
  intro h hs
  cases s with
  | message m => exact hs.handle m
  | around s => cases s <;> exact ⟨hs.lints, hs.watched, hs.distinct⟩

theorem EditorStep.perform_inStep (s : EditorStep) :
    Action.Keeps (Action.Stays Host.InStep) s.perform := SessionStep.perform_inStep (.editor s)

theorem Host.editor_servesOnce (disk : Disk) (tool : Nat → Launch → Outcome) :
    (Host.editor disk tool).ServesOnce := by
  refine ⟨fun language => ?_, rfl, .nil⟩
  have hproviders : (Host.editor disk tool).registry.providers =
      [("javascript", [⟨Inspector.name, .linter⟩]), ("json", [⟨Inspector.name, .linter⟩])] := rfl
  cases language with
  | none => exact .inl rfl
  | some language =>
    simp only [Registry.providersFor, hproviders, Entries.get?]
    split
    · exact .inr rfl
    · split
      · exact .inr rfl
      · exact .inl rfl

/-- The hosts between two steps of an editor session with the standard inspector. -/
def Host.Served (h : Host) : Prop :=
  ∃ disk tool steps, h = after EditorStep.perform steps (Host.editor disk tool)

theorem Host.Served.servesOnce {h : Host} (hh : h.Served) : h.ServesOnce := by
  obtain ⟨disk, tool, steps, rfl⟩ := hh
  exact after_stays EditorStep.perform_servesOnce steps (Host.editor_servesOnce disk tool)

theorem Host.Served.inStep {h : Host} (hh : h.Served) : h.InStep := by
  obtain ⟨disk, tool, steps, rfl⟩ := hh
  exact after_stays EditorStep.perform_inStep steps (Action.register_inStep _)

end LintRelay
