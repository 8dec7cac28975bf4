import LintRelay.Proofs.Coverage
import LintRelay.Proofs.Session
import LintRelay.Proofs.Showing

/-!
# A run over the open documents

Every document that there is a provider for gets one answer, its diagnostics or the reason why there are
none, in the order in which the documents were opened. A fault of an inspection is such a reason. A
result that cannot be shown is not: it ends the run, and later documents get no answer.
-/
namespace LintRelay

def Event.isAnswer : Event → Bool
  | published _ _ => true
  | told _ _ => true
  | _ => false

def Host.answers (h : Host) : List Event := h.events.filter Event.isAnswer

/-- The answers for a document: diagnostics at its address, or an error that names its path. -/
def Answers (p : String × Document) (e : Event) : Prop :=
  (∃ diagnostics, e = .published p.1 diagnostics) ∨
    ∃ fault : Fault, e = .told .error s!"JSLint failed on {p.2.path}: {fault.message}"

def SameAnswers (h h' : Host) : Prop := h'.answers = h.answers

instance : IsPreorder Host SameAnswers where
  refl _ := rfl
  trans _ _ _ hab hbc := hbc.trans hab

instance (h : Host) (p : String × Document) : Decidable (h.Provides p) :=
  inferInstanceAs (Decidable (_ ≠ _))

/-- Where a document is inspected without a fault, what is found can be shown. -/
def Host.Shows (h : Host) (p : String × Document) : Prop :=
  ∀ results, (Action.inspectSubject (.ofDocument p.1 p.2) h).1 = .ok results →
    ∀ result ∈ results, ∀ r, result.2 = some r → r.Showable

namespace Action

theorem emit_sameAnswers {e : Event} (he : e.isAnswer = false) : Keeps SameAnswers (emit e) := by
  intro h
  show (h.events ++ [e]).filter Event.isAnswer = h.events.filter Event.isAnswer
  simp [he]

theorem sameAnswers_allows : Allows SameAnswers where
  noted path h := emit_sameAnswers (e := .inspecting path h.inspector.currentOptions) rfl h
  launched l h := emit_sameAnswers (e := .launched l) rfl h
  complained _ := emit_sameAnswers rfl
  scanned _ _ _ := emit_sameAnswers rfl

theorem emit_answers {e : Event} (he : e.isAnswer = true) (h : Host) :
    (emit e h).2.answers = h.answers ++ [e] := by
  show (h.events ++ [e]).filter Event.isAnswer = h.events.filter Event.isAnswer ++ [e]
  simp [he]

theorem inspectSubject_answers (s : Subject) (h : Host) :
    (inspectSubject s h).2.answers = h.answers := sameAnswers_allows.keeps_inspectSubject s h

section Publishing

variable {s : Subject} {h : Host} {results : Results}

theorem publishSubject_of_converted {diagnostics : List Diagnostic}
    (hp : h.registry.providersFor s.languageId ≠ []) (hr : (inspectSubject s h).1 = .ok results)
    (hd : Diagnostic.ofResults results = .ok diagnostics) :
    (publishSubject s h).1 = .ok () ∧
      (publishSubject s h).2.answers = h.answers ++ [.published s.uri diagnostics] := by
  rw [publishSubject_apply, if_neg hp, hr, publishOutcome, ofExcept_bind_ok hd, ← inspectSubject_answers s h]
  exact ⟨rfl, emit_answers rfl _⟩

/-- A problem that cannot be shown ends the handler before it says anything. -/
theorem publishSubject_of_unfit {fault : Fault}
    (hp : h.registry.providersFor s.languageId ≠ []) (hr : (inspectSubject s h).1 = .ok results)
    (hd : Diagnostic.ofResults results = .error fault) :
    publishSubject s h = (.error fault, (inspectSubject s h).2) := by
  rw [publishSubject_apply, if_neg hp, hr, publishOutcome, ofExcept_bind_error hd]

end Publishing

def publishDocument (p : String × Document) : Action Unit := publishSubject (.ofDocument p.1 p.2)

theorem publishDocument_of_not_provides {h : Host} {p : String × Document}
    (hp : ¬ h.Provides p) : publishDocument p h = (.ok (), h) := by
  have hnone : h.registry.providersFor (Subject.ofDocument p.1 p.2).languageId = [] := by
    simpa [Host.Provides] using hp
  rw [publishDocument, publishSubject_apply, if_pos hnone]

theorem publishDocument_of_shows {h : Host} {p : String × Document} (hp : h.Provides p)
    (hshows : h.Shows p) :
    (publishDocument p h).1 = .ok () ∧
      ∃ e, Answers p e ∧ (publishDocument p h).2.answers = h.answers ++ [e] := by
  set s := Subject.ofDocument p.1 p.2
  cases hr : (inspectSubject s h).1 with
  | error fault =>
    rw [publishDocument, publishSubject_apply, if_neg hp, hr, ← inspectSubject_answers s h]
    exact ⟨rfl, _, .inr ⟨fault, rfl⟩, emit_answers rfl _⟩
  | ok results =>
    obtain ⟨diagnostics, hd⟩ := Diagnostic.ofResults_ok_iff.2 (hshows results hr)
    obtain ⟨hok, hanswers⟩ := publishSubject_of_converted hp hr hd
    exact ⟨hok, _, .inl ⟨diagnostics, rfl⟩, hanswers⟩

theorem publishDocument_of_not_shows {h : Host} {p : String × Document} (hp : h.Provides p)
    (hshows : ¬ h.Shows p) :
    ∃ fault, (publishDocument p h).1 = .error fault ∧ (publishDocument p h).2.answers = h.answers := by
  set s := Subject.ofDocument p.1 p.2
  unfold Host.Shows at hshows
  push Not at hshows
  obtain ⟨results, hr, hbad⟩ := hshows
  cases hd : Diagnostic.ofResults results with
  | ok diagnostics =>
    obtain ⟨result, hmem, r, he, hnot⟩ := hbad
    exact absurd (Diagnostic.ofResults_ok_iff.1 ⟨diagnostics, hd⟩ result hmem r he) hnot
  | error fault =>
    rw [publishDocument, publishSubject_of_unfit hp hr hd]
    exact ⟨fault, rfl, inspectSubject_answers s h⟩

theorem publishDocument_registry (p : String × Document) (h : Host) :
    (publishDocument p h).2.registry = h.registry := (publishSubject_anywhere _ h).registry

end Action

/-- Between two hosts, documents were answered for in their order, each that there is a provider for with
one answer and no other. -/
def Answered (h : Host) (documents : List (String × Document)) (h' : Host) : Prop :=
  ∃ given, h'.answers = h.answers ++ given ∧
    List.Forall₂ Answers (documents.filter fun p => h.Provides p) given

theorem Answered.nil (h : Host) : Answered h [] h := ⟨[], (List.append_nil _).symm, .nil⟩

theorem Answered.cons_of_not_provides {h h' : Host} {p : String × Document}
    {rest : List (String × Document)} (hp : ¬ h.Provides p) (hrest : Answered h rest h') :
    Answered h (p :: rest) h' := by
  obtain ⟨given, hgiven, hanswers⟩ := hrest
  refine ⟨given, hgiven, ?_⟩
  rw [List.filter_cons_of_neg (by simpa using hp)]
  exact hanswers

theorem Answered.cons {h g h' : Host} {p : String × Document} {rest : List (String × Document)}
    {e : Event} (hp : h.Provides p) (he : Answers p e) (hg : g.answers = h.answers ++ [e])
    (hregistry : g.registry = h.registry) (hrest : Answered g rest h') :
    Answered h (p :: rest) h' := by
  obtain ⟨given, hgiven, hanswers⟩ := hrest
  have hprovides (q : String × Document) : g.Provides q ↔ h.Provides q := by
    rw [Host.Provides, hregistry, Host.Provides]
  refine ⟨e :: given, ?_, ?_⟩
  · rw [hgiven, hg, List.append_assoc]
    rfl
  · rw [List.filter_cons_of_pos (by simpa using hp)]
    refine .cons he ?_
    simpa only [hprovides] using hanswers

namespace Action

/-- A run over documents answers for all of them, or for those before the first whose results cannot be
shown; with that one it ends in a fault. -/
theorem each_publishDocument_cases (documents : List (String × Document)) (h : Host) :
    ((each publishDocument documents h).1 = .ok () ∧
        Answered h documents (each publishDocument documents h).2) ∨
      ∃ earlier p later, documents = earlier ++ p :: later ∧ h.Provides p ∧
        ¬ (each publishDocument earlier h).2.Shows p ∧
        (∃ fault, (each publishDocument documents h).1 = .error fault) ∧
        Answered h earlier (each publishDocument documents h).2 := by
  induction documents generalizing h with
  | nil => exact .inl ⟨rfl, .nil h⟩
  | cons p rest ih =>
    by_cases hp : h.Provides p
    · by_cases hshows : h.Shows p
      · obtain ⟨hok, e, he, hanswers⟩ := publishDocument_of_shows hp hshows
        have hregistry := publishDocument_registry p h
        rw [each_cons_ok hok]
        rcases ih (publishDocument p h).2 with ⟨hrest, hall⟩ | ⟨earlier, q, later, rfl, hq, hbad, hend⟩
        · exact .inl ⟨hrest, hall.cons hp he hanswers hregistry⟩
        · refine .inr ⟨p :: earlier, q, later, rfl, ?_, ?_, hend.1, hend.2.cons hp he hanswers hregistry⟩
          · rw [Host.Provides, ← hregistry]
            exact hq
          · rw [each_cons_ok hok]
            exact hbad
      · obtain ⟨fault, hfault, hanswers⟩ := publishDocument_of_not_shows hp hshows
        rw [each_cons_error hfault]
        refine .inr ⟨[], p, rest, rfl, hp, hshows, ⟨fault, rfl⟩, [], ?_, .nil⟩
        rw [hanswers, List.append_nil]
    · have hskip := publishDocument_of_not_provides hp
      have hok : (publishDocument p h).1 = .ok () := congrArg Prod.fst hskip
      have hsame : (publishDocument p h).2 = h := congrArg Prod.snd hskip
      rw [each_cons_ok hok, hsame]
      rcases ih h with ⟨hrest, hall⟩ | ⟨earlier, q, later, rfl, hq, hbad, hend⟩
      · exact .inl ⟨hrest, hall.cons_of_not_provides hp⟩
      · refine .inr ⟨p :: earlier, q, later, rfl, hq, ?_, hend.1, hend.2.cons_of_not_provides hp⟩
        rw [each_cons_ok hok, hsame]
        exact hbad

end Action

/-- A run over the open documents completes and answers for each of them that there is a provider for. -/
structure Host.RunsThrough (h : Host) : Prop where
  completes : (Action.rerunOpenDocuments h).1 = .ok ()
  answered : Answered h h.documents (Action.rerunOpenDocuments h).2

/-- A run over the open documents answers for all of them exactly where, at its turn, what is found in
each can be shown. Otherwise it answers for the documents before the first one with results that cannot
be shown, and then ends in a fault. -/
theorem rerun_runs_through_iff (h : Host) :
    (h.RunsThrough ↔ ∀ earlier p later, h.documents = earlier ++ p :: later → h.Provides p →
        (Action.each Action.publishDocument earlier h).2.Shows p) ∧
      (¬ h.RunsThrough → ∃ earlier p later, h.documents = earlier ++ p :: later ∧ h.Provides p ∧
        ¬ (Action.each Action.publishDocument earlier h).2.Shows p ∧
        (∃ fault, (Action.rerunOpenDocuments h).1 = .error fault) ∧
        Answered h earlier (Action.rerunOpenDocuments h).2) := by
  have hrerun : Action.rerunOpenDocuments h =
      Action.each Action.publishDocument h.documents h := rfl
  have hcases := Action.each_publishDocument_cases h.documents h
  rw [← hrerun] at hcases
  refine ⟨⟨fun hthrough earlier p later hdocuments hp => ?_, fun hshows => ?_⟩, fun hnot => ?_⟩
  · by_contra hbad
    have hok := hthrough.completes
    rw [hrerun, hdocuments] at hok
    have hat := Action.each_ok_at hok
    have hprovides : (Action.each Action.publishDocument earlier h).2.Provides p := by
      have hregistry : (Action.each Action.publishDocument earlier h).2.registry = h.registry :=
        (Action.keeps_each (R := Inspected fun _ => True)
          (fun q _ => Action.publishSubject_anywhere _) h).registry
      rw [Host.Provides, hregistry]
      exact hp
    obtain ⟨fault, hfault, -⟩ := Action.publishDocument_of_not_shows hprovides hbad
    rw [hfault] at hat
    cases hat
  · rcases hcases with ⟨hok, hall⟩ | ⟨earlier, p, later, hdocuments, hp, hbad, -⟩
    · exact ⟨hok, hall⟩
    · exact absurd (hshows earlier p later hdocuments hp) hbad
  · rcases hcases with ⟨hok, hall⟩ | hstops
    · exact absurd ⟨hok, hall⟩ hnot
    · exact hstops

/-- A linter that finds a problem in one text, on a line that no editor accepts, and nothing elsewhere. -/
def farLinter (_ : Nat) (l : Launch) : Outcome :=
  if l.text = some "a" then
    .finished "[\"a.js\", [\x7b\"line\": 2147483649, \"character\": 1, \"reason\": \"far\"\x7d]]" "" 0
  else .finished "[\"b.js\", []]" "" 0

def farEditor : Host :=
  after EditorStep.perform
    [.message (.opened "file:///a.js" "javascript" "a"),
      .message (.opened "file:///b.js" "javascript" "b"), .around (.linter farLinter)]
    Host.bareEditor

theorem far_problem_ends_rerun :
    Entries.names farEditor.documents = ["file:///a.js", "file:///b.js"] ∧
      (Action.rerunOpenDocuments farEditor).1 = .error (.position .line 2147483648) ∧
      (Action.rerunOpenDocuments farEditor).2.answers = farEditor.answers ∧
      ¬ farEditor.RunsThrough := by
  have hfault : (Action.rerunOpenDocuments farEditor).1 =
      .error (.position .line 2147483648) := by
    decide +kernel
  refine ⟨by decide +kernel, hfault, by decide +kernel, fun hthrough => ?_⟩
  have hok := hthrough.completes
  rw [hfault] at hok
  cases hok

end LintRelay
