import LintRelay.Proofs.ProviderOrder
import LintRelay.Proofs.Rerun

/-!
# The first problem that cannot be shown

Problems become diagnostics one by one, and the first that an editor does not accept ends the conversion.
Of its parts the line is looked at first, then the character, and the message last. The results of several
providers are converted in one go, so a document gets a diagnostic for everything that was found in it, or
none at all.
-/
namespace LintRelay

/-- A line or a character that an editor accepts. -/
def IsPlace (n : Int) : Prop := 0 ≤ n ∧ n ≤ Fault.greatestPosition

namespace Problem

/-- Why a problem cannot be shown. -/
inductive Unfit (p : Problem) : Fault → Prop
  | line : ¬ IsPlace p.line → Unfit p (.position .line p.line)
  | character : IsPlace p.line → ¬ IsPlace p.character →
    Unfit p (.position .character p.character)
  | message : IsPlace p.line → IsPlace p.character → (∀ text, p.message ≠ .str text) →
    Unfit p (.messageKind p.message.kind)

variable {p : Problem} {fault : Fault}

theorem showable_or_unfit (p : Problem) : p.Showable ∨ ∃ fault, p.Unfit fault := by
  by_cases hline : IsPlace p.line
  · by_cases hcharacter : IsPlace p.character
    · by_cases htext : ∃ text, p.message = .str text
      · exact .inl ⟨hline, hcharacter, htext⟩
      · exact .inr ⟨_, .message hline hcharacter (not_exists.1 htext)⟩
    · exact .inr ⟨_, .character hline hcharacter⟩
  · exact .inr ⟨_, .line hline⟩

theorem Unfit.not_showable (h : p.Unfit fault) : ¬ p.Showable := by
  intro hs
  cases h with
  | line hline => exact hline hs.line
  | character _ hcharacter => exact hcharacter hs.character
  | message _ _ hnone =>
    obtain ⟨text, htext⟩ := hs.message
    exact hnone text htext

theorem not_showable_iff :
    ¬ p.Showable ↔ ¬ IsPlace p.line ∨ ¬ IsPlace p.character ∨ ∀ text, p.message ≠ .str text := by
  constructor
  · intro hnot
    obtain ⟨fault, hunfit⟩ := (showable_or_unfit p).resolve_left hnot
    cases hunfit with
    | line hline => exact .inl hline
    | character _ hcharacter => exact .inr (.inl hcharacter)
    | message _ _ hnone => exact .inr (.inr hnone)
  · rintro (hline | hcharacter | hnone) hs
    · exact hline hs.line
    · exact hcharacter hs.character
    · obtain ⟨text, htext⟩ := hs.message
      exact hnone text htext

/-- Of some problems, the first that cannot be shown, and why. -/
def FirstUnfit (problems : List Problem) (fault : Fault) : Prop :=
  ∃ earlier p later, problems = earlier ++ p :: later ∧ (∀ q ∈ earlier, q.Showable) ∧ p.Unfit fault

end Problem

namespace Diagnostic

/-- A diagnostic shows a problem where it is, in its words and as severe as its kind, and names the source. -/
structure Pictures (source : String) (p : Problem) (d : Diagnostic) : Prop where
  line : d.line = p.line
  character : d.character = p.character
  message : p.message = .str d.message
  severity : d.severity = p.kind.severity
  source : d.source = source

variable {source : String} {p : Problem} {d : Diagnostic} {fault : Fault}

theorem ofProblem_of_unfit (h : p.Unfit fault) : ofProblem source p = .error fault := by
  cases h with
  | line hline =>
    have hrange : inRange p.line = false := Bool.eq_false_iff.2 (mt inRange_iff.1 hline)
    simp [ofProblem, hrange]
  | character hline hcharacter =>
    have hfirst : inRange p.line = true := inRange_iff.2 hline
    have hrange : inRange p.character = false := Bool.eq_false_iff.2 (mt inRange_iff.1 hcharacter)
    simp [ofProblem, hfirst, hrange]
  | message hline hcharacter hnone =>
    have hfirst : inRange p.line = true := inRange_iff.2 hline
    have hsecond : inRange p.character = true := inRange_iff.2 hcharacter
    rw [ofProblem, hfirst, hsecond]
    cases hm : p.message with
    | str text => exact absurd hm (hnone text)
    | null | bool | int | float | list | object => rfl

theorem ofProblem_eq_error_iff : ofProblem source p = .error fault ↔ p.Unfit fault := by
  refine ⟨fun h => ?_, ofProblem_of_unfit⟩
  rcases p.showable_or_unfit with hs | ⟨other, hunfit⟩
  · obtain ⟨d, hd⟩ := ofProblem_ok_iff.2 hs
    rw [hd] at h
    cases h
  · rw [ofProblem_of_unfit hunfit] at h
    exact Except.error.inj h ▸ hunfit

theorem ofProblem_of_text (hs : p.Showable) {text : String} (htext : p.message = .str text) :
    ofProblem source p = .ok ⟨p.line, p.character, text, p.kind.severity, source⟩ := by
  have hline : inRange p.line = true := inRange_iff.2 hs.line
  have hcharacter : inRange p.character = true := inRange_iff.2 hs.character
  simp [ofProblem, hline, hcharacter, htext]

theorem ofProblem_eq_ok_iff : ofProblem source p = .ok d ↔ p.Showable ∧ Pictures source p d := by
  constructor
  · intro h
    have hs : p.Showable := ofProblem_ok_iff.1 ⟨d, h⟩
    obtain ⟨text, htext⟩ := hs.message
    rw [ofProblem_of_text hs htext] at h
    obtain rfl := Except.ok.inj h
    exact ⟨hs, rfl, rfl, htext, rfl, rfl⟩
  · rintro ⟨hs, hline, hcharacter, hmessage, hseverity, hsource⟩
    rw [ofProblem_of_text hs hmessage, ← hline, ← hcharacter, ← hseverity, ← hsource]

theorem ofInspection_eq_error_iff {r : Inspection} :
    ofInspection source (some r) = .error fault ↔ Problem.FirstUnfit r.problems fault := by
  rw [ofInspection_eq_mapM, mapM_eq_error_iff]
  simp only [ofProblem_ok_iff, ofProblem_eq_error_iff]
  rfl

theorem ofInspection_eq_ok_iff {r : Inspection} {ds : List Diagnostic} :
    ofInspection source (some r) = .ok ds ↔
      r.Showable ∧ List.Forall₂ (Pictures source) r.problems ds := by
  rw [ofInspection_eq_mapM, mapM_eq_ok_iff]
  simp only [ofProblem_eq_ok_iff]
  exact List.forall₂_and_left _ _

theorem ofInspection_fails_iff {r : Inspection} :
    (∃ fault, ofInspection source (some r) = .error fault) ↔ ∃ p ∈ r.problems, ¬ p.Showable := by
  rw [ofInspection_eq_mapM, mapM_fails_iff]
  refine exists_congr fun p => and_congr_right fun _ => ?_
  simp only [ofProblem_eq_error_iff]
  exact ⟨fun ⟨_, h⟩ => h.not_showable, fun h => p.showable_or_unfit.resolve_left h⟩

variable {results : Results}

theorem ofResults_firstUnfit (h : ofResults results = .error fault) :
    Problem.FirstUnfit (results.problems.map Prod.snd) fault := by
  rw [ofResults_eq_mapM, mapM_eq_error_iff] at h
  obtain ⟨earlier, found, later, hsplit, hearlier, hfound⟩ := h
  refine ⟨earlier.map Prod.snd, found.2, later.map Prod.snd, ?_, ?_, ofProblem_eq_error_iff.1 hfound⟩
  · rw [hsplit, List.map_append, List.map_cons]
  · intro q hq
    obtain ⟨other, hother, rfl⟩ := List.mem_map.1 hq
    exact ofProblem_ok_iff.1 (hearlier other hother)

theorem ofResults_pictures {ds : List Diagnostic} (h : ofResults results = .ok ds) :
    List.Forall₂ (fun found d => Pictures found.1 found.2 d) results.problems ds := by
  rw [ofResults_eq_mapM, mapM_eq_ok_iff] at h
  exact h.imp fun _ _ hd => (ofProblem_eq_ok_iff.1 hd).2

/-- The problems of a result are converted in order, each to one diagnostic, unless one of them has a line
or a character that an editor does not accept, or a message that is no text; then the first of these and
the first such part of it decide the fault. A document gets the diagnostics of all results of its
inspection, or none where any result has such a problem. -/
theorem conversion_ends_at_first_unfit_problem (source : String) (r : Inspection) :
    let converted := ofInspection source (some r)
    ((∃ fault, converted = .error fault) ↔ ∃ p ∈ r.problems,
        ¬ IsPlace p.line ∨ ¬ IsPlace p.character ∨ ∀ text, p.message ≠ .str text) ∧
      (∀ fault, converted = .error fault ↔ Problem.FirstUnfit r.problems fault) ∧
      (∀ ds, converted = .ok ds ↔ r.Showable ∧ List.Forall₂ (Pictures source) r.problems ds) ∧
      ∀ (s : Subject) (h : Host) (results : Results),
        h.registry.providersFor s.languageId ≠ [] → (Action.inspectSubject s h).1 = .ok results →
          let published := Action.publishSubject s h
          ((∃ result ∈ results, ∃ bad, result.2 = some bad ∧ ¬ bad.Showable) →
            ∃ fault, Problem.FirstUnfit (results.problems.map Prod.snd) fault ∧
              published.1 = .error fault ∧ published.2.answers = h.answers) ∧
          ((∀ result ∈ results, ∀ good, result.2 = some good → good.Showable) →
            ∃ ds, List.Forall₂ (fun found d => Pictures found.1 found.2 d) results.problems ds ∧
              published.1 = .ok () ∧ published.2.answers = h.answers ++ [.published s.uri ds]) := by
  intro converted
  refine ⟨?_, fun fault => ofInspection_eq_error_iff, fun ds => ofInspection_eq_ok_iff,
    fun s h results hprovided hresults => ?_⟩
  · simp only [← Problem.not_showable_iff]
    exact ofInspection_fails_iff
  · intro published
    constructor
    · rintro ⟨result, hmem, bad, hbad, hnot⟩
      cases hconverted : ofResults results with
      | ok ds =>
        have hall := ofResults_ok_iff.1 ⟨ds, hconverted⟩
        exact absurd (hall result hmem bad hbad) hnot
      | error fault =>
        have hpublished := Action.publishSubject_of_unfit hprovided hresults hconverted
        refine ⟨fault, ofResults_firstUnfit hconverted, congrArg Prod.fst hpublished, ?_⟩
        rw [show published.2 = _ from congrArg Prod.snd hpublished]
        exact Action.inspectSubject_answers s h
    · intro hall
      obtain ⟨ds, hds⟩ := ofResults_ok_iff.2 hall
      exact ⟨ds, ofResults_pictures hds, Action.publishSubject_of_converted hprovided hresults hds⟩

def fineProblem : Problem := ⟨0, 0, .str "fine", .warning⟩

def farProblem : Problem := ⟨2147483648, -1, .null, .error⟩

def farInspection : Inspection := ⟨[fineProblem, farProblem, ⟨0, -1, .str "x", .warning⟩], false⟩

def farProviders : List (String × Provider) :=
  [("javascript", ⟨"A", .scripted fun _ _ => .answers (some ⟨[fineProblem], false⟩)⟩),
    ("javascript", ⟨"B", .scripted fun _ _ => .answers (some farInspection)⟩)]

def openScript : Subject := ⟨"file:///a.js", "/a.js", "javascript", some "x"⟩

/-- The far line decides, and what the first provider found is not published either; on its own it is. -/
theorem conversion_ends_at_far_line :
    ofInspection "B" (some farInspection) = .error (.position .line 2147483648) ∧
      (Action.publishSubject openScript (Action.providing true farProviders)).1 =
        .error (.position .line 2147483648) ∧
      (Action.publishSubject openScript (Action.providing true farProviders)).2.answers = [] ∧
      (Action.publishSubject openScript (Action.providing true (farProviders.take 1))).2.answers =
        [.published "file:///a.js" [⟨0, 0, "fine", .warning, "A"⟩]] := by
  have hfine : fineProblem.Showable := ⟨by decide, by decide, "fine", rfl⟩
  have hunfit : farProblem.Unfit (.position .line 2147483648) := .line (by unfold IsPlace; decide)
  have hbad : ¬ farInspection.Showable := fun h =>
    hunfit.not_showable (h farProblem (by simp [farInspection]))
  obtain ⟨-, hfault, -, hpublished⟩ := conversion_ends_at_first_unfit_problem "B" farInspection
  have hconverted := (hfault _).2 ⟨[fineProblem], farProblem, _, rfl, by simpa using hfine, hunfit⟩
  have hboth := hpublished openScript (Action.providing true farProviders)
    [("A", some ⟨[fineProblem], false⟩), ("B", some farInspection)] (by decide +kernel) rfl
  obtain ⟨fault, hfirst, hfails, hsilent⟩ :=
    hboth.1 ⟨("B", some farInspection), by simp, farInspection, rfl, hbad⟩
  have hsame : ofInspection "B" (some ⟨_, false⟩) = .error fault := ofInspection_eq_error_iff.2 hfirst
  obtain rfl : .position .line 2147483648 = fault := Except.error.inj hsame
  have halone := hpublished openScript (Action.providing true (farProviders.take 1))
    [("A", some ⟨[fineProblem], false⟩)] (by decide +kernel) rfl
  obtain ⟨ds, hds, -, htold⟩ := halone.2 (by simpa [Inspection.Showable] using hfine)
  obtain ⟨d, rest, hd, hrest, rfl⟩ := List.forall₂_cons_left_iff.1 hds
  obtain rfl := List.forall₂_nil_left_iff.1 hrest
  have hshown : ofProblem "A" fineProblem = .ok d := ofProblem_eq_ok_iff.2 ⟨hfine, hd⟩
  obtain rfl : ⟨0, 0, "fine", .warning, "A"⟩ = d := Except.ok.inj hshown
  exact ⟨hconverted, hfails, hsilent, htold⟩

end Diagnostic

end LintRelay
