import LintRelay.Proofs.Inspecting
import LintRelay.Proofs.Session
import Mathlib.Data.List.Induction

/-!
# The order of the providers

An inspection asks the providers for a language in the order of their registration, all about the same text
and path, until one of them gives up. Of the answers under one name the first decides the place of the
result and the last one is the result.
-/
namespace LintRelay

namespace Entries

variable {α : Type}

theorem ofList_concat (pairs : List (String × α)) (p : String × α) :
    ofList (pairs ++ [p]) = put p.1 p.2 (ofList pairs) := by
  simp [ofList]

theorem names_ofList (pairs : List (String × α)) : names (ofList pairs) = (names pairs).eraseDups := by
  induction pairs using List.reverseRecOn with
  | nil => rfl
  | append_singleton pairs p ih =>
    have hnames : names (pairs ++ [p]) = names pairs ++ [p.1] := by simp [names]
    rw [ofList_concat, names_put, ih, hnames, List.eraseDups_append]
    by_cases hp : p.1 ∈ names pairs
    · simp [List.removeAll, hp]
    · simp [List.removeAll, hp, List.eraseDups_cons]

theorem get?_ofList (name : String) (pairs : List (String × α)) :
    get? name (ofList pairs) = get? name pairs.reverse := by
  induction pairs using List.reverseRecOn with
  | nil => rfl
  | append_singleton pairs p ih =>
    rw [ofList_concat, List.reverse_append]
    by_cases hp : p.1 = name
    · subst hp
      simp [get?_put_self, get?]
    · simp [get?_put_of_ne (Ne.symm hp), get?, hp, ih]

end Entries

namespace Registry

def registered (registrations : List (String × Provider)) : Registry :=
  registrations.foldl (fun r p => r.register p.1 p.2) (new true)

def offered (language : Option String) (registrations : List (String × Provider)) : List Provider :=
  registrations.filterMap fun p => if some p.1 = language then some p.2 else none

theorem providersFor_registered (language : Option String)
    (registrations : List (String × Provider)) :
    (registered registrations).providersFor language = offered language registrations := by
  induction registrations using List.reverseRecOn with
  | nil => cases language <;> rfl
  | append_singleton registrations p ih =>
    have hlast : registered (registrations ++ [p]) = (registered registrations).register p.1 p.2 := by
      simp [registered]
    have hoffered : offered language (registrations ++ [p]) =
        offered language registrations ++ offered language [p] := List.filterMap_append
    rw [hlast, hoffered, ← ih]
    by_cases hp : some p.1 = language
    · subst hp
      simp [providersFor_register_self, offered]
    · have hnone : offered language [p] = [] := by simp [offered, hp]
      rw [hnone, List.append_nil]
      cases language with
      | none => rfl
      | some other => exact providersFor_register_of_ne (fun e => hp (by rw [e])) p.2 _

theorem providersFor_congr {r r' : Registry} (h : r.providers = r'.providers)
    (language : Option String) : r.providersFor language = r'.providersFor language := by
  simp only [providersFor, h]

end Registry

/-- The question to a provider about a document. The linter is asked without its name. -/
inductive Question where
  | linter (path : Value)
  | provider (name : String) (text path : Value)

/-- What tells in the record that a provider was asked. -/
def Event.question? : Event → Option Question
  | inspecting path _ => some (.linter path)
  | scanned name text path => some (.provider name text path)
  | _ => none

def Provider.question (text path : String) (p : Provider) : Question :=
  match p.scanner with
  | .linter => .linter (.str path)
  | .scripted _ => .provider p.name (.str text) (.str path)

/-- The record has grown by some questions, in this order. -/
def Asks (questions : List Question) (h h' : Host) : Prop :=
  ∃ more, h'.events = h.events ++ more ∧ more.filterMap Event.question? = questions

theorem Asks.append {a b : List Question} {h g h' : Host} (i : Asks a h g) (j : Asks b g h') :
    Asks (a ++ b) h h' := by
  obtain ⟨more, hmore, ha⟩ := i
  obtain ⟨later, hlater, hb⟩ := j
  refine ⟨more ++ later, ?_, ?_⟩
  · rw [hlater, hmore, List.append_assoc]
  · rw [List.filterMap_append, ha, hb]

instance : IsPreorder Host (Asks []) where
  refl _ := ⟨[], (List.append_nil _).symm, rfl⟩
  trans _ _ _ i j := i.append j

/-- The providers answer one after the other; each answer is entered under the provider's name. -/
inductive AnswerInTurn (ask : Provider → Action (Option Inspection)) :
    List Provider → Host → List (String × Option Inspection) → Host → Prop where
  | none (h : Host) : AnswerInTurn ask [] h [] h
  | next {p : Provider} {rest : List Provider} {h h₁ h' : Host} {r : Option Inspection}
      {answers : List (String × Option Inspection)} (first : ask p h = (.ok r, h₁))
      (others : AnswerInTurn ask rest h₁ answers h') :
      AnswerInTurn ask (p :: rest) h ((p.name, r) :: answers) h'

/-- Some providers answer and the next one gives up; those are asked. -/
inductive GivesUp (ask : Provider → Action (Option Inspection)) :
    List Provider → Host → List Provider → Fault → Host → Prop where
  | first {p : Provider} {rest : List Provider} {h h' : Host} {fault : Fault}
      (fails : ask p h = (.error fault, h')) : GivesUp ask (p :: rest) h [p] fault h'
  | later {p : Provider} {rest asked : List Provider} {h h₁ h' : Host} {r : Option Inspection}
      {fault : Fault} (first : ask p h = (.ok r, h₁)) (others : GivesUp ask rest h₁ asked fault h') :
      GivesUp ask (p :: rest) h (p :: asked) fault h'

namespace Action

section Consulting

variable {ask : Provider → Action (Option Inspection)} {ps asked : List Provider} {h h' : Host}
  {answers : List (String × Option Inspection)} {fault : Fault}

theorem names_answers (ha : AnswerInTurn ask ps h answers h') :
    Entries.names answers = ps.map Provider.name := by
  induction ha with
  | none h => rfl
  | next first others ih => simpa [Entries.names] using ih

theorem consultAll_answers (ha : AnswerInTurn ask ps h answers h')
    (results : Entries (Option Inspection)) :
    consultAll ask ps results h =
      (.ok (answers.foldl (fun entries p => Entries.put p.1 p.2 entries) results), h') := by
  induction ha generalizing results with
  | none h => rfl
  | next first others ih =>
    rw [consultAll, bind_ok first, ih]
    rfl

theorem consultAll_givesUp (hg : GivesUp ask ps h asked fault h')
    (results : Entries (Option Inspection)) : consultAll ask ps results h = (.error fault, h') := by
  induction hg generalizing results with
  | first fails => rw [consultAll, bind_error fails]
  | later first others ih => rw [consultAll, bind_ok first, ih]

theorem isPrefix_of_givesUp (hg : GivesUp ask ps h asked fault h') : asked <+: ps := by
  induction hg with
  | first fails => exact List.prefix_append [_] _
  | later first others ih => exact (List.prefix_cons_inj _).2 ih

theorem answer_or_givesUp (ask : Provider → Action (Option Inspection)) (ps : List Provider)
    (h : Host) :
    (∃ answers h', AnswerInTurn ask ps h answers h') ∨
      ∃ asked fault h', GivesUp ask ps h asked fault h' := by
  induction ps generalizing h with
  | nil => exact .inl ⟨[], h, .none h⟩
  | cons p rest ih =>
    cases hfirst : ask p h with
    | mk outcome h₁ =>
      cases outcome with
      | error fault => exact .inr ⟨[p], fault, h₁, .first hfirst⟩
      | ok r =>
        rcases ih h₁ with ⟨answers, h', hothers⟩ | ⟨asked, fault, h', hothers⟩
        · exact .inl ⟨_, h', .next hfirst hothers⟩
        · exact .inr ⟨_, fault, h', .later hfirst hothers⟩

end Consulting

section Recording

variable {text path : String} {ps asked : List Provider} {h h' : Host}
  {answers : List (String × Option Inspection)} {fault : Fault}

/-- A provider that is asked leaves the question in the record, and no other. -/
theorem consult_asks (text path : String) (p : Provider) (h : Host) :
    Asks [p.question text path] h (consult (.str text) (.str path) p h).2 := by
  obtain ⟨name, scanner⟩ := p
  cases scanner with
  | linter =>
    have hnoted : Asks [.linter (.str path)] h (noteRun (.str path) h) := ⟨[_], rfl, rfl⟩
    have hlaunched (l : Launch) : Keeps (Asks []) (launch l) := fun _ => ⟨[.launched l], rfl, rfl⟩
    have hcomplained (text : String) : Keeps (Asks []) (emit (.complained text)) := fun _ =>
      ⟨[.complained text], rfl, rfl⟩
    show Asks _ h (scanFile (.str text) (.str path) h).2
    rw [scanFile_text]
    exact hnoted.append (keeps_runLinter hlaunched hcomplained _ _ _ _ _)
  | scripted script =>
    unfold consult
    dsimp only
    cases script (.str text) (.str path) with
    | answers r => exact ⟨[.scanned name (.str text) (.str path)], rfl, rfl⟩
    | fails reason => exact ⟨[.scanned name (.str text) (.str path)], rfl, rfl⟩

theorem answers_asks (ha : AnswerInTurn (consult (.str text) (.str path)) ps h answers h') :
    Asks (ps.map (·.question text path)) h h' := by
  induction ha with
  | none h => exact ⟨[], (List.append_nil _).symm, rfl⟩
  | @next p rest h h₁ h' r answers first others ih =>
    have hfirst := consult_asks text path p h
    rw [first] at hfirst
    exact hfirst.append ih

theorem givesUp_asks (hg : GivesUp (consult (.str text) (.str path)) ps h asked fault h') :
    Asks (asked.map (·.question text path)) h h' := by
  induction hg with
  | @first p rest h h' fault fails =>
    have hfirst := consult_asks text path p h
    rw [fails] at hfirst
    exact hfirst
  | @later p rest asked h h₁ h' r fault first others ih =>
    have hfirst := consult_asks text path p h
    rw [first] at hfirst
    exact hfirst.append ih

end Recording

/-- With inspection switched on, the providers registered for a language are asked in the order of their
registration, all about the same text and path. If all answer, the results stand in the order in which their
names were first registered, and under each name is the last answer; if one gives up, this is how the
inspection ends, and the providers behind it are not asked. One or the other always happens. Switched off,
or without providers, an inspection does nothing. -/
theorem inspect_asks_in_order {registrations : List (String × Provider)} {h : Host}
    (hbuilt : h.registry.providers = (Registry.registered registrations).providers)
    (language : Option String) (text path : String) :
    let providers := Registry.offered language registrations
    let ask := consult (.str text) (.str path)
    let inspected := inspect language (.str text) (.str path) h
    (h.registry.enabled = true →
      (∀ answers h', AnswerInTurn ask providers h answers h' →
        ∃ results, inspected = (.ok results, h') ∧
          Asks (providers.map (·.question text path)) h h' ∧
          Entries.names results = (providers.map Provider.name).eraseDups ∧
          ∀ name, Entries.get? name results = Entries.get? name answers.reverse) ∧
      (∀ asked fault h', GivesUp ask providers h asked fault h' →
        inspected = (.error fault, h') ∧ asked <+: providers ∧
          Asks (asked.map (·.question text path)) h h') ∧
      ((∃ answers h', AnswerInTurn ask providers h answers h') ∨
        ∃ asked fault h', GivesUp ask providers h asked fault h')) ∧
      (h.registry.enabled = false ∨ language = none ∨ providers = [] → inspected = (.ok [], h)) := by
  intro providers ask inspected
  have hproviders : h.registry.providersFor language = providers := by
    rw [Registry.providersFor_congr hbuilt, Registry.providersFor_registered]
  constructor
  · intro hon
    have hinspected : inspected = consultAll ask providers [] h := by
      rw [← hproviders]
      exact inspect_of_enabled hon language _ _
    refine ⟨fun answers h' ha => ?_, fun asked fault h' hg => ?_, answer_or_givesUp ask providers h⟩
    · refine ⟨Entries.ofList answers, ?_, answers_asks ha, ?_, fun name => ?_⟩
      · rw [hinspected, consultAll_answers ha]
        rfl
      · rw [Entries.names_ofList, names_answers ha]
      · exact Entries.get?_ofList name answers
    · refine ⟨?_, isPrefix_of_givesUp hg, givesUp_asks hg⟩
      rw [hinspected, consultAll_givesUp hg]
  · intro hnobody
    by_cases hon : h.registry.enabled = true
    · have hnone : providers = [] := by
        rcases hnobody with hoff | hlanguage | hnone
        · rw [hoff] at hon
          cases hon
        · rw [← hproviders, hlanguage]
          rfl
        · exact hnone
      show inspect language (.str text) (.str path) h = _
      rw [inspect_of_enabled hon, hproviders, hnone]
      rfl
    · exact inspect_of_disabled (Bool.eq_false_iff.2 hon) language _ _

/-- One name twice for a language, and for another language a provider that gives up before the last. -/
def repeatedNames : List (String × Provider) :=
  [("javascript", ⟨"A", .scripted fun _ _ => .answers none⟩),
    ("json", ⟨"A", .scripted fun _ _ => .answers none⟩), ("javascript", ⟨"B", .linter⟩),
    ("json", ⟨"C", .scripted fun text _ => if text = .str "x" then .fails "no" else .answers none⟩),
    ("javascript", ⟨"A", .scripted fun _ _ => .answers (some ⟨[], true⟩)⟩), ("json", ⟨"B", .linter⟩)]

def providing (on : Bool) (registrations : List (String × Provider)) : Host :=
  { Host.bareEditor with registry := { Registry.registered registrations with enabled := on } }

theorem inspect_asks_in_order_of_repeated :
    (∃ results h', inspect (some "javascript") (.str "x") (.str "/a") (providing true repeatedNames) =
        (.ok results, h') ∧
      Entries.names results = ["A", "B"] ∧ Entries.get? "A" results = some (some ⟨[], true⟩)) ∧
      (∃ h', inspect (some "json") (.str "x") (.str "/a") (providing true repeatedNames) =
          (.error (.provider "no"), h') ∧
        Asks [.provider "A" (.str "x") (.str "/a"), .provider "C" (.str "x") (.str "/a")]
          (providing true repeatedNames) h') ∧
      inspect (some "json") (.str "x") (.str "/a") (providing false repeatedNames) =
        (.ok [], providing false repeatedNames) := by
  have hbuilt (on : Bool) : (providing on repeatedNames).registry.providers =
      (Registry.registered repeatedNames).providers := rfl
  have hon (language : String) :=
    (inspect_asks_in_order (hbuilt true) (some language) "x" "/a").1 rfl
  have hoff := (inspect_asks_in_order (hbuilt false) (some "json") "x" "/a").2
  refine ⟨?_, ?_, hoff (.inl rfl)⟩
  · obtain ⟨results, hresults, -, hnames, hvalues⟩ :=
      (hon "javascript").1 _ _ (.next rfl (.next rfl (.next rfl (.none _))))
    refine ⟨results, _, hresults, hnames.trans (by decide +kernel), ?_⟩
    rw [hvalues]
    rfl
  · obtain ⟨hresults, -, hasked⟩ := (hon "json").2.1 _ _ _ (.later rfl (.first rfl))
    exact ⟨_, hresults, hasked⟩

end Action

end LintRelay
