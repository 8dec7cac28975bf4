import LintRelay.Commands
import LintRelay.Proofs.EngineBoundary
import LintRelay.Proofs.Inspecting

/-!
# What the linter is given

A scan that succeeds notes the document, starts one process on its text and concludes from how that ends.
A file that a command inspects goes that way if its ending belongs to a linted language, and otherwise
nothing is done with it.
-/
namespace LintRelay

def Event.noted? : Event → Option Value
  | inspecting path _ => some path
  | _ => none

def Event.isPanel : Event → Bool
  | panel _ _ => true
  | _ => false

/-- The record grows by permitted events, and every process in it is counted. -/
structure Adds (permitted : Event → Prop) (h h' : Host) : Prop where
  tool : h'.tool = h.tool
  record : ∃ more, h'.events = h.events ++ more ∧
    h'.launches = h.launches + (started more).length ∧ ∀ e ∈ more, permitted e

namespace Adds

variable {permitted wider : Event → Prop} {h h' h'' : Host}

theorem refl (h : Host) : Adds permitted h h :=
  ⟨rfl, [], (List.append_nil _).symm, rfl, fun _ he => absurd he List.not_mem_nil⟩

theorem trans (i : Adds permitted h h') (j : Adds permitted h' h'') : Adds permitted h h'' := by
  obtain ⟨more, hmore, hcount, hpermitted⟩ := i.record
  obtain ⟨later, hlater, hcount', hpermitted'⟩ := j.record
  refine ⟨j.tool.trans i.tool, more ++ later, ?_, ?_, fun e he => ?_⟩
  · rw [hlater, hmore, List.append_assoc]
  · rw [hcount', hcount, started_append, List.length_append, Nat.add_assoc]
  · exact (List.mem_append.1 he).elim (hpermitted e) (hpermitted' e)

instance : IsPreorder Host (Adds permitted) where
  refl := refl
  trans _ _ _ := trans

theorem mono (i : Adds permitted h h') (hw : ∀ e, permitted e → wider e) : Adds wider h h' := by
  obtain ⟨more, hmore, hcount, hpermitted⟩ := i.record
  exact ⟨i.tool, more, hmore, hcount, fun e he => hw e (hpermitted e he)⟩

end Adds

namespace Action

variable {permitted : Event → Prop}

theorem emit_adds {e : Event} (he : permitted e) (hstarts : e.launch? = none) :
    Keeps (Adds permitted) (emit e) := fun _ =>
  ⟨rfl, [e], rfl, by simp [emit, update, started, hstarts],
    fun _ hmem => List.mem_singleton.1 hmem ▸ he⟩

theorem launch_adds {l : Launch} (hl : permitted (.launched l)) :
    Keeps (Adds permitted) (launch l) := fun _ =>
  ⟨rfl, [.launched l], rfl, rfl, fun _ hmem => List.mem_singleton.1 hmem ▸ hl⟩

theorem onConfig_adds {α : Type} (hcomplained : ∀ text, permitted (.complained text))
    (event : Disk → ProjectConfig → Reaction α) : Keeps (Adds permitted) (onConfig event) := by
  intro h
  refine ⟨rfl, (event h.disk h.inspector.config).complaints.map .complained, rfl, ?_, fun e he => ?_⟩
  · simp [onConfig, started, Event.launch?]
  · obtain ⟨text, -, rfl⟩ := List.mem_map.1 he
    exact hcomplained text

theorem adds_allows (hnoted : ∀ path options, permitted (.inspecting path options))
    (hlaunched : ∀ l, permitted (.launched l)) (hcomplained : ∀ text, permitted (.complained text))
    (hscanned : ∀ name text path, permitted (.scanned name text path)) :
    Allows (Adds permitted) where
  noted path h := ⟨rfl, [.inspecting path h.inspector.currentOptions], rfl, rfl,
    fun _ hmem => List.mem_singleton.1 hmem ▸ hnoted _ _⟩
  launched l := launch_adds (hlaunched l)
  complained text := emit_adds (hcomplained text) rfl
  scanned name text path := emit_adds (hscanned name text path) rfl

/-- A scan that succeeds, seen from the host before it. -/
structure Scanned (path text : String) (r : Option Inspection) (h h' : Host) (options : Fields)
    (verdict : Verdict) : Prop where
  concluded : h.inspector.engine.conclude h.disk.room path (h.tool h.launches
    (h.inspector.engine.command (BlankLines.emptiedText text) options path)) = .ok verdict
  result : concludeReport verdict.report = .ok r
  events : h'.events = h.events ++ (.inspecting (.str path) h.inspector.currentOptions ::
    .launched (h.inspector.engine.command (BlankLines.emptiedText text) options path) ::
    verdict.complaint.toList.map .complained)
  launches : h'.launches = h.launches + 1
  tool : h'.tool = h.tool

theorem deliver_eq (verdict : Verdict) (h : Host) :
    deliver verdict h = (.ok verdict.report,
      { h with events := h.events ++ verdict.complaint.toList.map .complained }) := by
  obtain ⟨report, complaint⟩ := verdict
  cases complaint with
  | none => exact Prod.ext rfl (by simp [deliver, complain, Pure.pure, pure, Bind.bind, bind])
  | some text => rfl

theorem ofExcept_eq_ok {α : Type} {r : Except Fault α} {a : α} {h h' : Host}
    (e : ofExcept r h = (.ok a, h')) : r = .ok a ∧ h = h' := by
  obtain ⟨hr, hh⟩ := Prod.mk.inj e
  exact ⟨hr, hh⟩

theorem scanFile_eq_ok {path text : String} {r : Option Inspection} {h h' : Host}
    (e : scanFile (.str text) (.str path) h = (.ok r, h')) :
    ∃ options verdict, Scanned path text r h h' options verdict := by
  rw [scanFile_text] at e
  obtain ⟨options, g, hoptions, e⟩ := bind_eq_ok e
  obtain ⟨-, rfl⟩ := ofExcept_eq_ok hoptions
  obtain ⟨report, g', hlint, e⟩ := bind_eq_ok e
  obtain ⟨hresult, rfl⟩ := ofExcept_eq_ok e
  rw [lint_apply] at hlint
  obtain ⟨l, g₁, hlaunch, hlint⟩ := bind_eq_ok hlint
  obtain ⟨hl, rfl⟩ := ofExcept_eq_ok hlaunch
  obtain rfl := Engine.eq_command_of_launch hl
  obtain ⟨outcome, g₂, hstarted, hlint⟩ := bind_eq_ok hlint
  obtain ⟨houtcome, rfl⟩ := Prod.mk.inj hstarted
  obtain ⟨verdict, g₃, hverdict, hlint⟩ := bind_eq_ok hlint
  obtain ⟨hconcluded, rfl⟩ := ofExcept_eq_ok hverdict
  rw [deliver_eq] at hlint
  obtain ⟨hreport, rfl⟩ := Prod.mk.inj hlint
  obtain rfl := Except.ok.inj houtcome
  obtain rfl := Except.ok.inj hreport
  exact ⟨options, verdict, hconcluded, hresult, by simp [noteRun], rfl, rfl⟩

end Action

/-- What a command sets up to inspect files: the linter alone, switched on. -/
structure Host.Lints (engine : Engine) (disk : Disk) (h : Host) : Prop where
  disk : h.disk = disk
  engine : h.inspector.engine = engine
  enabled : h.registry.enabled = true
  providers : ∀ language ∈ Language.linted,
    h.registry.providersFor (some language) = [⟨Inspector.name, .linter⟩]

namespace Action

variable {engine : Engine} {disk : Disk} {path : String} {results results' : Results} {h h' : Host}

/-- A file that was inspected has its text, and what is entered for it is the result of a scan where the
file's ending is known. Otherwise nothing was done with it. -/
theorem lintFile_eq_ok (hl : h.Lints engine disk)
    (e : lintFile path results h = (.ok results', h')) :
    ∃ text r, disk.readText path = .ok text ∧ results' = Entries.put path r results ∧
      ((Language.ofPath path = none ∧ r = none ∧ h' = h) ∨
        ((Language.ofPath path).isSome ∧
          ∃ options verdict, Scanned path text r h h' options verdict)) := by
  obtain ⟨text, g, hread, e⟩ := bind_eq_ok (x := ofExcept (h.disk.readText path)) e
  obtain ⟨htext, rfl⟩ := ofExcept_eq_ok hread
  obtain ⟨answers, g, hinspect, e⟩ := bind_eq_ok e
  rw [inspect_of_enabled hl.enabled] at hinspect
  obtain ⟨hresults, rfl⟩ := Prod.mk.inj e
  refine ⟨text, (Entries.get? Inspector.name answers).getD none, hl.disk ▸ htext,
    (Except.ok.inj hresults).symm, ?_⟩
  cases hlanguage : Language.ofPath path with
  | none =>
    rw [hlanguage] at hinspect
    obtain ⟨hanswers, rfl⟩ := Prod.mk.inj hinspect
    obtain rfl := Except.ok.inj hanswers
    exact .inl ⟨rfl, rfl, rfl⟩
  | some language =>
    rw [hlanguage, hl.providers language (Language.ofPath_mem_linted hlanguage)] at hinspect
    obtain ⟨r, g', hscan, hanswers⟩ := bind_eq_ok hinspect
    obtain ⟨hentered, rfl⟩ := Prod.mk.inj hanswers
    obtain rfl := Except.ok.inj hentered
    exact .inr ⟨rfl, scanFile_eq_ok hscan⟩

end Action

end LintRelay
