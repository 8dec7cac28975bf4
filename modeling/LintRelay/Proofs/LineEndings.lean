import LintRelay.Commands
import LintRelay.Endpoint
import LintRelay.Proofs.AnnouncedOptions
import LintRelay.Proofs.EmptiedLines
import LintRelay.Proofs.EncodedText

/-!
# Carriage returns before line feeds

A document saved with a carriage return before each line feed comes to the linter with them, unless it is
read from its file. Such a return keeps the line that it ends from being blank: of the blank lines only the
last one, which nothing ends, is emptied then.
-/
namespace LintRelay

namespace LineEnds

/-- A text saved with a carriage return before each line feed. -/
def withReturns (cs : List Char) : List Char :=
  cs.flatMap fun c => if c = '\n' then ['\r', '\n'] else [c]

/-- The carriage returns right before line feeds taken away. -/
def withoutReturns : List Char → List Char
  | [] => []
  | '\r' :: '\n' :: rest => '\n' :: withoutReturns rest
  | c :: rest => c :: withoutReturns rest

variable {line : List Char}

theorem withReturns_line (hline : '\n' ∉ line) : withReturns line = line := by
  induction line with
  | nil => rfl
  | cons c line ih =>
    obtain ⟨hc, hrest⟩ : '\n' ≠ c ∧ '\n' ∉ line := by simpa using hline
    have htail := ih hrest
    rw [withReturns] at htail
    simp [withReturns, Ne.symm hc, htail]

theorem withReturns_append (hline : '\n' ∉ line) (rest : List Char) :
    withReturns (line ++ '\n' :: rest) = line ++ '\r' :: '\n' :: withReturns rest := by
  have hsame := withReturns_line hline
  rw [withReturns] at hsame ⊢
  rw [List.flatMap_append, hsame]
  rfl

theorem unify_append (hline : '\r' ∉ line) (rest : List Char) :
    unify (line ++ rest) = line ++ unify rest := by
  induction line with
  | nil => rfl
  | cons c line ih =>
    obtain ⟨hc, hrest⟩ : '\r' ≠ c ∧ '\r' ∉ line := by simpa using hline
    rw [List.cons_append, unify, if_neg (Ne.symm hc), ih hrest, List.cons_append]
    intro more e
    exact absurd e.symm hc

theorem withoutReturns_append (hline : '\r' ∉ line) (rest : List Char) :
    withoutReturns (line ++ rest) = line ++ withoutReturns rest := by
  induction line with
  | nil => rfl
  | cons c line ih =>
    obtain ⟨hc, hrest⟩ : '\r' ≠ c ∧ '\r' ∉ line := by simpa using hline
    rw [List.cons_append, withoutReturns, ih hrest, List.cons_append]
    intro more e
    exact absurd e.symm hc

theorem withoutReturns_line (hline : '\r' ∉ line) : withoutReturns line = line := by
  simpa [withoutReturns] using withoutReturns_append hline []

theorem unify_withReturns {cs : List Char} (hplain : '\r' ∉ cs) : unify (withReturns cs) = cs := by
  induction cs using lines_induction with
  | last line hline => rw [withReturns_line hline, unify_of_not_mem hplain]
  | more line rest hline ih =>
    obtain ⟨hfirst, hrest⟩ : '\r' ∉ line ∧ '\r' ∉ rest := by simpa using hplain
    rw [withReturns_append hline, unify_append hfirst, unify, ih hrest]

end LineEnds

theorem linesOf_injective : Function.Injective linesOf :=
  Function.LeftInverse.injective fun _ => List.intercalate_splitOn '\n'

namespace BlankLines

open LineEnds

variable {line cs : List Char}

theorem emptiedLine_eq_self_iff : emptiedLine line = line ↔ ¬ IsBlankLine line := by
  constructor
  · intro hsame hblank
    have hempty : emptiedLine line = [] := if_pos hblank
    exact hblank.1 (hsame.symm.trans hempty)
  · intro hshown
    exact if_neg hshown

theorem return_not_mem_emptied (hplain : '\r' ∉ cs) : '\r' ∉ emptied cs := by
  induction cs using lines_induction with
  | last line hline =>
    rw [emptied_line hline]
    exact not_mem_emptiedLine hplain
  | more line rest hline ih =>
    obtain ⟨hfirst, hrest⟩ : '\r' ∉ line ∧ '\r' ∉ rest := by simpa using hplain
    have hemptied : '\r' ∉ emptiedLine line := not_mem_emptiedLine hfirst
    rw [emptied_append hline]
    simp [hemptied, ih hrest]

theorem emptied_return (hline : '\n' ∉ line) (rest : List Char) :
    emptied (line ++ '\r' :: '\n' :: rest) = line ++ '\r' :: '\n' :: emptied rest := by
  have hended : '\n' ∉ line ++ ['\r'] := by simp [hline]
  have hkept : emptiedLine (line ++ ['\r']) = line ++ ['\r'] :=
    emptiedLine_of_mem (c := '\r') (by simp) (by decide)
  have h := emptied_append hended rest
  rw [hkept] at h
  simpa using h

/-- With returns, the last line is the only one that can be emptied. -/
theorem linesOf_emptied_withReturns (hplain : '\r' ∉ cs) :
    linesOf (withoutReturns (emptied (withReturns cs))) =
      (linesOf cs).dropLast ++ [emptiedLine ((linesOf cs).getLast (linesOf_ne_nil cs))] := by
  induction cs using lines_induction with
  | last line hline =>
    have hempty : '\r' ∉ emptiedLine line := not_mem_emptiedLine hplain
    rw [withReturns_line hline, emptied_line hline, withoutReturns_line hempty,
      linesOf_line (not_mem_emptiedLine hline)]
    simp [linesOf_line hline]
  | more line rest hline ih =>
    obtain ⟨hfirst, hrest⟩ : '\r' ∉ line ∧ '\r' ∉ rest := by simpa using hplain
    have hbehind := linesOf_ne_nil rest
    rw [withReturns_append hline, emptied_return hline, withoutReturns_append hfirst, withoutReturns,
      linesOf_append hline, ih hrest]
    simp [linesOf_append hline, List.dropLast_cons_of_ne_nil hbehind, List.getLast_cons hbehind]

/-- The returns make no difference exactly where no blank line has a line feed behind it. -/
theorem withoutReturns_emptied_iff (hplain : '\r' ∉ cs) :
    withoutReturns (emptied (withReturns cs)) = emptied cs ↔
      ∀ line ∈ (linesOf cs).dropLast, ¬ IsBlankLine line := by
  have hsplit : (linesOf cs).map emptiedLine = (linesOf cs).dropLast.map emptiedLine ++
      [emptiedLine ((linesOf cs).getLast (linesOf_ne_nil cs))] := by
    conv_lhs => rw [← List.dropLast_concat_getLast (linesOf_ne_nil cs)]
    rw [List.map_append, List.map_singleton]
  have hsame (lines : List (List Char)) :
      lines = lines.map emptiedLine ↔ ∀ line ∈ lines, ¬ IsBlankLine line := by
    induction lines with
    | nil => simp
    | cons first rest ih =>
      rw [List.map_cons, List.cons.injEq, ih, eq_comm, emptiedLine_eq_self_iff,
        List.forall_mem_cons]
  rw [← linesOf_injective.eq_iff, linesOf_emptied, linesOf_emptied_withReturns hplain, hsplit,
    List.append_left_inj, hsame]

theorem emptiedText_ofList (cs : List Char) :
    emptiedText (String.ofList cs) = String.ofList (emptied cs) := by
  rw [emptiedText, String.toList_ofList]

end BlankLines

/-- How a document comes to be inspected: shown or known to an editor, in a request, or as a file that a
command is given. -/
inductive Delivery where
  | document (s : Subject)
  | request (data : Fields)
  | file (name : String) (results : Results)

namespace Delivery

def perform : Delivery → Action Unit
  | document s => Action.publishSubject s
  | request data => Action.ignore (Action.serveInspect data)
  | file name results => Action.ignore (Action.lintFile name results)

/-- The text is read from its file and does not come with the document. -/
def readsFile : Delivery → Bool
  | document s => s.text.isNone
  | request _ => false
  | file _ _ => true

/-- The document at a path has this content, and the linter is the only provider for it. -/
def Carries (path : String) (content : List Char) (h : Host) : Delivery → Prop
  | document s =>
    s.path = path ∧ h.registry.providersFor s.languageId = [⟨Inspector.name, .linter⟩] ∧
      (s.text = some (String.ofList content) ∨
        s.text = none ∧ h.disk.readBytes path = .ok (Utf8.encode content))
  | request data =>
    path ≠ "" ∧ Value.fieldOrNull "path" data = .str path ∧
      Value.fieldOrNull "text" data = .str (String.ofList content) ∧
      ∃ language name, Action.requestedLanguage data (.str path) = .ok language ∧
        Registry.lookupName language = .ok name ∧
        h.registry.providersFor name = [⟨Inspector.name, .linter⟩]
  | file name _ =>
    name = path ∧ h.registry.providersFor (Language.ofPath path) = [⟨Inspector.name, .linter⟩] ∧
      h.disk.readBytes path = .ok (Utf8.encode content)

end Delivery

/-- The linter can be started on the document at a path, with these options. -/
structure Host.Ready (path : String) (options : Fields) (h : Host) : Prop where
  enabled : h.registry.enabled = true
  executable : ∃ executable, h.inspector.engine.executable = .str executable
  named : Engine.nameFault? (Engine.fileName path) = none
  options : h.inspector.effectiveOptions = .ok options

namespace Action

variable {h : Host} {path text : String} {content : List Char} {options : Fields}

theorem inspect_snd_of_linter {language : Option String} (henabled : h.registry.enabled = true)
    (hlinter : h.registry.providersFor language = [⟨Inspector.name, .linter⟩]) :
    (inspect language (.str text) (.str path) h).2 = (scanFile (.str text) (.str path) h).2 := by
  have hone : inspect language (.str text) (.str path) h =
      (scanFile (.str text) (.str path) >>= fun r => pure [(Inspector.name, r)]) h := by
    rw [inspect_of_enabled henabled, hlinter]
    rfl
  rw [hone, bind_idle_snd fun _ _ => rfl]

theorem started_inspect (hready : h.Ready path options) {language : Option String}
    (hlinter : h.registry.providersFor language = [⟨Inspector.name, .linter⟩]) (text : String) :
    started (inspect language (.str text) (.str path) h).2.events =
      started h.events ++
        [h.inspector.engine.command (BlankLines.emptiedText text) options path] := by
  obtain ⟨executable, hexecutable⟩ := hready.executable
  rw [inspect_snd_of_linter hready.enabled hlinter]
  exact started_scanFile hexecutable hready.named hready.options text

theorem publishOutcome_startsNone (s : Subject) (r : Except Fault (Entries (Option Inspection))) :
    Keeps (StartsOnly fun _ => False) (publishOutcome s r) := by
  cases r with
  | error fault => exact emit_startsOnly (by simp)
  | ok results => exact (keeps_ofExcept _).bind fun diagnostics => emit_startsOnly (by simp)

theorem started_publishSubject {s : Subject} (hready : h.Ready s.path options)
    (hlinter : h.registry.providersFor s.languageId = [⟨Inspector.name, .linter⟩])
    (htext : sourceText s h = (.ok text, h)) :
    started (publishSubject s h).2.events =
      started h.events ++
        [h.inspector.engine.command (BlankLines.emptiedText text) options s.path] := by
  have hsubject : inspectSubject s h = inspect s.languageId (.str text) (.str s.path) h :=
    bind_ok htext _
  have hprovided : h.registry.providersFor s.languageId ≠ [] := by simp [hlinter]
  rw [publishSubject_apply, if_neg hprovided, (publishOutcome_startsNone s _ _).started_eq, hsubject]
  exact started_inspect hready hlinter text

theorem started_lintFile (hready : h.Ready path options)
    (hlinter : h.registry.providersFor (Language.ofPath path) = [⟨Inspector.name, .linter⟩])
    (hread : h.disk.readText path = .ok text) (results : Results) :
    started (lintFile path results h).2.events =
      started h.events ++
        [h.inspector.engine.command (BlankLines.emptiedText text) options path] := by
  have hfile : lintFile path results h = (inspect (Language.ofPath path) (.str text) (.str path) >>=
      fun answers =>
        pure (Entries.put path ((Entries.get? Inspector.name answers).getD none) results)) h := by
    show (ofExcept (h.disk.readText path) >>= _) h = _
    rw [ofExcept_bind_ok hread]
    rfl
  rw [hfile, bind_idle_snd fun _ _ => rfl]
  exact started_inspect hready hlinter text

theorem started_serveInspect {data : Fields} (hready : h.Ready path options) (hpath : path ≠ "")
    (hpathField : Value.fieldOrNull "path" data = .str path)
    (htextField : Value.fieldOrNull "text" data = .str text) {language : Value}
    {name : Option String} (hlanguage : requestedLanguage data (.str path) = .ok language)
    (hname : Registry.lookupName language = .ok name)
    (hlinter : h.registry.providersFor name = [⟨Inspector.name, .linter⟩]) :
    started (serveInspect data h).2.events =
      started h.events ++
        [h.inspector.engine.command (BlankLines.emptiedText text) options path] := by
  have hgiven : ¬ ((!(Value.str path).isTruthy || (Value.str text).isNull) = true) := by
    simp [Value.isTruthy, Value.isNull, hpath]
  have hprovided : isProvided name h = (.ok true, h) := by
    show (Except.ok (!(h.registry.providersFor name).isEmpty), h) = _
    rw [hlinter]
    rfl
  have hserved : (serveInspect data h).2 = (inspect name (.str text) (.str path) h).2 := by
    simp only [serveInspect, hpathField, htextField, if_neg hgiven]
    rw [ofExcept_bind_ok hlanguage, ofExcept_bind_ok hname, bind_ok hprovided, if_pos rfl]
    refine bind_idle_snd (fun r g => ?_) (attempt (inspect name (.str text) (.str path))) h
    cases r <;> rfl
  rw [hserved]
  exact started_inspect hready hlinter text

theorem readText_encode (hbytes : h.disk.readBytes path = .ok (Utf8.encode content)) :
    h.disk.readText path = .ok (String.ofList (LineEnds.unify content)) := by
  rw [Disk.readText_of_bytes hbytes, Disk.decodeText_encode]

end Action

open LineEnds BlankLines

/-- A document is handed to the linter without its blank lines; read from its file, also without its
carriage returns. -/
theorem Delivery.started_perform {h : Host} {path : String} {content : List Char} {options : Fields}
    (hready : h.Ready path options) {d : Delivery} (hcarries : d.Carries path content h) :
    started (d.perform h).2.events =
      started h.events ++ [h.inspector.engine.command
        (String.ofList (emptied (if d.readsFile then unify content else content))) options path] := by
  rw [← emptiedText_ofList]
  cases d with
  | document s =>
    obtain ⟨rfl, hlinter, ⟨htext⟩ | ⟨htext, hbytes⟩⟩ := hcarries
    · have hsource : Action.sourceText s h = (.ok (String.ofList content), h) := by
        rw [Action.sourceText, htext]
        rfl
      simpa [perform, readsFile, htext] using Action.started_publishSubject hready hlinter hsource
    · have hsource : Action.sourceText s h = (.ok (String.ofList (unify content)), h) := by
        rw [Action.sourceText, htext]
        exact Prod.ext (Action.readText_encode hbytes) rfl
      simpa [perform, readsFile, htext] using Action.started_publishSubject hready hlinter hsource
  | request data =>
    obtain ⟨hpath, hpathField, htextField, language, name, hlanguage, hname, hlinter⟩ := hcarries
    rw [perform, Action.ignore_snd]
    exact Action.started_serveInspect hready hpath hpathField htextField hlanguage hname hlinter
  | file name results =>
    obtain ⟨rfl, hlinter, hbytes⟩ := hcarries
    rw [perform, Action.ignore_snd]
    exact Action.started_lintFile hready hlinter (Action.readText_encode hbytes) results

/-- A document without carriage returns, saved with one before each line feed: what the linter is handed is,
but for the returns, what it would be handed of the document itself exactly where the file is read or no
blank line has a line feed behind it. All other lines are handed over alike. -/
theorem returns_hide_blank_lines {t : List Char} (hplain : '\r' ∉ t) {h : Host} {path : String}
    {options : Fields} (hready : h.Ready path options) {d : Delivery}
    (hcarries : d.Carries path (withReturns t) h) :
    let handed := emptied (if d.readsFile then t else withReturns t)
    started (d.perform h).2.events =
        started h.events ++ [h.inspector.engine.command (String.ofList handed) options path] ∧
      (withoutReturns handed = emptied t ↔
        d.readsFile = true ∨ ∀ line ∈ (linesOf t).dropLast, ¬ IsBlankLine line) ∧
      linesOf (withoutReturns handed) =
        if d.readsFile then (linesOf t).map emptiedLine
        else (linesOf t).dropLast ++ [emptiedLine ((linesOf t).getLast (linesOf_ne_nil t))] := by
  intro handed
  have hstarted := Delivery.started_perform hready hcarries
  rw [unify_withReturns hplain] at hstarted
  refine ⟨hstarted, ?_⟩
  cases hreads : d.readsFile with
  | true =>
    have hhanded : withoutReturns handed = emptied t := by
      have hreturn := return_not_mem_emptied hplain
      simp [handed, hreads, withoutReturns_line hreturn]
    rw [hhanded, if_pos rfl]
    exact ⟨by simp, linesOf_emptied t⟩
  | false =>
    have hhanded : handed = emptied (withReturns t) := by simp [handed, hreads]
    rw [hhanded, if_neg Bool.false_ne_true]
    exact ⟨by simpa using withoutReturns_emptied_iff hplain, linesOf_emptied_withReturns hplain⟩

def Host.withFile (content : String) : Host :=
  Host.editing (.listing ⟨[("/a.js", Utf8.encode content.toList)], ["/"]⟩) (fun _ _ => .missing)
    Host.standardInspector

/-- A blank last line is emptied with returns and without. -/
theorem returns_hide_blank_lines_but_last :
    let shown : Delivery := .document ⟨"file:///a.js", "/a.js", "", some "x\r\n\t"⟩
    started (shown.perform (Host.withFile "")).2.events =
        [⟨.str "jslint", ["--json", "--indent=4", "--browser", "<tmp>/a.js"], .int 30,
          some "x\r\n"⟩] ∧
      withoutReturns "x\r\n".toList = emptied "x\n\t".toList := by
  intro shown
  have hready : (Host.withFile "").Ready "/a.js" [("indent", .int 4), ("browser", .bool true)] :=
    ⟨rfl, ⟨"jslint", rfl⟩, by decide +kernel, by decide +kernel⟩
  have hcarries : shown.Carries "/a.js" (withReturns "x\n\t".toList) (Host.withFile "") :=
    ⟨rfl, rfl, .inl (by decide +kernel)⟩
  obtain ⟨hstarted, hagree, -⟩ := returns_hide_blank_lines (by decide) hready hcarries
  exact ⟨hstarted.trans (by decide +kernel), hagree.2 (.inr (by decide))⟩

/-- A blank line is handed to the linter by the surfaces that get its text with the return, and emptied
where the same file is read. -/
theorem blank_line_is_hidden_by_return :
    let t := " \nx".toList
    let h := Host.withFile " \r\nx"
    let shown : Delivery := .document ⟨"file:///a.js", "/a.js", "", some " \r\nx"⟩
    let posted : Delivery := .request [("path", .str "/a.js"), ("text", .str " \r\nx")]
    let named : Delivery := .file "/a.js" []
    '\r' ∉ t ∧ withReturns t = " \r\nx".toList ∧
      (started (shown.perform h).2.events).map Launch.text = [some " \r\nx"] ∧
      (started (posted.perform h).2.events).map Launch.text = [some " \r\nx"] ∧
      (started (named.perform h).2.events).map Launch.text = [some "\nx"] ∧
      withoutReturns (emptied (withReturns t)) ≠ emptied t := by
  decide +kernel

end LintRelay
