import LintRelay.Collection
import Mathlib.Data.List.DropRight
import Mathlib.Tactic.Common

/-!
# Joined names

Names of files and folders, and paths that are put together from them. A name put behind a path is the
last component of the result, so a file has the same ending, and the same language, under its name and
under any path to it; and different names below one folder make different paths.
-/
namespace LintRelay

section Behind

variable {α : Type} [DecidableEq α] {run : List α} {stop : α}

theorem rtakeWhile_of_not_mem (hrun : stop ∉ run) : run.rtakeWhile (· ≠ stop) = run := by
  rw [List.rtakeWhile_eq_self_iff]
  intro a ha
  simpa using fun e : a = stop => hrun (e ▸ ha)

theorem rtakeWhile_append_stop (hrun : stop ∉ run) (before : List α) :
    (before ++ stop :: run).rtakeWhile (· ≠ stop) = run := by
  induction run using List.reverseRecOn with
  | nil => exact List.rtakeWhile_concat_neg _ before stop (by simp)
  | append_singleton run a ih =>
    obtain ⟨hrest, ha⟩ : stop ∉ run ∧ stop ≠ a := by simpa using hrun
    rw [← List.cons_append, ← List.append_assoc,
      List.rtakeWhile_concat_pos _ _ a (by simpa using ha.symm), ih hrest]

theorem eq_or_append_rtakeWhile (stop : α) (l : List α) :
    l = l.rtakeWhile (· ≠ stop) ∨ ∃ before, l = before ++ stop :: l.rtakeWhile (· ≠ stop) := by
  have hsplit : l.rdropWhile (· ≠ stop) ++ l.rtakeWhile (· ≠ stop) = l :=
    List.rdropWhile_append_rtakeWhile
  by_cases hnone : l.rdropWhile (· ≠ stop) = []
  · rw [hnone] at hsplit
    exact .inl hsplit.symm
  · have hstop : (l.rdropWhile (· ≠ stop)).getLast hnone = stop := by
      simpa using List.rdropWhile_last_not (· ≠ stop) l hnone
    have hlast := List.dropLast_append_getLast hnone
    rw [hstop] at hlast
    refine .inr ⟨(l.rdropWhile (· ≠ stop)).dropLast, ?_⟩
    rw [List.append_cons, hlast, hsplit]

end Behind

theorem piecesAt_append {separates : Char → Bool} {c : Char} (hc : separates c = true)
    (cs ds : List Char) :
    piecesAt separates (cs ++ c :: ds) = piecesAt separates cs ++ piecesAt separates ds := by
  induction cs with
  | nil => simp [piecesAt, hc]
  | cons b rest ih =>
    by_cases hb : separates b = true
    · simp [piecesAt, hb, ih]
    · cases hrest : piecesAt separates rest with
      | nil =>
        have hlength := length_piecesAt separates rest
        simp [hrest] at hlength
      | cons piece more => simp [piecesAt, hb, ih, hrest]

namespace PathName

variable {folder name other : String} {names others : List String}

/-- What a folder can call an entry. -/
structure IsEntryName (name : String) : Prop where
  ne_empty : name ≠ ""
  ne_dot : name ≠ "."
  ne_dots : name ≠ ".."
  no_slash : '/' ∉ name.toList

instance (name : String) : Decidable (IsEntryName name) :=
  decidable_of_iff (name ≠ "" ∧ name ≠ "." ∧ name ≠ ".." ∧ '/' ∉ name.toList)
    ⟨fun ⟨hempty, hdot, hdots, hslash⟩ => ⟨hempty, hdot, hdots, hslash⟩,
      fun h => ⟨h.ne_empty, h.ne_dot, h.ne_dots, h.no_slash⟩⟩

theorem IsEntryName.saysSomething (h : IsEntryName name) : saysSomething name = true := by
  simp [PathName.saysSomething, h.ne_empty, h.ne_dot]

theorem pieces_of_no_slash (hname : '/' ∉ name.toList) : pieces name = [name] := by
  have hnone : ∀ c ∈ name.toList, decide (c = '/') = false := by
    intro c hc
    simpa using fun e : c = '/' => hname (e ▸ hc)
  rw [pieces, piecesAt_of_none hnone, List.map_singleton, String.ofList_toList]

theorem pieces_append (path name : String) : pieces (path ++ "/" ++ name) = pieces path ++ pieces name := by
  have hchars : (path ++ "/" ++ name).toList = path.toList ++ '/' :: name.toList := by simp
  rw [pieces, hchars, piecesAt_append (by decide), List.map_append]
  rfl

/-- What stands before a name that is put behind a path. -/
def lead (folder : String) : String :=
  if folder = "" then ""
  else if folder.toList.getLast? = some '/' then folder
  else folder ++ "/"

theorem below_eq (folder name : String) : below folder name = lead folder ++ name := by
  unfold below lead
  split
  · exact (String.empty_append).symm
  · split <;> rfl

theorem below_injective (h : below folder name = below folder other) : name = other := by
  rw [below_eq, below_eq] at h
  exact (String.append_right_inj _).1 h

theorem lead_cases (folder : String) : lead folder = "" ∨ ∃ path, lead folder = path ++ "/" := by
  unfold lead
  split
  · exact .inl rfl
  · split
    · rename_i hlast
      obtain ⟨before, hbefore⟩ := List.getLast?_eq_some_iff.1 hlast
      refine .inr ⟨String.ofList before, String.toList_injective ?_⟩
      simpa using hbefore
    · exact .inr ⟨folder, rfl⟩

theorem pieces_below (folder : String) (hname : '/' ∉ name.toList) :
    ∃ before, pieces (below folder name) = before ++ [name] := by
  rw [below_eq]
  rcases lead_cases folder with hempty | ⟨path, hpath⟩
  · refine ⟨[], ?_⟩
    rw [hempty, String.empty_append, pieces_of_no_slash hname]
    rfl
  · refine ⟨pieces path, ?_⟩
    rw [hpath, pieces_append, pieces_of_no_slash hname]

theorem suffix_below (folder : String) (h : IsEntryName name) :
    (ofString (below folder name)).suffix = String.ofList (ending name.toList) := by
  obtain ⟨before, hpieces⟩ := pieces_below folder h.no_slash
  have hlast : (ofString (below folder name)).parts.getLast? = some name := by
    rw [ofString, hpieces, List.filter_append, List.filter_cons_of_pos h.saysSomething]
    simp
  rw [suffix, hlast]

theorem ofPath_below (folder : String) (h : IsEntryName name) :
    Language.ofPath (below folder name) = Language.ofPath name := by
  have halone := suffix_below "" h
  rw [below, if_pos rfl] at halone
  rw [Language.ofPath, Language.ofPath, suffix_below folder h, halone]

theorem joined_cons (name : String) (hnames : names ≠ []) :
    joined (name :: names) = name ++ "/" ++ joined names := by
  cases names with
  | nil => exact absurd rfl hnames
  | cons next rest => rfl

theorem pieces_joined (hne : names ≠ []) (hnames : ∀ name ∈ names, '/' ∉ name.toList) :
    pieces (joined names) = names := by
  induction names with
  | nil => exact absurd rfl hne
  | cons name rest ih =>
    obtain ⟨hname, hrest⟩ := List.forall_mem_cons.1 hnames
    cases rest with
    | nil => exact pieces_of_no_slash hname
    | cons next rest =>
      rw [joined_cons name (List.cons_ne_nil _ _), pieces_append, pieces_of_no_slash hname,
        ih (List.cons_ne_nil _ _) hrest]
      rfl

theorem joined_injective (hne : names ≠ []) (hnames : ∀ name ∈ names, '/' ∉ name.toList)
    (hne' : others ≠ []) (hothers : ∀ name ∈ others, '/' ∉ name.toList)
    (h : joined names = joined others) : names = others := by
  rw [← pieces_joined hne hnames, ← pieces_joined hne' hothers, h]

/-- What is put behind a path that ends in an entry's name is set off by a slash. -/
theorem below_below (folder : String) (h : IsEntryName name) (other : String) :
    below (below folder name) other = below folder (name ++ "/" ++ other) := by
  have hlast : name.toList.getLast? ≠ some '/' := fun e =>
    h.no_slash (List.mem_of_getLast? e)
  have hchars : name.toList ≠ [] := fun e => h.ne_empty (String.toList_eq_nil_iff.1 e)
  have hnested : lead (below folder name) = below folder name ++ "/" := by
    have hne : below folder name ≠ "" := by
      rw [below_eq]
      intro e
      exact h.ne_empty (String.append_eq_empty_iff.1 e).2
    have hend : (below folder name).toList.getLast? = name.toList.getLast? := by
      rw [below_eq, String.toList_append, List.getLast?_append_of_ne_nil _ hchars]
    rw [lead, if_neg hne, hend, if_neg hlast]
  rw [below_eq (below folder name), hnested, below_eq, below_eq]
  simp only [String.append_assoc]

/-- Names put behind a path one after the other are put behind it joined. -/
theorem foldl_below (folder : String) (hne : names ≠ []) (hnames : ∀ name ∈ names, IsEntryName name) :
    names.foldl below folder = below folder (joined names) := by
  induction names generalizing folder with
  | nil => exact absurd rfl hne
  | cons name rest ih =>
    obtain ⟨hname, hrest⟩ := List.forall_mem_cons.1 hnames
    cases rest with
    | nil => rfl
    | cons next rest =>
      rw [List.foldl_cons, ih _ (List.cons_ne_nil _ _) hrest, below_below folder hname,
        joined_cons name (List.cons_ne_nil _ _)]

theorem ending_eq (cs : List Char) :
    ending cs =
      if (cs.rtakeWhile (· ≠ '.')).length = 0 ∨ cs.length ≤ (cs.rtakeWhile (· ≠ '.')).length + 1 then []
      else '.' :: cs.rtakeWhile (· ≠ '.') := rfl

theorem ending_append {stem tail : List Char} (hstem : stem ≠ []) (htail : tail ≠ [])
    (hdot : '.' ∉ tail) : ending (stem ++ '.' :: tail) = '.' :: tail := by
  have hlength : 0 < stem.length := List.length_pos_iff.2 hstem
  have hlength' : 0 < tail.length := List.length_pos_iff.2 htail
  rw [ending_eq, rtakeWhile_append_stop hdot, if_neg]
  simp only [List.length_append, List.length_cons]
  omega

theorem ending_cases (cs : List Char) :
    ending cs = [] ∨ ∃ stem tail, stem ≠ [] ∧ cs = stem ++ '.' :: tail ∧ ending cs = '.' :: tail := by
  rw [ending_eq]
  split
  · exact .inl rfl
  · rename_i hlong
    right
    rcases eq_or_append_rtakeWhile '.' cs with hall | ⟨stem, hcs⟩
    · rw [← hall] at hlong
      omega
    · refine ⟨stem, _, ?_, hcs, rfl⟩
      rintro rfl
      have hlength := congrArg List.length hcs
      rw [List.nil_append, List.length_cons] at hlength
      omega

/-- A name whose part behind the last dot, in small letters, belongs to a linted language, with something
before the dot. -/
def HasLintedEnding (name : String) : Prop :=
  ∃ stem letters, stem ≠ "" ∧ name = stem ++ "." ++ letters ∧
    Language.lowerAscii letters ∈ ["js", "mjs", "cjs", "json"]

theorem lowerAscii_dot (letters : List Char) :
    Language.lowerAscii (String.ofList ('.' :: letters)) =
      "." ++ Language.lowerAscii (String.ofList letters) :=
  String.toList_injective (by simp [Language.lowerAscii])

theorem isSome_byEnding_iff (letters : String) :
    (Entries.get? ("." ++ letters) Language.byEnding).isSome = true ↔
      letters ∈ ["js", "mjs", "cjs", "json"] := by
  have hnames : Entries.names Language.byEnding = ["js", "mjs", "cjs", "json"].map ("." ++ ·) := rfl
  rw [← Entries.has, Entries.has_iff, hnames, List.mem_map_of_injective]
  exact fun _ _ => (String.append_right_inj _).1

theorem isLintedName_iff (h : IsEntryName name) :
    isLintedName name = true ↔ HasLintedEnding name := by
  have hsuffix := suffix_below "" h
  rw [below, if_pos rfl] at hsuffix
  rw [isLintedName, Language.ofPath, hsuffix]
  constructor
  · intro hlinted
    rcases ending_cases name.toList with hnone | ⟨stem, tail, hstem, hname, hending⟩
    · rw [hnone] at hlinted
      exact absurd hlinted (by decide)
    · rw [hending, lowerAscii_dot, isSome_byEnding_iff] at hlinted
      refine ⟨String.ofList stem, String.ofList tail, ?_, String.toList_injective ?_, hlinted⟩
      · intro e
        exact hstem (by simpa using congrArg String.toList e)
      · simpa using hname
  · rintro ⟨stem, letters, hstem, rfl, hletters⟩
    have hdot : '.' ∉ letters.toList := by
      intro hmem
      have hlower : '.' ∈ (Language.lowerAscii letters).toList := by
        rw [Language.lowerAscii, String.toList_ofList]
        exact List.mem_map_of_mem hmem
      have hnone : ∀ ending ∈ ["js", "mjs", "cjs", "json"], '.' ∉ ending.toList := by decide
      exact hnone _ hletters hlower
    have hsome : letters.toList ≠ [] := by
      intro e
      rw [String.toList_eq_nil_iff.1 e] at hletters
      exact absurd hletters (by decide)
    have hending : ending (stem ++ "." ++ letters).toList = '.' :: letters.toList := by
      have hchars : (stem ++ "." ++ letters).toList = stem.toList ++ '.' :: letters.toList := by simp
      rw [hchars]
      exact ending_append (fun e => hstem (String.toList_eq_nil_iff.1 e)) hsome hdot
    rw [hending, lowerAscii_dot, isSome_byEnding_iff, String.ofList_toList]
    exact hletters

end PathName

end LintRelay
