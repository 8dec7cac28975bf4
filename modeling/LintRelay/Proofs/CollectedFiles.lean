import LintRelay.Proofs.JoinedNames
import LintRelay.Proofs.SortedEntries
import Mathlib.Data.List.Forall2

/-!
# Which files are collected

Below a folder just the files of a linted ending are collected that lie in no skipped folder and in none
whose path is too long to be read. Each of them is collected once, and they come in one order: in every
folder first its own files, then what lies in its subfolders, by ascending names. A file stands for
itself, and several paths are collected one after the other.
-/
namespace LintRelay

namespace FileTree

/-- The entries of every folder have distinct names, and names that a folder can give. -/
inductive Proper : FileTree → Prop
  | file (bytes : List UInt8) : Proper (.file bytes)
  | sink : Proper .sink
  | folder {entries : List (String × FileTree)} (hnodup : (Entries.names entries).Nodup)
      (hnames : ∀ p ∈ entries, PathName.IsEntryName p.1) (hnodes : ∀ p ∈ entries, Proper p.2) :
      Proper (.folder entries)

/-- The way from a folder to a file: the subfolders that are entered, and the file's name. -/
structure Route where
  folders : List String
  name : String

namespace Route

variable {place subfolder : String} {r s : Route}

def names (r : Route) : List String := r.folders ++ [r.name]

def text (r : Route) : String := PathName.joined r.names

def folderPath (place : String) (r : Route) : String := r.folders.foldl PathName.below place

def path (place : String) (r : Route) : String := PathName.below (r.folderPath place) r.name

def under (subfolder : String) (r : Route) : Route := ⟨subfolder :: r.folders, r.name⟩

/-- A folder's own files come first, in the order of their names, then what lies in its subfolders in
the order of theirs. -/
inductive Before : Route → Route → Prop
  | files {a b : String} (h : a < b) : Before ⟨[], a⟩ ⟨[], b⟩
  | fileFirst {a b folder : String} {folders : List String} :
      Before ⟨[], a⟩ ⟨folder :: folders, b⟩
  | folders {a b folder other : String} {folders others : List String} (h : folder < other) :
      Before ⟨folder :: folders, a⟩ ⟨other :: others, b⟩
  | within {a b folder : String} {folders others : List String}
      (h : Before ⟨folders, a⟩ ⟨others, b⟩) : Before ⟨folder :: folders, a⟩ ⟨folder :: others, b⟩

theorem Before.irrefl (h : Before r r) : False := by
  obtain ⟨folders, name⟩ := r
  induction folders with
  | nil =>
    cases h with
    | files h => exact String.lt_irrefl _ h
  | cons folder rest ih =>
    cases h with
    | folders h => exact String.lt_irrefl _ h
    | within h => exact ih h

theorem path_eq (place : String) (hnames : ∀ name ∈ r.names, PathName.IsEntryName name) :
    r.path place = PathName.below place r.text := by
  have hne : r.names ≠ [] := by simp [names]
  rw [text, ← PathName.foldl_below place hne hnames, names, List.foldl_append]
  rfl

theorem path_injective (hr : ∀ name ∈ r.names, PathName.IsEntryName name)
    (hs : ∀ name ∈ s.names, PathName.IsEntryName name) (h : r.path place = s.path place) : r = s := by
  rw [path_eq place hr, path_eq place hs] at h
  have hnames : r.names = s.names :=
    PathName.joined_injective (by simp [names]) (fun name hname => (hr name hname).no_slash)
      (by simp [names]) (fun name hname => (hs name hname).no_slash) (PathName.below_injective h)
  obtain ⟨hfolders, hname⟩ := List.append_inj' hnames rfl
  obtain ⟨folders, name⟩ := r
  obtain ⟨others, other⟩ := s
  exact congrArg₂ mk hfolders (List.singleton_inj.1 hname)

end Route

/-- The files to collect below a folder with a given path. -/
structure Wanted (place : String) (node : FileTree) (r : Route) : Prop where
  isFile : ∃ leaf, node.at? r.names = some leaf ∧ leaf.isFolderNode = false
  linted : PathName.HasLintedEnding r.name
  entered : ∀ subfolder ∈ r.folders, subfolder ∉ skippedFolders
  readable : isTooLong (r.folderPath place) = false

end FileTree

namespace Entries

variable {α : Type} {entries : Entries α} {name : String} {a : α}

theorem get?_eq_some_iff (hnodup : (names entries).Nodup) :
    get? name entries = some a ↔ (name, a) ∈ entries := by
  refine ⟨mem_of_get?, fun hmem => ?_⟩
  induction entries with
  | nil => cases hmem
  | cons p rest ih =>
    obtain ⟨hp, hrest⟩ := List.nodup_cons.1 hnodup
    rcases List.mem_cons.1 hmem with rfl | hmem
    · rw [get?, if_pos rfl]
    · have hne : p.1 ≠ name := fun e => hp (e ▸ List.mem_map_of_mem hmem)
      rw [get?, if_neg hne, ih hrest hmem]

theorem eq_of_mem (hnodup : (names entries).Nodup) {b : α} (ha : (name, a) ∈ entries)
    (hb : (name, b) ∈ entries) : a = b := by
  rw [← get?_eq_some_iff hnodup] at ha hb
  exact Option.some.inj (ha.symm.trans hb)

end Entries

namespace FileTree

open PathName (IsEntryName HasLintedEnding)

variable {root node : FileTree} {place : String} {entries : List (String × FileTree)}

theorem at?_cons (hnodup : (Entries.names entries).Nodup) {name : String} {rest : List String} :
    (folder entries).at? (name :: rest) = some node ↔
      ∃ sub, (name, sub) ∈ entries ∧ sub.at? rest = some node := by
  simp only [at?, ← Entries.get?_eq_some_iff hnodup]
  cases Entries.get? name entries <;> simp

theorem at?_nil (node : FileTree) : node.at? [] = some node := by
  cases node <;> rfl

theorem at?_eq_nil {leaf : FileTree} {names : List String} (hleaf : leaf.isFolderNode = false)
    (hat : leaf.at? names = some node) : names = [] := by
  cases names with
  | nil => rfl
  | cons name rest =>
    cases leaf with
    | folder entries => cases hleaf
    | file | sink => cases hat

/-- What stands in a proper tree is proper, and so are the names that lead there. -/
theorem Proper.at? (h : Proper root) {names : List String} (hat : root.at? names = some node) :
    Proper node ∧ ∀ name ∈ names, IsEntryName name := by
  induction names generalizing root with
  | nil =>
    rw [at?_nil, Option.some.injEq] at hat
    exact ⟨hat ▸ h, by simp⟩
  | cons name rest ih =>
    cases h with
    | file | sink => cases hat
    | folder hnodup hnames hnodes =>
      obtain ⟨sub, hsub, hat⟩ := (at?_cons hnodup).1 hat
      obtain ⟨hnode, hrest⟩ := ih (hnodes _ hsub) hat
      exact ⟨hnode, List.forall_mem_cons.2 ⟨hnames _ hsub, hrest⟩⟩

theorem Wanted.isEntryName {r : Route} (hnode : Proper node) (h : Wanted place node r) :
    ∀ name ∈ r.names, IsEntryName name := by
  obtain ⟨leaf, hat, -⟩ := h.isFile
  exact (hnode.at? hat).2

theorem utf8ByteSize_below (place name : String) :
    place.utf8ByteSize + name.utf8ByteSize ≤ (PathName.below place name).utf8ByteSize := by
  unfold PathName.below
  split
  · rename_i hempty
    simp [hempty]
  · split <;> simp only [String.utf8ByteSize_append] <;> omega

theorem isTooLong_of_below {name : String}
    (h : isTooLong (PathName.below place name) = false) : isTooLong place = false := by
  have hsize := utf8ByteSize_below place name
  simp only [isTooLong, decide_eq_false_iff_not] at h ⊢
  omega

theorem isTooLong_of_folderPath {r : Route} (h : isTooLong (r.folderPath place) = false) :
    isTooLong place = false := by
  obtain ⟨folders, name⟩ := r
  induction folders generalizing place with
  | nil => exact h
  | cons subfolder rest ih => exact isTooLong_of_below (ih h)

theorem mem_ownNames (hnames : ∀ p ∈ entries, IsEntryName p.1) {name : String} :
    name ∈ ownNames entries ↔
      HasLintedEnding name ∧ ∃ leaf, (name, leaf) ∈ entries ∧ leaf.isFolderNode = false := by
  rw [ownNames, Entries.mem_names_sorted, Entries.names, List.mem_map]
  constructor
  · rintro ⟨⟨name, leaf⟩, hmem, rfl⟩
    simp only [List.mem_filter, Bool.and_eq_true, Bool.not_eq_true'] at hmem
    obtain ⟨hmem, hleaf, hlinted⟩ := hmem
    exact ⟨(PathName.isLintedName_iff (hnames _ hmem)).1 hlinted, leaf, hmem, hleaf⟩
  · rintro ⟨hlinted, leaf, hmem, hleaf⟩
    refine ⟨(name, leaf), ?_, rfl⟩
    simp only [List.mem_filter, Bool.and_eq_true, Bool.not_eq_true']
    exact ⟨hmem, hleaf, (PathName.isLintedName_iff (hnames _ hmem)).2 hlinted⟩

theorem pairwise_ownNames (hnodup : (Entries.names entries).Nodup) :
    (ownNames entries).Pairwise (· < ·) := by
  refine List.pairwise_map.2 (Entries.pairwise_sorted ?_)
  exact List.Nodup.sublist (List.Sublist.map Prod.fst List.filter_sublist) hnodup

theorem wanted_own_iff (hnodup : (Entries.names entries).Nodup)
    (hnames : ∀ p ∈ entries, IsEntryName p.1) {name : String} :
    Wanted place (folder entries) ⟨[], name⟩ ↔
      isTooLong place = false ∧ name ∈ ownNames entries := by
  rw [mem_ownNames hnames]
  constructor
  · rintro ⟨⟨leaf, hat, hleaf⟩, hlinted, -, hreadable⟩
    obtain ⟨sub, hsub, hat⟩ := (at?_cons hnodup).1 hat
    rw [at?_nil, Option.some.injEq] at hat
    exact ⟨hreadable, hlinted, leaf, hat ▸ hsub, hleaf⟩
  · rintro ⟨hreadable, hlinted, leaf, hmem, hleaf⟩
    have hat : (folder entries).at? [name] = some leaf :=
      (at?_cons hnodup).2 ⟨leaf, hmem, at?_nil leaf⟩
    exact ⟨⟨leaf, hat, hleaf⟩, hlinted, by simp, hreadable⟩

theorem wanted_under_iff (hnodup : (Entries.names entries).Nodup) {subfolder : String} {r : Route} :
    Wanted place (folder entries) (r.under subfolder) ↔
      subfolder ∉ skippedFolders ∧ ∃ sub, (subfolder, sub) ∈ entries ∧
        Wanted (PathName.below place subfolder) sub r := by
  constructor
  · rintro ⟨⟨leaf, hat, hleaf⟩, hlinted, hentered, hreadable⟩
    obtain ⟨hskipped, hentered⟩ := List.forall_mem_cons.1 hentered
    obtain ⟨sub, hsub, hat⟩ := (at?_cons hnodup).1 hat
    exact ⟨hskipped, sub, hsub, ⟨leaf, hat, hleaf⟩, hlinted, hentered, hreadable⟩
  · rintro ⟨hskipped, sub, hsub, ⟨leaf, hat, hleaf⟩, hlinted, hentered, hreadable⟩
    have hat : (folder entries).at? (r.under subfolder).names = some leaf :=
      (at?_cons hnodup).2 ⟨sub, hsub, hat⟩
    exact ⟨⟨leaf, hat, hleaf⟩, hlinted, List.forall_mem_cons.2 ⟨hskipped, hentered⟩, hreadable⟩

/-- Paths below a place: those of the routes with a property, each once and in the order of routes. -/
def Lists (place : String) (wanted : Route → Prop) (files : List String) : Prop :=
  ∃ routes : List Route, files = routes.map (Route.path place) ∧
    (∀ r, r ∈ routes ↔ wanted r) ∧ routes.Pairwise Route.Before

namespace Lists

variable {subfolder : String} {wanted other : Route → Prop} {files more : List String}

theorem nil (hnone : ∀ r, ¬ wanted r) : Lists place wanted [] :=
  ⟨[], rfl, fun r => iff_of_false List.not_mem_nil (hnone r), .nil⟩

theorem congr (h : Lists place wanted files) (hiff : ∀ r, wanted r ↔ other r) :
    Lists place other files := by
  obtain ⟨routes, hfiles, hmem, hordered⟩ := h
  exact ⟨routes, hfiles, fun r => (hmem r).trans (hiff r), hordered⟩

theorem append (h : Lists place wanted files) (h' : Lists place other more)
    (hbefore : ∀ r s, wanted r → other s → Route.Before r s) :
    Lists place (fun r => wanted r ∨ other r) (files ++ more) := by
  obtain ⟨routes, rfl, hmem, hordered⟩ := h
  obtain ⟨routes', rfl, hmem', hordered'⟩ := h'
  refine ⟨routes ++ routes', List.map_append.symm, fun r => ?_, ?_⟩
  · rw [List.mem_append, hmem, hmem']
  · exact List.pairwise_append.2
      ⟨hordered, hordered', fun r hr s hs => hbefore r s ((hmem r).1 hr) ((hmem' s).1 hs)⟩

theorem own {names : List String} (hordered : names.Pairwise (· < ·)) :
    Lists place (fun r => ∃ name ∈ names, r = ⟨[], name⟩) (names.map (PathName.below place)) := by
  refine ⟨names.map (Route.mk []), ?_, fun r => ?_, ?_⟩
  · rw [List.map_map]
    rfl
  · simp only [List.mem_map, eq_comm]
  · exact List.pairwise_map.2 (hordered.imp Route.Before.files)

theorem under (h : Lists (PathName.below place subfolder) wanted files) :
    Lists place (fun r => ∃ s, r = s.under subfolder ∧ wanted s) files := by
  obtain ⟨routes, rfl, hmem, hordered⟩ := h
  refine ⟨routes.map (Route.under subfolder), ?_, fun r => ?_, ?_⟩
  · rw [List.map_map]
    rfl
  · simp only [List.mem_map, hmem]
    grind
  · exact List.pairwise_map.2 (hordered.imp Route.Before.within)

theorem flatMap {parts : Entries (List String)} (wanted : String → Route → Prop)
    (hordered : parts.Pairwise fun p q => p.1 < q.1)
    (hparts : ∀ p ∈ parts, Lists (PathName.below place p.1) (wanted p.1) p.2) :
    Lists place (fun r => ∃ subfolder ∈ Entries.names parts, ∃ s, r = s.under subfolder ∧
      wanted subfolder s) (parts.flatMap Prod.snd) := by
  induction parts with
  | nil => exact nil (by simp [Entries.names])
  | cons p rest ih =>
    obtain ⟨hp, hrest⟩ := List.pairwise_cons.1 hordered
    obtain ⟨hfirst, hothers⟩ := List.forall_mem_cons.1 hparts
    refine (hfirst.under.append (ih hrest hothers) ?_).congr fun r => ?_
    · rintro _ _ ⟨r, rfl, -⟩ ⟨subfolder, hmem, s, rfl, -⟩
      obtain ⟨q, hq, rfl⟩ := List.mem_map.1 hmem
      exact .folders (hp q hq)
    · simp [Entries.names]

end Lists

theorem mem_collectedBelow {p : String × List String} :
    p ∈ collectedBelow place entries ↔
      p.1 ∉ skippedFolders ∧ ∃ sub, (p.1, sub) ∈ entries ∧
        p.2 = sub.collected (PathName.below place p.1) := by
  induction entries with
  | nil => simp [collectedBelow]
  | cons q rest ih =>
    obtain ⟨name, sub⟩ := q
    unfold collectedBelow
    split
    · rw [ih]
      grind
    · rw [List.mem_cons, ih]
      grind

theorem names_collectedBelow_sublist (place : String) (entries : List (String × FileTree)) :
    (Entries.names (collectedBelow place entries)).Sublist (Entries.names entries) := by
  induction entries with
  | nil => exact .slnil
  | cons q rest ih =>
    obtain ⟨name, sub⟩ := q
    unfold collectedBelow
    split
    · exact ih.cons name
    · exact ih.cons_cons name

theorem mem_names_collectedBelow {subfolder : String} :
    subfolder ∈ Entries.names (collectedBelow place entries) ↔
      subfolder ∉ skippedFolders ∧ ∃ sub, (subfolder, sub) ∈ entries := by
  constructor
  · intro hmem
    obtain ⟨p, hp, rfl⟩ := List.mem_map.1 hmem
    obtain ⟨hskipped, sub, hsub, -⟩ := mem_collectedBelow.1 hp
    exact ⟨hskipped, sub, hsub⟩
  · rintro ⟨hskipped, sub, hsub⟩
    have hpart : (subfolder, sub.collected (PathName.below place subfolder)) ∈
        collectedBelow place entries := mem_collectedBelow.2 ⟨hskipped, sub, hsub, rfl⟩
    exact List.mem_map_of_mem hpart

/-- What is wanted below a folder stands in the folder itself or below a subfolder that is entered. -/
theorem wanted_folder_iff (hnodup : (Entries.names entries).Nodup)
    (hnames : ∀ p ∈ entries, IsEntryName p.1) (hshort : isTooLong place = false) {r : Route} :
    Wanted place (folder entries) r ↔
      (∃ name ∈ ownNames entries, r = ⟨[], name⟩) ∨
        ∃ subfolder ∈ Entries.names (Entries.sorted (collectedBelow place entries)),
          ∃ s : Route, r = s.under subfolder ∧ Wanted place (folder entries) (s.under subfolder) := by
  constructor
  · intro hwanted
    obtain ⟨folders, name⟩ := r
    cases folders with
    | nil => exact .inl ⟨name, ((wanted_own_iff hnodup hnames).1 hwanted).2, rfl⟩
    | cons subfolder rest =>
      have hunder : Wanted place (folder entries) (Route.under subfolder ⟨rest, name⟩) := hwanted
      obtain ⟨hskipped, sub, hsub, -⟩ := (wanted_under_iff hnodup).1 hunder
      refine .inr ⟨subfolder, ?_, ⟨rest, name⟩, rfl, hunder⟩
      rw [Entries.mem_names_sorted, mem_names_collectedBelow]
      exact ⟨hskipped, sub, hsub⟩
  · rintro (⟨name, hname, rfl⟩ | ⟨subfolder, -, s, rfl, hwanted⟩)
    · exact (wanted_own_iff hnodup hnames).2 ⟨hshort, hname⟩
    · exact hwanted

/-- In a proper tree just the wanted files are collected, in their order. -/
theorem Proper.collected (h : Proper node) (place : String) :
    Lists place (Wanted place node) (node.collected place) := by
  induction h generalizing place with
  | file | sink =>
    refine Lists.nil fun r hwanted => ?_
    obtain ⟨leaf, hat, -⟩ := hwanted.isFile
    exact absurd (at?_eq_nil rfl hat) (by simp [Route.names])
  | @folder entries hnodup hnames hnodes ih =>
    rw [FileTree.collected]
    split
    · rename_i hlong
      refine Lists.nil fun r hwanted => ?_
      rw [isTooLong_of_folderPath hwanted.readable] at hlong
      cases hlong
    · rename_i hshort
      have hordered := Entries.pairwise_sorted
        (hnodup.sublist (names_collectedBelow_sublist place entries))
      have hparts : ∀ p ∈ Entries.sorted (collectedBelow place entries),
          Lists (PathName.below place p.1)
            (fun r => Wanted place (.folder entries) (r.under p.1)) p.2 := by
        intro p hp
        obtain ⟨hskipped, sub, hsub, hfiles⟩ :=
          mem_collectedBelow.1 ((Entries.sorted_perm _).mem_iff.1 hp)
        rw [hfiles]
        refine (ih _ hsub _).congr fun r => ?_
        rw [wanted_under_iff hnodup]
        refine ⟨fun hwanted => ⟨hskipped, sub, hsub, hwanted⟩, ?_⟩
        rintro ⟨-, sub', hsub', hwanted⟩
        rwa [Entries.eq_of_mem hnodup hsub hsub']
      refine ((Lists.own (pairwise_ownNames hnodup)).append (Lists.flatMap
        (fun subfolder r => Wanted place (.folder entries) (r.under subfolder)) hordered hparts)
        ?_).congr fun r => (wanted_folder_iff hnodup hnames (eq_false_of_ne_true hshort)).symm
      rintro _ _ ⟨name, -, rfl⟩ ⟨subfolder, -, s, rfl, -⟩
      exact .fileFirst

theorem empty_proper : Proper empty := .folder .nil (by simp) (by simp)

theorem system_proper : Proper system := by
  refine .folder (by decide) (by decide) fun p hp => ?_
  rcases List.mem_cons.1 hp with rfl | hp
  · exact .folder (by decide) (by decide) (by simpa using .sink)
  · obtain ⟨name, -, rfl⟩ := List.mem_map.1 hp
    exact empty_proper

theorem Proper.nodeAt (h : Proper root) {place : Place} (hat : root.nodeAt place = some node) :
    Proper node := by
  cases place with
  | inside names => exact (h.at? hat).1
  | outside names => exact (system_proper.at? hat).1
  | above =>
    obtain rfl := Option.some.inj hat
    exact empty_proper

theorem Proper.find (h : Proper root) {path : String} (hfind : root.find path = .ok node) :
    Proper node := by
  unfold FileTree.find at hfind
  cases hplace : root.locate path with
  | error problem =>
    rw [hplace] at hfind
    cases hfind
  | ok place =>
    rw [hplace] at hfind
    cases hnode : root.nodeAt place with
    | none =>
      simp only [Except.bind, hnode] at hfind
      cases hfind
    | some found =>
      simp only [Except.bind, hnode, Except.ok.injEq] at hfind
      exact hfind ▸ h.nodeAt hnode

theorem collect_singleton (root : FileTree) (path : String) :
    root.collect [path] = root.collectPath path := by
  cases hpath : collectPath root path <;> simp [collect, hpath, Except.bind, Except.map]

theorem collect_eq_ok_iff {paths files : List String} :
    root.collect paths = .ok files ↔
      ∃ parts, List.Forall₂ (fun path part => root.collect [path] = .ok part) paths parts ∧
        files = parts.flatten := by
  simp only [collect_singleton]
  induction paths generalizing files with
  | nil => simp [collect, eq_comm]
  | cons path rest ih =>
    have hcons : root.collect (path :: rest) = .ok files ↔
        ∃ part more, root.collectPath path = .ok part ∧ root.collect rest = .ok more ∧
          part ++ more = files := by
      rw [collect]
      cases root.collectPath path <;> cases root.collect rest <;> simp [Except.bind, Except.map]
    simp only [hcons, ih, List.forall₂_cons_left_iff]
    constructor
    · rintro ⟨part, _, hpart, ⟨parts, hparts, rfl⟩, rfl⟩
      exact ⟨part :: parts, ⟨part, parts, hpart, hparts, rfl⟩, rfl⟩
    · rintro ⟨_, ⟨part, parts, hpart, hparts, rfl⟩, rfl⟩
      exact ⟨part, parts.flatten, hpart, ⟨parts, hparts, rfl⟩, rfl⟩

theorem find_of_isFolder {path : String} (h : root.isFolder path = true) :
    '\x00' ∉ path.toList ∧ ∃ entries, root.find path = .ok (folder entries) := by
  simp only [isFolder, Bool.and_eq_true, decide_eq_true_eq] at h
  refine ⟨h.1, ?_⟩
  have hfolder := h.2
  split at hfolder
  · rename_i entries hfind
    exact ⟨entries, hfind⟩
  · cases hfolder

theorem collect_of_isFile {path : String} (h : root.isFile path = true) :
    root.collect [path] = .ok [path] := by
  have hnull : '\x00' ∉ path.toList := by
    simp only [isFile, Bool.and_eq_true, decide_eq_true_eq] at h
    exact h.1
  rw [collect_singleton, collectPath, if_neg hnull, if_pos h]

theorem collect_of_isFolder {path : String} (h : root.isFolder path = true) :
    ∃ node, root.find path = .ok node ∧ root.collect [path] = .ok (node.collected path) := by
  obtain ⟨hnull, entries, hfind⟩ := find_of_isFolder h
  have hfile : ¬ root.isFile path = true := by simp [isFile, hfind]
  refine ⟨folder entries, hfind, ?_⟩
  rw [collect_singleton, collectPath, if_neg hnull, if_neg hfile, hfind]

/-- Below a folder of a proper tree just the wanted files are collected, each once and in the order of
their routes, by the folder's path with the route behind it, and each has a language. A file is collected
as itself, and several paths one after the other. -/
theorem collects_wanted_files (hroot : Proper root) :
    (∀ path, root.isFolder path = true →
      ∃ (node : FileTree) (routes : List Route), root.find path = .ok node ∧
        root.collect [path] = .ok (routes.map fun r => PathName.below path r.text) ∧
        (∀ r, r ∈ routes ↔ Wanted path node r) ∧ routes.Pairwise Route.Before ∧
        (routes.map fun r => PathName.below path r.text).Nodup ∧
        ∀ r ∈ routes, ∃ language, Language.ofPath (PathName.below path r.text) = some language) ∧
      (∀ path, root.isFile path = true → root.collect [path] = .ok [path]) ∧
      ∀ paths files, root.collect paths = .ok files ↔
        ∃ parts, List.Forall₂ (fun path part => root.collect [path] = .ok part) paths parts ∧
          files = parts.flatten := by
  refine ⟨fun path hfolder => ?_, fun path => collect_of_isFile, fun paths files => collect_eq_ok_iff⟩
  obtain ⟨node, hfind, hcollect⟩ := collect_of_isFolder hfolder
  have hnode := hroot.find hfind
  obtain ⟨routes, hfiles, hmem, hordered⟩ := hnode.collected path
  have hnames : ∀ r ∈ routes, ∀ name ∈ r.names, IsEntryName name := fun r hr =>
    ((hmem r).1 hr).isEntryName hnode
  have hpaths : routes.map (Route.path path) = routes.map fun r => PathName.below path r.text :=
    List.map_congr_left fun r hr => Route.path_eq path (hnames r hr)
  refine ⟨node, routes, hfind, ?_, hmem, hordered, ?_, fun r hr => ?_⟩
  · rw [hcollect, hfiles, hpaths]
  · rw [← hpaths]
    refine List.pairwise_map.2 (hordered.imp_of_mem fun hr hs hbefore h => ?_)
    rw [Route.path_injective (hnames _ hr) (hnames _ hs) h] at hbefore
    exact hbefore.irrefl
  · have hname : IsEntryName r.name := hnames r hr r.name (by simp [Route.names])
    have hlinted := (PathName.isLintedName_iff hname).2 ((hmem r).1 hr).linted
    rw [← Route.path_eq path (hnames r hr), Route.path, PathName.ofPath_below _ hname]
    exact Option.isSome_iff_exists.1 hlinted

def nestedFolders : FileTree :=
  folder [("src", folder [("lib", folder [("c.Json", file []), ("c.txt", file [])]), ("b.js", file []),
    ("B.js", file []), ("node_modules", folder [("d.js", file [])]), (".js", file [])])]

theorem nestedFolders_proper : Proper nestedFolders := by
  have hlib : Proper (folder [("c.Json", file []), ("c.txt", file [])]) :=
    .folder (by decide) (by decide) (by simp [Proper.file])
  have hmodules : Proper (folder [("d.js", file [])]) :=
    .folder (by decide) (by decide) (by simp [Proper.file])
  refine .folder (by decide) (by decide) (List.forall_mem_singleton.2 ?_)
  exact .folder (by decide) (by decide) (by simp [Proper.file, hlib, hmodules])

/-- The files of three nested folders. -/
theorem collects_wanted_files_nested :
    ∃ routes : List Route,
      ["src/B.js", "src/b.js", "src/lib/c.Json"] = routes.map (fun r => PathName.below "src" r.text) ∧
        routes.Pairwise Route.Before := by
  obtain ⟨hfolders, -, -⟩ := collects_wanted_files nestedFolders_proper
  obtain ⟨node, routes, -, hfiles, -, hordered, -⟩ := hfolders "src" (by decide +kernel)
  have hcollect : nestedFolders.collect ["src"] = .ok ["src/B.js", "src/b.js", "src/lib/c.Json"] := by
    decide +kernel
  exact ⟨routes, Except.ok.inj (hcollect.symm.trans hfiles), hordered⟩

def here : Nat → String
  | 0 => ""
  | n + 1 => "./" ++ here n

theorem utf8ByteSize_here (n : Nat) : (here n).utf8ByteSize = 2 * n := by
  induction n with
  | zero => rfl
  | succ n ih =>
    rw [here, String.utf8ByteSize_append, ih, show "./".utf8ByteSize = 2 from rfl]
    omega

theorem here_ne_empty (n : Nat) : here (n + 1) ≠ "" := by
  intro h
  have hsize := utf8ByteSize_here (n + 1)
  rw [h] at hsize
  simp at hsize

theorem toList_here (n : Nat) : (here (n + 1)).toList = '.' :: '/' :: (here n).toList := by
  rw [here, String.toList_append]
  rfl

theorem null_not_mem_here (n : Nat) : '\x00' ∉ (here n).toList := by
  induction n with
  | zero => decide
  | succ n ih => simpa [toList_here] using ih

theorem pieces_here (n : Nat) : PathName.pieces (here (n + 1)) = "." :: PathName.pieces (here n) :=
  PathName.pieces_append "." (here n)

theorem followAll_here (entries : List (String × FileTree)) (n : Nat) :
    (folder entries).followAll (PathName.pieces (here n)) (.inside []) = .ok (.inside []) := by
  induction n with
  | zero => rfl
  | succ n ih =>
    rw [pieces_here]
    exact ih

theorem find_here {n : Nat} (hn : 2 * (n + 1) ≤ longestPath) (entries : List (String × FileTree)) :
    (folder entries).find (here (n + 1)) = .ok (folder entries) := by
  have hshort : ¬ isTooLong (here (n + 1)) = true := by
    rw [isTooLong, utf8ByteSize_here, decide_eq_true_eq]
    omega
  have hbeginning : beginning (here (n + 1)) = .inside [] := by
    rw [beginning, toList_here]
    rfl
  rw [find, locate, if_neg (here_ne_empty n), if_neg hshort, hbeginning, followAll_here]
  rfl

def loneFile : FileTree := folder [("lib", folder [("a.js", file [])])]

/-- A file of a linted ending is left out if the path of its folder is too long to be read. -/
theorem long_folder_left_out :
    Proper loneFile ∧ loneFile.isFolder (here 2047) = true ∧ loneFile.find (here 2047) = .ok loneFile ∧
      (∃ leaf, loneFile.at? ["lib", "a.js"] = some leaf ∧ leaf.isFolderNode = false) ∧
      PathName.HasLintedEnding "a.js" ∧ "lib" ∉ skippedFolders ∧
      loneFile.collect [here 2047] = .ok [] := by
  have hlib : Proper (folder [("a.js", file [])]) :=
    .folder (by decide) (by decide) (List.forall_mem_singleton.2 (.file []))
  have hfind : loneFile.find (here 2047) = .ok loneFile := find_here (by decide) _
  have hfolder : loneFile.isFolder (here 2047) = true := by
    rw [isFolder, hfind, decide_eq_true (null_not_mem_here _)]
    rfl
  have hshort : ¬ isTooLong (here 2047) = true := by
    rw [isTooLong, utf8ByteSize_here]
    decide
  have hlong : isTooLong (PathName.below (here 2047) "lib") = true := by
    have hsize := utf8ByteSize_below (here 2047) "lib"
    rw [utf8ByteSize_here, show "lib".utf8ByteSize = 3 from rfl] at hsize
    rw [isTooLong, longestPath, decide_eq_true_eq]
    omega
  have hbelow : collectedBelow (here 2047) [("lib", folder [("a.js", file [])])] = [("lib", [])] := by
    rw [collectedBelow, if_neg (by decide), collected, if_pos hlong, collectedBelow]
  have hnone : loneFile.collected (here 2047) = [] := by
    rw [loneFile, collected, if_neg hshort, hbelow]
    rfl
  refine ⟨.folder (by decide) (by decide) (List.forall_mem_singleton.2 hlib), hfolder, hfind,
    ⟨file [], rfl, rfl⟩, ⟨"a", "js", by decide, rfl, by decide⟩, by decide, ?_⟩
  obtain ⟨node, hnode, hcollect⟩ := collect_of_isFolder hfolder
  obtain rfl : loneFile = node := Except.ok.inj (hfind.symm.trans hnode)
  rw [hcollect, hnone]

end FileTree

end LintRelay
