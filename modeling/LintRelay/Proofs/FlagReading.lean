import LintRelay.Flags
import Mathlib.Data.List.Forall2

/-!
# Reading flags back

Flags say what the options say: from a list of flags the options can be read back with their names in
order and, under each, whether it is affirmed or denied or which texts it is given. Only what says
nothing, null and the empty list, leaves no flag behind. A name with an equals sign, or one that begins
like a denial, could be taken for something else, so names are without them here.
-/
namespace LintRelay.Flags

variable {a b fields : Fields} {name : String} {v w : Value}

/-- Names as the options of the linter have them. -/
structure PlainNames (fields : Fields) : Prop where
  nodup : (Entries.names fields).Nodup
  noEquals : ∀ name ∈ Entries.names fields, '=' ∉ name.toList
  noDenial : ∀ name ∈ Entries.names fields, ¬ ['n', 'o', '-'] <+: name.toList

/-- Null and the empty list are not given at all. -/
def isSilent : Value → Bool
  | .null => true
  | .list items => items.isEmpty
  | _ => false

def texts : Value → List String
  | .list items => items.map Value.text
  | v => [v.text]

/-- Values that are given alike: affirmed, denied, or by the same texts. -/
inductive Alike : Value → Value → Prop
  | affirmed : Alike (.bool true) (.bool true)
  | denied : Alike (.bool false) (.bool false)
  | given {v w : Value} (hv : v.kind ≠ .bool) (hw : w.kind ≠ .bool) (hsome : texts v ≠ [])
      (htexts : texts v = texts w) : Alike v w

/-- What a single flag says about its option. -/
inductive Remark where
  | yes
  | no
  | text (t : String)
  deriving DecidableEq

def flag (name : String) : Remark → String
  | .yes => "--" ++ name
  | .no => "--no-" ++ name
  | .text t => "--" ++ name ++ "=" ++ t

def remarks : Value → List Remark
  | .null => []
  | .bool true => [.yes]
  | .bool false => [.no]
  | .list items => items.map fun item => .text item.text
  | v => [.text v.text]

theorem ofOption_eq (name : String) (v : Value) : ofOption name v = (remarks v).map (flag name) := by
  cases v with
  | bool b => cases b <;> rfl
  | list items =>
    rw [remarks, List.map_map]
    rfl
  | null | int | float | str | object => rfl

theorem ofFields_cons (p : String × Value) (rest : Fields) :
    ofFields (p :: rest) = (remarks p.2).map (flag p.1) ++ ofFields rest := by
  rw [← ofOption_eq]
  rfl

theorem isSilent_eq (v : Value) : isSilent v = (remarks v).isEmpty := by
  cases v with
  | bool b => cases b <;> rfl
  | list items => simp [remarks, isSilent]
  | null | int | float | str | object => rfl

/-- The part before the first equals sign is the name, and the part behind it the text. A flag without
an equals sign affirms its option or denies it. -/
def readFlag (written : String) : String × Remark :=
  let cs := written.toList.drop 2
  if '=' ∈ cs then
    (String.ofList (cs.takeWhile (· ≠ '=')), .text (String.ofList ((cs.dropWhile (· ≠ '=')).drop 1)))
  else if ['n', 'o', '-'] <+: cs then (String.ofList (cs.drop 3), .no)
  else (String.ofList cs, .yes)

theorem span_equals {cs : List Char} (hcs : '=' ∉ cs) (more : List Char) :
    (cs ++ '=' :: more).takeWhile (· ≠ '=') = cs ∧
      (cs ++ '=' :: more).dropWhile (· ≠ '=') = '=' :: more := by
  have hplain : ∀ c ∈ cs, decide (c ≠ '=') = true := by
    intro c hc
    simpa using fun e : c = '=' => hcs (e ▸ hc)
  rw [List.takeWhile_append_of_pos hplain, List.dropWhile_append_of_pos hplain]
  simp

theorem readFlag_flag (hequals : '=' ∉ name.toList) (hdenial : ¬ ['n', 'o', '-'] <+: name.toList)
    (r : Remark) : readFlag (flag name r) = (name, r) := by
  cases r with
  | yes =>
    have hcs : (flag name .yes).toList.drop 2 = name.toList := by simp [flag]
    simp only [readFlag, hcs, if_neg hequals, if_neg hdenial, String.ofList_toList]
  | no =>
    have hcs : (flag name .no).toList.drop 2 = 'n' :: 'o' :: '-' :: name.toList := by simp [flag]
    have hno : '=' ∉ 'n' :: 'o' :: '-' :: name.toList := by simpa using hequals
    have hprefix : ['n', 'o', '-'] <+: 'n' :: 'o' :: '-' :: name.toList := ⟨name.toList, rfl⟩
    simp only [readFlag, hcs, if_neg hno, if_pos hprefix]
    simp
  | text t =>
    have hcs : (flag name (.text t)).toList.drop 2 = name.toList ++ '=' :: t.toList := by simp [flag]
    obtain ⟨hbefore, hbehind⟩ := span_equals hequals t.toList
    have hmem : '=' ∈ name.toList ++ '=' :: t.toList := by simp
    simp only [readFlag, hcs, if_pos hmem, hbefore, hbehind]
    simp

/-- Remarks in a row about the same option belong together. -/
def grouped : List (String × Remark) → Entries (List Remark)
  | [] => []
  | (name, r) :: rest =>
    match grouped rest with
    | [] => [(name, [r])]
    | (other, rs) :: more =>
      if other = name then (name, r :: rs) :: more else (name, [r]) :: (other, rs) :: more

theorem head_grouped {said : List (String × Remark)} {p : String × List Remark}
    {more : Entries (List Remark)} (h : grouped said = p :: more) : p.1 ∈ said.map Prod.fst := by
  cases said with
  | nil => cases h
  | cons q rest =>
    unfold grouped at h
    split at h <;> grind

theorem grouped_run (r : Remark) (rs : List Remark) {rest : List (String × Remark)}
    (hrest : name ∉ rest.map Prod.fst) :
    grouped ((r :: rs).map (Prod.mk name) ++ rest) = (name, r :: rs) :: grouped rest := by
  induction rs generalizing r with
  | nil =>
    cases hgrouped : grouped rest with
    | nil => simp [grouped, hgrouped]
    | cons p more =>
      have hne : p.1 ≠ name := fun e => hrest (e ▸ head_grouped hgrouped)
      simp [grouped, hgrouped, hne]
  | cons r' rs ih =>
    rw [List.map_cons, List.cons_append, grouped, ih r']
    simp

/-- What is said under each name, as far as anything is. -/
def said (fields : Fields) : Entries (List Remark) :=
  (fields.filter fun p => !isSilent p.2).map fun p => (p.1, remarks p.2)

theorem said_cons_of_silent {p : String × Value} (hremarks : remarks p.2 = []) (rest : Fields) :
    said (p :: rest) = said rest := by
  simp [said, isSilent_eq, hremarks]

theorem said_cons {p : String × Value} {r : Remark} {rs : List Remark}
    (hremarks : remarks p.2 = r :: rs) (rest : Fields) :
    said (p :: rest) = (p.1, r :: rs) :: said rest := by
  simp [said, isSilent_eq, hremarks]

theorem grouped_remarks (hnodup : (Entries.names fields).Nodup) :
    grouped (fields.flatMap fun p => (remarks p.2).map (Prod.mk p.1)) = said fields := by
  induction fields with
  | nil => rfl
  | cons p rest ih =>
    obtain ⟨hp, hrest⟩ := List.nodup_cons.1 hnodup
    rw [List.flatMap_cons]
    cases hremarks : remarks p.2 with
    | nil =>
      rw [said_cons_of_silent hremarks]
      exact ih hrest
    | cons r rs =>
      have hother : p.1 ∉ (rest.flatMap fun q => (remarks q.2).map (Prod.mk q.1)).map Prod.fst := by
        intro hmem
        simp only [List.map_flatMap, List.mem_flatMap, List.map_map, List.mem_map] at hmem
        obtain ⟨q, hq, r, -, hname⟩ := hmem
        exact hp (List.mem_map.2 ⟨q, hq, hname⟩)
      rw [grouped_run r rs hother, ih hrest, said_cons hremarks]

/-- The options can be read back from the flags. -/
theorem grouped_readFlag (h : PlainNames fields) :
    grouped ((ofFields fields).map readFlag) = said fields := by
  rw [← grouped_remarks h.nodup, ofFields, List.map_flatMap]
  congr 1
  refine List.flatMap_congr fun p hp => ?_
  have hname : p.1 ∈ Entries.names fields := List.mem_map_of_mem hp
  rw [ofOption_eq, List.map_map]
  exact List.map_congr_left fun r _ => readFlag_flag (h.noEquals _ hname) (h.noDenial _ hname) r

theorem ofFields_eq_said (fields : Fields) :
    ofFields fields = (said fields).flatMap fun p => p.2.map (flag p.1) := by
  induction fields with
  | nil => rfl
  | cons p rest ih =>
    rw [ofFields_cons, ih]
    cases hremarks : remarks p.2 with
    | nil => rw [said_cons_of_silent hremarks, List.map_nil, List.nil_append]
    | cons r rs => rw [said_cons hremarks, List.flatMap_cons]

theorem ofFields_eq_iff (ha : PlainNames a) (hb : PlainNames b) :
    ofFields a = ofFields b ↔ said a = said b := by
  constructor
  · intro h
    rw [← grouped_readFlag ha, ← grouped_readFlag hb, h]
  · intro h
    rw [ofFields_eq_said, ofFields_eq_said, h]

theorem remarks_eq_yes_iff : remarks v = [.yes] ↔ v = .bool true := by
  cases v with
  | bool b => cases b <;> simp [remarks]
  | list items => simp [remarks, List.map_eq_singleton_iff]
  | null | int | float | str | object => simp [remarks]

theorem remarks_eq_no_iff : remarks v = [.no] ↔ v = .bool false := by
  cases v with
  | bool b => cases b <;> simp [remarks]
  | list items => simp [remarks, List.map_eq_singleton_iff]
  | null | int | float | str | object => simp [remarks]

theorem remarks_eq_texts (hkind : v.kind ≠ .bool) (hsilent : isSilent v = false) :
    remarks v = (texts v).map .text := by
  cases v with
  | null => cases hsilent
  | bool b => exact absurd rfl hkind
  | list items => exact List.map_map.symm
  | int | float | str | object => rfl

theorem eq_of_remarks_eq (hkind : v.kind = .bool) (h : remarks v = remarks w) : v = w := by
  cases v with
  | bool b =>
    cases b with
    | true => exact (remarks_eq_yes_iff.1 h.symm).symm
    | false => exact (remarks_eq_no_iff.1 h.symm).symm
  | null | int | float | str | list | object => cases hkind

theorem alike_self (hkind : v.kind = .bool) : Alike v v := by
  cases v with
  | bool b =>
    cases b with
    | true => exact .affirmed
    | false => exact .denied
  | null | int | float | str | list | object => cases hkind

theorem alike_iff (hv : isSilent v = false) (hw : isSilent w = false) :
    Alike v w ↔ remarks v = remarks w := by
  constructor
  · intro h
    cases h with
    | affirmed | denied => rfl
    | given hvkind hwkind _ htexts =>
      rw [remarks_eq_texts hvkind hv, remarks_eq_texts hwkind hw, htexts]
  · intro h
    rcases eq_or_ne v.kind .bool with hvkind | hvkind
    · obtain rfl := eq_of_remarks_eq hvkind h
      exact alike_self hvkind
    · have hwkind : w.kind ≠ .bool := fun hwkind => hvkind (eq_of_remarks_eq hwkind h.symm ▸ hwkind)
      have hremarks := remarks_eq_texts hvkind hv
      have hsome : texts v ≠ [] := by
        intro hnone
        rw [isSilent_eq, hremarks, hnone] at hv
        cases hv
      rw [hremarks, remarks_eq_texts hwkind hw] at h
      exact .given hvkind hwkind hsome (List.map_injective_iff.2 (fun _ _ => Remark.text.inj) h)

theorem map_remarks_eq_iff (ha : ∀ p ∈ a, isSilent p.2 = false) (hb : ∀ p ∈ b, isSilent p.2 = false) :
    (a.map fun p => (p.1, remarks p.2)) = (b.map fun p => (p.1, remarks p.2)) ↔
      List.Forall₂ (fun p q => p.1 = q.1 ∧ Alike p.2 q.2) a b := by
  induction a generalizing b with
  | nil => cases b <;> simp
  | cons p rest ih =>
    cases b with
    | nil => simp
    | cons q others =>
      obtain ⟨hp, hrest⟩ := List.forall_mem_cons.1 ha
      obtain ⟨hq, hothers⟩ := List.forall_mem_cons.1 hb
      simp only [List.map_cons, List.cons.injEq, Prod.mk.injEq, List.forall₂_cons, ih hrest hothers,
        alike_iff hp hq]

theorem spoken (fields : Fields) :
    ∀ p ∈ fields.filter fun p => !isSilent p.2, isSilent p.2 = false := by
  intro p hp
  simpa using (List.mem_filter.1 hp).2

/-- Options whose names are plain have flags, and they have the same flags exactly where those of them
that say something have the same names in the same order, with values that are given alike. -/
theorem flags_same_iff (ha : PlainNames a) (hb : PlainNames b) :
    (∃ flags, ofOptions (.object a) = .ok flags ∧ ofOptions (.object b) = .ok flags) ↔
      List.Forall₂ (fun p q => p.1 = q.1 ∧ Alike p.2 q.2) (a.filter fun p => !isSilent p.2)
        (b.filter fun p => !isSilent p.2) := by
  rw [← map_remarks_eq_iff (spoken a) (spoken b), ← said, ← said, ← ofFields_eq_iff ha hb]
  constructor
  · rintro ⟨flags, hflags, hothers⟩
    exact Except.ok.inj (hflags.trans hothers.symm)
  · intro h
    exact ⟨ofFields a, rfl, congrArg Except.ok h.symm⟩

/-- Options with a number, with texts that look like flags, and with some that say nothing. -/
def wordyOptions : Fields :=
  [("node", .bool true), ("off", .null), ("predef", .list [.str "a=--no-b", .str "", .int 3]),
    ("maxlen", .int 80), ("", .bool false)]

def wordierOptions : Fields :=
  [("node", .bool true), ("predef", .list [.str "a=--no-b", .str "", .str "3"]),
    ("devel", .list []), ("maxlen", .list [.str "80"]), ("", .bool false)]

theorem flags_same_wordy :
    ∃ flags, ofOptions (.object wordyOptions) = .ok flags ∧
      ofOptions (.object wordierOptions) = .ok flags := by
  have hwordy : PlainNames wordyOptions := ⟨by decide, by decide, by decide⟩
  have hwordier : PlainNames wordierOptions := ⟨by decide, by decide, by decide⟩
  refine (flags_same_iff hwordy hwordier).2 ?_
  refine .cons ⟨rfl, .affirmed⟩ (.cons ⟨rfl, ?_⟩ (.cons ⟨rfl, ?_⟩ (.cons ⟨rfl, .denied⟩ .nil)))
  · exact .given (by decide) (by decide) (by decide) (by decide +kernel)
  · exact .given (by decide) (by decide) (by decide) (by decide +kernel)

end LintRelay.Flags
