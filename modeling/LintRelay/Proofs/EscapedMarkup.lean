import LintRelay.Markup
import Mathlib.Data.List.Basic
import Mathlib.Data.List.TakeWhile
import Mathlib.Tactic.Common

/-!
# What escaped text shows

Markup that comes from escaping a text holds no tags, so it always shows something. It shows the text
itself unless this holds an emoji by its name, a character that is never shown, a backslash before a
bracket that begins no tag, or a lone backslash at its end.
-/
namespace LintRelay

theorem takeWhile_append_next {p : Char → Bool} {cs : List Char} {c : Char}
    (h : cs[(cs.takeWhile p).length]? = some c) : ∃ more, cs = cs.takeWhile p ++ c :: more := by
  obtain ⟨rest, hrest⟩ := List.takeWhile_prefix (l := cs) p
  generalize cs.takeWhile p = run at h hrest ⊢
  subst hrest
  cases rest with
  | nil => simp at h
  | cons d more =>
    obtain rfl : d = c := by simpa using h
    exact ⟨more, rfl⟩

namespace EmojiNames

/-- Between two colons of the text there is no name that stands for an emoji. -/
def Nameless (cs : List Char) : Prop :=
  ∀ name, (∀ c ∈ name, c ≠ ':' ∧ CharacterTables.isBlank c = false) →
    (':' :: name ++ [':']) <:+: cs → shownName name = ':' :: name ++ [':']

theorem Nameless.of_infix {cs ds : List Char} (h : Nameless cs) (hd : ds <:+: cs) : Nameless ds :=
  fun name hname hin => h name hname (hin.trans hd)

theorem replaced_of_nameless {cs : List Char} (h : Nameless cs) (skip : Nat) :
    replaced skip cs = cs.drop skip := by
  induction cs generalizing skip with
  | nil => cases skip <;> simp [replaced]
  | cons c rest ih =>
    have hrest : Nameless rest := h.of_infix (List.suffix_cons c rest).isInfix
    cases skip with
    | succ skip => exact ih hrest skip
    | zero =>
      simp only [replaced, List.drop_zero]
      split
      · rename_i hnamed
        obtain ⟨rfl, hcolon⟩ := hnamed
        obtain ⟨more, hmore⟩ := takeWhile_append_next hcolon
        have hname : ∀ c ∈ rest.takeWhile fun c => c ≠ ':' ∧ !CharacterTables.isBlank c,
            c ≠ ':' ∧ CharacterTables.isBlank c = false := fun c hc => by
          simpa using List.mem_takeWhile_imp hc
        generalize (rest.takeWhile fun c => c ≠ ':' ∧ !CharacterTables.isBlank c) = name
          at hmore hname ⊢
        subst hmore
        rw [h name hname ⟨[], more, by simp⟩, ih hrest]
        simp
      · rw [ih hrest, List.drop_zero]

end EmojiNames

namespace Markup

/-- A bracket ends the run in which a tag is looked for. -/
def isInside (c : Char) : Bool := c ≠ '[' ∧ c ≠ ']'

/-- What may stand between the brackets of a tag. -/
def IsContent : List Char → Prop
  | [] => False
  | c :: rest => beginsTag c = true ∧ ∀ d ∈ rest, isInside d = true

theorem tagContent?_cons (c : Char) (rest : List Char) :
    tagContent? ('[' :: c :: rest) =
      if beginsTag c = true ∧ (rest.dropWhile isInside).head? = some ']' then
        some (c :: rest.takeWhile isInside)
      else none := by
  have hnext : rest[(rest.takeWhile isInside).length]? = (rest.dropWhile isInside).head? := by
    have hsplit (run more : List Char) : (run ++ more)[run.length]? = more.head? := by
      cases more <;> simp
    have := hsplit (rest.takeWhile isInside) (rest.dropWhile isInside)
    rwa [List.takeWhile_append_dropWhile] at this
  rw [← hnext]
  rfl

theorem eq_bracket_of_tagContent {cs content : List Char} (h : tagContent? cs = some content) :
    IsContent content ∧ ∃ more, cs = '[' :: content ++ ']' :: more := by
  unfold tagContent? at h
  split at h
  · rename_i c rest
    dsimp only at h
    split at h
    · rename_i hcond
      obtain ⟨more, hmore⟩ := takeWhile_append_next hcond.2
      obtain rfl := Option.some.inj h
      refine ⟨⟨hcond.1, fun d hd => List.mem_takeWhile_imp (p := isInside) hd⟩, more, ?_⟩
      conv_lhs => rw [hmore]
      rfl
    · cases h
  · cases h

theorem tagContent?_of_content {content : List Char} (h : IsContent content) (more : List Char) :
    tagContent? ('[' :: content ++ ']' :: more) = some content := by
  cases content with
  | nil => exact h.elim
  | cons c rest =>
    have hrun : (rest ++ ']' :: more).takeWhile isInside = rest := by
      rw [List.takeWhile_append_of_pos h.2]
      simp [isInside]
    have hend : (rest ++ ']' :: more).dropWhile isInside = ']' :: more := by
      rw [List.dropWhile_append_of_pos h.2]
      simp [isInside]
    rw [List.cons_append, List.cons_append, tagContent?_cons, hrun, hend, if_pos ⟨h.1, rfl⟩]

/-- No tag begins here, and none behind the backslashes that stand here. -/
def NoTagAhead (cs : List Char) : Prop := tagContent? (cs.dropWhile (· = '\\')) = none

theorem drop_backslashes (cs : List Char) :
    cs.drop (cs.takeWhile (· = '\\')).length = cs.dropWhile (· = '\\') := by
  induction cs with
  | nil => rfl
  | cons c rest ih =>
    by_cases hc : c = '\\'
    · simp [hc, ih]
    · simp [hc]

theorem takeWhile_backslashes (cs : List Char) :
    cs.takeWhile (· = '\\') = backslashes (cs.takeWhile (· = '\\')).length :=
  List.eq_replicate_of_mem fun c hc => by simpa using List.mem_takeWhile_imp hc

theorem escapeTags_skip (skip : Nat) (cs : List Char) :
    escapeTags skip cs = cs.take skip ++ escapeTags 0 (cs.drop skip) := by
  induction cs generalizing skip with
  | nil => cases skip <;> simp [escapeTags]
  | cons c rest ih =>
    cases skip with
    | zero => simp
    | succ skip => simpa [escapeTags] using ih skip

theorem pieces_skip (skip position : Nat) (cs : List Char) :
    pieces skip position cs = pieces 0 (position + skip) (cs.drop skip) := by
  induction cs generalizing skip position with
  | nil => cases skip <;> simp [pieces]
  | cons c rest ih =>
    cases skip with
    | zero => simp
    | succ skip =>
      have hplace : position + 1 + skip = position + (skip + 1) := by omega
      simpa [pieces, hplace] using ih skip (position + 1)

def slashedTag (slashes : Nat) (content : List Char) : List Char :=
  backslashes slashes ++ '[' :: content ++ [']']

theorem length_slashedTag (slashes : Nat) (content : List Char) :
    (slashedTag slashes content).length = slashes + content.length + 2 := by
  simp only [slashedTag, backslashes, List.length_append, List.length_replicate, List.length_cons,
    List.length_nil]
  omega

theorem slashedTag_add (m n : Nat) (content : List Char) :
    backslashes m ++ slashedTag n content = slashedTag (m + n) content := by
  have hrun : backslashes m ++ backslashes n = backslashes (m + n) :=
    List.replicate_append_replicate
  rw [slashedTag, slashedTag, List.append_assoc, List.append_assoc, ← hrun, List.append_assoc]

/-- Where a text goes on, either no tag is ahead or there is one behind some backslashes. -/
theorem noTagAhead_or_tag (cs : List Char) :
    NoTagAhead cs ∨ ∃ slashes content more, IsContent content ∧
      cs = slashedTag slashes content ++ more := by
  cases htag : tagContent? (cs.dropWhile (· = '\\')) with
  | none => exact .inl htag
  | some content =>
    obtain ⟨hcontent, more, hmore⟩ := eq_bracket_of_tagContent htag
    refine .inr ⟨(cs.takeWhile (· = '\\')).length, content, more, hcontent, ?_⟩
    calc cs = cs.takeWhile (· = '\\') ++ cs.dropWhile (· = '\\') :=
          List.takeWhile_append_dropWhile.symm
      _ = slashedTag _ content ++ more := by
          rw [hmore, slashedTag, ← takeWhile_backslashes]
          simp

theorem scan_slashedTag (slashes : Nat) {content : List Char} (h : IsContent content)
    (more : List Char) :
    ((slashedTag slashes content ++ more).takeWhile (· = '\\')).length = slashes ∧
      tagContent? ((slashedTag slashes content ++ more).drop slashes) = some content := by
  have hrun : ∀ c ∈ backslashes slashes, decide (c = '\\') = true := fun c hc => by
    simpa using List.eq_of_mem_replicate hc
  have hshape : slashedTag slashes content ++ more =
      backslashes slashes ++ ('[' :: content ++ ']' :: more) := by
    simp [slashedTag]
  have hlength : (backslashes slashes).length = slashes := List.length_replicate
  rw [hshape]
  constructor
  · rw [List.takeWhile_append_of_pos hrun]
    simp [hlength]
  · rw [List.drop_left' hlength]
    exact tagContent?_of_content h more

theorem escapeTags_slashedTag (slashes : Nat) {content : List Char} (h : IsContent content)
    (more : List Char) :
    escapeTags 0 (slashedTag slashes content ++ more) =
      slashedTag (2 * slashes + 1) content ++ escapeTags 0 more := by
  obtain ⟨hslashes, htag⟩ := scan_slashedTag slashes h more
  have hlength := length_slashedTag slashes content
  obtain ⟨c, rest, hcs⟩ : ∃ c rest, slashedTag slashes content = c :: rest :=
    List.exists_cons_of_length_pos (by omega)
  rw [hcs, List.length_cons] at hlength
  rw [hcs, List.cons_append] at hslashes htag ⊢
  have hrest : slashes + content.length + 1 = rest.length := by omega
  simp only [escapeTags, hslashes, htag]
  rw [escapeTags_skip, hrest, List.take_left, List.drop_left, ← List.cons_append, ← hcs,
    ← List.append_assoc, slashedTag_add]
  congr 2
  omega

theorem escapeTags_of_noTagAhead {c : Char} {rest : List Char} (h : NoTagAhead (c :: rest)) :
    escapeTags 0 (c :: rest) = c :: escapeTags 0 rest := by
  have htag : tagContent? ((c :: rest).drop ((c :: rest).takeWhile (· = '\\')).length) = none := by
    rw [drop_backslashes]
    exact h
  simp only [escapeTags, htag]

theorem pieces_slashedTag (position slashes : Nat) {content : List Char} (h : IsContent content)
    (more : List Char) :
    pieces 0 position (slashedTag slashes content ++ more) =
      escapedTag position slashes content ++
        pieces 0 (position + (slashes + content.length + 2)) more := by
  obtain ⟨hslashes, htag⟩ := scan_slashedTag slashes h more
  have hlength := length_slashedTag slashes content
  obtain ⟨c, rest, hcs⟩ : ∃ c rest, slashedTag slashes content = c :: rest :=
    List.exists_cons_of_length_pos (by omega)
  rw [hcs, List.length_cons] at hlength
  rw [hcs, List.cons_append] at hslashes htag ⊢
  have hrest : slashes + content.length + 1 = rest.length := by omega
  simp only [pieces, hslashes, htag]
  rw [pieces_skip, hrest, List.drop_left]
  congr 2
  omega

theorem pieces_of_noTagAhead (position : Nat) {c : Char} {rest : List Char}
    (h : NoTagAhead (c :: rest)) :
    pieces 0 position (c :: rest) =
      if c = '\\' ∧ rest.head? = some '[' then pieces 0 (position + 1) rest
      else addPlain c (pieces 0 (position + 1) rest) := by
  have htag : tagContent? ((c :: rest).drop ((c :: rest).takeWhile (· = '\\')).length) = none := by
    rw [drop_backslashes]
    exact h
  simp only [pieces, htag]

def firstBracket (cs : List Char) : Option Char := (cs.dropWhile isInside).head?

theorem firstBracket_slashedTag (slashes : Nat) (content more : List Char) :
    firstBracket (slashedTag slashes content ++ more) = some '[' := by
  have hrun : ∀ c ∈ backslashes slashes, isInside c = true := fun c hc => by
    rw [List.eq_of_mem_replicate hc]
    rfl
  rw [firstBracket, slashedTag, List.append_assoc, List.append_assoc,
    List.dropWhile_append_of_pos hrun]
  simp [isInside]

theorem firstBracket_cons (c : Char) {cs ds : List Char} (h : firstBracket cs = firstBracket ds) :
    firstBracket (c :: cs) = firstBracket (c :: ds) := by
  unfold firstBracket at h ⊢
  by_cases hc : isInside c = true
  · simpa [hc] using h
  · simp [hc]

/-- To escape the tags of a text is an induction over it: a tag is passed whole, any other character by
itself. -/
theorem escaping_induction {motive : List Char → Prop} (nil : motive [])
    (tag : ∀ slashes content more, IsContent content → motive more →
      motive (slashedTag slashes content ++ more))
    (plain : ∀ c rest, NoTagAhead (c :: rest) → motive rest → motive (c :: rest))
    (cs : List Char) : motive cs := by
  induction hn : cs.length using Nat.strong_induction_on generalizing cs with
  | _ n ih =>
    rcases noTagAhead_or_tag cs with hplain | ⟨slashes, content, more, hcontent, rfl⟩
    · cases cs with
      | nil => exact nil
      | cons c rest => exact plain c rest hplain (ih rest.length (by simp [← hn]) rest rfl)
    · refine tag slashes content more hcontent (ih more.length ?_ more rfl)
      rw [← hn, List.length_append, length_slashedTag]
      omega

variable {tail : List Char}

/-- Escaping moves no bracket in front of another. What is put behind may hold none. -/
theorem firstBracket_escapeTags (htail : ∀ c ∈ tail, isInside c = true) (cs : List Char) :
    firstBracket (escapeTags 0 cs ++ tail) = firstBracket cs := by
  induction cs using escaping_induction with
  | nil =>
    have hnone : tail.dropWhile isInside = [] := List.dropWhile_eq_nil_iff.2 htail
    simp [escapeTags, firstBracket, hnone]
  | tag slashes content more hcontent ih =>
    rw [escapeTags_slashedTag slashes hcontent, List.append_assoc, firstBracket_slashedTag,
      firstBracket_slashedTag]
  | plain c rest hplain ih =>
    rw [escapeTags_of_noTagAhead hplain]
    exact firstBracket_cons c ih

theorem noTagAhead_backslash {cs : List Char} : NoTagAhead ('\\' :: cs) ↔ NoTagAhead cs := by
  simp [NoTagAhead]

theorem noTagAhead_of_ne {c : Char} {cs : List Char} (h : c ≠ '[') (h' : c ≠ '\\') :
    NoTagAhead (c :: cs) := by
  have hbegin : tagContent? (c :: cs) = none := by
    unfold tagContent?
    split
    · rename_i e
      exact absurd (List.cons.inj e).1 h
    · rfl
  simpa [NoTagAhead, h'] using hbegin

theorem noTagAhead_bracket {d : Char} {cs : List Char} :
    NoTagAhead ('[' :: d :: cs) ↔ ¬ (beginsTag d = true ∧ firstBracket cs = some ']') := by
  have hhere : ('[' :: d :: cs).dropWhile (· = '\\') = '[' :: d :: cs := by simp
  rw [NoTagAhead, hhere, tagContent?_cons]
  split
  · rename_i hcond
    simpa [firstBracket] using hcond
  · rename_i hcond
    simpa [firstBracket] using hcond

theorem noTagAhead_escapeTags (htail : ∀ c ∈ tail, c = '\\') {cs : List Char} (h : NoTagAhead cs) :
    NoTagAhead (escapeTags 0 cs ++ tail) := by
  have hinside : ∀ c ∈ tail, isInside c = true := fun c hc => by
    rw [htail c hc]
    rfl
  induction cs with
  | nil =>
    have hnone : tail.dropWhile (· = '\\') = [] :=
      List.dropWhile_eq_nil_iff.2 fun c hc => by simpa using htail c hc
    simp [escapeTags, NoTagAhead, hnone, tagContent?]
  | cons c rest ih =>
    rw [escapeTags_of_noTagAhead h, List.cons_append]
    by_cases hslash : c = '\\'
    · subst hslash
      exact noTagAhead_backslash.2 (ih (noTagAhead_backslash.1 h))
    by_cases hbracket : c = '['
    · subst hbracket
      rcases noTagAhead_or_tag rest with hplain | ⟨slashes, content, more, hcontent, rfl⟩
      · cases rest with
        | nil =>
          cases tail with
          | nil => exact h
          | cons d more =>
            rw [escapeTags, List.nil_append, noTagAhead_bracket, htail d List.mem_cons_self]
            exact fun hbegins => by cases hbegins.1
        | cons d more =>
          rw [escapeTags_of_noTagAhead hplain, List.cons_append, noTagAhead_bracket,
            firstBracket_escapeTags hinside]
          exact noTagAhead_bracket.1 h
      · -- what comes next is escaped, so that a backslash follows the bracket
        have hnext : slashedTag (2 * slashes + 1) content =
            '\\' :: slashedTag (2 * slashes) content := by
          rw [Nat.add_comm]
          exact (slashedTag_add 1 (2 * slashes) content).symm
        rw [escapeTags_slashedTag slashes hcontent, hnext, List.cons_append, List.cons_append,
          noTagAhead_bracket]
        exact fun hbegins => by cases hbegins.1
    · exact noTagAhead_of_ne hbracket hslash

def Piece.chars : Piece → List Char
  | plain cs => cs
  | escaped cs => cs
  | tag _ content => content

def Piece.isTag : Piece → Bool
  | tag _ _ => true
  | _ => false

theorem addPlain_flatMap (c : Char) (ps : List Piece) :
    (addPlain c ps).flatMap Piece.chars = c :: ps.flatMap Piece.chars := by
  unfold addPlain
  split <;> simp [Piece.chars]

theorem addPlain_untagged (c : Char) {ps : List Piece} (h : ∀ p ∈ ps, p.isTag = false) :
    ∀ p ∈ addPlain c ps, p.isTag = false := by
  unfold addPlain
  split
  · simpa [Piece.isTag] using h
  · simpa [Piece.isTag] using h

/-- An odd number of backslashes makes a tag plain text, with half of them in front. -/
theorem escapedTag_odd (position slashes : Nat) (content : List Char) :
    (∀ p ∈ escapedTag position (2 * slashes + 1) content, p.isTag = false) ∧
      (escapedTag position (2 * slashes + 1) content).flatMap Piece.chars =
        slashedTag slashes content := by
  have hhalf : (2 * slashes + 1) / 2 = slashes := by omega
  have hodd : (2 * slashes + 1) % 2 = 1 := by omega
  simp only [escapedTag, hhalf, hodd, if_true]
  by_cases hzero : slashes = 0
  · simp [hzero, Piece.isTag, Piece.chars, slashedTag, backslashes]
  · simp [hzero, Piece.isTag, Piece.chars, slashedTag]

/-- Every backslash right before a bracket belongs to a tag. -/
def KeepsSlashes (cs : List Char) : Prop :=
  ∀ rest, ('\\' :: '[' :: rest) <:+ cs → tagContent? ('[' :: rest) ≠ none

theorem pieces_backslashes (htail : ∀ c ∈ tail, c = '\\') (position : Nat) :
    (∀ p ∈ pieces 0 position tail, p.isTag = false) ∧
      (pieces 0 position tail).flatMap Piece.chars = tail := by
  induction tail generalizing position with
  | nil => simp [pieces]
  | cons c rest ih =>
    have hrest : ∀ d ∈ rest, d = '\\' := fun d hd => htail d (List.mem_cons_of_mem c hd)
    obtain rfl := htail c List.mem_cons_self
    have hplain : NoTagAhead ('\\' :: rest) := @noTagAhead_escapeTags _ htail [] rfl
    have hhead : rest.head? ≠ some '[' := fun e => by
      cases hrest _ (List.mem_of_mem_head? e)
    obtain ⟨huntagged, hchars⟩ := ih hrest (position + 1)
    rw [pieces_of_noTagAhead position hplain, if_neg fun h => hhead h.2]
    exact ⟨addPlain_untagged _ huntagged, by rw [addPlain_flatMap, hchars]⟩

theorem eq_bracket_of_escaped (htail : ∀ c ∈ tail, c = '\\') {cs : List Char}
    (h : (escapeTags 0 cs ++ tail).head? = some '[') : ∃ rest, cs = '[' :: rest := by
  rcases noTagAhead_or_tag cs with hplain | ⟨slashes, content, more, hcontent, rfl⟩
  · cases cs with
    | nil => cases htail _ (List.mem_of_mem_head? h)
    | cons c rest =>
      rw [escapeTags_of_noTagAhead hplain] at h
      exact ⟨rest, by rw [Option.some.inj h]⟩
  · rw [escapeTags_slashedTag slashes hcontent, slashedTag, backslashes, List.replicate_succ] at h
    cases h

/-- Escaped text is free of tags. Its pieces make up the text where every backslash is kept. -/
theorem pieces_escapeTags (htail : ∀ c ∈ tail, c = '\\') (cs : List Char) (position : Nat) :
    (∀ p ∈ pieces 0 position (escapeTags 0 cs ++ tail), p.isTag = false) ∧
      (KeepsSlashes cs →
        (pieces 0 position (escapeTags 0 cs ++ tail)).flatMap Piece.chars = cs ++ tail) := by
  induction cs using escaping_induction generalizing position with
  | nil =>
    obtain ⟨huntagged, hchars⟩ := pieces_backslashes htail position
    exact ⟨huntagged, fun _ => hchars⟩
  | tag slashes content more hcontent ih =>
    obtain ⟨huntagged, hchars⟩ := ih (position + (2 * slashes + 1 + content.length + 2))
    obtain ⟨htag, htagChars⟩ := escapedTag_odd position slashes content
    rw [escapeTags_slashedTag slashes hcontent, List.append_assoc,
      pieces_slashedTag position _ hcontent]
    refine ⟨fun p hp => (List.mem_append.1 hp).elim (htag p) (huntagged p), fun hkeeps => ?_⟩
    have hmore : KeepsSlashes more := fun rest hrest =>
      hkeeps rest (hrest.trans (List.suffix_append _ _))
    rw [List.flatMap_append, htagChars, hchars hmore, List.append_assoc]
  | plain c rest hplain ih =>
    obtain ⟨huntagged, hchars⟩ := ih (position + 1)
    have hahead := noTagAhead_escapeTags htail hplain
    rw [escapeTags_of_noTagAhead hplain, List.cons_append] at hahead ⊢
    rw [pieces_of_noTagAhead position hahead]
    refine ⟨?_, fun hkeeps => ?_⟩
    · split
      · exact huntagged
      · exact addPlain_untagged c huntagged
    · have hrest : KeepsSlashes rest := fun more hmore =>
        hkeeps more (hmore.trans (List.suffix_cons c rest))
      have hkept : ¬ (c = '\\' ∧ (escapeTags 0 rest ++ tail).head? = some '[') := by
        rintro ⟨rfl, hhead⟩
        obtain ⟨more, rfl⟩ := eq_bracket_of_escaped htail hhead
        refine hkeeps more (List.suffix_refl _) ?_
        simpa [NoTagAhead] using hplain
      rw [if_neg hkept, addPlain_flatMap, hchars hrest, List.cons_append]

theorem textOf_of_untagged {ps : List Piece} (h : ∀ p ∈ ps, p.isTag = false)
    (opened : List OpenTag) :
    textOf ps opened = .ok (ps.flatMap fun p => EmojiNames.replaced 0 p.chars) := by
  induction ps with
  | nil => rfl
  | cons p rest ih =>
    have hrest := ih fun q hq => h q (List.mem_cons_of_mem p hq)
    cases p with
    | plain cs => simp [textOf, hrest, Except.map, Piece.chars]
    | escaped cs => simp [textOf, hrest, Except.map, Piece.chars]
    | tag position content => cases h _ List.mem_cons_self

def endsInLoneSlash (cs : List Char) : Bool :=
  cs.getLast? == some '\\' && cs.dropLast.getLast? != some '\\'

theorem escape_eq (text : String) :
    escape text = String.ofList (escapeTags 0 text.toList ++
      if endsInLoneSlash (escapeTags 0 text.toList) then ['\\'] else []) := by
  generalize hcs : escapeTags 0 text.toList = cs
  have hlast : cs.getLast? = cs.reverse.head? := List.head?_reverse.symm
  have hbefore : cs.dropLast.getLast? = cs.reverse.tail.head? := by
    rw [List.tail_reverse, List.head?_reverse]
  simp only [escape, hcs, endsInLoneSlash, hlast, hbefore]
  split
  · rename_i more hrev
    simp [hrev]
  · rename_i more hother hrev
    have hlone : more.head? ≠ some '\\' := fun e => by
      obtain ⟨rest, rfl⟩ : ∃ rest, more = '\\' :: rest := by
        cases more with
        | nil => cases e
        | cons d rest => exact ⟨rest, by rw [Option.some.inj e]⟩
      exact hother rest rfl
    simp [hrev, hlone]
  · rename_i hother
    have hnone : cs.getLast? ≠ some '\\' := fun e => by
      rw [hlast] at e
      cases hrev : cs.reverse with
      | nil => rw [hrev] at e; cases e
      | cons d rest =>
        rw [hrev] at e
        exact hother rest (by rw [hrev, Option.some.inj e])
    simp [hnone]

theorem endsInLoneSlash_append {before : List Char} (h : before.getLast? ≠ some '\\')
    (cs : List Char) : endsInLoneSlash (before ++ cs) = endsInLoneSlash cs := by
  rcases List.eq_nil_or_concat cs with rfl | ⟨front, d, rfl⟩
  · simp [endsInLoneSlash, h]
  · rcases List.eq_nil_or_concat front with rfl | ⟨more, e, rfl⟩
    · have hbefore : (before.getLast? != some '\\') = true := by simpa using h
      simp [endsInLoneSlash, hbefore]
    · simp [endsInLoneSlash, ← List.append_assoc]

theorem endsInLoneSlash_cons_cons (c d e : Char) (cs : List Char) :
    endsInLoneSlash (c :: d :: e :: cs) = endsInLoneSlash (d :: e :: cs) := by
  simp [endsInLoneSlash]

theorem escapeTags_cons (c : Char) (rest : List Char) :
    ∃ first others, escapeTags 0 (c :: rest) = first :: others := by
  rcases noTagAhead_or_tag (c :: rest) with hplain | ⟨slashes, content, more, hcontent, hcs⟩
  · exact ⟨c, _, escapeTags_of_noTagAhead hplain⟩
  · rw [hcs, escapeTags_slashedTag slashes hcontent]
    exact ⟨'\\', _, rfl⟩

theorem endsInLoneSlash_escapeTags (cs : List Char) :
    endsInLoneSlash (escapeTags 0 cs) = endsInLoneSlash cs := by
  induction cs using escaping_induction with
  | nil => rfl
  | tag slashes content more hcontent ih =>
    have hend (n : Nat) : (slashedTag n content).getLast? ≠ some '\\' := by
      rw [slashedTag, List.getLast?_append_of_ne_nil _ (List.cons_ne_nil _ _)]
      simp
    rw [escapeTags_slashedTag slashes hcontent, endsInLoneSlash_append (hend _),
      endsInLoneSlash_append (hend _), ih]
  | plain c rest hplain ih =>
    rw [escapeTags_of_noTagAhead hplain]
    by_cases hc : c = '\\'
    · subst hc
      have hrest : NoTagAhead rest := noTagAhead_backslash.1 hplain
      match rest with
      | [] => rfl
      | [d] =>
        rw [escapeTags_of_noTagAhead hrest]
        rfl
      | d :: e :: more =>
        obtain ⟨first, others, hfirst⟩ := escapeTags_cons e more
        rw [escapeTags_of_noTagAhead hrest, hfirst] at ih ⊢
        rw [endsInLoneSlash_cons_cons, ih, endsInLoneSlash_cons_cons]
    · have hlast : [c].getLast? ≠ some '\\' := by simpa using hc
      have happend := endsInLoneSlash_append hlast
      exact (happend _).trans (ih.trans (happend _).symm)

/-- A text that escaping and showing leave as it is. -/
structure Literal (text : String) : Prop where
  shown : ∀ c ∈ text.toList, isShown c = true
  slashes : KeepsSlashes text.toList
  ending : endsInLoneSlash text.toList = false
  nameless : EmojiNames.Nameless text.toList

/-- A character that is shown and cannot be read as part of something else. -/
def isPlain (c : Char) : Bool := isShown c && c != '\\' && c != ':'

theorem Literal.of_plain {text : String} (h : text.toList.all isPlain = true) : Literal text := by
  have hplain : ∀ c ∈ text.toList, isPlain c = true := List.all_eq_true.1 h
  have hslash : '\\' ∉ text.toList := fun hc => by cases hplain _ hc
  have hcolon : ':' ∉ text.toList := fun hc => by cases hplain _ hc
  have hshown : ∀ c ∈ text.toList, isShown c = true := fun c hc => by
    have hc := hplain c hc
    simp only [isPlain, Bool.and_eq_true] at hc
    exact hc.1.1
  refine ⟨hshown, fun rest hrest => ?_, ?_, fun name _ hin => ?_⟩
  · exact absurd (hrest.subset List.mem_cons_self) hslash
  · have hlast : text.toList.getLast? ≠ some '\\' := fun e => hslash (List.mem_of_getLast? e)
    simp [endsInLoneSlash, hlast]
  · exact absurd (hin.subset (by simp)) hcolon

theorem exists_shown_escape (text : String) : ∃ s, shown (escape text) = .ok s := by
  have htail : ∀ c ∈ (if endsInLoneSlash (escapeTags 0 text.toList) then ['\\'] else []), c = '\\' := by
    split <;> simp
  have huntagged := (pieces_escapeTags htail text.toList 0).1
  rw [escape_eq, shown, String.toList_ofList, textOf_of_untagged huntagged]
  exact ⟨_, rfl⟩

theorem shown_escape_of_literal {text : String} (h : Literal text) :
    shown (escape text) = .ok text := by
  have hend : endsInLoneSlash (escapeTags 0 text.toList) = false := by
    rw [endsInLoneSlash_escapeTags, h.ending]
  have hnone : ∀ c ∈ ([] : List Char), c = '\\' := by simp
  obtain ⟨huntagged, hchars⟩ := pieces_escapeTags hnone text.toList 0
  have hwhole : (pieces 0 0 (escapeTags 0 text.toList ++ [])).flatMap Piece.chars = text.toList := by
    rw [hchars h.slashes, List.append_nil]
  have hreplaced : (pieces 0 0 (escapeTags 0 text.toList ++ [])).flatMap
      (fun p => EmojiNames.replaced 0 p.chars) = text.toList := by
    conv_rhs => rw [← hwhole]
    refine List.flatMap_congr fun p hp => ?_
    have hinfix : p.chars <:+: text.toList := by
      have hpart := List.infix_of_mem_flatten (List.mem_map_of_mem (f := Piece.chars) hp)
      rwa [← List.flatMap_def, hwhole] at hpart
    exact EmojiNames.replaced_of_nameless (h.nameless.of_infix hinfix) 0
  have hshown : text.toList.filter isShown = text.toList := List.filter_eq_self.2 h.shown
  rw [escape_eq, hend, if_neg Bool.false_ne_true, shown, String.toList_ofList,
    textOf_of_untagged huntagged, hreplaced]
  simp only [Except.map, hshown, String.ofList_toList]

end Markup

end LintRelay
