import Mathlib.Tactic.Common
import LintRelay.JsonReader
import LintRelay.JsonWriter

/-!
# Written tokens

A text and a whole number are cut out of a JSON text as they were written into it: the escapes of a
text stand for its characters again, also where a character is written as a pair of units, and the
digits of a number stand for the number, as long as nothing behind them continues it.
-/
namespace LintRelay.Json

section Texts

variable {start offset : Nat} {rest : List Char}

theorem textBody_append (start offset : Nat) (used rest : List Char) :
    textBody start used.length offset (used ++ rest) =
      textBody start 0 (offset + used.length) rest := by
  induction used generalizing offset with
  | nil => rfl
  | cons c used ih =>
    rw [List.length_cons, List.cons_append, textBody, ih]
    congr 1
    omega

theorem textBody_escape {used : List Char} {c : Char}
    (h : escapeAt start offset (used ++ rest) = .ok (c, used.length)) :
    textBody start 0 offset ('\\' :: (used ++ rest)) =
      (textBody start 0 (offset + (used.length + 1)) rest).map fun r => (c :: r.1, r.2) := by
  have hplace : offset + (used.length + 1) = offset + 1 + used.length := by omega
  rw [textBody, if_neg (by decide), if_pos rfl, h]
  dsimp only
  rw [textBody_append, hplace]

theorem hexValue?_hexDigit : ∀ d < 16, hexValue? (QuotedText.hexDigit d) = some d := by decide

theorem hexDigits_four (n : Nat) : QuotedText.hexDigits 4 n =
    [n / 4096 % 16, n / 256 % 16, n / 16 % 16, n % 16].map QuotedText.hexDigit := by
  simp [QuotedText.hexDigits, Nat.div_div_eq_div_mul]

theorem codeUnit?_hexDigits {n : Nat} (hn : n < 0x10000) (hrest : rest ≠ []) :
    codeUnit? (QuotedText.hexDigits 4 n ++ rest) = some n := by
  obtain ⟨c, more, rfl⟩ := List.exists_cons_of_ne_nil hrest
  have hdigit (m : Nat) : hexValue? (QuotedText.hexDigit (m % 16)) = some (m % 16) :=
    hexValue?_hexDigit _ (Nat.mod_lt _ (by decide))
  have hvalue : ((n / 4096 % 16 * 16 + n / 256 % 16) * 16 + n / 16 % 16) * 16 + n % 16 = n := by
    omega
  simp [hexDigits_four, codeUnit?, hdigit, hvalue]

theorem drop_hexDigits (n : Nat) (rest : List Char) :
    (QuotedText.hexDigits 4 n ++ rest).drop 4 = rest := by
  simp [hexDigits_four]

@[simp] theorem length_hexDigits_four (n : Nat) : (QuotedText.hexDigits 4 n).length = 4 := by
  rw [hexDigits_four, List.length_map]
  rfl

theorem unitEscape_single {n : Nat} (hn : n < 0x10000) (hsingle : isHighUnit n = false)
    (hrest : rest ≠ []) :
    unitEscape offset (QuotedText.hexDigits 4 n ++ rest) = .ok (unitChar n, 5) := by
  unfold unitEscape
  rw [codeUnit?_hexDigits hn hrest, drop_hexDigits]
  dsimp only
  split
  · rw [hsingle, Bool.false_and, if_neg Bool.false_ne_true]
  · rfl

theorem unitEscape_pair {high low : Nat} (hhigh : isHighUnit high = true)
    (hlow : isLowUnit low = true) (hrest : rest ≠ []) :
    unitEscape offset (QuotedText.hexDigits 4 high ++ (unitText low ++ rest)) =
      .ok (Char.ofNat (joinUnits high low), 11) := by
  have hhighBound : high < 0x10000 := by
    simp only [isHighUnit, Bool.and_eq_true, decide_eq_true_eq] at hhigh
    omega
  have hlowBound : low < 0x10000 := by
    simp only [isLowUnit, Bool.and_eq_true, decide_eq_true_eq] at hlow
    omega
  have hlong : 4 < (QuotedText.hexDigits 4 low ++ rest).length := by
    have hpositive := List.length_pos_iff.2 hrest
    rw [List.length_append, length_hexDigits_four]
    omega
  unfold unitEscape
  rw [codeUnit?_hexDigits hhighBound (by simp [unitText]), drop_hexDigits]
  simp only [unitText, List.cons_append, hhigh, hlong, decide_true, Bool.and_self, if_true,
    codeUnit?_hexDigits hlowBound hrest, hlow]

theorem toNat_valid (c : Char) :
    c.toNat < 0x110000 ∧ isHighUnit c.toNat = false ∧ isLowUnit c.toNat = false := by
  have hvalid : c.toNat.isValidChar := c.valid
  unfold Nat.isValidChar at hvalid
  simp only [isHighUnit, isLowUnit, Bool.and_eq_false_iff, decide_eq_false_iff_not]
  omega

theorem escapeAt_characterText (start offset : Nat) (c : Char) (hrest : rest ≠ []) :
    ∃ used, characterText c = '\\' :: used ∧
      escapeAt start offset (used ++ rest) = .ok (c, used.length) := by
  obtain ⟨hbound, hhigh, hlow⟩ := toNat_valid c
  unfold characterText
  dsimp only
  split
  · rename_i hsmall
    have hunit : unitChar c.toNat = c := by
      rw [unitChar, hhigh, hlow, if_neg (by decide), Char.ofNat_toNat]
    refine ⟨'u' :: QuotedText.hexDigits 4 c.toNat, rfl, ?_⟩
    rw [List.length_cons, length_hexDigits_four, List.cons_append, escapeAt, if_pos rfl,
      unitEscape_single hsmall hhigh hrest, hunit]
  · rename_i hlarge
    set high := 0xd800 + (c.toNat - 0x10000) / 0x400 with hhighDef
    set low := 0xdc00 + (c.toNat - 0x10000) % 0x400 with hlowDef
    have hhigh : isHighUnit high = true := by
      simp only [isHighUnit, Bool.and_eq_true, decide_eq_true_eq]
      omega
    have hlow : isLowUnit low = true := by
      simp only [isLowUnit, Bool.and_eq_true, decide_eq_true_eq]
      omega
    have hjoined : joinUnits high low = c.toNat := by
      unfold joinUnits
      omega
    refine ⟨'u' :: QuotedText.hexDigits 4 high ++ unitText low, rfl, ?_⟩
    rw [List.cons_append, List.cons_append, escapeAt, if_pos rfl, List.append_assoc,
      unitEscape_pair hhigh hlow hrest, hjoined, Char.ofNat_toNat]
    simp [unitText]

/-- The escape of a character, or the character itself, is read as the character. -/
theorem textBody_escapeChar (start offset : Nat) (c : Char) (hrest : rest ≠ []) :
    textBody start 0 offset (escapeChar c ++ rest) =
      (textBody start 0 (offset + (escapeChar c).length) rest).map fun r => (c :: r.1, r.2) := by
  unfold escapeChar
  split
  · rename_i hc
    have hread : escapeAt start offset ([c] ++ rest) = .ok (c, [c].length) := by
      obtain rfl | rfl := hc <;> rfl
    exact textBody_escape hread
  iterate 5
    split
    · rename_i hc
      subst hc
      exact textBody_escape rfl
  split
  · rename_i hmark _ _ _ _ _ hplain
    rw [not_or] at hmark
    rw [List.singleton_append, textBody, if_neg hmark.1, if_neg hmark.2,
      if_neg (Nat.not_lt.2 hplain.1)]
    rfl
  · obtain ⟨used, htext, hread⟩ := escapeAt_characterText start offset c hrest
    rw [htext]
    exact textBody_escape hread

theorem textBody_escaped (start offset : Nat) (cs rest : List Char) :
    textBody start 0 offset (cs.flatMap escapeChar ++ '"' :: rest) =
      .ok (cs, offset + (cs.flatMap escapeChar).length + 1) := by
  induction cs generalizing offset with
  | nil => rfl
  | cons c cs ih =>
    rw [List.flatMap_cons, List.append_assoc, textBody_escapeChar _ _ _ (by simp), ih,
      List.length_append, Nat.add_assoc offset]
    rfl

end Texts

section Numbers

variable {rest : List Char}

/-- Nothing that would continue a whole number stands at the head of a text. -/
def EndsNumber (rest : List Char) : Prop :=
  ∀ c ∈ rest.head?, c.isDigit = false ∧ c ≠ '.' ∧ c ≠ 'e' ∧ c ≠ 'E'

theorem endsNumber_nil : EndsNumber [] := by
  intro c hc
  cases hc

theorem endsNumber_cons {c : Char} (hc : c.isDigit = false ∧ c ≠ '.' ∧ c ≠ 'e' ∧ c ≠ 'E')
    (rest : List Char) : EndsNumber (c :: rest) := by
  intro d hd
  obtain rfl : c = d := Option.some.inj hd
  exact hc

theorem EndsNumber.takeWhile (h : EndsNumber rest) : rest.takeWhile Char.isDigit = [] := by
  cases rest with
  | nil => rfl
  | cons c rest => rw [List.takeWhile_cons, (h c rfl).1, if_neg Bool.false_ne_true]

theorem EndsNumber.fractionDigits (h : EndsNumber rest) : fractionDigits rest = [] := by
  unfold Json.fractionDigits
  split
  · exact absurd rfl (h _ rfl).2.1
  · rfl

theorem EndsNumber.exponentPart (h : EndsNumber rest) : exponentPart rest = none := by
  cases rest with
  | nil => rfl
  | cons c rest =>
    obtain ⟨-, -, hsmall, hcapital⟩ := h c rfl
    unfold Json.exponentPart
    exact if_neg (not_or.2 ⟨hsmall, hcapital⟩)

theorem isDigit_of_mem_decimal {n : Nat} {c : Char} (hc : c ∈ Nat.toDigits 10 n) :
    c.isDigit = true := Nat.isDigit_of_mem_toDigits (by decide) (by decide) hc

theorem decimal_ne_zero_cons {n : Nat} (hn : 0 < n) (ds : List Char) :
    Nat.toDigits 10 n ≠ '0' :: ds := by
  induction n using Nat.strongRecOn generalizing ds with
  | ind n ih =>
    rw [Nat.toDigits_eq_if (by decide)]
    split
    · rename_i hsmall
      have hdigits : ∀ d < 10, 0 < d → d.digitChar ≠ '0' := by decide
      exact fun e => hdigits n hsmall hn (List.cons.inj e).1
    · intro e
      obtain ⟨hnone, -⟩ | ⟨front, hfront, -⟩ := List.append_eq_cons_iff.1 e
      · exact Nat.toDigits_ne_nil hnone
      · exact ih (n / 10) (by omega) (by omega) front hfront

theorem wholeDigits_decimal (n : Nat) (h : EndsNumber rest) :
    wholeDigits (Nat.toDigits 10 n ++ rest) = Nat.toDigits 10 n := by
  rcases Nat.eq_zero_or_pos n with rfl | hn
  · rfl
  unfold wholeDigits
  split
  · rename_i e
    obtain ⟨hnone, -⟩ | ⟨front, hfront, -⟩ := List.append_eq_cons_iff.1 e
    · exact absurd hnone Nat.toDigits_ne_nil
    · exact absurd hfront (decimal_ne_zero_cons hn front)
  · rw [List.takeWhile_append_of_pos fun _ => isDigit_of_mem_decimal, h.takeWhile, List.append_nil]

theorem digitsValue_decimal (n : Nat) : digitsValue (Nat.toDigits 10 n) = n :=
  Nat.ofDigitChars_toDigits (by decide) (by decide)

theorem unsigned?_decimal (negative : Bool) (n : Nat) (h : EndsNumber rest) :
    unsigned? negative (Nat.toDigits 10 n ++ rest) =
      some (.int (if negative then -n else n), (Nat.toDigits 10 n).length) := by
  have hsome : (Nat.toDigits 10 n).isEmpty = false := by
    rw [List.isEmpty_eq_false_iff]
    exact Nat.toDigits_ne_nil
  unfold unsigned?
  simp only [wholeDigits_decimal n h, hsome, List.drop_left, h.fractionDigits, List.isEmpty_nil,
    List.drop_zero, h.exponentPart, digitsValue_decimal, if_true, Bool.false_eq_true, if_false,
    Nat.add_zero]

theorem ne_of_isDigit {c d : Char} (hc : c.isDigit = true) (hd : d.isDigit = false) : d ≠ c := by
  rintro rfl
  exact Bool.false_ne_true (hd.symm.trans hc)

theorem find?_words_of_isDigit {c : Char} (hc : c.isDigit = true) (cs : List Char) :
    (words.find? fun w => w.1.isPrefixOf (c :: cs)) = none ∧
      (words.find? fun w => w.1.isPrefixOf ('-' :: c :: cs)) = none := by
  have hother (d : Char) (hd : d.isDigit = false) : (d == c) = false :=
    beq_eq_false_iff_ne.2 (ne_of_isDigit hc hd)
  simp [words, List.isPrefixOf, hother 'n' rfl, hother 't' rfl, hother 'f' rfl, hother 'N' rfl,
    hother 'I' rfl, hother '-' rfl]

theorem scalar?_intChars (n : Int) (h : EndsNumber rest) :
    scalar? (intChars n ++ rest) = some (.int n, (intChars n).length) := by
  obtain ⟨c, cs, hdigits⟩ :=
    List.exists_cons_of_ne_nil (Nat.toDigits_ne_nil (n := n.natAbs) (b := 10))
  have hc : c.isDigit = true := isDigit_of_mem_decimal (hdigits ▸ List.mem_cons_self)
  obtain ⟨hplain, hsigned⟩ := find?_words_of_isDigit hc (cs ++ rest)
  unfold intChars
  split
  · rename_i hnegative
    have hvalue : -(n.natAbs : Int) = n := by omega
    have hread := unsigned?_decimal true n.natAbs h
    rw [if_pos rfl, hvalue] at hread
    rw [hdigits] at hread ⊢
    unfold scalar?
    simp only [List.cons_append, hsigned]
    rw [← List.cons_append, hread]
    rfl
  · rename_i hpositive
    have hvalue : (n.natAbs : Int) = n := by omega
    have hread := unsigned?_decimal false n.natAbs h
    rw [if_neg Bool.false_ne_true, hvalue] at hread
    rw [hdigits] at hread ⊢
    unfold scalar?
    simp only [List.cons_append, hplain] at hread ⊢
    split
    · rename_i e
      obtain rfl : c = '-' := (List.cons.inj e).1
      exact absurd hc (by decide)
    · exact hread

end Numbers

end LintRelay.Json
