import LintRelay.Proofs.WrittenTokens

/-!
# Written values

The reader undoes the writer: the text of a value leads the reader from the place where the value is
expected to the place behind it, whatever is open around it. Binary numbers are left out, and the
names in an object have to be distinct, as the reader keeps only one entry for a name. All that is
written is line feeds and printed characters.
-/
namespace LintRelay.Json

section Reading

variable {s s' s'' : State} {text more rest : List Char}

theorem tokens_scalar {v : Value} {c : Char} {cs : List Char} {offset : Nat}
    (hc : isSpace c = false ∧ mark? c = none ∧ c ≠ '"')
    (hread : scalar? (c :: cs ++ rest) = some (v, (c :: cs).length)) :
    tokens 0 offset (c :: cs ++ rest) = ⟨offset, .scalar v⟩ :: tokens 0 (offset + 1 + cs.length) rest := by
  obtain ⟨hspace, hmark, hquote⟩ := hc
  rw [List.cons_append] at hread ⊢
  rw [tokens, hspace, if_neg Bool.false_ne_true, hmark]
  dsimp only
  rw [if_neg hquote, hread]
  dsimp only
  rw [List.length_cons, Nat.add_sub_cancel, tokens_append]

/-- The reader comes from a state to another one over a text that the rest follows. -/
def Leads (s : State) (text rest : List Char) (s' : State) : Prop :=
  ∀ size offset, ∃ behind,
    run size s (tokens 0 offset (text ++ rest)) = run size s' (tokens 0 behind rest)

namespace Leads

theorem refl (s : State) (rest : List Char) : Leads s [] rest s := fun _ offset => ⟨offset, rfl⟩

theorem append (h : Leads s text (more ++ rest) s') (h' : Leads s' more rest s'') :
    Leads s (text ++ more) rest s'' := by
  intro size offset
  obtain ⟨middle, hfirst⟩ := h size offset
  obtain ⟨behind, hsecond⟩ := h' size middle
  exact ⟨behind, by rw [List.append_assoc, hfirst, hsecond]⟩

theorem of_token {lexeme : Lexeme} (hstep : step s lexeme = some (.ok s'))
    (hcut : ∀ offset, ∃ behind, tokens 0 offset (text ++ rest) =
      ⟨offset, lexeme⟩ :: tokens 0 behind rest) : Leads s text rest s' := by
  intro size offset
  obtain ⟨behind, hcut⟩ := hcut offset
  refine ⟨behind, ?_⟩
  rw [hcut, run, hstep]

theorem space {c : Char} (hc : isSpace c = true) (h : Leads s text rest s') :
    Leads s (c :: text) rest s' := by
  intro size offset
  obtain ⟨behind, hread⟩ := h size (offset + 1)
  refine ⟨behind, ?_⟩
  rw [List.cons_append, tokens, if_pos hc, hread]

theorem mark {c : Char} {lexeme : Lexeme} (hc : mark? c = some lexeme)
    (hstep : step s lexeme = some (.ok s')) (h : Leads s' text rest s'') :
    Leads s (c :: text) rest s'' := by
  have hspace : isSpace c = false := by
    rw [Bool.eq_false_iff]
    intro hblank
    simp only [isSpace, Bool.or_eq_true, decide_eq_true_eq] at hblank
    obtain ((rfl | rfl) | rfl) | rfl := hblank <;> cases hc
  intro size offset
  obtain ⟨behind, hread⟩ := h size (offset + 1)
  refine ⟨behind, ?_⟩
  rw [List.cons_append, tokens, hspace, if_neg Bool.false_ne_true, hc]
  dsimp only
  rw [run, hstep]
  exact hread

theorem quoted {name : String} (hstep : step s (.text name) = some (.ok s')) :
    Leads s (quotedChars name) rest s' := by
  set body := name.toList.flatMap escapeChar with hbody
  refine of_token hstep fun offset => ⟨offset + 1 + (body ++ ['"']).length, ?_⟩
  have htext : quotedChars name ++ rest = '"' :: (body ++ '"' :: rest) := by
    simp [quotedChars, hbody]
  have hread : textBody offset 0 (offset + 1) (body ++ '"' :: rest) =
      .ok (name.toList, offset + 1 + (body ++ ['"']).length) := by
    rw [hbody, textBody_escaped, List.length_append, List.length_singleton, Nat.add_assoc (offset + 1)]
  have hquote : isSpace '"' = false ∧ mark? '"' = none := by decide
  rw [htext, tokens, hquote.1, if_neg Bool.false_ne_true, hquote.2]
  dsimp only
  rw [if_pos rfl, hread]
  dsimp only
  rw [String.ofList_toList, Nat.add_sub_cancel_left, List.append_cons body '"' rest, tokens_append]

theorem scalar {v : Value} {c : Char} {cs : List Char}
    (hc : isSpace c = false ∧ mark? c = none ∧ c ≠ '"')
    (hread : scalar? (c :: cs ++ rest) = some (v, (c :: cs).length))
    (hstep : step s (.scalar v) = some (.ok s')) : Leads s (c :: cs) rest s' :=
  of_token hstep fun _ => ⟨_, tokens_scalar hc hread⟩

theorem newline (depth : Nat) : Leads s (Json.newline depth) rest s := by
  refine space rfl ?_
  induction 2 * depth with
  | zero => exact refl s rest
  | succ n ih => exact space rfl ih

end Leads

end Reading

/-- What the written form keeps: there are no binary numbers, and an object names each entry once. -/
inductive Plain : Value → Prop
  | null : Plain .null
  | bool (b : Bool) : Plain (.bool b)
  | int (n : Int) : Plain (.int n)
  | str (s : String) : Plain (.str s)
  | list {items : List Value} (hitems : ∀ v ∈ items, Plain v) : Plain (.list items)
  | object {fields : Fields} (hnames : (Entries.names fields).Nodup)
      (hfields : ∀ p ∈ fields, Plain p.2) : Plain (.object fields)

def Expecting.TakesValue (e : Expecting) : Prop := e = .value ∨ e = .itemOrClose

/-- The text of a value leads from where it is taken to behind it. -/
def ReadsBack (v : Value) : Prop :=
  ∀ depth frames (e : Expecting) rest, e.TakesValue → EndsNumber rest →
    Leads ⟨e, frames⟩ (valueChars depth v) rest ⟨.behind v, frames⟩

section Values

variable {e : Expecting} {frames : List Frame} {rest : List Char}

theorem step_of_takesValue (he : e.TakesValue) {lexeme : Lexeme} {result : Except Error State}
    (h : valueStep frames lexeme = some result) : step ⟨e, frames⟩ lexeme = some result := by
  have hlexeme : lexeme ≠ .closeList := by
    rintro rfl
    cases h
  obtain rfl | rfl := he
  · exact h
  · rw [step]
    · exact h
    · exact fun _ hclose _ => hlexeme hclose

theorem takesValue_value : Expecting.value.TakesValue := .inl rfl

theorem endsNumber_newline (depth : Nat) (text : List Char) :
    EndsNumber (newline depth ++ text) := endsNumber_cons (by decide) _

theorem endsNumber_itemChars (depth : Nat) (items : List Value) {text : List Char}
    (htext : EndsNumber text) : EndsNumber (itemChars depth items ++ text) := by
  cases items with
  | nil => exact htext
  | cons v items => exact endsNumber_cons (by decide) _

theorem endsNumber_fieldChars (depth : Nat) (fields : Fields) {text : List Char}
    (htext : EndsNumber text) : EndsNumber (fieldChars depth fields ++ text) := by
  cases fields with
  | nil => exact htext
  | cons p fields => exact endsNumber_cons (by decide) _

theorem leads_items (depth outer : Nat) (frames : List Frame) (rest : List Char)
    (done : List Value) (v : Value) {items : List Value}
    (hitems : ∀ w ∈ items, ReadsBack w) :
    Leads ⟨.behind v, .list done :: frames⟩ (itemChars depth items ++ (newline outer ++ [']'])) rest
      ⟨.behind (.list (done.reverse ++ v :: items)), frames⟩ := by
  induction items generalizing done v with
  | nil =>
    refine (Leads.newline outer).append (.mark rfl rfl ?_)
    rw [List.reverse_cons]
    exact .refl _ _
  | cons w items ih =>
    have hplace : done.reverse ++ v :: w :: items = (v :: done).reverse ++ w :: items := by simp
    have hends : EndsNumber ((itemChars depth items ++ (newline outer ++ [']'])) ++ rest) := by
      rw [List.append_assoc, List.append_assoc]
      exact endsNumber_itemChars _ _ (endsNumber_newline _ _)
    have hfirst := hitems w List.mem_cons_self depth (.list (v :: done) :: frames) _ _
      takesValue_value hends
    have hlater := ih (v :: done) w fun x hx => hitems x (List.mem_cons_of_mem _ hx)
    rw [itemChars, List.append_assoc, List.append_assoc, hplace]
    exact .append (.mark rfl rfl (.newline depth)) (.append hfirst hlater)

/-- A name that is new goes to the end. -/
theorem put_of_nodup {done fields : Fields} {name : String} {v : Value}
    (h : (Entries.names (done ++ (name, v) :: fields)).Nodup) :
    Entries.put name v done = done ++ [(name, v)] := by
  rw [Entries.names, List.map_append, List.map_cons] at h
  refine Entries.put_of_not_mem v fun hmem => ?_
  exact (List.nodup_append.1 h).2.2 name hmem name List.mem_cons_self rfl

theorem leads_fields (depth outer : Nat) (frames : List Frame) (rest : List Char) (done : Fields)
    {name : String} {v : Value} {fields : Fields}
    (hnames : (Entries.names (done ++ (name, v) :: fields)).Nodup)
    (hfields : ∀ p ∈ fields, ReadsBack p.2) :
    Leads ⟨.behind v, .object done name :: frames⟩
      (fieldChars depth fields ++ (newline outer ++ ['\x7d'])) rest
      ⟨.behind (.object (done ++ (name, v) :: fields)), frames⟩ := by
  induction fields generalizing done name v with
  | nil =>
    refine (Leads.newline outer).append (.mark rfl rfl ?_)
    rw [put_of_nodup hnames]
    exact .refl _ _
  | cons p fields ih =>
    obtain ⟨next, w⟩ := p
    have hplace : done ++ (name, v) :: (next, w) :: fields =
        (done ++ [(name, v)]) ++ (next, w) :: fields := by simp
    have hends : EndsNumber ((fieldChars depth fields ++ (newline outer ++ ['\x7d'])) ++ rest) := by
      rw [List.append_assoc, List.append_assoc]
      exact endsNumber_fieldChars _ _ (endsNumber_newline _ _)
    have hfirst := hfields (next, w) List.mem_cons_self depth
      (.object (Entries.put name v done) next :: frames) _ _ takesValue_value hends
    have hput := put_of_nodup hnames
    rw [hplace] at hnames ⊢
    have hlater := ih _ hnames fun q hq => hfields q (List.mem_cons_of_mem _ hq)
    rw [← hput] at hlater ⊢
    rw [fieldChars, List.append_assoc, List.append_assoc, List.append_assoc]
    exact .append (.mark rfl rfl (.newline depth))
      (.append (.quoted rfl) (.append (.mark rfl rfl (.space rfl hfirst)) hlater))

theorem startsScalar_of_isDigit {c : Char} (hc : c.isDigit = true) :
    isSpace c = false ∧ mark? c = none ∧ c ≠ '"' := by
  have hother (d : Char) (hd : d.isDigit = false) : c ≠ d := (ne_of_isDigit hc hd).symm
  have hspace : isSpace c = false := by
    simp [isSpace, hother ' ' rfl, hother '\t' rfl, hother '\n' rfl, hother '\r' rfl]
  have hmark : mark? c = none := by
    simp [mark?, hother '[' rfl, hother ']' rfl, hother '\x7b' rfl, hother '\x7d' rfl, hother ',' rfl,
      hother ':' rfl]
  exact ⟨hspace, hmark, hother '"' rfl⟩

theorem readsBack_scalar (text : List Char) {v : Value}
    (hvalue : ∀ depth, valueChars depth v = text)
    (hhead : ∃ c cs, text = c :: cs ∧ isSpace c = false ∧ mark? c = none ∧ c ≠ '"')
    (hread : ∀ rest, EndsNumber rest → scalar? (text ++ rest) = some (v, text.length)) :
    ReadsBack v := by
  intro depth frames e rest he hends
  obtain ⟨c, cs, rfl, hc⟩ := hhead
  rw [hvalue]
  exact .scalar hc (hread rest hends) (step_of_takesValue he rfl)

theorem intChars_head (n : Int) :
    ∃ c cs, intChars n = c :: cs ∧ isSpace c = false ∧ mark? c = none ∧ c ≠ '"' := by
  unfold intChars
  split
  · exact ⟨'-', _, rfl, by decide⟩
  · obtain ⟨c, cs, hdigits⟩ :=
      List.exists_cons_of_ne_nil (Nat.toDigits_ne_nil (n := n.natAbs) (b := 10))
    exact ⟨c, cs, hdigits, startsScalar_of_isDigit
      (isDigit_of_mem_decimal (hdigits ▸ List.mem_cons_self))⟩

theorem readsBack_int (n : Int) : ReadsBack (.int n) :=
  readsBack_scalar (intChars n) (fun _ => by rw [valueChars]) (intChars_head n)
    fun _ hends => scalar?_intChars n hends

theorem readsBack_str (s : String) : ReadsBack (.str s) := by
  intro depth frames e rest he _
  rw [valueChars]
  exact .quoted (step_of_takesValue he rfl)

theorem readsBack_list {items : List Value} (hitems : ∀ v ∈ items, ReadsBack v) :
    ReadsBack (.list items) := by
  intro depth frames e rest he _
  have hopen : step ⟨e, frames⟩ .openList = some (.ok ⟨.itemOrClose, .list [] :: frames⟩) :=
    step_of_takesValue he rfl
  cases items with
  | nil =>
    rw [valueChars]
    exact .mark rfl hopen (.mark rfl rfl (.refl _ _))
  | cons v items =>
    have hends : EndsNumber
        ((itemChars (depth + 1) items ++ (newline depth ++ [']'])) ++ rest) := by
      rw [List.append_assoc, List.append_assoc]
      exact endsNumber_itemChars _ _ (endsNumber_newline _ _)
    have hfirst := hitems v List.mem_cons_self (depth + 1) (.list [] :: frames) .itemOrClose _
      (.inr rfl) hends
    have hlater := leads_items (depth + 1) depth frames rest [] v
      fun w hw => hitems w (List.mem_cons_of_mem _ hw)
    rw [valueChars, List.append_assoc, List.append_assoc, List.append_assoc]
    exact .append (.mark rfl hopen (.newline _)) (.append hfirst hlater)

theorem readsBack_object {fields : Fields} (hnames : (Entries.names fields).Nodup)
    (hfields : ∀ p ∈ fields, ReadsBack p.2) : ReadsBack (.object fields) := by
  intro depth frames e rest he _
  have hopen : step ⟨e, frames⟩ .openObject = some (.ok ⟨.nameOrClose [], frames⟩) :=
    step_of_takesValue he rfl
  cases fields with
  | nil =>
    rw [valueChars]
    exact .mark rfl hopen (.mark rfl rfl (.refl _ _))
  | cons p fields =>
    obtain ⟨name, v⟩ := p
    have hends : EndsNumber
        ((fieldChars (depth + 1) fields ++ (newline depth ++ ['\x7d'])) ++ rest) := by
      rw [List.append_assoc, List.append_assoc]
      exact endsNumber_fieldChars _ _ (endsNumber_newline _ _)
    have hfirst := hfields (name, v) List.mem_cons_self (depth + 1) (.object [] name :: frames) _ _
      takesValue_value hends
    have hlater := leads_fields (depth + 1) depth frames rest [] hnames
      fun q hq => hfields q (List.mem_cons_of_mem _ hq)
    rw [valueChars, List.append_assoc, List.append_assoc, List.append_assoc, List.append_assoc]
    exact .append (.mark rfl hopen (.newline _))
      (.append (.quoted rfl) (.append (.mark rfl rfl (.space rfl hfirst)) hlater))

theorem Plain.readsBack {v : Value} (h : Plain v) : ReadsBack v := by
  induction h with
  | null =>
    exact readsBack_scalar "null".toList (fun _ => by rw [valueChars])
      ⟨'n', "ull".toList, rfl, by decide⟩ fun _ _ => rfl
  | bool b =>
    cases b with
    | true =>
      exact readsBack_scalar "true".toList (fun _ => by rw [valueChars, if_pos rfl])
        ⟨'t', "rue".toList, rfl, by decide⟩ fun _ _ => rfl
    | false =>
      exact readsBack_scalar "false".toList
        (fun _ => by rw [valueChars, if_neg Bool.false_ne_true])
        ⟨'f', "alse".toList, rfl, by decide⟩ fun _ _ => rfl
  | int n => exact readsBack_int n
  | str s => exact readsBack_str s
  | list _ ih => exact readsBack_list ih
  | object hnames _ ih => exact readsBack_object hnames ih

end Values

def isWritten (c : Char) : Bool := c = '\n' || 32 ≤ c.toNat && c.toNat < 127

theorem all_isWritten_hexDigits (count n : Nat) :
    (QuotedText.hexDigits count n).all isWritten = true := by
  have hdigit : ∀ d < 16, isWritten (QuotedText.hexDigit d) = true := by decide
  induction count generalizing n with
  | zero => rfl
  | succ count ih =>
    rw [QuotedText.hexDigits, List.all_append, ih, Bool.true_and]
    simp [hdigit (n % 16) (Nat.mod_lt _ (by decide))]

theorem all_isWritten_unitText (n : Nat) : (unitText n).all isWritten = true := by
  rw [unitText, List.all_cons, List.all_cons, all_isWritten_hexDigits]
  decide

theorem all_isWritten_escapeChar (c : Char) : (escapeChar c).all isWritten = true := by
  unfold escapeChar
  split
  · rename_i hc
    obtain rfl | rfl := hc <;> decide
  iterate 5
    split
    · decide
  split
  · rename_i hplain
    simp [isWritten, hplain]
  · unfold characterText
    dsimp only
    split
    · exact all_isWritten_unitText _
    · rw [List.all_append, all_isWritten_unitText, all_isWritten_unitText]
      rfl

theorem all_isWritten_quotedChars (s : String) : (quotedChars s).all isWritten = true := by
  have hbody : (s.toList.flatMap escapeChar).all isWritten = true := by
    rw [List.all_flatMap]
    exact List.all_eq_true.2 fun c _ => all_isWritten_escapeChar c
  rw [quotedChars, List.all_append, List.all_cons, hbody]
  decide

theorem all_isWritten_decimal (n : Nat) : (Nat.toDigits 10 n).all isWritten = true := by
  refine List.all_eq_true.2 fun c hc => ?_
  have hdigit := Char.isDigit_iff_toNat.1 (isDigit_of_mem_decimal hc)
  have hbounds : 48 ≤ c.toNat ∧ c.toNat ≤ 57 := hdigit
  simp only [isWritten, Bool.or_eq_true, Bool.and_eq_true, decide_eq_true_eq]
  omega

theorem all_isWritten_newline (depth : Nat) : (newline depth).all isWritten = true := by
  rw [newline, List.all_cons, List.all_eq_true.2 fun c hc => ?_]
  · decide
  · rw [List.eq_of_mem_replicate hc]
    decide

theorem all_isWritten_itemChars {items : List Value}
    (hitems : ∀ v ∈ items, ∀ depth, (valueChars depth v).all isWritten = true) (depth : Nat) :
    (itemChars depth items).all isWritten = true := by
  induction items with
  | nil => rfl
  | cons v items ih =>
    have hrest := ih fun w hw => hitems w (List.mem_cons_of_mem _ hw)
    rw [itemChars, List.all_append, List.all_append, List.all_cons, all_isWritten_newline,
      hitems v List.mem_cons_self, hrest]
    decide

theorem all_isWritten_fieldChars {fields : Fields}
    (hfields : ∀ p ∈ fields, ∀ depth, (valueChars depth p.2).all isWritten = true) (depth : Nat) :
    (fieldChars depth fields).all isWritten = true := by
  induction fields with
  | nil => rfl
  | cons p fields ih =>
    have hrest := ih fun q hq => hfields q (List.mem_cons_of_mem _ hq)
    rw [fieldChars, List.all_append, List.all_append, List.all_append, List.all_cons, List.all_cons,
      List.all_cons, all_isWritten_newline, all_isWritten_quotedChars,
      hfields p List.mem_cons_self, hrest]
    decide

theorem Plain.all_isWritten {v : Value} (h : Plain v) (depth : Nat) :
    (valueChars depth v).all isWritten = true := by
  induction h generalizing depth with
  | null =>
    rw [valueChars]
    decide
  | bool b =>
    rw [valueChars]
    cases b <;> decide
  | int n =>
    rw [valueChars, intChars]
    split
    · rw [List.all_cons, all_isWritten_decimal]
      decide
    · exact all_isWritten_decimal _
  | str s =>
    rw [valueChars]
    exact all_isWritten_quotedChars s
  | @list items _ ih =>
    cases items with
    | nil =>
      rw [valueChars]
      decide
    | cons v items =>
      have hrest := all_isWritten_itemChars fun w hw => ih w (List.mem_cons_of_mem _ hw)
      rw [valueChars, List.all_append, List.all_append, List.all_append, List.all_append,
        List.all_cons, all_isWritten_newline, all_isWritten_newline, ih v List.mem_cons_self, hrest]
      decide
  | @object fields _ _ ih =>
    cases fields with
    | nil =>
      rw [valueChars]
      decide
    | cons p fields =>
      have hrest := all_isWritten_fieldChars fun q hq => ih q (List.mem_cons_of_mem _ hq)
      rw [valueChars, List.all_append, List.all_append, List.all_append, List.all_append,
        List.all_append, List.all_cons, List.all_cons, List.all_cons, all_isWritten_newline,
        all_isWritten_newline, all_isWritten_quotedChars, ih p List.mem_cons_self, hrest]
      decide

theorem Plain.head?_ne_mark {v : Value} (h : Plain v) : (valueChars 0 v).head? ≠ some '\ufeff' := by
  intro e
  have hfirst := List.all_eq_true.1 (h.all_isWritten 0) _ (List.mem_of_head? e)
  exact absurd hfirst (by decide)

theorem Plain.return_not_mem {v : Value} (h : Plain v) : '\r' ∉ (write v).toList := by
  intro hmem
  rw [write, String.toList_ofList] at hmem
  exact absurd (List.all_eq_true.1 (h.all_isWritten 0) _ hmem) (by decide)

/-- The reader undoes the writer. -/
theorem Plain.read_write {v : Value} (h : Plain v) : read (write v) = .ok v := by
  obtain ⟨behind, hread⟩ := h.readsBack 0 [] .value [] takesValue_value endsNumber_nil
    (valueChars 0 v).length 0
  rw [List.append_nil] at hread
  rw [read, write, String.toList_ofList, readChars, if_neg h.head?_ne_mark, hread]
  rfl

end LintRelay.Json
