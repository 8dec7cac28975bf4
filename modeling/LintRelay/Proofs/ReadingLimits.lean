import LintRelay.JsonLimits
import LintRelay.Proofs.WrittenValues

/-!
# What the limits of reading leave

A value that is read within some room keeps to it: none of its whole numbers has too many digits, and no
more lists and objects stand inside one another than there is room for. Whole numbers with more digits
are not read, though they are JSON.
-/
namespace LintRelay

/-- A value with no whole number of too many digits that is nested no deeper than this. -/
inductive Value.Fits : Nat → Value → Prop
  | null {room : Nat} : Fits room .null
  | bool {room : Nat} (b : Bool) : Fits room (.bool b)
  | int {room : Nat} {n : Int} (hdigits : Json.decimalLength n ≤ Fault.mostDigits) : Fits room (.int n)
  | float {room : Nat} (x : Binary64) : Fits room (.float x)
  | str {room : Nat} (s : String) : Fits room (.str s)
  | list {room : Nat} {items : List Value} (hitems : ∀ v ∈ items, Fits room v) :
    Fits (room + 1) (.list items)
  | object {room : Nat} {fields : Fields} (hfields : ∀ p ∈ fields, Fits room p.2) :
    Fits (room + 1) (.object fields)

namespace Json

def Frame.values : Frame → List Value
  | .list done => done
  | .object done _ => done.map Prod.snd

/-- What has been read into the open lists and objects fits, and so much room is left inside them. -/
inductive FramesFit (room : Nat) : Nat → List Frame → Prop
  | nil : FramesFit room room []
  | cons {left : Nat} {frame : Frame} {frames : List Frame} (houter : FramesFit room (left + 1) frames)
      (hvalues : ∀ v ∈ frame.values, v.Fits left) : FramesFit room left (frame :: frames)

/-- The entries of an open object fit into the room that is left around it. -/
def EntriesFit (left : Nat) (done : Fields) : Prop :=
  ∃ inner, left = inner + 1 ∧ ∀ p ∈ done, p.2.Fits inner

def Expecting.Fits (left : Nat) : Expecting → Prop
  | .value | .itemOrClose => True
  | .nameOrClose done | .name done | .colon done _ => EntriesFit left done
  | .behind v => v.Fits left

def State.Fits (room : Nat) (s : State) : Prop :=
  ∃ left, FramesFit room left s.frames ∧ s.expecting.Fits left

variable {room left : Nat} {s s' : State} {frames : List Frame} {lexeme : Lexeme}

theorem FramesFit.length (h : FramesFit room left frames) : frames.length + left = room := by
  induction h with
  | nil => simp
  | cons _ _ ih =>
    rw [List.length_cons]
    omega

theorem entriesFit_put {done : Fields} {name : String} {v : Value} {inner : Nat} (hv : v.Fits inner)
    (hdone : ∀ p ∈ done, p.2.Fits inner) : ∀ p ∈ Entries.put name v done, p.2.Fits inner := by
  intro p hp
  rcases Entries.mem_put hp with rfl | hp
  · exact hv
  · exact hdone p hp

/-- Words and numbers hold no other values. -/
def Atomic (v : Value) : Prop := (∀ items, v ≠ .list items) ∧ ∀ fields, v ≠ .object fields

theorem unsigned?_atomic {negative : Bool} {cs : List Char} {v : Value} {used : Nat}
    (h : unsigned? negative cs = some (v, used)) : Atomic v := by
  unfold unsigned? at h
  dsimp only at h
  split at h
  · cases h
  · split at h
    · obtain ⟨rfl, -⟩ := Prod.mk.inj (Option.some.inj h)
      simp [Atomic]
    · split at h
      all_goals
        obtain ⟨rfl, -⟩ := Prod.mk.inj (Option.some.inj h)
        simp [Atomic]

theorem scalar?_atomic {cs : List Char} {v : Value} {used : Nat} (h : scalar? cs = some (v, used)) :
    Atomic v := by
  unfold scalar? at h
  split at h
  · rename_i word w hword
    obtain ⟨rfl, -⟩ := Prod.mk.inj (Option.some.inj h)
    have hwords : ∀ w ∈ words, Atomic w.2 := by simp [words, Atomic]
    exact hwords _ (List.mem_of_find?_eq_some hword)
  · split at h
    · obtain ⟨r, hr, hv⟩ := Option.map_eq_some_iff.1 h
      obtain ⟨rfl, -⟩ := Prod.mk.inj hv
      exact unsigned?_atomic hr
    · exact unsigned?_atomic h

theorem atomic_of_mem_tokens {skip offset : Nat} {cs : List Char} {t : Token} {v : Value}
    (ht : t ∈ tokens skip offset cs) (hv : t.lexeme = .scalar v) : Atomic v := by
  induction cs generalizing skip offset with
  | nil => simp [tokens] at ht
  | cons c rest ih =>
    cases skip with
    | succ skip => exact ih ht
    | zero =>
      unfold tokens at ht
      split at ht
      · exact ih ht
      · split at ht
        · rcases List.mem_cons.1 ht with rfl | ht
          · rename_i hmark
            obtain rfl : _ = Lexeme.scalar v := hv
            unfold mark? at hmark
            split_ifs at hmark <;> cases hmark
          · exact ih ht
        · split at ht
          · split at ht
            · rw [List.mem_singleton.1 ht] at hv
              cases hv
            · rcases List.mem_cons.1 ht with rfl | ht
              · cases hv
              · exact ih ht
          · split at ht
            · rename_i hscalar
              rcases List.mem_cons.1 ht with rfl | ht
              · obtain rfl := Lexeme.scalar.inj hv
                exact scalar?_atomic hscalar
              · exact ih ht
            · rw [List.mem_singleton.1 ht] at hv
              cases hv

theorem scalar_fits {v : Value} (hv : Atomic v) (hnone : excessAt? room frames (.scalar v) = none) :
    v.Fits left := by
  cases v with
  | int n =>
    refine .int (Nat.le_of_not_lt fun hlong => ?_)
    simp [excessAt?, hlong] at hnone
  | null => exact .null
  | bool b => exact .bool b
  | float x => exact .float x
  | str s => exact .str s
  | list items => exact absurd rfl (hv.1 items)
  | object fields => exact absurd rfl (hv.2 fields)

theorem FramesFit.exists_inner (h : FramesFit room left frames)
    (hopen : lexeme = .openList ∨ lexeme = .openObject)
    (hnone : excessAt? room frames lexeme = none) : ∃ inner, left = inner + 1 := by
  have hroom : frames.length < room := by
    by_contra hfull
    rcases hopen with rfl | rfl <;> simp [excessAt?, hfull] at hnone
  have hlength := h.length
  exact ⟨left - 1, by omega⟩

theorem valueStep_fits (hstep : valueStep frames lexeme = some (.ok s'))
    (hatomic : ∀ v, lexeme = .scalar v → Atomic v) (hnone : excessAt? room frames lexeme = none)
    (hframes : FramesFit room left frames) : s'.Fits room := by
  cases lexeme with
  | openList =>
    obtain rfl := Except.ok.inj (Option.some.inj hstep)
    obtain ⟨inner, rfl⟩ := hframes.exists_inner (.inl rfl) hnone
    exact ⟨inner, .cons hframes (by simp [Frame.values]), trivial⟩
  | openObject =>
    obtain rfl := Except.ok.inj (Option.some.inj hstep)
    obtain ⟨inner, rfl⟩ := hframes.exists_inner (.inr rfl) hnone
    exact ⟨inner + 1, hframes, inner, rfl, by simp⟩
  | scalar v =>
    obtain rfl := Except.ok.inj (Option.some.inj hstep)
    exact ⟨left, hframes, scalar_fits (hatomic v rfl) hnone⟩
  | text s =>
    obtain rfl := Except.ok.inj (Option.some.inj hstep)
    exact ⟨left, hframes, .str s⟩
  | closeList | closeObject | comma | colon | broken | stray => cases hstep

theorem nameStep_fits {done : Fields} (hstep : nameStep done frames lexeme = some (.ok s'))
    (hframes : FramesFit room left frames) (hdone : EntriesFit left done) : s'.Fits room := by
  cases lexeme with
  | text s =>
    obtain rfl := Except.ok.inj (Option.some.inj hstep)
    exact ⟨left, hframes, hdone⟩
  | _ => cases hstep

/-- What stands behind a value closes a list or object, or makes place in it for another value. -/
theorem behindStep_fits {v : Value} (hstep : behindStep v frames lexeme = some (.ok s'))
    (hframes : FramesFit room left frames) (hv : v.Fits left) : s'.Fits room := by
  unfold behindStep at hstep
  split at hstep
  · obtain rfl := Except.ok.inj (Option.some.inj hstep)
    obtain _ | ⟨houter, hvalues⟩ := hframes
    exact ⟨left, .cons houter (List.forall_mem_cons.2 ⟨hv, hvalues⟩), trivial⟩
  · obtain rfl := Except.ok.inj (Option.some.inj hstep)
    obtain _ | ⟨houter, hvalues⟩ := hframes
    refine ⟨left + 1, houter, .list fun w hw => ?_⟩
    exact List.forall_mem_cons.2 ⟨hv, hvalues⟩ w (List.mem_reverse.1 hw)
  · obtain rfl := Except.ok.inj (Option.some.inj hstep)
    obtain _ | ⟨houter, hvalues⟩ := hframes
    exact ⟨left + 1, houter, left, rfl, entriesFit_put hv fun p hp =>
      hvalues p.2 (List.mem_map_of_mem hp)⟩
  · obtain rfl := Except.ok.inj (Option.some.inj hstep)
    obtain _ | ⟨houter, hvalues⟩ := hframes
    exact ⟨left + 1, houter, .object (entriesFit_put hv fun p hp => hvalues p.2 (List.mem_map_of_mem hp))⟩
  · cases hstep

/-- One token. -/
theorem step_fits (hstep : step s lexeme = some (.ok s'))
    (hatomic : ∀ v, lexeme = .scalar v → Atomic v) (hnone : excessAt? room s.frames lexeme = none)
    (hs : s.Fits room) : s'.Fits room := by
  obtain ⟨left, hframes, hexpecting⟩ := hs
  unfold step at hstep
  split at hstep
  · exact valueStep_fits hstep hatomic hnone hframes
  · obtain rfl := Except.ok.inj (Option.some.inj hstep)
    obtain _ | ⟨houter, -⟩ := hframes
    exact ⟨left + 1, houter, .list (by simp)⟩
  · exact valueStep_fits hstep hatomic hnone hframes
  · obtain rfl := Except.ok.inj (Option.some.inj hstep)
    obtain ⟨inner, rfl, hdone⟩ := hexpecting
    exact ⟨inner + 1, hframes, .object hdone⟩
  · exact nameStep_fits hstep hframes hexpecting
  · exact nameStep_fits hstep hframes hexpecting
  · obtain rfl := Except.ok.inj (Option.some.inj hstep)
    obtain ⟨inner, rfl, hdone⟩ := hexpecting
    refine ⟨inner, .cons hframes fun v hv => ?_, trivial⟩
    obtain ⟨p, hp, rfl⟩ := List.mem_map.1 hv
    exact hdone p hp
  · cases hstep
  · exact behindStep_fits hstep hframes hexpecting

/-- All tokens to the end of a text. -/
theorem run_fits {size : Nat} {ts : List Token} {v : Value}
    (hatomic : ∀ t ∈ ts, ∀ w, t.lexeme = .scalar w → Atomic w)
    (hnone : excessFrom? room s ts = none) (hrun : run size s ts = .ok v) (hs : s.Fits room) :
    v.Fits room := by
  induction ts generalizing s with
  | nil =>
    obtain ⟨left, hframes, hexpecting⟩ := hs
    unfold run at hrun
    split at hrun
    · rename_i w he hf
      obtain rfl := Except.ok.inj hrun
      rw [hf] at hframes
      rw [he] at hexpecting
      cases hframes
      exact hexpecting
    · cases hrun
  | cons t rest ih =>
    obtain ⟨hfirst, hrest⟩ := List.forall_mem_cons.1 hatomic
    unfold run at hrun
    unfold excessFrom? at hnone
    split at hrun
    · rename_i s' hstep
      rw [hstep] at hnone
      obtain ⟨hhere, hlater⟩ := Option.or_eq_none_iff.1 hnone
      exact ih hrest hlater hrun (step_fits hstep hfirst hhere hs)
    · cases hrun
    · cases hrun

/-- What is read keeps to the room for it. -/
theorem fits_of_read {text : String} {v : Value} (hnone : excess? room text = none)
    (hread : read text = .ok v) : v.Fits room := by
  unfold excess? excessOfChars? at hnone
  unfold read readChars at hread
  split at hread
  · cases hread
  · rename_i hmark
    rw [if_neg hmark] at hnone
    exact run_fits (fun t ht w hw => atomic_of_mem_tokens ht hw) hnone hread ⟨room, .nil, trivial⟩

theorem excessFrom?_openings {e : Expecting} (he : e.TakesValue) {n : Nat}
    (hroom : frames.length ≤ room) (hdeep : room < frames.length + n) (offset : Nat) :
    excessFrom? room ⟨e, frames⟩ (tokens 0 offset (List.replicate n '[')) = some (.tooDeep .list) := by
  induction n generalizing e frames offset with
  | zero => omega
  | succ n ih =>
    have hopen : step ⟨e, frames⟩ .openList = some (.ok ⟨.itemOrClose, .list [] :: frames⟩) :=
      step_of_takesValue he rfl
    have hcut : tokens 0 offset (List.replicate (n + 1) '[') =
        ⟨offset, .openList⟩ :: tokens 0 (offset + 1) (List.replicate n '[') := rfl
    rw [hcut, excessFrom?, hopen]
    dsimp only
    by_cases hfull : frames.length = room
    · simp [excessAt?, hfull]
    · have hlt : frames.length < room := by omega
      have hlength : (Frame.list [] :: frames).length = frames.length + 1 := List.length_cons
      have hinner : excessFrom? room ⟨.itemOrClose, .list [] :: frames⟩
          (tokens 0 (offset + 1) (List.replicate n '[')) = some (.tooDeep .list) :=
        ih (.inr rfl) (by omega) (by omega) (offset + 1)
      simp [excessAt?, hlt, hinner]

/-- More brackets than there is room for are given up, though they may never be closed. -/
theorem excess?_openings {n : Nat} (hdeep : room < n) :
    excess? room (String.ofList (List.replicate n '[')) = some (.tooDeep .list) := by
  obtain ⟨n, rfl⟩ : ∃ m, n = m + 1 := ⟨n - 1, by omega⟩
  have hmark : (List.replicate (n + 1) '[').head? ≠ some '\ufeff' := by
    rw [List.replicate_succ, List.head?_cons]
    decide
  rw [excess?, String.toList_ofList, excessOfChars?, if_neg hmark]
  exact excessFrom?_openings takesValue_value (Nat.zero_le _) (by simpa using hdeep) 0

theorem decimalLength_ten_pow (k : Nat) : decimalLength (Int.ofNat (Nat.pow 10 k)) = k + 1 := by
  have hle : (Nat.toDigits 10 (Nat.pow 10 k)).length ≤ k + 1 :=
    (Nat.length_toDigits_le_iff (by decide) (by omega)).2 (Nat.pow_lt_pow_right (by decide) (by omega))
  have hlt : k < (Nat.toDigits 10 (Nat.pow 10 k)).length := by
    rcases Nat.eq_zero_or_pos k with rfl | hk
    · exact Nat.length_toDigits_pos
    · by_contra hshort
      exact Nat.lt_irrefl _ ((Nat.length_toDigits_le_iff (by decide) hk).1 (Nat.le_of_not_lt hshort))
  have habs : (Int.ofNat (Nat.pow 10 k)).natAbs = Nat.pow 10 k := rfl
  rw [decimalLength, habs]
  omega

theorem excess?_write_int {n : Int} (hlong : Fault.mostDigits < decimalLength n) :
    excess? room (write (.int n)) = some (.tooManyDigits (decimalLength n)) := by
  have hmark := (Plain.int n).head?_ne_mark
  obtain ⟨c, cs, htext, hhead⟩ := intChars_head n
  have hscalar := scalar?_intChars n endsNumber_nil
  rw [valueChars] at hmark
  rw [htext] at hscalar
  have htokens : tokens 0 0 (c :: cs ++ []) = _ := tokens_scalar hhead hscalar
  rw [List.append_nil, ← htext] at htokens
  rw [excess?, write, String.toList_ofList, valueChars, excessOfChars?, if_neg hmark, htokens]
  simp [excessFrom?, step, valueStep, excessAt?, hlong]

/-- The least whole number that is not read. -/
def longNumber : Int := Int.ofNat (Nat.pow 10 Fault.mostDigits)

theorem excess?_longNumber (room : Nat) :
    excess? room (write (.int longNumber)) = some (.tooManyDigits (Fault.mostDigits + 1)) := by
  have hlength : decimalLength longNumber = Fault.mostDigits + 1 := decimalLength_ten_pow _
  rw [excess?_write_int (by omega), hlength]

theorem read_longNumber : read (write (.int longNumber)) = .ok (.int longNumber) :=
  (Plain.int longNumber).read_write

end Json

end LintRelay
