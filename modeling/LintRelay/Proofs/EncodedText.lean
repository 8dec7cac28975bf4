import LintRelay.Disk
import Mathlib.Tactic.Common

/-!
# Encoded texts

A character is encoded as a sequence of one to four bytes. The well-formed sequences are these and no
others: none is longer than its character needs, none denotes half of a pair, and none lies behind the
last character. What consists of well-formed sequences is decoded to its text, and everything else ends in
a fault.
-/
namespace LintRelay.Utf8

abbrev IsTail (x : UInt8) : Prop := 128 ≤ x.toNat ∧ x.toNat < 192

/-- The well-formed sequences, with the value that each denotes. -/
inductive Sequence : List UInt8 → Nat → Prop
  | one {b : UInt8} (hb : b.toNat < 128) : Sequence [b] b.toNat
  | two {b x : UInt8} (hb : 194 ≤ b.toNat ∧ b.toNat < 224) (hx : IsTail x) :
      Sequence [b, x] ((b.toNat - 192) * 64 + x.toNat % 64)
  | three {b x y : UInt8} (hb : 224 ≤ b.toNat ∧ b.toNat < 240) (hx : IsTail x) (hy : IsTail y)
      (hshortest : b.toNat = 224 → 160 ≤ x.toNat) (hpairs : b.toNat = 237 → x.toNat < 160) :
      Sequence [b, x, y] (((b.toNat - 224) * 64 + x.toNat % 64) * 64 + y.toNat % 64)
  | four {b x y z : UInt8} (hb : 240 ≤ b.toNat ∧ b.toNat < 245) (hx : IsTail x) (hy : IsTail y)
      (hz : IsTail z) (hshortest : b.toNat = 240 → 144 ≤ x.toNat)
      (hlast : b.toNat = 244 → x.toNat < 144) :
      Sequence [b, x, y, z]
        ((((b.toNat - 240) * 64 + x.toNat % 64) * 64 + y.toNat % 64) * 64 + z.toNat % 64)

variable {b x : UInt8} {bytes rest seq : List UInt8} {c : Char} {cs : List Char}
  {n pos first bits : Nat} {lead : UInt8} {next range : ByteRange} {later : List ByteRange}

theorem byte_toNat (hn : n < 256) : (UInt8.ofNat n).toNat = n := by
  rw [UInt8.toNat_ofNat']
  omega

theorem byte_eq (hn : b.toNat = n) : UInt8.ofNat n = b := by
  rw [← hn, UInt8.ofNat_toNat]

theorem char_toNat (hn : n.isValidChar) : (Char.ofNat n).toNat = n := by
  rw [Char.ofNat, dif_pos hn]
  rfl

namespace Sequence

theorem isValidChar (h : Sequence seq n) : n.isValidChar := by
  unfold Nat.isValidChar
  cases h <;> omega

theorem encodeChar (h : Sequence seq n) : String.utf8EncodeChar (Char.ofNat n) = seq := by
  have hvalue : (Char.ofNat n).val.toNat = n := char_toNat h.isValidChar
  simp only [String.utf8EncodeChar, hvalue]
  cases h with
  | one hb => rw [if_pos (by omega), UInt8.ofNat_toNat]
  | @two b x hb hx =>
    rw [if_neg (by omega), if_pos (by omega), byte_eq (b := b) (by omega),
      byte_eq (b := x) (by omega)]
  | @three b x y hb hx hy hshortest hpairs =>
    rw [if_neg (by omega), if_neg (by omega), if_pos (by omega), byte_eq (b := b) (by omega),
      byte_eq (b := x) (by omega), byte_eq (b := y) (by omega)]
  | @four b x y z hb hx hy hz hshortest hlast =>
    rw [if_neg (by omega), if_neg (by omega), if_neg (by omega), byte_eq (b := b) (by omega),
      byte_eq (b := x) (by omega), byte_eq (b := y) (by omega), byte_eq (b := z) (by omega)]

theorem of_char (c : Char) : Sequence (String.utf8EncodeChar c) c.toNat := by
  have hvalid : c.toNat.isValidChar := c.valid
  have hvalue : c.val.toNat = c.toNat := rfl
  simp only [String.utf8EncodeChar, hvalue]
  generalize c.toNat = n at hvalid
  split_ifs with hone htwo hthree
  · have hb := byte_toNat (n := n) (by omega)
    have h := one (b := UInt8.ofNat n) (by omega)
    rwa [hb] at h
  · have hb := byte_toNat (n := n / 64 % 32 + 192) (by omega)
    have hx := byte_toNat (n := n % 64 + 128) (by omega)
    have h := two (b := UInt8.ofNat (n / 64 % 32 + 192)) (x := UInt8.ofNat (n % 64 + 128))
      (by omega) (by omega)
    rwa [hb, hx, show (n / 64 % 32 + 192 - 192) * 64 + (n % 64 + 128) % 64 = n by omega] at h
  · have hb := byte_toNat (n := n / 4096 % 16 + 224) (by omega)
    have hx := byte_toNat (n := n / 64 % 64 + 128) (by omega)
    have hy := byte_toNat (n := n % 64 + 128) (by omega)
    have h := three (b := UInt8.ofNat (n / 4096 % 16 + 224)) (x := UInt8.ofNat (n / 64 % 64 + 128))
      (y := UInt8.ofNat (n % 64 + 128)) (by omega) (by omega)
      (by omega) (by omega) (by omega)
    rwa [hb, hx, hy, show ((n / 4096 % 16 + 224 - 224) * 64 + (n / 64 % 64 + 128) % 64) * 64 +
      (n % 64 + 128) % 64 = n by omega] at h
  · have hb := byte_toNat (n := n / 262144 % 8 + 240) (by omega)
    have hx := byte_toNat (n := n / 4096 % 64 + 128) (by omega)
    have hy := byte_toNat (n := n / 64 % 64 + 128) (by omega)
    have hz := byte_toNat (n := n % 64 + 128) (by omega)
    have h := four (b := UInt8.ofNat (n / 262144 % 8 + 240)) (x := UInt8.ofNat (n / 4096 % 64 + 128))
      (y := UInt8.ofNat (n / 64 % 64 + 128)) (z := UInt8.ofNat (n % 64 + 128)) (by omega)
      (by omega) (by omega) (by omega) (by omega)
      (by omega)
    rwa [hb, hx, hy, hz, show (((n / 262144 % 8 + 240 - 240) * 64 + (n / 4096 % 64 + 128) % 64) * 64 +
      (n / 64 % 64 + 128) % 64) * 64 + (n % 64 + 128) % 64 = n by omega] at h

end Sequence

section Leads

theorem mem_tail_iff : (tail.1 ≤ x ∧ x ≤ tail.2) ↔ IsTail x := by
  simp only [tail, IsTail, UInt8.le_iff_toNat_le]
  change (128 ≤ x.toNat ∧ x.toNat ≤ 191) ↔ _
  omega

theorem follow?_two (hb : 194 ≤ b.toNat ∧ b.toNat < 224) :
    follow? b = some ([tail], b.toNat - 192) := by
  simp only [follow?]
  rw [if_neg (by omega), if_pos hb.2]

theorem follow?_three (hb : 224 ≤ b.toNat ∧ b.toNat < 240) :
    ∃ range : ByteRange, follow? b = some ([range, tail], b.toNat - 224) ∧
      ∀ x : UInt8, (range.1 ≤ x ∧ x ≤ range.2) ↔
        IsTail x ∧ (b.toNat = 224 → 160 ≤ x.toNat) ∧ (b.toNat = 237 → x.toNat < 160) := by
  have hsmall : b.toNat < 240 := hb.2
  simp only [follow?]
  rw [if_neg (by omega), if_neg (by omega), if_pos hsmall]
  split_ifs with hfirst hpairs
  · refine ⟨(0xa0, 0xbf), by rw [hfirst], fun x => ?_⟩
    simp only [UInt8.le_iff_toNat_le, IsTail]
    change (160 ≤ x.toNat ∧ x.toNat ≤ 191) ↔ _
    omega
  · refine ⟨(0x80, 0x9f), by rw [hpairs], fun x => ?_⟩
    simp only [UInt8.le_iff_toNat_le, IsTail]
    change (128 ≤ x.toNat ∧ x.toNat ≤ 159) ↔ _
    omega
  · refine ⟨tail, rfl, fun x => ?_⟩
    simp only [mem_tail_iff]
    omega

theorem follow?_four (hb : 240 ≤ b.toNat ∧ b.toNat < 245) :
    ∃ range : ByteRange, follow? b = some ([range, tail, tail], b.toNat - 240) ∧
      ∀ x : UInt8, (range.1 ≤ x ∧ x ≤ range.2) ↔
        IsTail x ∧ (b.toNat = 240 → 144 ≤ x.toNat) ∧ (b.toNat = 244 → x.toNat < 144) := by
  simp only [follow?]
  rw [if_neg (by omega), if_neg (by omega), if_neg (by omega), if_neg (by omega),
    if_neg (by omega)]
  split_ifs with hfirst hmiddle hlast
  · refine ⟨(0x90, 0xbf), by rw [hfirst], fun x => ?_⟩
    simp only [UInt8.le_iff_toNat_le, IsTail]
    change (144 ≤ x.toNat ∧ x.toNat ≤ 191) ↔ _
    omega
  · refine ⟨tail, rfl, fun x => ?_⟩
    simp only [mem_tail_iff]
    omega
  · refine ⟨(0x80, 0x8f), by rw [hlast], fun x => ?_⟩
    simp only [UInt8.le_iff_toNat_le, IsTail]
    change (128 ≤ x.toNat ∧ x.toNat ≤ 143) ↔ _
    omega
  · omega

theorem follow?_none (hb : b.toNat < 194 ∨ 245 ≤ b.toNat) : follow? b = none := by
  simp only [follow?]
  rcases hb with hb | hb
  · rw [if_pos hb]
  · repeat rw [if_neg (by omega)]

end Leads

section Reading

theorem pieces_one (hb : b.toNat < 128) :
    pieces .between pos (b :: rest) = .ok (Char.ofNat b.toNat) :: pieces .between (pos + 1) rest := by
  simp [pieces, step, start, hb]

theorem pieces_lead (hlarge : 128 ≤ b.toNat) (hfollow : follow? b = some (next :: later, bits)) :
    pieces .between pos (b :: rest) = pieces (.inside b pos bits next later) (pos + 1) rest := by
  have hsmall : ¬ b.toNat < 128 := by omega
  simp [pieces, step, start, hsmall, hfollow]

/-- A byte in range brings a sequence on, and the last one ends it. -/
theorem pieces_last (hb : next.1 ≤ b ∧ b ≤ next.2) :
    pieces (.inside lead first bits next []) pos (b :: rest) =
      .ok (Char.ofNat (bits * 64 + b.toNat % 64)) :: pieces .between (pos + 1) rest := by
  simp [pieces, step, hb]

theorem pieces_more (hb : next.1 ≤ b ∧ b ≤ next.2) :
    pieces (.inside lead first bits next (range :: later)) pos (b :: rest) =
      pieces (.inside lead first (bits * 64 + b.toNat % 64) range later) (pos + 1) rest := by
  simp [pieces, step, hb]

/-- A well-formed sequence is read as its character, whatever comes behind it. -/
theorem Sequence.pieces (h : Sequence seq n) (pos : Nat) (rest : List UInt8) :
    pieces .between pos (seq ++ rest) =
      .ok (Char.ofNat n) :: pieces .between (pos + seq.length) rest := by
  cases h with
  | one hb => exact pieces_one hb
  | two hb hx =>
    have hlead := follow?_two hb
    rw [List.cons_append, List.singleton_append, pieces_lead (by omega) hlead,
      pieces_last (mem_tail_iff.2 hx)]
    rfl
  | three hb hx hy hshortest hpairs =>
    obtain ⟨range, hlead, hrange⟩ := follow?_three hb
    rw [List.cons_append, List.cons_append, List.singleton_append, pieces_lead (by omega) hlead,
      pieces_more ((hrange _).2 ⟨hx, hshortest, hpairs⟩), pieces_last (mem_tail_iff.2 hy)]
    rfl
  | four hb hx hy hz hshortest hlast =>
    obtain ⟨range, hlead, hrange⟩ := follow?_four hb
    rw [List.cons_append, List.cons_append, List.cons_append, List.singleton_append,
      pieces_lead (by omega) hlead, pieces_more ((hrange _).2 ⟨hx, hshortest, hlast⟩),
      pieces_more (mem_tail_iff.2 hy), pieces_last (mem_tail_iff.2 hz)]
    rfl

/-- What can be decoded does not break off inside a sequence. -/
theorem cons_of_collect_inside
    (h : collect (pieces (.inside lead first bits next later) pos bytes) = .ok cs) :
    ∃ b rest, bytes = b :: rest ∧ next.1 ≤ b ∧ b ≤ next.2 := by
  cases bytes with
  | nil => simp [pieces, collect] at h
  | cons b rest =>
    by_cases hb : next.1 ≤ b ∧ b ≤ next.2
    · exact ⟨b, rest, rfl, hb⟩
    · simp [pieces, step, hb, collect] at h

theorem lead_of_collect (hlarge : 128 ≤ b.toNat)
    (h : collect (pieces .between pos (b :: bytes)) = .ok cs) :
    194 ≤ b.toNat ∧ b.toNat < 245 := by
  by_contra hout
  have hfollow : follow? b = none := follow?_none (by omega)
  have hsmall : ¬ b.toNat < 128 := by omega
  simp [pieces, step, start, hsmall, hfollow, collect] at h

theorem sequence_of_collect (h : collect (pieces .between pos (b :: bytes)) = .ok cs) :
    ∃ seq rest n, b :: bytes = seq ++ rest ∧ Sequence seq n := by
  by_cases hone : b.toNat < 128
  · exact ⟨[b], bytes, _, rfl, .one hone⟩
  obtain ⟨hlow, hhigh⟩ := lead_of_collect (by omega) h
  by_cases htwo : b.toNat < 224
  · rw [pieces_lead (by omega) (follow?_two ⟨hlow, htwo⟩)] at h
    obtain ⟨x, rest, rfl, hx⟩ := cons_of_collect_inside h
    exact ⟨[b, x], rest, _, rfl, .two ⟨hlow, htwo⟩ (mem_tail_iff.1 hx)⟩
  by_cases hthree : b.toNat < 240
  · have hb : 224 ≤ b.toNat ∧ b.toNat < 240 := by omega
    obtain ⟨range, hlead, hrange⟩ := follow?_three hb
    rw [pieces_lead (by omega) hlead] at h
    obtain ⟨x, rest, rfl, hx⟩ := cons_of_collect_inside h
    rw [pieces_more hx] at h
    obtain ⟨y, rest, rfl, hy⟩ := cons_of_collect_inside h
    obtain ⟨htail, hshortest, hpairs⟩ := (hrange x).1 hx
    exact ⟨[b, x, y], rest, _, rfl, .three hb htail (mem_tail_iff.1 hy) hshortest hpairs⟩
  · have hb : 240 ≤ b.toNat ∧ b.toNat < 245 := by omega
    obtain ⟨range, hlead, hrange⟩ := follow?_four hb
    rw [pieces_lead (by omega) hlead] at h
    obtain ⟨x, rest, rfl, hx⟩ := cons_of_collect_inside h
    rw [pieces_more hx] at h
    obtain ⟨y, rest, rfl, hy⟩ := cons_of_collect_inside h
    rw [pieces_more hy] at h
    obtain ⟨z, rest, rfl, hz⟩ := cons_of_collect_inside h
    obtain ⟨htail, hshortest, hlast⟩ := (hrange x).1 hx
    exact ⟨[b, x, y, z], rest, _, rfl,
      .four hb htail (mem_tail_iff.1 hy) (mem_tail_iff.1 hz) hshortest hlast⟩

end Reading

theorem encode_cons (c : Char) (cs : List Char) :
    encode (c :: cs) = String.utf8EncodeChar c ++ encode cs := by
  simp [encode]

theorem collect_encode (cs : List Char) (pos : Nat) :
    collect (pieces .between pos (encode cs)) = .ok cs := by
  induction cs generalizing pos with
  | nil => rfl
  | cons c cs ih =>
    rw [encode_cons, (Sequence.of_char c).pieces, collect, ih, Char.ofNat_toNat]
    rfl

theorem encode_of_collect (h : collect (pieces .between pos bytes) = .ok cs) : bytes = encode cs := by
  induction hlength : bytes.length using Nat.strongRecOn generalizing bytes cs pos with
  | ind length ih =>
    cases bytes with
    | nil =>
      obtain rfl : [] = cs := by simpa [pieces, collect] using h
      rfl
    | cons b bytes =>
      obtain ⟨seq, rest, n, hbytes, hseq⟩ := sequence_of_collect h
      rw [hbytes, hseq.pieces] at h
      cases hmore : collect (pieces .between (pos + seq.length) rest) with
      | error fault => simp [collect, hmore, Except.map] at h
      | ok more =>
        obtain rfl : Char.ofNat n :: more = cs := by simpa [collect, hmore, Except.map] using h
        have hshorter : rest.length < length := by
          have hsum := congrArg List.length hbytes
          have hsome : 0 < seq.length := by cases hseq <;> simp
          simp only [List.length_append] at hsum
          omega
        rw [hbytes, encode_cons, hseq.encodeChar, ← ih rest.length hshorter hmore rfl]

theorem decode_eq_ok_iff : decode bytes = .ok cs ↔ bytes = encode cs := by
  constructor
  · intro h
    exact encode_of_collect h
  · rintro rfl
    exact collect_encode cs 0

def IsText (bytes : List UInt8) : Prop := ∃ cs, bytes = encode cs

theorem decode_fails_iff : (∃ fault, decode bytes = .error fault) ↔ ¬ IsText bytes := by
  unfold IsText
  cases hd : decode bytes with
  | ok cs => simpa using ⟨cs, decode_eq_ok_iff.1 hd⟩
  | error fault =>
    have hnone : ∀ cs, bytes ≠ encode cs := by
      intro cs hcs
      rw [decode_eq_ok_iff.2 hcs] at hd
      cases hd
    simpa using hnone

end LintRelay.Utf8

namespace LintRelay.Disk

variable {bytes : List UInt8} {path text : String} {d : Disk}

theorem decodeText_eq_ok_iff :
    decodeText bytes = .ok text ↔
      ∃ cs, bytes = Utf8.encode cs ∧ text = String.ofList (LineEnds.unify cs) := by
  unfold decodeText
  cases hd : Utf8.decode bytes with
  | ok cs =>
    have hbytes := Utf8.decode_eq_ok_iff.1 hd
    constructor
    · intro htext
      exact ⟨cs, hbytes, (Except.ok.inj htext).symm⟩
    · rintro ⟨ds, hds, rfl⟩
      rw [Utf8.decode_eq_ok_iff.2 hds] at hd
      rw [Except.ok.inj hd]
  | error fault =>
    have hnone := Utf8.decode_fails_iff.1 ⟨fault, hd⟩
    simp only [reduceCtorEq, false_iff]
    rintro ⟨cs, hcs, -⟩
    exact hnone ⟨cs, hcs⟩

theorem decodeText_encode (cs : List Char) :
    decodeText (Utf8.encode cs) = .ok (String.ofList (LineEnds.unify cs)) :=
  decodeText_eq_ok_iff.2 ⟨cs, rfl, rfl⟩

theorem readText_of_bytes (hbytes : d.readBytes path = .ok bytes) :
    d.readText path = decodeText bytes := by
  rw [readText, hbytes]
  rfl

theorem readText_of_fault {fault : Fault} (hfault : d.readBytes path = .error fault) :
    d.readText path = .error fault := by
  rw [readText, hfault]
  rfl

end LintRelay.Disk
