import Mathlib.Algebra.GroupWithZero.Nat
import Mathlib.Data.List.Basic
import Mathlib.Tactic.Common

/-!
# Decoding UTF-8 with replacement

A decoder that replaces what is ill-formed goes through the bytes sequence by sequence.  A
lead byte says which bytes may follow; the longest matching run belongs to the sequence,
which is one character when it is complete and one replacement character when it is not.

Bytes that are cut in two and decoded apart give the same characters exactly when the cut
is not inside a sequence.  Inside one, the part in front of the cut is a replacement
character and so is every single byte behind it.
-/

set_option autoImplicit false

namespace Utf8

/-! ## Sequences -/

/-- What stands for an ill-formed sequence. -/
def replacement : Char := '\uFFFD'

/-- The least and the greatest byte at a place. -/
structure ByteRange where
  least : Nat
  most : Nat

def ByteRange.Contains (range : ByteRange) (byte : UInt8) : Prop :=
  range.least ≤ byte.toNat ∧ byte.toNat ≤ range.most

instance (range : ByteRange) (byte : UInt8) : Decidable (range.Contains byte) :=
  inferInstanceAs (Decidable (_ ∧ _))

/-- All continuation bytes. -/
def continuation : ByteRange := ⟨0x80, 0xBF⟩

/-- The bytes that may follow a lead byte. -/
def following (lead : UInt8) : Option (List ByteRange) :=
  if lead.toNat < 0x80 then some []
  else if lead.toNat < 0xC2 then none
  else if lead.toNat < 0xE0 then some [continuation]
  else if lead.toNat = 0xE0 then some [⟨0xA0, 0xBF⟩, continuation]
  else if lead.toNat = 0xED then some [⟨0x80, 0x9F⟩, continuation]
  else if lead.toNat < 0xF0 then some [continuation, continuation]
  else if lead.toNat = 0xF0 then some [⟨0x90, 0xBF⟩, continuation, continuation]
  else if lead.toNat < 0xF4 then some [continuation, continuation, continuation]
  else if lead.toNat = 0xF4 then some [⟨0x80, 0x8F⟩, continuation, continuation]
  else none

/-- How many bytes match, one range after the other. -/
def matching : List ByteRange → List UInt8 → Nat
  | range :: ranges, byte :: bytes =>
      if range.Contains byte then matching ranges bytes + 1 else 0
  | _, _ => 0

/-- The code point of a complete sequence. -/
def codePoint (lead : UInt8) (tail : List UInt8) : Nat :=
  tail.foldl (fun value byte => value * 64 + byte.toNat % 64)
    (lead.toNat % if tail.length = 0 then 128 else 2 ^ (6 - tail.length))

/-- The character of the first sequence and how many bytes belong to it behind the lead. -/
def firstSequence (lead : UInt8) (bytes : List UInt8) : Char × Nat :=
  match following lead with
  | none => (replacement, 0)
  | some ranges =>
      let matched := matching ranges bytes
      if matched = ranges.length then (Char.ofNat (codePoint lead (bytes.take matched)), matched)
      else (replacement, matched)

/-- Decoding behind some bytes that were already read. -/
def decodeFrom : Nat → List UInt8 → List Char
  | _, [] => []
  | read + 1, _ :: bytes => decodeFrom read bytes
  | 0, lead :: bytes =>
      (firstSequence lead bytes).1 :: decodeFrom (firstSequence lead bytes).2 bytes

/-- `bytes.decode("utf-8", errors="replace")`. -/
def decode (bytes : List UInt8) : List Char := decodeFrom 0 bytes

/-- How many bytes behind a cut belong to a sequence that begins in front of it. -/
def overhangFrom : Nat → Nat → List UInt8 → Nat
  | read, 0, _ => read
  | _, _ + 1, [] => 0
  | read + 1, cut + 1, _ :: bytes => overhangFrom read cut bytes
  | 0, cut + 1, lead :: bytes => overhangFrom (firstSequence lead bytes).2 cut bytes

def overhang (cut : Nat) (bytes : List UInt8) : Nat := overhangFrom 0 cut bytes

/-- A cut inside a sequence. -/
def SplitsCharacter (cut : Nat) (bytes : List UInt8) : Prop := overhang cut bytes ≠ 0

instance (cut : Nat) (bytes : List UInt8) : Decidable (SplitsCharacter cut bytes) :=
  inferInstanceAs (Decidable (_ ≠ _))

example : decode [0x41, 0xE2, 0x82, 0xAC, 0xE2, 0x82, 0x41] = ['A', '€', replacement, 'A'] := by
  decide

/-! ## Matching bytes -/

section Matching

variable {ranges : List ByteRange} {bytes : List UInt8}

theorem matching_le_ranges (ranges : List ByteRange) (bytes : List UInt8) :
    matching ranges bytes ≤ ranges.length := by
  induction ranges generalizing bytes with
  | nil => simp [matching]
  | cons range ranges ih =>
      cases bytes with
      | nil => simp [matching]
      | cons byte bytes =>
          unfold matching
          split
          · exact Nat.succ_le_succ (ih _)
          · exact Nat.zero_le _

theorem matching_le_bytes : matching ranges bytes ≤ bytes.length := by
  induction ranges generalizing bytes with
  | nil => simp [matching]
  | cons range ranges ih =>
      cases bytes with
      | nil => simp [matching]
      | cons byte bytes =>
          unfold matching
          split
          · exact Nat.succ_le_succ ih
          · exact Nat.zero_le _

theorem matching_take (cut : Nat) :
    matching ranges (bytes.take cut) = min (matching ranges bytes) cut := by
  induction ranges generalizing bytes cut with
  | nil => simp [matching]
  | cons range ranges ih =>
      cases bytes with
      | nil => simp [matching]
      | cons byte bytes =>
          cases cut with
          | zero => simp [matching]
          | succ cut =>
              rw [List.take_succ_cons]
              unfold matching
              split
              · rw [ih]
                omega
              · simp

/-- Matching bytes are in the ranges at their places. -/
theorem contains_of_matching {index : Nat} (inside : index < matching ranges bytes) :
    ∃ range byte, ranges[index]? = some range ∧ bytes[index]? = some byte ∧
      range.Contains byte := by
  induction ranges generalizing bytes index with
  | nil => simp [matching] at inside
  | cons range ranges ih =>
      cases bytes with
      | nil => simp [matching] at inside
      | cons byte bytes =>
          unfold matching at inside
          split at inside
          · rename_i contains
            cases index with
            | zero => exact ⟨range, byte, rfl, rfl, contains⟩
            | succ index => exact ih (Nat.lt_of_succ_lt_succ inside)
          · exact absurd inside (Nat.not_lt_zero _)

end Matching

/-- Every byte behind a lead is a continuation byte. -/
theorem least_most_of_following {lead : UInt8} {ranges : List ByteRange}
    (follows : following lead = some ranges) :
    ∀ range ∈ ranges, 0x80 ≤ range.least ∧ range.most ≤ 0xBF := by
  unfold following at follows
  split_ifs at follows <;> cases follows <;> simp [continuation]

/-! ## Sequences that are cut -/

section Cut

variable {lead : UInt8} {bytes : List UInt8} {cut : Nat}

theorem firstSequence_le (lead : UInt8) (bytes : List UInt8) :
    (firstSequence lead bytes).2 ≤ bytes.length := by
  unfold firstSequence
  split
  · exact Nat.zero_le _
  · dsimp only
    split <;> exact matching_le_bytes

/-- A sequence in front of the cut is read as before. -/
theorem firstSequence_take (within : (firstSequence lead bytes).2 ≤ cut) :
    firstSequence lead (bytes.take cut) = firstSequence lead bytes := by
  unfold firstSequence at within ⊢
  cases follows : following lead with
  | none => rfl
  | some ranges =>
      simp only [follows] at within ⊢
      have matched : matching ranges bytes ≤ cut := by
        split at within <;> exact within
      rw [matching_take, Nat.min_eq_left matched, List.take_take, Nat.min_eq_left matched]

/-- Of a sequence that reaches behind the cut a replacement character is read. -/
theorem firstSequence_take_of_lt (reaches : cut < (firstSequence lead bytes).2) :
    firstSequence lead (bytes.take cut) = (replacement, cut) := by
  unfold firstSequence at reaches ⊢
  cases follows : following lead with
  | none => simp [follows] at reaches
  | some ranges =>
      simp only [follows] at reaches ⊢
      have matched : cut < matching ranges bytes := by
        split at reaches <;> exact reaches
      have most := matching_le_ranges ranges bytes
      rw [matching_take, Nat.min_eq_right (Nat.le_of_lt matched), if_neg (by omega)]

/-- The bytes of a sequence behind its lead are continuation bytes. -/
theorem continuation_of_firstSequence {index : Nat} (inside : index < (firstSequence lead bytes).2) :
    ∃ byte, bytes[index]? = some byte ∧ continuation.Contains byte := by
  unfold firstSequence at inside
  cases follows : following lead with
  | none => simp [follows] at inside
  | some ranges =>
      simp only [follows] at inside
      have matched : index < matching ranges bytes := by
        split at inside <;> exact inside
      obtain ⟨range, byte, isRange, isByte, contains⟩ := contains_of_matching matched
      have bounds := least_most_of_following follows range (List.mem_of_getElem? isRange)
      exact ⟨byte, isByte, Nat.le_trans bounds.1 contains.1, Nat.le_trans contains.2 bounds.2⟩

end Cut

/-! ## Decoding in two parts -/

section Parts

variable {bytes : List UInt8}

theorem decodeFrom_eq_decode_drop (read : Nat) : decodeFrom read bytes = decode (bytes.drop read) := by
  induction bytes generalizing read with
  | nil => cases read <;> simp [decode, decodeFrom]
  | cons byte bytes ih =>
      cases read with
      | zero => rfl
      | succ read => rw [decodeFrom, ih, List.drop_succ_cons]

theorem decodeFrom_of_le {read : Nat} (all : bytes.length ≤ read) : decodeFrom read bytes = [] := by
  rw [decodeFrom_eq_decode_drop, List.drop_eq_nil_of_le all]
  rfl

/-- Every continuation byte by itself is a replacement character. -/
theorem decode_append_of_continuation {front rest : List UInt8}
    (stray : ∀ byte ∈ front, continuation.Contains byte) :
    decode (front ++ rest) = List.replicate front.length replacement ++ decode rest := by
  induction front with
  | nil => rfl
  | cons byte front ih =>
      have range := stray byte List.mem_cons_self
      have single : firstSequence byte (front ++ rest) = (replacement, 0) := by
        have alone : following byte = none := by
          unfold ByteRange.Contains continuation at range
          dsimp only at range
          unfold following
          rw [if_neg (by omega), if_pos (by omega)]
        simp [firstSequence, alone]
      have others := ih fun other mem => stray other (List.mem_cons_of_mem _ mem)
      rw [List.cons_append, decode, decodeFrom, single]
      exact congrArg (replacement :: ·) others

theorem overhangFrom_of_le {read cut : Nat} (covers : cut ≤ read) (inside : cut ≤ bytes.length) :
    overhangFrom read cut bytes = read - cut := by
  induction cut generalizing read bytes with
  | zero => cases bytes <;> simp [overhangFrom]
  | succ cut ih =>
      obtain ⟨more, rfl⟩ : ∃ more, read = more + 1 := ⟨read - 1, by omega⟩
      cases bytes with
      | nil => simp at inside
      | cons byte bytes =>
          rw [overhangFrom, ih (by omega) (by simpa using inside)]
          omega

/-- Between sequences both parts decode to the characters of the whole. -/
theorem decodeFrom_take_drop {read cut : Nat} (between : overhangFrom read cut bytes = 0) :
    decodeFrom read (bytes.take cut) ++ decode (bytes.drop cut) = decodeFrom read bytes := by
  induction bytes generalizing read cut with
  | nil => cases read <;> simp [decodeFrom, decode]
  | cons byte bytes ih =>
      cases cut with
      | zero =>
          obtain rfl : read = 0 := by simpa [overhangFrom] using between
          rfl
      | succ cut =>
          cases read with
          | succ read =>
              rw [overhangFrom] at between
              rw [List.take_succ_cons, List.drop_succ_cons, decodeFrom, decodeFrom, ih between]
          | zero =>
              rw [overhangFrom] at between
              have within : (firstSequence byte bytes).2 ≤ cut := by
                by_contra beyond
                have most := firstSequence_le byte bytes
                have rest := overhangFrom_of_le (Nat.le_of_not_le beyond)
                  (show cut ≤ bytes.length by omega)
                omega
              rw [List.take_succ_cons, List.drop_succ_cons, decodeFrom, decodeFrom,
                firstSequence_take within, List.cons_append, ih between]

/-- The bytes of a sequence behind a cut. -/
theorem decode_drop_of_inside {lead : UInt8} {cut : Nat}
    (reaches : cut < (firstSequence lead bytes).2) :
    decode (bytes.drop cut) = List.replicate ((firstSequence lead bytes).2 - cut) replacement ++
      decode (bytes.drop (firstSequence lead bytes).2) := by
  have most := firstSequence_le lead bytes
  generalize consumed : (firstSequence lead bytes).2 = count at reaches most ⊢
  have stray : ∀ byte ∈ (bytes.drop cut).take (count - cut), continuation.Contains byte := by
    intro byte mem
    obtain ⟨index, isByte⟩ := List.mem_iff_getElem?.mp mem
    rw [List.getElem?_take] at isByte
    split at isByte
    · rw [List.getElem?_drop] at isByte
      have inside : cut + index < (firstSequence lead bytes).2 := by omega
      obtain ⟨other, isOther, contains⟩ := continuation_of_firstSequence inside
      rw [isByte] at isOther
      exact Option.some.inj isOther ▸ contains
    · cases isByte
  have parted : bytes.drop cut = (bytes.drop cut).take (count - cut) ++ bytes.drop count := by
    have moved : bytes.drop count = (bytes.drop cut).drop (count - cut) := by
      rw [List.drop_drop]
      congr 1
      omega
    rw [moved, List.take_append_drop]
  have length : ((bytes.drop cut).take (count - cut)).length = count - cut := by
    rw [List.length_take, List.length_drop]
    omega
  rw [parted, decode_append_of_continuation stray, length]

/-- Inside a sequence its part in front of the cut and each of its bytes behind are
replacement characters. -/
theorem decodeFrom_take_drop_of_split {read cut : Nat} (covered : read ≤ cut)
    (split : overhangFrom read cut bytes ≠ 0) :
    ∃ (front : List Char) (character : Char) (back : List Char),
      decodeFrom read bytes = front ++ character :: back ∧
      decodeFrom read (bytes.take cut) = front ++ [replacement] ∧
      decode (bytes.drop cut) =
        List.replicate (overhangFrom read cut bytes) replacement ++ back := by
  induction bytes generalizing read cut with
  | nil =>
      cases cut with
      | zero =>
          obtain rfl : read = 0 := by omega
          exact absurd rfl split
      | succ cut => cases read <;> exact absurd rfl split
  | cons byte bytes ih =>
      cases cut with
      | zero =>
          obtain rfl : read = 0 := by omega
          exact absurd rfl split
      | succ cut =>
          cases read with
          | succ read =>
              rw [overhangFrom] at split ⊢
              obtain ⟨front, character, back, whole, head, tail⟩ :=
                ih (Nat.le_of_succ_le_succ covered) split
              exact ⟨front, character, back, by rw [decodeFrom, whole],
                by rw [List.take_succ_cons, decodeFrom, head], tail⟩
          | zero =>
              rw [overhangFrom] at split ⊢
              by_cases within : (firstSequence byte bytes).2 ≤ cut
              · obtain ⟨front, character, back, whole, head, tail⟩ := ih within split
                refine ⟨(firstSequence byte bytes).1 :: front, character, back, ?_, ?_, tail⟩
                · rw [decodeFrom, whole]
                  rfl
                · rw [List.take_succ_cons, decodeFrom, firstSequence_take within, head]
                  rfl
              · have reaches := Nat.lt_of_not_le within
                have most := firstSequence_le byte bytes
                have rest := overhangFrom_of_le (Nat.le_of_lt reaches)
                  (show cut ≤ bytes.length by omega)
                refine ⟨[], (firstSequence byte bytes).1,
                  decode (bytes.drop (firstSequence byte bytes).2),
                  ?_, ?_, ?_⟩
                · rw [decodeFrom, decodeFrom_eq_decode_drop]
                  rfl
                · rw [List.take_succ_cons, decodeFrom, firstSequence_take_of_lt reaches,
                    decodeFrom_of_le (by rw [List.length_take]; omega)]
                  rfl
                · rw [List.drop_succ_cons, rest]
                  exact decode_drop_of_inside reaches

end Parts

end Utf8
