import PatchProof.Library.Guard
import PatchProof.Library.Utf8
import Mathlib.Data.List.DropRight

/-!
# Bounded process output

A collector keeps the first bytes of a stream in one buffer and the last of the others in a
second.  The chunks that are read may end anywhere: what the buffers hold depends on the
whole stream only, the text is never longer than its bound, and it has the marker whenever a
byte was dropped.

The two buffers are decoded apart.  When the stream fits, the text is the decoded stream
unless the place between the buffers is inside a character; then the character is replaced,
and so are its remaining bytes one by one.  The only texts that survive this have the marker
themselves and nothing but replacement characters between it and the broken character.
-/

set_option autoImplicit false

namespace PatchProof

/-! ## Cutting texts -/

/-- `_TRUNCATION_MARKER`. -/
def outputTruncationMarker : List Char := "\n... [middle output omitted by PatchProof] ...\n".toList

/-- `items[:stop]`. -/
def sliceTo {α : Type} (items : List α) (stop : Int) : List α :=
  if 0 ≤ stop then items.take stop.toNat else items.take (items.length - (-stop).toNat)

/-- `items[start:]`. -/
def sliceFrom {α : Type} (items : List α) (start : Int) : List α :=
  if 0 ≤ start then items.drop start.toNat else items.drop (items.length - (-start).toNat)

/-- The beginning of one text and the end of another around the marker. -/
def omitMiddle (head tail : List Char) (maximumChars : Nat) : List Char :=
  let retained : Int := maximumChars - outputTruncationMarker.length
  let headChars := retained / 2
  let tailChars := retained - headChars
  sliceTo head headChars ++ outputTruncationMarker ++ sliceFrom tail (-tailChars)

/-- `_bounded_head_tail`. -/
def boundedHeadTail (value : List Char) (maximumChars : Nat) : Except String (List Char) := do
  Guard.require (outputTruncationMarker.length < maximumChars) "bounded output budget is too small"
  if value.length ≤ maximumChars then return value
  return omitMiddle value value maximumChars

/-! ## The collector -/

/-- `_BoundedCollector`. -/
structure BoundedCollector where
  maximumBytes : Nat
  headLimit : Nat := maximumBytes / 2
  tailLimit : Nat := maximumBytes - headLimit
  head : List UInt8 := []
  tail : List UInt8 := []
  totalBytes : Nat := 0

/-- One chunk that was read. -/
def BoundedCollector.collect (collector : BoundedCollector) (chunk : List UInt8) :
    BoundedCollector :=
  let remaining := collector.headLimit - collector.head.length
  let head := if 0 < remaining then collector.head ++ chunk.take remaining else collector.head
  let rest := if 0 < remaining then chunk.drop remaining else chunk
  let tail := if rest = [] then collector.tail
    else
      let longer := collector.tail ++ rest
      let overflow := longer.length - collector.tailLimit
      if 0 < overflow then longer.drop overflow else longer
  { collector with
    totalBytes := collector.totalBytes + chunk.length
    head := head
    tail := tail }

/-- `drain`: chunks are read until one is empty. -/
def BoundedCollector.drain (collector : BoundedCollector) : List (List UInt8) → BoundedCollector
  | [] => collector
  | chunk :: chunks => if chunk = [] then collector else (collector.collect chunk).drain chunks

/-- `text`. -/
def BoundedCollector.text (collector : BoundedCollector) (maximumChars : Nat) :
    Except String (List Char) :=
  let head := Utf8.decode collector.head
  let tail := Utf8.decode collector.tail
  if collector.totalBytes ≤ collector.maximumBytes then
    boundedHeadTail (head ++ tail) maximumChars
  else .ok (omitMiddle head tail maximumChars)

/-- A runner with the budget that it accepts. -/
structure BoundedSubprocessRunner where
  maxOutputChars : Nat := 12000
  accepted : outputTruncationMarker.length + 1 ≤ maxOutputChars

/-- The budget in bytes. -/
def BoundedSubprocessRunner.maxOutputBytes (runner : BoundedSubprocessRunner) : Nat :=
  runner.maxOutputChars * 4

/-! ## What the buffers hold -/

/-- The last items of a list and what is appended. -/
theorem rtake_rtake_append {α : Type} (count : Nat) (items more : List α) :
    (items.rtake count ++ more).rtake count = (items ++ more).rtake count := by
  simp only [List.rtake, List.length_append, List.length_drop, List.drop_append]
  rw [List.drop_drop]
  congr 1
  · congr 1
    omega
  · congr 1
    omega

/-- A collector that has read a stream. -/
structure BoundedCollector.Holds (collector : BoundedCollector) (stream : List UInt8) : Prop where
  head_eq : collector.head = stream.take collector.headLimit
  tail_eq : collector.tail = (stream.drop collector.headLimit).rtake collector.tailLimit
  total_eq : collector.totalBytes = stream.length

section Collector

variable {collector : BoundedCollector} {stream : List UInt8}

theorem BoundedCollector.holds_init (maximumBytes : Nat) :
    ({ maximumBytes } : BoundedCollector).Holds [] := by
  refine ⟨?_, ?_, rfl⟩ <;> simp [List.rtake]

theorem BoundedCollector.collect_head (chunk : List UInt8) : (collector.collect chunk).head =
    collector.head ++ chunk.take (collector.headLimit - collector.head.length) := by
  change (if 0 < _ then _ else _) = _
  split
  · rfl
  · rename_i full
    simp [Nat.eq_zero_of_not_pos full]

theorem BoundedCollector.collect_tail (chunk : List UInt8)
    (bounded : collector.tail.length ≤ collector.tailLimit) : (collector.collect chunk).tail =
    (collector.tail ++ chunk.drop (collector.headLimit - collector.head.length)).rtake
      collector.tailLimit := by
  have rest : (if 0 < collector.headLimit - collector.head.length then
      chunk.drop (collector.headLimit - collector.head.length) else chunk) =
        chunk.drop (collector.headLimit - collector.head.length) := by
    split
    · rfl
    · rename_i full
      simp [Nat.eq_zero_of_not_pos full]
  unfold collect
  dsimp only
  rw [rest]
  split
  · rename_i nothing
    rw [nothing, List.append_nil, List.rtake, Nat.sub_eq_zero_of_le bounded, List.drop_zero]
  · split
    · rfl
    · rename_i within
      rw [List.rtake, Nat.eq_zero_of_not_pos within, List.drop_zero]

/-- A chunk keeps what the buffers hold. -/
theorem BoundedCollector.Holds.collect (holds : collector.Holds stream) (chunk : List UInt8) :
    (collector.collect chunk).Holds (stream ++ chunk) := by
  have remaining : collector.headLimit - collector.head.length =
      collector.headLimit - stream.length := by
    rw [holds.head_eq, List.length_take]
    omega
  have bounded : collector.tail.length ≤ collector.tailLimit := by
    rw [holds.tail_eq, List.rtake, List.length_drop]
    omega
  refine ⟨?_, ?_, ?_⟩
  · rw [collect_head, remaining, holds.head_eq]
    exact List.take_append.symm
  · rw [collect_tail chunk bounded, remaining, holds.tail_eq, rtake_rtake_append]
    change _ = ((stream ++ chunk).drop collector.headLimit).rtake collector.tailLimit
    rw [List.drop_append]
  · change collector.totalBytes + chunk.length = _
    rw [holds.total_eq, List.length_append]

/-- **However the stream is read, the buffers hold its first bytes and the last of the
others.** -/
theorem BoundedCollector.Holds.drain (holds : collector.Holds stream) {chunks : List (List UInt8)}
    (notEmpty : ∀ chunk ∈ chunks, chunk ≠ []) :
    (collector.drain chunks).Holds (stream ++ chunks.flatten) := by
  induction chunks generalizing collector stream with
  | nil => simpa [BoundedCollector.drain] using holds
  | cons chunk chunks ih =>
      unfold BoundedCollector.drain
      rw [if_neg (notEmpty chunk List.mem_cons_self), List.flatten_cons, ← List.append_assoc]
      exact ih (holds.collect chunk) fun other mem => notEmpty other (List.mem_cons_of_mem _ mem)

/-- Reading changes none of the limits. -/
theorem BoundedCollector.drain_limits (collector : BoundedCollector) (chunks : List (List UInt8)) :
    (collector.drain chunks).maximumBytes = collector.maximumBytes ∧
      (collector.drain chunks).headLimit = collector.headLimit ∧
      (collector.drain chunks).tailLimit = collector.tailLimit := by
  induction chunks generalizing collector with
  | nil => exact ⟨rfl, rfl, rfl⟩
  | cons chunk chunks ih =>
      unfold BoundedCollector.drain
      split
      · exact ⟨rfl, rfl, rfl⟩
      · exact ih _

end Collector

/-- The collector that has read a whole stream. -/
def BoundedCollector.reading (maximumBytes : Nat) (stream : List UInt8) : BoundedCollector where
  maximumBytes := maximumBytes
  head := stream.take (maximumBytes / 2)
  tail := (stream.drop (maximumBytes / 2)).rtake (maximumBytes - maximumBytes / 2)
  totalBytes := stream.length

theorem BoundedCollector.drain_eq_reading (maximumBytes : Nat) {chunks : List (List UInt8)}
    (notEmpty : ∀ chunk ∈ chunks, chunk ≠ []) :
    ({ maximumBytes } : BoundedCollector).drain chunks = reading maximumBytes chunks.flatten := by
  have holds := (holds_init maximumBytes).drain notEmpty
  obtain ⟨bytes, headLimit, tailLimit⟩ := drain_limits { maximumBytes } chunks
  have head := holds.head_eq
  have tail := holds.tail_eq
  have total := holds.total_eq
  rw [headLimit] at head tail
  rw [tailLimit] at tail
  generalize ({ maximumBytes } : BoundedCollector).drain chunks = drained at *
  cases drained
  simp only [List.nil_append] at *
  subst bytes headLimit tailLimit head tail total
  rfl

/-! ## The length of the text -/

/-- How many characters are kept in front of the marker. -/
def headChars (maximumChars : Nat) : Nat := (maximumChars - outputTruncationMarker.length) / 2

/-- How many characters are kept behind it. -/
def tailChars (maximumChars : Nat) : Nat :=
  maximumChars - outputTruncationMarker.length - headChars maximumChars

section Text

variable {maximumChars : Nat} (accepted : outputTruncationMarker.length < maximumChars)

include accepted

theorem tailChars_pos : 0 < tailChars maximumChars := by
  unfold tailChars headChars
  omega

theorem headChars_add_tailChars :
    headChars maximumChars + outputTruncationMarker.length + tailChars maximumChars =
      maximumChars := by
  unfold tailChars headChars
  omega

/-- Within an accepted budget no slice has a negative or an empty bound at the end. -/
theorem omitMiddle_eq (head tail : List Char) : omitMiddle head tail maximumChars =
    head.take (headChars maximumChars) ++ outputTruncationMarker ++
      tail.rtake (tailChars maximumChars) := by
  have front : ((maximumChars : Int) - outputTruncationMarker.length) / 2 =
      headChars maximumChars := by
    unfold headChars
    omega
  have back : (maximumChars : Int) - outputTruncationMarker.length - headChars maximumChars =
      tailChars maximumChars := by
    have total := headChars_add_tailChars accepted
    omega
  have positive := tailChars_pos accepted
  unfold omitMiddle
  dsimp only
  rw [front, back, sliceTo, if_pos (Int.natCast_nonneg _), sliceFrom, if_neg (by omega),
    Int.neg_neg]
  rfl

theorem omitMiddle_length_le (head tail : List Char) :
    (omitMiddle head tail maximumChars).length ≤ maximumChars := by
  have total := headChars_add_tailChars accepted
  rw [omitMiddle_eq accepted, List.length_append, List.length_append, List.length_take, List.rtake,
    List.length_drop]
  omega

theorem marker_infix_omitMiddle (head tail : List Char) :
    outputTruncationMarker <:+: omitMiddle head tail maximumChars := by
  rw [omitMiddle_eq accepted]
  exact List.infix_append _ _ _

theorem boundedHeadTail_eq (value : List Char) : boundedHeadTail value maximumChars =
    .ok (if value.length ≤ maximumChars then value else omitMiddle value value maximumChars) := by
  unfold boundedHeadTail
  rw [Guard.require_of_holds accepted, Guard.ok_bind]
  split <;> rfl

/-- The text of an accepted budget, and what is true of it. -/
theorem BoundedCollector.text_within (collector : BoundedCollector) :
    ∃ text, collector.text maximumChars = .ok text ∧ text.length ≤ maximumChars ∧
      (collector.maximumBytes < collector.totalBytes → outputTruncationMarker <:+: text) := by
  unfold BoundedCollector.text
  dsimp only
  split
  · rename_i fits
    refine ⟨_, boundedHeadTail_eq accepted _, ?_, fun dropped => by omega⟩
    split
    · assumption
    · exact omitMiddle_length_le accepted _ _
  · exact ⟨_, rfl, omitMiddle_length_le accepted _ _,
      fun _ => marker_infix_omitMiddle accepted _ _⟩

end Text

/-- **After every way of reading a stream, the buffers hold its first bytes and the last of
the others, the text is within its bound, and it has the marker if a byte was dropped.** -/
theorem drained_output_bounded (runner : BoundedSubprocessRunner) (stream : List UInt8)
    (chunks : List (List UInt8)) (notEmpty : ∀ chunk ∈ chunks, chunk ≠ [])
    (splits : chunks.flatten = stream) :
    let collector : BoundedCollector := { maximumBytes := runner.maxOutputBytes }
    let drained := collector.drain chunks
    drained = BoundedCollector.reading runner.maxOutputBytes stream ∧
      drained.head = stream.take collector.headLimit ∧
      drained.tail = (stream.drop collector.headLimit).rtake collector.tailLimit ∧
      ∃ text, drained.text runner.maxOutputChars = .ok text ∧
        text.length ≤ runner.maxOutputChars ∧
        (drained.head.length + drained.tail.length < stream.length →
          outputTruncationMarker <:+: text) := by
  dsimp only
  rw [BoundedCollector.drain_eq_reading _ notEmpty, splits]
  refine ⟨rfl, rfl, rfl, ?_⟩
  obtain ⟨text, returned, bounded, marked⟩ := (BoundedCollector.reading runner.maxOutputBytes
    stream).text_within runner.accepted
  refine ⟨text, returned, bounded, fun dropped => marked ?_⟩
  change (stream.take _).length + ((stream.drop _).rtake _).length < stream.length at dropped
  change runner.maxOutputBytes < stream.length
  rw [List.length_take, List.rtake, List.length_drop, List.length_drop] at dropped
  omega

theorem drained_output_bounded_two :
    let drained := ({ maximumBytes := 196 } : BoundedCollector).drain [[0x61, 0x62], [0x63]]
    drained.head = [0x61, 0x62, 0x63] ∧ drained.tail = [] ∧
      ∃ text, drained.text 49 = .ok text ∧ text.length ≤ 49 := by
  obtain ⟨-, head, tail, text, returned, bounded, -⟩ :=
    drained_output_bounded ⟨49, by decide +kernel⟩
    [0x61, 0x62, 0x63] [[0x61, 0x62], [0x63]] (by decide) rfl
  exact ⟨head, tail, text, returned, bounded⟩

/-! ## A character between the buffers -/

/-- An item in a list becomes a run of another one: the beginnings agree when all from the
place of the item on is that other one. -/
theorem take_stretched_iff {α : Type} {front back : List α} {item other : α} {more count : Nat}
    (longer : 1 ≤ more) (inside : count ≤ (front ++ item :: back).length) :
    (front ++ List.replicate (more + 1) other ++ back).take count =
      (front ++ item :: back).take count ↔
      ∀ kept ∈ ((front ++ item :: back).take count).drop front.length, kept = other := by
  by_cases inFront : count ≤ front.length
  · rw [List.append_assoc, List.take_append_of_le_length inFront,
      List.take_append_of_le_length inFront,
      List.drop_eq_nil_of_le (by rw [List.length_take]; omega)]
    simp
  · obtain ⟨rest, rfl⟩ : ∃ rest, count = front.length + rest :=
      ⟨count - front.length, by omega⟩
    rw [List.append_assoc, List.take_length_add_append, List.take_length_add_append,
      List.drop_left, List.append_cancel_left_eq]
    constructor
    · intro same
      have each : ∀ index, index < rest → ∀ kept, (item :: back)[index]? = some kept →
          kept = other := by
        intro index
        induction index using Nat.strong_induction_on with
        | _ index ih =>
            intro within kept isKept
            have agree := congrArg (·[index]?) same
            simp only [List.getElem?_take, if_pos within, isKept] at agree
            by_cases inRun : index < more + 1
            · rw [List.getElem?_append_left (by simpa using inRun), List.getElem?_replicate,
                if_pos inRun] at agree
              exact (Option.some.inj agree).symm
            · rw [List.getElem?_append_right (by simpa using inRun),
                List.length_replicate] at agree
              refine ih (index - more) (by omega) (by omega) kept ?_
              have shifted : index - more = (index - (more + 1)) + 1 := by omega
              rw [shifted, List.getElem?_cons_succ, agree]
      intro kept mem
      obtain ⟨index, isKept⟩ := List.mem_iff_getElem?.mp mem
      rw [List.getElem?_take] at isKept
      split at isKept
      · exact each index ‹_› kept isKept
      · cases isKept
    · intro every
      refine List.ext_getElem? fun index => ?_
      rw [List.getElem?_take, List.getElem?_take]
      split
      · rename_i within
        rw [List.length_append] at inside
        obtain ⟨kept, isKept⟩ : ∃ kept, (item :: back)[index]? = some kept :=
          ⟨_, List.getElem?_eq_getElem (by omega)⟩
        have among : ∀ place < rest, ∀ found, (item :: back)[place]? = some found →
            found = other := by
          intro place below found isFound
          refine every found (List.mem_iff_getElem?.mpr ⟨place, ?_⟩)
          rw [List.getElem?_take, if_pos below, isFound]
        rw [isKept, among index within kept isKept]
        by_cases inRun : index < more + 1
        · rw [List.getElem?_append_left (by simpa using inRun), List.getElem?_replicate,
            if_pos inRun]
        · have shifted : index - more = (index - (more + 1)) + 1 := by omega
          have moved : (item :: back)[index - more]? = back[index - (more + 1)]? := by
            rw [shifted, List.getElem?_cons_succ]
          rw [List.getElem?_append_right (by simpa using inRun), List.length_replicate]
          obtain ⟨found, isFound⟩ : ∃ found, (item :: back)[index - more]? = some found :=
            ⟨_, List.getElem?_eq_getElem (by omega)⟩
          rw [← moved, isFound, among (index - more) (by omega) found isFound]
      · rfl

/-- The same for the ends. -/
theorem rtake_stretched_iff {α : Type} {front back : List α} {item other : α} {more count : Nat}
    (longer : 1 ≤ more) (inside : count ≤ (front ++ item :: back).length) :
    (front ++ List.replicate (more + 1) other ++ back).rtake count =
      (front ++ item :: back).rtake count ↔
      ∀ kept ∈ ((front ++ item :: back).take (front.length + 1)).drop
        ((front ++ item :: back).length - count), kept = other := by
  have stretched : (front ++ List.replicate (more + 1) other ++ back).reverse =
      back.reverse ++ List.replicate (more + 1) other ++ front.reverse := by
    simp only [List.reverse_append, List.reverse_replicate, List.append_assoc]
  have single : (front ++ item :: back).reverse = back.reverse ++ item :: front.reverse := by
    simp only [List.reverse_append, List.reverse_cons, List.append_assoc, List.singleton_append]
  have bound : count ≤ (back.reverse ++ item :: front.reverse).length := by
    rwa [← single, List.length_reverse]
  rw [List.rtake_eq_reverse_take_reverse, List.rtake_eq_reverse_take_reverse, List.reverse_inj,
    stretched, single, take_stretched_iff longer bound, ← single, List.take_reverse,
    List.drop_reverse, List.drop_take, List.length_drop, List.length_reverse]
  have taken : (front ++ item :: back).length - ((front ++ item :: back).length - count) -
      back.length = front.length + 1 - ((front ++ item :: back).length - count) := by
    rw [List.length_append, List.length_cons] at inside ⊢
    omega
  rw [taken]
  simp only [List.mem_reverse]

/-- Which character of the decoded stream the cut is in. -/
def splitIndex (cut : Nat) (stream : List UInt8) : Nat := (Utf8.decode (stream.take cut)).length - 1

/-- A decoded stream that has the marker where it would be put, and nothing but replacement
characters between it and the character that the cut is in. -/
structure MasksSplit (cut maximumChars : Nat) (stream : List UInt8) : Prop where
  length_eq : (Utf8.decode stream).length = maximumChars
  marker_eq : ((Utf8.decode stream).drop (headChars maximumChars)).take
    outputTruncationMarker.length =
    outputTruncationMarker
  before : ∀ kept ∈ ((Utf8.decode stream).take (headChars maximumChars)).drop
    (splitIndex cut stream), kept = Utf8.replacement
  behind : ∀ kept ∈ ((Utf8.decode stream).take (splitIndex cut stream + 1)).drop
    (headChars maximumChars + outputTruncationMarker.length), kept = Utf8.replacement

section Split

variable {cut maximumChars : Nat} {stream : List UInt8}
  (accepted : outputTruncationMarker.length < maximumChars)

include accepted

/-- A text of full length is its two ends around what is in the middle. -/
theorem ends_around_middle {text : List Char} (full : text.length = maximumChars) :
    text = text.take (headChars maximumChars) ++
      (text.drop (headChars maximumChars)).take outputTruncationMarker.length ++
      text.rtake (tailChars maximumChars) := by
  have total := headChars_add_tailChars accepted
  have last : text.rtake (tailChars maximumChars) =
      (text.drop (headChars maximumChars)).drop outputTruncationMarker.length := by
    rw [List.rtake, List.drop_drop]
    congr 1
    omega
  rw [last, List.append_assoc, List.take_append_drop, List.take_append_drop]

/-- Omitting the middle of a longer text gives a text exactly when their ends agree and the
marker is in the middle. -/
theorem omitMiddle_eq_iff {longer text : List Char} (cutOff : maximumChars < longer.length) :
    omitMiddle longer longer maximumChars = text ↔ text.length = maximumChars ∧
      (text.drop (headChars maximumChars)).take outputTruncationMarker.length =
        outputTruncationMarker ∧
      longer.take (headChars maximumChars) = text.take (headChars maximumChars) ∧
      longer.rtake (tailChars maximumChars) = text.rtake (tailChars maximumChars) := by
  have total := headChars_add_tailChars accepted
  have front : (longer.take (headChars maximumChars)).length = headChars maximumChars := by
    rw [List.length_take]
    omega
  have back : (longer.rtake (tailChars maximumChars)).length = tailChars maximumChars := by
    rw [List.rtake, List.length_drop]
    omega
  rw [omitMiddle_eq accepted]
  constructor
  · intro same
    have full : text.length = maximumChars := by
      rw [← same, List.length_append, List.length_append, front, back, total]
    refine ⟨full, ?_, ?_, ?_⟩
    · rw [← same, List.append_assoc, List.drop_left' front, List.take_left]
    · rw [← same, List.append_assoc, List.take_left' front]
    · have middle : (longer.take (headChars maximumChars) ++ outputTruncationMarker).length =
          maximumChars - tailChars maximumChars := by
        rw [List.length_append, front]
        omega
      rw [List.rtake.eq_1 text, full, ← same, List.drop_left' middle]
  · rintro ⟨full, marker, sameFront, sameBack⟩
    have parts := ends_around_middle accepted full
    rw [marker] at parts
    rw [sameFront, sameBack]
    exact parts.symm

/-- The text when the place between the buffers is inside a character. -/
theorem split_text_iff (splits : Utf8.SplitsCharacter cut stream) :
    boundedHeadTail (Utf8.decode (stream.take cut) ++ Utf8.decode (stream.drop cut)) maximumChars =
      .ok (Utf8.decode stream) ↔ MasksSplit cut maximumChars stream := by
  obtain ⟨front, character, back, whole, head, tail⟩ :=
    Utf8.decodeFrom_take_drop_of_split (Nat.zero_le cut) splits
  have several : 1 ≤ Utf8.overhangFrom 0 cut stream := Nat.one_le_iff_ne_zero.mpr splits
  generalize Utf8.overhangFrom 0 cut stream = more at tail several
  change Utf8.decode stream = _ at whole
  change Utf8.decode (stream.take cut) = _ at head
  have index : splitIndex cut stream = front.length := by
    rw [splitIndex, head]
    simp
  have joined : Utf8.decode (stream.take cut) ++ Utf8.decode (stream.drop cut) =
      front ++ List.replicate (more + 1) Utf8.replacement ++ back := by
    rw [head, tail, List.replicate_succ]
    simp
  have longer : (front ++ List.replicate (more + 1) Utf8.replacement ++ back).length =
      (front ++ character :: back).length + more := by
    simp only [List.length_append, List.length_replicate, List.length_cons]
    omega
  rw [joined, boundedHeadTail_eq accepted, whole]
  constructor
  · intro same
    have same := Except.ok.inj same
    split at same
    · have lengths := congrArg List.length same
      omega
    · rename_i tooLong
      obtain ⟨full, marker, sameFront, sameBack⟩ :=
        (omitMiddle_eq_iff accepted (Nat.lt_of_not_le tooLong)).mp same
      have total := headChars_add_tailChars accepted
      refine ⟨by rw [whole, full], by rw [whole, marker], ?_, ?_⟩
      · rw [whole, index]
        exact (take_stretched_iff several (by omega)).mp sameFront
      · have ends := (rtake_stretched_iff several (by omega)).mp sameBack
        have start : maximumChars - tailChars maximumChars =
            headChars maximumChars + outputTruncationMarker.length := by omega
        rwa [full, start, ← whole, ← index] at ends
  · rintro ⟨full, marker, before, behind⟩
    have total := headChars_add_tailChars accepted
    rw [whole] at full marker before behind
    rw [index] at before behind
    have start : (front ++ character :: back).length - tailChars maximumChars =
        headChars maximumChars + outputTruncationMarker.length := by omega
    rw [if_neg (by omega), (omitMiddle_eq_iff accepted (by omega)).mpr ⟨full, marker,
      (take_stretched_iff several (by omega)).mpr before,
      (rtake_stretched_iff several (by omega)).mpr (by rwa [start])⟩]

end Split

/-- **A stream that fits is returned decoded exactly when the budget is accepted and the
place between the buffers is not inside a character or the marker hides that it is.** -/
theorem collected_text_eq_decode_iff (maximumBytes maximumChars : Nat)
    (chunks : List (List UInt8)) (notEmpty : ∀ chunk ∈ chunks, chunk ≠ [])
    (within : chunks.flatten.length ≤ maximumBytes)
    (fits : (Utf8.decode chunks.flatten).length ≤ maximumChars) :
    (({ maximumBytes } : BoundedCollector).drain chunks).text maximumChars =
        .ok (Utf8.decode chunks.flatten) ↔
      outputTruncationMarker.length < maximumChars ∧
        (¬ Utf8.SplitsCharacter (maximumBytes / 2) chunks.flatten ∨
          MasksSplit (maximumBytes / 2) maximumChars chunks.flatten) := by
  rw [BoundedCollector.drain_eq_reading _ notEmpty]
  generalize chunks.flatten = stream at within fits ⊢
  have kept : (stream.drop (maximumBytes / 2)).rtake (maximumBytes - maximumBytes / 2) =
      stream.drop (maximumBytes / 2) := by
    rw [List.rtake, List.length_drop, Nat.sub_eq_zero_of_le (by omega), List.drop_zero]
  have text : (BoundedCollector.reading maximumBytes stream).text maximumChars =
      boundedHeadTail (Utf8.decode (stream.take (maximumBytes / 2)) ++
        Utf8.decode (stream.drop (maximumBytes / 2))) maximumChars := by
    change (if stream.length ≤ maximumBytes then _ else _) = _
    rw [if_pos within]
    change boundedHeadTail (_ ++ Utf8.decode (List.rtake _ _)) _ = _
    rw [kept]
    rfl
  rw [text]
  by_cases accepted : outputTruncationMarker.length < maximumChars
  · by_cases splits : Utf8.SplitsCharacter (maximumBytes / 2) stream
    · rw [split_text_iff accepted splits]
      simp [accepted, splits]
    · have whole : Utf8.decode (stream.take (maximumBytes / 2)) ++
          Utf8.decode (stream.drop (maximumBytes / 2)) = Utf8.decode stream :=
        Utf8.decodeFrom_take_drop (not_not.mp splits)
      rw [whole, boundedHeadTail_eq accepted, if_pos fits]
      simp [accepted, splits]
  · have refused : boundedHeadTail (Utf8.decode (stream.take (maximumBytes / 2)) ++
        Utf8.decode (stream.drop (maximumBytes / 2))) maximumChars =
          .error "bounded output budget is too small" := by
      unfold boundedHeadTail
      rw [Guard.require_of_fails accepted]
      rfl
    rw [refused]
    simp [accepted]

/-- Thirty-three euro signs: ninety-nine bytes, of which a budget of 196 keeps 98 in front. -/
def euroSigns : List UInt8 := (List.replicate 33 [0xE2, 0x82, 0xAC]).flatten

theorem collected_text_eq_decode_iff_euro :
    (({ maximumBytes := 196 } : BoundedCollector).drain [euroSigns]).text 49 =
        .ok (Utf8.decode [euroSigns].flatten) ↔
      outputTruncationMarker.length < 49 ∧ (¬ Utf8.SplitsCharacter (196 / 2) [euroSigns].flatten ∨
        MasksSplit (196 / 2) 49 [euroSigns].flatten) :=
  collected_text_eq_decode_iff 196 49 [euroSigns] (by decide +kernel) (by decide +kernel)
    (by decide +kernel)

/-- The last euro sign is lost though everything fits. -/
theorem split_character_corrupted :
    euroSigns.length ≤ 196 ∧ Utf8.decode euroSigns = List.replicate 33 '€' ∧
      (({ maximumBytes := 196 } : BoundedCollector).drain [euroSigns]).text 49 =
        .ok (List.replicate 32 '€' ++ [Utf8.replacement, Utf8.replacement]) ∧
      ¬ (({ maximumBytes := 196 } : BoundedCollector).drain [euroSigns]).text 49 =
        .ok (Utf8.decode euroSigns) := by
  have decoded : Utf8.decode euroSigns = List.replicate 33 '€' := by decide +kernel
  have collected : (({ maximumBytes := 196 } : BoundedCollector).drain [euroSigns]).text 49 =
      .ok (List.replicate 32 '€' ++ [Utf8.replacement, Utf8.replacement]) := by
    decide +kernel
  refine ⟨by decide +kernel, decoded, collected, ?_⟩
  rw [collected, decoded]
  intro same
  have lengths := congrArg List.length (Except.ok.inj same)
  exact absurd lengths (by decide)

end PatchProof
