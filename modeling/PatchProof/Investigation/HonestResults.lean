import Mathlib.Algebra.GroupWithZero.Nat
import PatchProof.Investigation.Queries

/-!
# Results tell what they leave out

A result keeps matches from the front of the ranked list while their number and the source
characters allow, and shortens the content of the last one at most.  A result that is not
marked as truncated is the whole list, with every content as it was and none of it cut
before.
-/

set_option autoImplicit false

namespace PatchProof

/-- The source characters of a match. -/
def InvestigationMatch.chars (item : InvestigationMatch) : Nat := (item.content.getD "").length

namespace RepositoryInvestigator

/-- The source characters of some matches. -/
def totalChars (items : List InvestigationMatch) : Nat :=
  (items.map InvestigationMatch.chars).sum

/-- What is kept is the front of a list, where the content of the last match may be
shortened. -/
inductive KeepsFront (items : List InvestigationMatch) : List InvestigationMatch → Prop
  | whole {kept rest : List InvestigationMatch} (same : items = kept ++ rest) :
      KeepsFront items kept
  | cut {front rest : List InvestigationMatch} {item : InvestigationMatch} {content : String}
      (limit : Nat) (same : items = front ++ item :: rest) (held : item.content = some content) :
      KeepsFront items (front ++ [shortened item content limit])

theorem KeepsFront.cons {items kept : List InvestigationMatch} (item : InvestigationMatch)
    (keeps : KeepsFront items kept) : KeepsFront (item :: items) (item :: kept) := by
  cases keeps with
  | whole same => exact .whole (congrArg (item :: ·) same)
  | @cut front rest _ _ limit same held =>
      exact @KeepsFront.cut _ (item :: front) rest _ _ limit (congrArg (item :: ·) same) held

theorem KeepsFront.append {items kept : List InvestigationMatch}
    (keeps : KeepsFront items kept) (rest : List InvestigationMatch) :
    KeepsFront (items ++ rest) kept := by
  cases keeps with
  | whole same => exact .whole (by rw [same, List.append_assoc])
  | cut limit same held => exact .cut limit (by rw [same, List.append_assoc]; rfl) held

theorem totalChars_cons (item : InvestigationMatch) (items : List InvestigationMatch) :
    totalChars (item :: items) = item.chars + totalChars items := rfl

theorem chars_of_none {item : InvestigationMatch} (absent : item.content = none) :
    item.chars = 0 := by
  unfold InvestigationMatch.chars
  rw [absent]
  rfl

theorem chars_of_some {item : InvestigationMatch} {content : String}
    (held : item.content = some content) : item.chars = content.length := by
  unfold InvestigationMatch.chars
  rw [held]
  rfl

theorem chars_shortened (item : InvestigationMatch) (content : String) (limit : Nat) :
    (shortened item content limit).chars = min limit content.length := by
  rw [chars_of_some rfl, truncate, String.length_ofList, List.length_take, String.length_toList]

/-! ## The loop -/

section Loop

variable (most available : Nat)

/-- The source characters that are kept stay within the budget. -/
theorem keepMatches_chars (items : List InvestigationMatch) (kept chars : Nat)
    (within : chars ≤ most) :
    chars + totalChars (keepMatches most available kept chars items).1 ≤ most := by
  induction items generalizing kept chars with
  | nil =>
      rw [keepMatches]
      exact within
  | cons item rest ih =>
      rw [keepMatches]
      cases held : item.content with
      | none =>
          dsimp only
          split
          · rw [totalChars_cons, chars_of_none held]
            exact within
          · rw [totalChars_cons, chars_of_none held, Nat.zero_add]
            exact ih (kept + 1) chars within
      | some content =>
          dsimp only
          split
          · exact within
          · rename_i room
            have taken : (if most - chars < content.length then
                shortened item content (most - chars) else item).chars =
                min content.length (most - chars) := by
              split
              · rename_i cut
                rw [chars_shortened]
                omega
              · rename_i fits
                rw [chars_of_some held]
                omega
            split
            · rw [totalChars_cons, taken]
              have none : totalChars [] = 0 := rfl
              omega
            · rw [totalChars_cons, taken, ← Nat.add_assoc]
              apply ih
              omega

/-- What is kept is the front of the list. -/
theorem keepMatches_front (items : List InvestigationMatch) (kept chars : Nat) :
    KeepsFront items (keepMatches most available kept chars items).1 := by
  induction items generalizing kept chars with
  | nil => exact .whole (List.append_nil []).symm
  | cons item rest ih =>
      rw [keepMatches]
      cases held : item.content with
      | none =>
          dsimp only
          split
          · exact .whole (List.singleton_append).symm
          · exact (ih (kept + 1) chars).cons item
      | some content =>
          dsimp only
          split
          · exact .whole (List.nil_append _).symm
          · by_cases cut : most - chars < content.length
            · -- A content that does not fit fills the budget, so the loop ends behind it.
              have full : most ≤ chars + min content.length (most - chars) := by omega
              rw [if_pos cut, if_pos full]
              exact @KeepsFront.cut _ [] rest item content (most - chars) rfl held
            · rw [if_neg cut]
              split
              · exact .whole (List.singleton_append).symm
              · exact (ih (kept + 1) _).cons item

/-- When nothing is told to be lost, everything is kept. -/
theorem keepMatches_whole (items : List InvestigationMatch) (kept chars : Nat)
    (all : available = kept + items.length)
    (nothing : (keepMatches most available kept chars items).2 = false) :
    (keepMatches most available kept chars items).1 = items := by
  induction items generalizing kept chars with
  | nil => rfl
  | cons item rest ih =>
      have more : available = kept + 1 + rest.length := by
        rw [all, List.length_cons]
        omega
      have last : decide (kept + 1 < available) = false → rest = [] := by
        intro none
        have behind := of_decide_eq_false none
        apply List.eq_nil_of_length_eq_zero
        omega
      rw [keepMatches] at nothing ⊢
      cases held : item.content with
      | none =>
          rw [held] at nothing
          dsimp only at nothing ⊢
          by_cases full : most ≤ chars
          · rw [if_pos full] at nothing ⊢
            rw [last nothing]
          · rw [if_neg full] at nothing ⊢
            exact congrArg (item :: ·) (ih (kept + 1) chars more nothing)
      | some content =>
          rw [held] at nothing
          dsimp only at nothing ⊢
          by_cases full : most ≤ chars
          · rw [if_pos full] at nothing
            cases nothing
          · rw [if_neg full] at nothing ⊢
            by_cases ends : most ≤ chars + min content.length (most - chars)
            · rw [if_pos ends] at nothing ⊢
              obtain ⟨fits, none⟩ := Bool.or_eq_false_iff.mp nothing
              rw [if_neg (of_decide_eq_false fits), last none]
            · rw [if_neg ends] at nothing ⊢
              obtain ⟨fits, none⟩ := Bool.or_eq_false_iff.mp nothing
              rw [if_neg (of_decide_eq_false fits)]
              exact congrArg (item :: ·) (ih (kept + 1) _ more none)

end Loop

/-- **Results are honest.**  Whatever the matches and the limit, a result is within the budget
of source characters, keeps the front of the list, and is marked as truncated unless it is the
whole list and no match in it was cut before. -/
theorem results_honest (investigator : RepositoryInvestigator)
    (queryKind : InvestigationQueryKind) (revision : RevisionRole)
    (found : List InvestigationMatch) (limit : Nat) :
    totalChars (investigator.result queryKind revision found limit).found ≤
        investigator.budget.maxTotalSourceChars ∧
      KeepsFront found (investigator.result queryKind revision found limit).found ∧
      ((investigator.result queryKind revision found limit).truncated = false →
        (investigator.result queryKind revision found limit).found = found ∧
          ∀ item ∈ found, item.provenance.sourceTruncated = false) := by
  have bound := keepMatches_chars investigator.budget.maxTotalSourceChars found.length
    (found.take limit) 0 0 (Nat.zero_le _)
  have front := keepMatches_front investigator.budget.maxTotalSourceChars found.length
    (found.take limit) 0 0
  refine ⟨?_, ?_, ?_⟩
  · rwa [Nat.zero_add] at bound
  · have whole := front.append (found.drop limit)
    rwa [List.take_append_drop] at whole
  · intro complete
    unfold result at complete ⊢
    dsimp only at complete ⊢
    obtain ⟨outside, uncut⟩ := Bool.or_eq_false_iff.mp complete
    obtain ⟨few, nothing⟩ := Bool.or_eq_false_iff.mp outside
    have all : found.take limit = found :=
      List.take_of_length_le (Nat.not_lt.mp (of_decide_eq_false few))
    rw [all] at nothing uncut ⊢
    have same := keepMatches_whole investigator.budget.maxTotalSourceChars found.length found 0 0
      (Nat.zero_add _).symm nothing
    rw [same] at uncut ⊢
    refine ⟨rfl, ?_⟩
    intro item mem
    exact Bool.eq_false_iff.mpr fun cut =>
      Bool.false_ne_true (uncut.symm.trans (List.any_eq_true.mpr ⟨item, mem, cut⟩))

end RepositoryInvestigator

end PatchProof
