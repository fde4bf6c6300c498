import PatchProof.Library.Words
import PatchProof.Storage.Records

/-!
# Document keys

The document store names its pointer documents by the digest of a text: the pull
request for the current run, and the pull request with its BASE/HEAD pair for the
run of a revision.  The digest is a parameter; the texts under it are not.  This
module shows that the texts tell their parts apart: a number and a Git object name
contain no separator, so the parts can be read back from the right.
-/

set_option autoImplicit false

namespace PatchProof

/-- The text whose digest names a pull request. -/
def pullKeyText (repository : String) (prNumber : Int) : String :=
  lower repository ++ "#" ++ toString prNumber

/-- The text whose digest names a revision of a pull request. -/
def revisionKeyText (repository : String) (prNumber : Int) (revision : GitSha × GitSha) : String :=
  pullKeyText repository prNumber ++ "#" ++ revision.1.text ++ "#" ++ revision.2.text

/-! ## Reading parts back -/

/-- A text is split at the last occurrence of a one-character separator in one way
only. -/
theorem append_text_inj {separator : Char} {text front other back rest : String}
    (single : text.toList = [separator]) (last : separator ∉ back.toList)
    (otherLast : separator ∉ rest.toList) (same : front ++ text ++ back = other ++ text ++ rest) :
    front = other ∧ back = rest := by
  have lists := congrArg String.toList same
  simp only [String.toList_append, List.append_assoc, single] at lists
  obtain ⟨sameFront, sameBack⟩ := Words.eq_of_last_separator last otherLast lists
  exact ⟨String.toList_injective sameFront, String.toList_injective sameBack⟩

theorem append_separator_inj {front other back rest : String} (last : '#' ∉ back.toList)
    (otherLast : '#' ∉ rest.toList) (same : front ++ "#" ++ back = other ++ "#" ++ rest) :
    front = other ∧ back = rest :=
  append_text_inj rfl last otherLast same

theorem separator_notMem_repr (number : Nat) : '#' ∉ number.repr.toList := by
  intro mem
  rw [Nat.toList_repr] at mem
  have digit := Nat.isDigit_of_mem_toDigits (by decide) (by decide) mem
  revert digit
  decide

theorem separator_notMem_toString (number : Int) : '#' ∉ (toString number).toList := by
  rw [Int.toString_eq_repr, Int.repr_eq_if]
  split
  · exact separator_notMem_repr _
  · rw [String.toList_append, List.mem_append]
    rintro (sign | digits)
    · revert sign
      decide
    · exact separator_notMem_repr _ digits

theorem repr_injective {number other : Nat} (same : number.repr = other.repr) : number = other := by
  have lists := congrArg String.toList same
  rw [Nat.toList_repr, Nat.toList_repr] at lists
  rw [← Nat.ofDigitChars_ten_toDigits (n := number), lists, Nat.ofDigitChars_ten_toDigits]

theorem toString_int_injective {number other : Int} (same : toString number = toString other) :
    number = other := by
  have signed : ∀ {digits : Nat} {rest : Nat}, digits.repr ≠ "-" ++ rest.repr := by
    intro digits rest absurdity
    have mem : '-' ∈ digits.repr.toList := by
      rw [absurdity, String.toList_append]
      exact List.mem_append_left _ (by decide)
    rw [Nat.toList_repr] at mem
    have digit := Nat.isDigit_of_mem_toDigits (by decide) (by decide) mem
    revert digit
    decide
  rw [Int.toString_eq_repr, Int.toString_eq_repr, Int.repr_eq_if, Int.repr_eq_if] at same
  split at same <;> split at same
  · have := repr_injective same
    omega
  · exact absurd same signed
  · exact absurd same.symm signed
  · have lists := congrArg String.toList same
    rw [String.toList_append, String.toList_append] at lists
    have := repr_injective (String.toList_injective (List.append_cancel_left lists))
    omega

theorem separator_notMem_gitSha (sha : GitSha) : '#' ∉ sha.text.toList := by
  intro mem
  have wellFormed := sha.wellFormed
  simp only [isGitSha, Bool.and_eq_true, List.all_eq_true] at wellFormed
  have hex := wellFormed.2 _ mem
  revert hex
  decide

/-! ## The texts determine what they name -/

theorem pullKeyText_inj {repository other : String} {prNumber otherNumber : Int}
    (same : pullKeyText repository prNumber = pullKeyText other otherNumber) :
    lower repository = lower other ∧ prNumber = otherNumber := by
  obtain ⟨names, numbers⟩ := append_separator_inj (separator_notMem_toString _)
    (separator_notMem_toString _) same
  exact ⟨names, toString_int_injective numbers⟩

theorem revisionKeyText_inj {repository other : String} {prNumber otherNumber : Int}
    {revision otherRevision : GitSha × GitSha}
    (same : revisionKeyText repository prNumber revision =
      revisionKeyText other otherNumber otherRevision) :
    pullKeyText repository prNumber = pullKeyText other otherNumber ∧ revision = otherRevision := by
  obtain ⟨fronts, heads⟩ := append_separator_inj (separator_notMem_gitSha _)
    (separator_notMem_gitSha _) same
  obtain ⟨pulls, bases⟩ := append_separator_inj (separator_notMem_gitSha _)
    (separator_notMem_gitSha _) fronts
  refine ⟨pulls, Prod.ext ?_ ?_⟩
  · exact GitSha.ext_text bases
  · exact GitSha.ext_text heads

end PatchProof
