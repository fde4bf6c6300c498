import PatchProof.Library.Separator
import PatchProof.Execution.TestPaths
import PatchProof.Investigation.Planner

/-!
# The textual form of an observable identity

An identity is written as its path, two colons, and its qualified name, and is read back by
cutting the text at its only pair of colons.  The validators of paths and names admit two
colons in a row, and then the text has more than one pair: it is read back as nothing, and
another identity may have the same text.  Where neither component has two colons in a row,
the text is read back exactly and belongs to one identity.
-/

set_option autoImplicit false

namespace PatchProof

/-! ## How a path ends -/

/-- A path of one segment is that segment. -/
theorem eq_of_pathSegments_eq_singleton {path segment : List Char}
    (single : pathSegments path = [segment]) : segment = path := by
  induction path generalizing segment with
  | nil =>
      injection single with same
      exact same.symm
  | cons c rest ih =>
      rw [pathSegments] at single
      split at single
      · injection single with _ none
        exact absurd none (pathSegments_ne_nil rest)
      · cases segments : pathSegments rest with
        | nil => exact absurd segments (pathSegments_ne_nil rest)
        | cons first more =>
            rw [segments] at single
            injection single with same none
            rw [none] at segments
            rw [← same, ih segments]

/-- A path ends with its last segment. -/
theorem suffix_of_getLast?_pathSegments {path name : List Char}
    (last : (pathSegments path).getLast? = some name) : name <:+ path := by
  induction path generalizing name with
  | nil =>
      injection last with same
      exact same ▸ List.suffix_rfl
  | cons c rest ih =>
      cases segments : pathSegments rest with
      | nil => exact absurd segments (pathSegments_ne_nil rest)
      | cons first more =>
          rw [pathSegments, segments] at last
          rw [segments] at ih
          split at last
          · rw [List.getLast?_cons_cons] at last
            exact (ih last).trans (List.suffix_cons c rest)
          · cases more with
            | nil =>
                have whole := eq_of_pathSegments_eq_singleton segments
                subst whole
                injection last with same
                exact same ▸ List.suffix_rfl
            | cons other others =>
                rw [List.getLast?_cons_cons] at last
                rw [List.getLast?_cons_cons] at ih
                exact (ih last).trans (List.suffix_cons c rest)

namespace SourcePath

/-- An accepted path ends with the extension of Python files. -/
theorem python (path : SourcePath) : ['.', 'p', 'y'] <:+ path.text.toList := by
  have normalized : isNormalizedSource path.text = true := by
    have formed := path.wellFormed
    unfold isRepositorySourcePath repositorySourcePathProblem at formed
    split at formed
    · cases formed
    · split at formed
      · cases formed
      · split at formed
        · cases formed
        · split at formed
          · cases formed
          · rename_i accepted
            simpa using accepted
  have ends := (Bool.and_eq_true_iff.mp normalized).2
  split at ends
  · rename_i name last
    have dotted := beq_iff_eq.mp (Bool.and_eq_true_iff.mp ends).2
    have back := List.drop_suffix (name.length - 3) name
    rw [dotted] at back
    exact back.trans (suffix_of_getLast?_pathSegments last)
  · cases ends

theorem getLast?_text (path : SourcePath) : path.text.toList.getLast? = some 'y' := by
  obtain ⟨front, same⟩ := path.python
  rw [← same]
  exact List.getLast?_append_of_ne_nil front (List.cons_ne_nil _ _)

end SourcePath

/-! ## Reading a text back -/

namespace ObservableIdentity

/-- The identity of a textual form: one pair of colons, and what stands on its two sides. -/
def parse (value : String) : Option ObservableIdentity :=
  match Separator.split ':' value.toList with
  | [path, qualifiedName] => check (String.ofList path) (String.ofList qualifiedName)
  | _ => none

/-- The separator occurs in neither component. -/
structure Separable (identity : ObservableIdentity) : Prop where
  path : ¬ Separator.Paired ':' identity.path.text.toList
  qualifiedName : ¬ Separator.Paired ':' identity.qualifiedName.text.toList

/-- The text is read back as the identity and belongs to no other. -/
structure RoundTrips (identity : ObservableIdentity) : Prop where
  parsed : parse identity.text = some identity
  unique : ∀ other : ObservableIdentity, other.text = identity.text → other = identity

theorem toList_text (identity : ObservableIdentity) : identity.text.toList =
    identity.path.text.toList ++ ':' :: ':' :: identity.qualifiedName.text.toList := by
  rw [text, String.toList_append, String.toList_append, List.append_assoc]
  rfl

theorem path_ends (identity : ObservableIdentity) :
    identity.path.text.toList.getLast? ≠ some ':' := by
  rw [identity.path.getLast?_text]
  decide

/-- The two components of an identity validate. -/
theorem check_self (identity : ObservableIdentity) :
    check identity.path.text identity.qualifiedName.text = some identity := by
  rw [check, dif_pos identity.path.wellFormed, dif_pos identity.qualifiedName.bounded]

theorem split_text_iff (identity : ObservableIdentity) :
    (Separator.split ':' identity.text.toList).length = 2 ↔ identity.Separable := by
  rw [toList_text, Separator.length_split_append identity.path_ends]
  exact ⟨fun both => ⟨both.1, both.2⟩, fun separable => ⟨separable.path, separable.qualifiedName⟩⟩

theorem split_text {identity : ObservableIdentity} (separable : identity.Separable) :
    Separator.split ':' identity.text.toList =
      [identity.path.text.toList, identity.qualifiedName.text.toList] := by
  rw [toList_text, Separator.split_append identity.path_ends,
    Separator.split_of_not_paired separable.path,
    Separator.split_of_not_paired separable.qualifiedName]
  rfl

theorem parse_of_length {value : String}
    (other : (Separator.split ':' value.toList).length ≠ 2) : parse value = none := by
  unfold parse
  split
  · rename_i path qualifiedName parts
    rw [parts] at other
    exact absurd rfl other
  · rfl

/-- The text of an identity with a separator inside is refused. -/
theorem parse_text_of_not_separable {identity : ObservableIdentity}
    (inside : ¬ identity.Separable) : parse identity.text = none :=
  parse_of_length fun two => inside ((split_text_iff identity).mp two)

theorem parse_text {identity : ObservableIdentity} (separable : identity.Separable) :
    parse identity.text = some identity := by
  rw [parse, split_text separable]
  simp only [String.ofList_toList]
  exact identity.check_self

/-- **An identity round trips exactly when its components have no separator.**  Its text is
then read back as the identity, and no other identity that validates has the same text. -/
theorem roundTrips_iff (identity : ObservableIdentity) :
    identity.RoundTrips ↔ identity.Separable := by
  constructor
  · intro trips
    by_contra inside
    have refused := parse_text_of_not_separable inside
    rw [trips.parsed] at refused
    cases refused
  · intro separable
    refine ⟨parse_text separable, ?_⟩
    intro other same
    -- The other text has as many parts, so the other identity has no separator inside either.
    have otherSeparable : other.Separable := by
      rw [← split_text_iff, same]
      exact (split_text_iff identity).mpr separable
    have parsed := parse_text otherSeparable
    rw [same, parse_text separable] at parsed
    injection parsed with equal
    exact equal.symm

/-! ## Two identities with one text -/

/-- A name with a separator inside, in a plainly named file. -/
def colonName : ObservableIdentity where
  path := ⟨"a.py", by decide⟩
  qualifiedName := ⟨"b.py::c", by decide⟩

/-- A plain name, in a file with a separator inside its name. -/
def colonPath : ObservableIdentity where
  path := ⟨"a.py::b.py", by decide⟩
  qualifiedName := ⟨"c", by decide⟩

/-- Two valid identities share one text, and it is read back as neither. -/
theorem colon_identities_confused :
    ¬ colonPath.RoundTrips ∧ colonName ≠ colonPath ∧ colonName.text = colonPath.text ∧
      parse colonPath.text = none := by
  have inside : ¬ colonPath.Separable := fun separable => separable.path (by decide)
  refine ⟨fun trips => ?_, by decide, by decide, parse_text_of_not_separable inside⟩
  have refused := parse_text_of_not_separable inside
  rw [trips.parsed] at refused
  cases refused

end ObservableIdentity

end PatchProof
