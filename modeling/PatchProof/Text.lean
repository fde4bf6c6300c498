import Mathlib.Data.List.TakeWhile
import Mathlib.Tactic.Common

/-!
# Bounded text and the few string operations the service uses

Identifiers and prose that the source checks with a pattern or a length bound are
carried here by structures whose proof field is that check, so that a value of
the type has passed it.  The checks are Boolean functions of the character list
and evaluate.

`lower` agrees with the source's lowercasing wherever the result is compared with
a canonical ASCII name: the ASCII capitals are mapped, and so is the one other
character with an ASCII lowercase, the Kelvin sign.  Any other character
has a non-ASCII image either way, so no comparison can tell the two apart.
-/

set_option autoImplicit false

namespace PatchProof

/-! ## Characters -/

/-- A lowercase hexadecimal digit. -/
def isLowerHex (c : Char) : Bool :=
  ('0' ≤ c && c ≤ '9') || ('a' ≤ c && c ≤ 'f')

/-- A character of a canonical repository name. -/
def isRepositoryChar (c : Char) : Bool :=
  ('a' ≤ c && c ≤ 'z') || ('0' ≤ c && c ≤ '9') || c == '_' || c == '.' || c == '-'

/-- The whitespace that `str.strip` removes. -/
def isSpace (c : Char) : Bool :=
  (9 ≤ c.toNat && c.toNat ≤ 13) || (28 ≤ c.toNat && c.toNat ≤ 32) || c.toNat == 0x85 ||
    c.toNat == 0xa0 || c.toNat == 0x1680 || (0x2000 ≤ c.toNat && c.toNat ≤ 0x200a) ||
    c.toNat == 0x2028 || c.toNat == 0x2029 || c.toNat == 0x202f || c.toNat == 0x205f ||
    c.toNat == 0x3000

/-! ## Operations -/

/-- `text.strip()`. -/
def strip (text : String) : String :=
  String.ofList ((text.toList.dropWhile isSpace).reverse.dropWhile isSpace).reverse

/-- `text[:limit]`. -/
def truncate (limit : Nat) (text : String) : String :=
  String.ofList (text.toList.take limit)

/-- `text or fallback`. -/
def orElseText (text fallback : String) : String :=
  if text = "" then fallback else text

def lowerChar (c : Char) : Char :=
  if c.toNat = 0x212a then 'k' else c.toLower

/-- `text.lower()`. -/
def lower (text : String) : String :=
  String.ofList (text.toList.map lowerChar)

theorem length_truncate_le (limit : Nat) (text : String) :
    (truncate limit text).length ≤ limit := by
  simp only [truncate, String.length_ofList, List.length_take]
  exact Nat.min_le_left _ _

/-! ## Patterns -/

/-- The pattern of a full Git object name: 40 or 64 lowercase hexadecimal digits. -/
def isGitSha (text : String) : Bool :=
  (text.toList.length == 40 || text.toList.length == 64) && text.toList.all isLowerHex

/-- The pattern of a SHA-256 hex digest. -/
def isSha256 (text : String) : Bool :=
  text.toList.length == 64 && text.toList.all isLowerHex

/-- The pattern `owner/name` over the canonical characters. -/
def isRepositoryName (text : String) : Bool :=
  match text.toList.dropWhile isRepositoryChar with
  | separator :: name =>
      !(text.toList.takeWhile isRepositoryChar).isEmpty && separator == '/' && !name.isEmpty &&
        name.all isRepositoryChar
  | [] => false

/-- The pattern of a worker failure code: a capital, then 2 to 63 capitals, digits
or underscores. -/
def isErrorCode (text : String) : Bool :=
  match text.toList with
  | first :: rest =>
      ('A' ≤ first && first ≤ 'Z') && (2 ≤ rest.length && rest.length ≤ 63) &&
        rest.all fun c => ('A' ≤ c && c ≤ 'Z') || ('0' ≤ c && c ≤ '9') || c == '_'
  | [] => false

/-! ## Values that have passed their check -/

/-- A full lowercase Git object name. -/
structure GitSha where
  text : String
  wellFormed : isGitSha text = true
  deriving DecidableEq

theorem GitSha.ext_text {sha other : GitSha} (same : sha.text = other.text) : sha = other := by
  cases sha
  cases other
  cases same
  rfl

/-- A canonical `owner/name`. -/
structure RepositoryName where
  text : String
  wellFormed : isRepositoryName text = true
  deriving DecidableEq

theorem RepositoryName.ext_text {name other : RepositoryName} (same : name.text = other.text) :
    name = other := by
  cases name
  cases other
  cases same
  rfl

/-- A lowercase SHA-256 hex digest. -/
structure Sha256 where
  text : String
  wellFormed : isSha256 text = true
  deriving DecidableEq

/-- Text whose number of characters lies between two bounds. -/
structure BoundedText (least most : Nat) where
  text : String
  bounded : least ≤ text.length ∧ text.length ≤ most
  deriving DecidableEq

/-- The empty text, where it is admitted. -/
def BoundedText.empty (most : Nat) : BoundedText 0 most := ⟨"", Nat.zero_le _, Nat.zero_le most⟩

/-- A text under wider bounds. -/
def BoundedText.widen {least most : Nat} (text : BoundedText least most) {lower upper : Nat}
    (down : lower ≤ least) (up : most ≤ upper) : BoundedText lower upper :=
  ⟨text.text, Nat.le_trans down text.bounded.1, Nat.le_trans text.bounded.2 up⟩

@[simp]
theorem BoundedText.text_widen {least most lower upper : Nat} (text : BoundedText least most)
    (down : lower ≤ least) (up : most ≤ upper) : (text.widen down up).text = text.text := rfl

/-- An integer the source requires to be positive. -/
structure PositiveInt where
  value : Int
  positive : 0 < value
  deriving DecidableEq

theorem PositiveInt.ext_value {number other : PositiveInt} (same : number.value = other.value) :
    number = other := by
  cases number
  cases other
  cases same
  rfl

/-! ## Canonical names are left alone -/

/-- Characters other than the ASCII capitals and the Kelvin sign are left alone. -/
theorem lowerChar_of_not_capital {c : Char} (notKelvin : c.toNat ≠ 0x212a)
    (notCapital : ¬ (65 ≤ c.toNat ∧ c.toNat ≤ 90)) : lowerChar c = c := by
  rw [lowerChar, if_neg notKelvin]
  exact dif_neg notCapital

theorem lowerChar_idem (c : Char) : lowerChar (lowerChar c) = lowerChar c := by
  by_cases kelvin : c.toNat = 0x212a
  · have image : lowerChar c = 'k' := if_pos kelvin
    rw [image]
    decide
  by_cases capital : 65 ≤ c.toNat ∧ c.toNat ≤ 90
  · have image : (lowerChar c).toNat = c.toNat + 32 := by
      have range : c.val ≥ 'A'.val ∧ c.val ≤ 'Z'.val := capital
      have shifted : c.toLower.val = c.val + 32 := congrArg Char.val (dif_pos range)
      rw [lowerChar, if_neg kelvin]
      show c.toLower.val.toNat = c.val.toNat + 32
      rw [shifted]
      have small : c.val.toNat ≤ 90 := capital.2
      rw [UInt32.toNat_add]
      exact Nat.mod_eq_of_lt (Nat.lt_of_le_of_lt (Nat.add_le_add_right small 32) (by decide))
    exact lowerChar_of_not_capital (by omega) (by omega)
  · rw [lowerChar_of_not_capital kelvin capital, lowerChar_of_not_capital kelvin capital]

/-- Lowercasing twice is lowercasing once. -/
theorem lower_idem (text : String) : lower (lower text) = lower text := by
  simp only [lower, String.toList_ofList, List.map_map]
  congr 1
  exact List.map_congr_left fun c _ => lowerChar_idem c

theorem lowerChar_of_isRepositoryChar {c : Char} (canonical : isRepositoryChar c = true) :
    lowerChar c = c := by
  have small : c.toNat ≤ 122 ∧ ¬ (65 ≤ c.toNat ∧ c.toNat ≤ 90) := by
    simp only [isRepositoryChar, Bool.or_eq_true, Bool.and_eq_true, decide_eq_true_eq,
      beq_iff_eq, Char.le_def, UInt32.le_iff_toNat_le] at canonical
    rcases canonical with (((⟨lo, hi⟩ | ⟨lo, hi⟩) | rfl) | rfl) | rfl
    · constructor
      · exact hi
      · have : 97 ≤ c.toNat := lo
        omega
    · have : c.toNat ≤ 57 := hi
      omega
    all_goals decide
  exact lowerChar_of_not_capital (by omega) small.2

theorem repositoryName_chars {text : String} (canonical : isRepositoryName text = true) :
    ∀ c ∈ text.toList, isRepositoryChar c = true ∨ c = '/' := by
  intro c mem
  rw [← List.takeWhile_append_dropWhile (p := isRepositoryChar) (l := text.toList)] at mem
  rcases List.mem_append.mp mem with owner | rest
  · exact .inl (List.mem_takeWhile_imp owner)
  · unfold isRepositoryName at canonical
    split at canonical
    · rename_i separator name split
      simp only [Bool.and_eq_true, beq_iff_eq, List.all_eq_true] at canonical
      obtain ⟨⟨⟨_, isSlash⟩, _⟩, nameChars⟩ := canonical
      rw [split] at rest
      rcases List.mem_cons.mp rest with isSeparator | inName
      · exact .inr (isSeparator.trans isSlash)
      · exact .inl (nameChars c inName)
    · exact absurd canonical Bool.false_ne_true

theorem lower_repositoryName (repository : RepositoryName) :
    lower repository.text = repository.text := by
  have unchanged : repository.text.toList.map lowerChar = repository.text.toList := by
    conv_rhs => rw [← List.map_id repository.text.toList]
    refine List.map_congr_left fun c mem => ?_
    rcases repositoryName_chars repository.wellFormed c mem with canonical | rfl
    · exact lowerChar_of_isRepositoryChar canonical
    · decide
  rw [lower, unchanged, String.ofList_toList]

/-! ## Literals that pass their check -/

theorem isLowerHex_zero : isLowerHex '0' = true := rfl

theorem isLowerHex_one : isLowerHex '1' = true := rfl

theorem isLowerHex_two : isLowerHex '2' = true := rfl

theorem isLowerHex_a : isLowerHex 'a' = true := rfl

theorem isLowerHex_b : isLowerHex 'b' = true := rfl

/-- A Git object name of equal digits. -/
theorem isGitSha_replicate (digit : Char) (isHex : isLowerHex digit = true) :
    isGitSha (String.ofList (List.replicate 40 digit)) = true := by
  simp [isGitSha, isHex]

/-- A digest of equal digits. -/
theorem isSha256_replicate (digit : Char) (isHex : isLowerHex digit = true) :
    isSha256 (String.ofList (List.replicate 64 digit)) = true := by
  simp [isSha256, isHex]

theorem isGitSha_as : isGitSha (String.ofList (List.replicate 40 'a')) = true :=
  isGitSha_replicate 'a' isLowerHex_a

theorem isGitSha_bs : isGitSha (String.ofList (List.replicate 40 'b')) = true :=
  isGitSha_replicate 'b' isLowerHex_b

theorem isSha256_zeros : isSha256 (String.ofList (List.replicate 64 '0')) = true :=
  isSha256_replicate '0' isLowerHex_zero

theorem isSha256_bs : isSha256 (String.ofList (List.replicate 64 'b')) = true :=
  isSha256_replicate 'b' isLowerHex_b

theorem isRepositoryName_octo : isRepositoryName "octo/service" = true := by
  decide

theorem five_positive : (0 : Int) < 5 := by
  decide

theorem seven_positive : (0 : Int) < 7 := by
  decide

end PatchProof
