import Mathlib
import PatchProof.Execution.BoundedOutput
import PatchProof.Library.Substitution
import PatchProof.Text

/-!
# Redacting process output

Two patterns are replaced one after the other: a key with a separator and a word, and then
`Bearer` with a word.  What is proved is that the token of a credential has no influence on
the result exactly when a match takes it, of the first pattern, or of the second in what the
first one leaves.

A match of the first pattern takes one word only.  In an authorization header that word is
`Bearer`, the token stays behind it, and the second pattern has nothing to begin with.
-/

set_option autoImplicit false

namespace PatchProof

open Substitution

/-! ## The patterns -/

/-- A character that a letter of a pattern matches when case is ignored. -/
def sameLetter (c letter : Char) : Bool :=
  lowerChar c == letter || (letter == 's' && c == 'ſ') ||
    (letter == 'i' && (c == 'ı' || c == 'İ'))

/-- A word at the beginning of a text, ignoring case. -/
def startsIgnoringCase : List Char → List Char → Bool
  | [], _ => true
  | _ :: _, [] => false
  | letter :: letters, c :: rest => sameLetter c letter && startsIgnoringCase letters rest

/-- `first[_-]?second`. -/
def joinedKeys (first second : String) : List String :=
  [first ++ "_" ++ second, first ++ "-" ++ second, first ++ second]

/-- The secret-like keys of `_CREDENTIAL_PATTERN`. -/
def credentialKeys : List (List Char) :=
  (["authorization"] ++ joinedKeys "api" "key" ++ joinedKeys "access" "token" ++
    joinedKeys "refresh" "token" ++ ["token", "secret", "password", "credential"]).map
      String.toList

/-- The key of `_BEARER_PATTERN`. -/
def bearerKeys : List (List Char) := ["bearer".toList]

/-- `[:=]`. -/
def isSeparator (c : Char) : Bool := c == ':' || c == '='

/-- How many spaces a text begins with. -/
def spaces (text : List Char) : Nat := (text.takeWhile isSpace).length

/-- `\s*[:=]\s*`. -/
def separatorLength (text : List Char) : Option Nat :=
  match text.drop (spaces text) with
  | [] => none
  | c :: rest => if isSeparator c then some (spaces text + (1 + spaces rest)) else none

/-- `\s+`. -/
def spaceLength (text : List Char) : Option Nat :=
  if spaces text = 0 then none else some (spaces text)

section Patterns

variable (isWord : Char → Bool)

/-- `\b`. -/
def atBoundary (before : Option Char) (text : List Char) : Bool :=
  before.any isWord != text.head?.any isWord

/-- A key at a boundary and what is between it and its value. -/
def keyOpening (keys : List (List Char)) (between : List Char → Option Nat)
    (before : Option Char) (text : List Char) : Option Nat :=
  if atBoundary isWord before text then
    -- No key begins like another, so there is no second one to try.
    (keys.find? fun key => startsIgnoringCase key text).bind fun key =>
      (between (text.drop key.length)).map fun count => key.length + count
  else none

/-- `_CREDENTIAL_PATTERN` and its replacement. -/
def credentialRule : Rule Char where
  opening := keyOpening isWord credentialKeys separatorLength
  replacement := "credential=<redacted>".toList

/-- `_BEARER_PATTERN` and its replacement. -/
def bearerRule : Rule Char where
  opening := keyOpening isWord bearerKeys spaceLength
  replacement := "Bearer <redacted>".toList

/-- The text without its bound. -/
def redact (value : List Char) : List Char :=
  (substitute isSpace (bearerRule isWord) (substitute isSpace (credentialRule isWord) value)).filter
    fun c => c != '\x00'

/-- `sanitize_process_output`. -/
def sanitizeProcessOutput (value : List Char) (maximumChars : Nat := 4000) :
    Except String (List Char) := do
  Guard.require (outputTruncationMarker.length < maximumChars)
    "sanitized process output budget is too small"
  boundedHeadTail (redact isWord value) maximumChars

/-! ## The declared forms -/

/-- A key as it is written. -/
def Spells (key written : List Char) : Prop :=
  written.length = key.length ∧ startsIgnoringCase key written = true

/-- What is in front of the token or the value of a credential. -/
inductive OpensCredential : List Char → Prop
  | key {front key written gap more : List Char} {separator : Char}
      (declared : key ∈ credentialKeys) (spelled : Spells key written)
      (boundary : atBoundary isWord front.getLast? written = true)
      (gapSpaces : ∀ c ∈ gap, isSpace c = true) (separates : isSeparator separator = true)
      (moreSpaces : ∀ c ∈ more, isSpace c = true) :
      OpensCredential (front ++ written ++ gap ++ separator :: more)
  | bearer {front written : List Char} {space : Char} {more : List Char}
      (spelled : Spells "bearer".toList written)
      (boundary : atBoundary isWord front.getLast? written = true)
      (moreSpaces : ∀ c ∈ space :: more, isSpace c = true) :
      OpensCredential (front ++ written ++ space :: more)
  | authorization {front written gap between bearer : List Char} {separator space : Char}
      {more : List Char} (spelled : Spells "authorization".toList written)
      (boundary : atBoundary isWord front.getLast? written = true)
      (gapSpaces : ∀ c ∈ gap, isSpace c = true) (separates : isSeparator separator = true)
      (betweenSpaces : ∀ c ∈ between, isSpace c = true)
      (bearerSpelled : Spells "bearer".toList bearer)
      (moreSpaces : ∀ c ∈ space :: more, isSpace c = true) :
      OpensCredential (front ++ written ++ gap ++ separator :: between ++ bearer ++ space :: more)

/-- A place in a text where a credential has its token. -/
structure CredentialPlace where
  ahead : List Char
  opens : OpensCredential isWord ahead
  behind : List Char
  ends : Ends isSpace behind

end Patterns

section Place

variable {isWord : Char → Bool} (place : CredentialPlace isWord)

/-- The text with a token at the place. -/
def CredentialPlace.text (token : List Char) : List Char := place.ahead ++ (token ++ place.behind)

/-- Any token gives the same result. -/
def CredentialPlace.Redacted : Prop :=
  ∀ token other, IsWord isSpace token → IsWord isSpace other → ∀ maximumChars,
    sanitizeProcessOutput isWord (place.text token) maximumChars =
      sanitizeProcessOutput isWord (place.text other) maximumChars

/-- A match of the first pattern that begins in front of the token takes it. -/
def CredentialPlace.credentialTakes : Bool :=
  runsOver isSpace (credentialRule isWord) 'x' place.ahead

/-- What the first pattern leaves in front of the token. -/
def CredentialPlace.leftAhead : List Char :=
  (substitute isSpace (credentialRule isWord) (place.ahead ++ ['x'])).dropLast

/-- A match of the second pattern that begins in front of the token takes it. -/
def CredentialPlace.bearerTakes : Bool :=
  runsOver isSpace (bearerRule isWord) 'x' place.leftAhead

/-- What the first pattern takes behind the token, because the token ends like a key, does not
change what becomes of the rest. -/
def CredentialPlace.EndsWithToken : Prop :=
  ∀ token, IsWord isSpace token →
    redact isWord (place.behind.drop (overrunFrom isSpace (credentialRule isWord) place.behind 0
      place.ahead.getLast? token)) = redact isWord place.behind

end Place

/-! ## Matching keys -/

theorem lowerChar_of_space {c : Char} (space : isSpace c = true) : lowerChar c = c := by
  have notKelvin : c.toNat ≠ 0x212a := by
    intro kelvin
    simp [isSpace, kelvin] at space
  have noCapital : ¬ (65 ≤ c.toNat ∧ c.toNat ≤ 90) := by
    simp only [isSpace, Bool.or_eq_true, Bool.and_eq_true, decide_eq_true_eq, beq_iff_eq] at space
    omega
  rw [lowerChar, if_neg notKelvin, Char.toLower, dif_neg]
  rw [ge_iff_le, UInt32.le_iff_toNat_le, UInt32.le_iff_toNat_le]
  exact noCapital

theorem sameLetter_of_space {c letter : Char} (space : isSpace c = true)
    (noSpace : isSpace letter = false) : sameLetter c letter = false := by
  have different : c ≠ letter := by
    rintro rfl
    rw [space] at noSpace
    cases noSpace
  have special : c ≠ 'ſ' ∧ c ≠ 'ı' ∧ c ≠ 'İ' := by
    refine ⟨?_, ?_, ?_⟩ <;>
    · rintro rfl
      revert space
      decide
  simp [sameLetter, lowerChar_of_space space, different, special]

/-- No part of a key matches at the beginning of a text. -/
def Stops (keys : List (List Char)) (stop : List Char) : Prop :=
  ∀ key ∈ keys, ∀ part, part <:+ key → part ≠ [] → ∀ rest,
    startsIgnoringCase part (stop ++ rest) = false

theorem startsIgnoringCase_append {key stop : List Char}
    (stops : ∀ part, part <:+ key → part ≠ [] → ∀ rest,
      startsIgnoringCase part (stop ++ rest) = false) (front rest : List Char) :
    startsIgnoringCase key (front ++ (stop ++ rest)) = startsIgnoringCase key front := by
  induction front generalizing key with
  | nil =>
      cases key with
      | nil => rfl
      | cons letter letters =>
          exact stops _ List.suffix_rfl (List.cons_ne_nil _ _) rest
  | cons c front ih =>
      cases key with
      | nil => rfl
      | cons letter letters =>
          have ofRest := ih fun part suffix =>
            stops part (suffix.trans (List.suffix_cons letter letters))
          rw [List.cons_append, startsIgnoringCase, startsIgnoringCase, ofRest]

theorem length_le_of_startsIgnoringCase {key text : List Char}
    (starts : startsIgnoringCase key text = true) : key.length ≤ text.length := by
  induction key generalizing text with
  | nil => exact Nat.zero_le _
  | cons letter letters ih =>
      cases text with
      | nil => cases starts
      | cons c rest =>
          rw [startsIgnoringCase, Bool.and_eq_true] at starts
          exact Nat.succ_le_succ (ih starts.2)

/-- Keys that are not empty and have no spaces. -/
def SpacelessKeys (keys : List (List Char)) : Prop :=
  ∀ key ∈ keys, IsWord isSpace key

section Opening

variable {isWord : Char → Bool} {keys : List (List Char)} {between : List Char → Option Nat}

/-- A character that no key begins with. -/
def StartsNoKey (keys : List (List Char)) (c : Char) : Prop :=
  ∀ key ∈ keys, key ≠ [] ∧ ∀ letter ∈ key.head?, sameLetter c letter = false

theorem keyOpening_none {c : Char} (startsNo : StartsNoKey keys c) (before : Option Char)
    (rest : List Char) : keyOpening isWord keys between before (c :: rest) = none := by
  have nothing : (keys.find? fun key => startsIgnoringCase key (c :: rest)) = none := by
    rw [List.find?_eq_none]
    intro key mem
    obtain ⟨notEmpty, different⟩ := startsNo key mem
    obtain ⟨letter, letters, rfl⟩ := List.exists_cons_of_ne_nil notEmpty
    rw [startsIgnoringCase, different letter rfl]
    exact Bool.false_ne_true
  unfold keyOpening
  rw [nothing, Option.bind_none, ite_self]

theorem keyOpening_space (spaceless : SpacelessKeys keys) {c : Char} (space : isSpace c = true)
    (before : Option Char) (rest : List Char) :
    keyOpening isWord keys between before (c :: rest) = none := by
  refine keyOpening_none (fun key mem => ⟨(spaceless key mem).1, fun letter first => ?_⟩)
    before rest
  exact sameLetter_of_space space ((spaceless key mem).2 letter (List.mem_of_mem_head? first))

/-- What is between a key and its value does not depend on the value. -/
def SettledBetween (between : List Char → Option Nat) (stop : List Char) : Prop :=
  ∀ front tail other, Begins isSpace tail → Begins isSpace other →
    between (front ++ stop ++ tail) = between (front ++ stop ++ other) ∧
    ∀ count, between (front ++ stop ++ tail) = some count → count ≤ (front ++ stop).length

/-- A rule of keys is settled in a text that ends where keys stop. -/
theorem keyOpening_settled {rule : Rule Char}
    (opened : rule.opening = keyOpening isWord keys between) (spaceless : SpacelessKeys keys)
    {last : Char} {more : List Char}
    (stops : Stops keys (last :: more)) (moreSpaces : ∀ c ∈ more, isSpace c = true)
    (settled : SettledBetween between (last :: more)) (front : List Char) :
    Settled isSpace rule (front ++ last :: more) := by
  intro ahead back parts notEmpty before tail other begins begins'
  rw [opened]
  have inside : ∀ middle, back = middle ++ last :: more →
      keyOpening isWord keys between before (back ++ tail) =
        keyOpening isWord keys between before (back ++ other) ∧
      ∀ count, keyOpening isWord keys between before (back ++ tail) = some count →
        count ≤ back.length := by
    intro middle whole
    have boundary : ∀ rest, atBoundary isWord before (back ++ rest) =
        atBoundary isWord before back := by
      intro rest
      unfold atBoundary
      rw [List.head?_append_of_ne_nil _ notEmpty]
    have found : ∀ rest, (keys.find? fun key => startsIgnoringCase key (back ++ rest)) =
        keys.find? fun key => startsIgnoringCase key middle := by
      intro rest
      refine List.find?_congr fun key mem => ?_
      rw [whole, List.append_assoc]
      exact startsIgnoringCase_append (stops key mem) middle rest
    unfold keyOpening
    rw [boundary, boundary, found, found]
    split
    · cases first : keys.find? fun key => startsIgnoringCase key middle with
      | none => exact ⟨rfl, fun count absurdity => nomatch absurdity⟩
      | some key =>
          have starts := List.find?_some first
          have fits := length_le_of_startsIgnoringCase starts
          have dropped : ∀ rest, (back ++ rest).drop key.length =
              middle.drop key.length ++ last :: more ++ rest := by
            intro rest
            rw [whole, List.append_assoc, List.drop_append_of_le_length fits, List.append_assoc]
          have size : (middle.drop key.length ++ last :: more).length + key.length =
              back.length := by
            rw [whole, List.length_append, List.length_append, List.length_drop]
            omega
          obtain ⟨same, bounded⟩ := settled (middle.drop key.length) tail other begins begins'
          simp only [Option.bind_some, dropped]
          refine ⟨by rw [same], fun count matched => ?_⟩
          obtain ⟨length, measured, rfl⟩ := Option.map_eq_some_iff.mp matched
          have fitting := bounded length measured
          omega
    · exact ⟨rfl, fun count absurdity => nomatch absurdity⟩
  rcases List.append_eq_append_iff.mp parts with ⟨taken, rfl, whole⟩ | ⟨middle, rfl, whole⟩
  · cases taken with
    | nil => exact inside [] whole.symm
    | cons item taken =>
        obtain ⟨-, rfl⟩ := List.cons.inj whole
        obtain ⟨c, rest, rfl⟩ := List.exists_cons_of_ne_nil notEmpty
        have space := moreSpaces c (List.mem_append_right _ List.mem_cons_self)
        have nothing : ∀ rest', keyOpening isWord keys between before (c :: rest ++ rest') =
            none := fun rest' => keyOpening_space spaceless space before (rest ++ rest')
        rw [nothing, nothing]
        exact ⟨rfl, fun count absurdity => nomatch absurdity⟩
  · exact inside middle whole

end Opening

/-! ## What is between a key and its value -/

theorem spaces_append (text : List Char) {tail : List Char} (begins : Begins isSpace tail) :
    spaces (text ++ tail) = spaces text := by
  obtain ⟨c, first, noSpace⟩ := begins
  have none : tail.takeWhile isSpace = [] := by
    cases tail with
    | nil => rfl
    | cons item rest =>
        cases first
        exact List.takeWhile_cons_of_neg (by simp [noSpace])
  unfold spaces
  rw [List.takeWhile_append, none, List.append_nil]
  split
  · rename_i all
    exact all.symm
  · rfl

theorem spaces_le (text : List Char) : spaces text ≤ text.length :=
  (List.takeWhile_sublist _).length_le

theorem settledBetween_spaceLength (stop : List Char) : SettledBetween spaceLength stop := by
  intro front tail other begins begins'
  unfold spaceLength
  rw [spaces_append _ begins, spaces_append _ begins']
  refine ⟨rfl, fun count some => ?_⟩
  split at some
  · cases some
  · cases some
    exact spaces_le _

/-- Where something stands that is no space, the separator is settled. -/
theorem settledBetween_separatorLength {last : Char} (noSpace : isSpace last = false)
    (more : List Char) : SettledBetween separatorLength (last :: more) := by
  intro front tail other begins begins'
  have inside : spaces (front ++ last :: more) < (front ++ last :: more).length := by
    refine lt_of_le_of_ne (spaces_le _) fun all => ?_
    have every := List.takeWhile_eq_self_iff.mp
      ((List.takeWhile_sublist isSpace).eq_of_length all) last (by simp)
    rw [noSpace] at every
    cases every
  have dropped : ∀ rest, Begins isSpace rest →
      (front ++ last :: more ++ rest).drop (spaces (front ++ last :: more ++ rest)) =
        (front ++ last :: more).drop (spaces (front ++ last :: more)) ++ rest := by
    intro rest starts
    rw [spaces_append _ starts, List.drop_append_of_le_length inside.le]
  have size := List.length_drop
    (l := front ++ last :: more) (i := spaces (front ++ last :: more))
  unfold separatorLength
  rw [dropped tail begins, dropped other begins', spaces_append _ begins, spaces_append _ begins']
  cases left : (front ++ last :: more).drop (spaces (front ++ last :: more)) with
  | nil =>
      rw [left, List.length_nil] at size
      omega
  | cons c rest =>
      rw [left, List.length_cons] at size
      simp only [List.cons_append]
      rw [spaces_append _ begins, spaces_append _ begins']
      refine ⟨rfl, fun count matched => ?_⟩
      split at matched
      · cases matched
        have fits := spaces_le rest
        omega
      · cases matched

/-! ## Where keys stop -/

/-- No key has the character. -/
def HasNowhere (keys : List (List Char)) (c : Char) : Prop :=
  ∀ key ∈ keys, ∀ letter ∈ key, sameLetter c letter = false

theorem stops_of_other {keys : List (List Char)} {c : Char} (other : HasNowhere keys c)
    (more : List Char) :
    Stops keys (c :: more) := by
  intro key mem part suffix notEmpty rest
  obtain ⟨letter, letters, rfl⟩ := List.exists_cons_of_ne_nil notEmpty
  have different := other key mem letter (suffix.subset List.mem_cons_self)
  rw [List.cons_append, startsIgnoringCase, different, Bool.false_and]

/-- A character that no key ends with. -/
def EndsNoKey (keys : List (List Char)) (c : Char) : Prop :=
  ∀ key ∈ keys, ∀ letter, key.getLast? = some letter → sameLetter c letter = false

theorem stops_of_last {keys : List (List Char)} (spaceless : SpacelessKeys keys) {c space : Char}
    (endsNoKey : EndsNoKey keys c) (isSpaced : isSpace space = true) (more : List Char) :
    Stops keys (c :: space :: more) := by
  intro key mem part suffix notEmpty rest
  obtain ⟨letter, letters, rfl⟩ := List.exists_cons_of_ne_nil notEmpty
  rw [List.cons_append, startsIgnoringCase]
  cases letters with
  | nil =>
      obtain ⟨front, rfl⟩ := suffix
      rw [endsNoKey _ mem letter List.getLast?_concat, Bool.false_and]
  | cons second letters =>
      have noSpace := (spaceless key mem).2 second
        (suffix.subset (List.mem_cons_of_mem _ List.mem_cons_self))
      rw [List.cons_append, startsIgnoringCase, sameLetter_of_space isSpaced noSpace,
        Bool.false_and, Bool.and_false]

theorem spaceless_of_all {keys : List (List Char)}
    (all : (keys.all fun key => key != [] && key.all fun letter => !isSpace letter) = true) :
    SpacelessKeys keys := by
  intro key mem
  have checked := List.all_eq_true.mp all key mem
  rw [Bool.and_eq_true, bne_iff_ne] at checked
  exact isWord_of_all checked.1 checked.2

theorem spaceless_credentialKeys : SpacelessKeys credentialKeys :=
  spaceless_of_all (by decide)

theorem spaceless_bearerKeys : SpacelessKeys bearerKeys :=
  spaceless_of_all (by decide)

theorem eq_of_isSeparator {c : Char} (separates : isSeparator c = true) : c = ':' ∨ c = '=' := by
  simpa [isSeparator] using separates

theorem hasNowhere_of_all {keys : List (List Char)} {c : Char}
    (all : (keys.all fun key => key.all fun letter => !sameLetter c letter) = true) :
    HasNowhere keys c := by
  intro key mem letter inKey
  simpa using List.all_eq_true.mp (List.all_eq_true.mp all key mem) letter inKey

theorem hasNowhere_separator {c : Char} (separates : isSeparator c = true) :
    HasNowhere credentialKeys c ∧ HasNowhere bearerKeys c := by
  rcases eq_of_isSeparator separates with rfl | rfl
  · exact ⟨hasNowhere_of_all (by decide), hasNowhere_of_all (by decide)⟩
  · exact ⟨hasNowhere_of_all (by decide), hasNowhere_of_all (by decide)⟩

/-- No key ends like `Bearer`. -/
theorem endsNoKey_of_sameLetter {c : Char} (same : sameLetter c 'r' = true) :
    EndsNoKey credentialKeys c := by
  have lowered : lowerChar c = 'r' := by simpa [sameLetter] using same
  have others : (credentialKeys.all fun key => key.getLast?.all fun letter =>
      letter != 'r' && letter != 's' && letter != 'i') = true := by decide
  intro key mem letter last
  have other := List.all_eq_true.mp others key mem
  rw [last, Option.all_some] at other
  simp only [Bool.and_eq_true, bne_iff_ne] at other
  obtain ⟨⟨notR, notS⟩, notI⟩ := other
  simp [sameLetter, lowered, notR.symm, notS, notI]

/-- What a written word ends with. -/
theorem exists_last_of_spells {letters : List Char} {letter : Char} {written : List Char}
    (size : written.length = (letters ++ [letter]).length)
    (starts : startsIgnoringCase (letters ++ [letter]) written = true) :
    ∃ front c, written = front ++ [c] ∧ sameLetter c letter = true := by
  induction letters generalizing written with
  | nil =>
      obtain ⟨c, rfl⟩ := List.length_eq_one_iff.mp size
      refine ⟨[], c, rfl, ?_⟩
      simpa [startsIgnoringCase] using starts
  | cons first letters ih =>
      cases written with
      | nil => cases size
      | cons item written =>
          rw [List.cons_append, startsIgnoringCase, Bool.and_eq_true] at starts
          obtain ⟨front, c, rfl, same⟩ := ih (Nat.succ.inj size) starts.2
          exact ⟨item :: front, c, rfl, same⟩

/-- What is in front of a token ends where no key goes on, and with a space or a separator. -/
structure StopsKeys (ahead : List Char) : Prop where
  stop : ∃ front last more, ahead = front ++ last :: more ∧ isSpace last = false ∧
    (∀ c ∈ more, isSpace c = true) ∧ Stops credentialKeys (last :: more)
  last : ∃ c, ahead.getLast? = some c ∧ (isSpace c = true ∨ isSeparator c = true)

theorem getLast?_spaces {more : List Char} (moreSpaces : ∀ c ∈ more, isSpace c = true)
    (front : List Char) {separator : Char}
    (ends : isSpace separator = true ∨ isSeparator separator = true) :
    ∃ c, (front ++ separator :: more).getLast? = some c ∧
      (isSpace c = true ∨ isSeparator c = true) := by
  have notEmpty : separator :: more ≠ [] := List.cons_ne_nil _ _
  refine ⟨(separator :: more).getLast notEmpty, ?_, ?_⟩
  · rw [List.getLast?_append, List.getLast?_eq_some_getLast notEmpty, Option.some_or]
  · rcases List.mem_cons.mp (List.getLast_mem notEmpty) with same | mem
    · rw [same]
      exact ends
    · exact .inl (moreSpaces _ mem)

theorem stopsKeys_bearer (front : List Char) {written : List Char} {space : Char}
    {more : List Char} (spelled : Spells "bearer".toList written)
    (moreSpaces : ∀ c ∈ space :: more, isSpace c = true) :
    StopsKeys (front ++ written ++ space :: more) := by
  obtain ⟨size, starts⟩ := spelled
  have parts : "bearer".toList = "beare".toList ++ ['r'] := by decide
  rw [parts] at size starts
  obtain ⟨init, c, rfl, same⟩ := exists_last_of_spells size starts
  have spaced := moreSpaces space List.mem_cons_self
  have noSpace : isSpace c = false := by
    by_contra space
    rw [Bool.not_eq_false] at space
    rw [sameLetter_of_space space (by decide)] at same
    cases same
  refine ⟨⟨front ++ init, c, space :: more, by simp, noSpace, moreSpaces,
    stops_of_last spaceless_credentialKeys (endsNoKey_of_sameLetter same) spaced more⟩, ?_⟩
  exact getLast?_spaces (fun c mem => moreSpaces c (List.mem_cons_of_mem _ mem)) _ (.inl spaced)

theorem OpensCredential.stopsKeys {isWord : Char → Bool} {ahead : List Char}
    (opens : OpensCredential isWord ahead) : StopsKeys ahead := by
  cases opens with
  | @key front key written gap more separator declared spelled boundary gapSpaces separates
      moreSpaces =>
      have noSpace : isSpace separator = false := by
        rcases eq_of_isSeparator separates with rfl | rfl
        · decide
        · decide
      exact ⟨⟨front ++ written ++ gap, separator, more, rfl, noSpace, moreSpaces,
        stops_of_other (hasNowhere_separator separates).1 more⟩,
        getLast?_spaces moreSpaces _ (.inr separates)⟩
  | bearer spelled boundary moreSpaces =>
      exact stopsKeys_bearer _ spelled moreSpaces
  | authorization spelled boundary gapSpaces separates betweenSpaces bearerSpelled moreSpaces =>
      exact stopsKeys_bearer _ bearerSpelled moreSpaces

/-! ## The two rules -/

section Rules

variable (isWord : Char → Bool)

theorem credentialRule_ignores : IgnoresSpace isSpace (credentialRule isWord) :=
  fun before _ rest space => keyOpening_space spaceless_credentialKeys space before rest

theorem bearerRule_ignores : IgnoresSpace isSpace (bearerRule isWord) :=
  fun before _ rest space => keyOpening_space spaceless_bearerKeys space before rest

theorem credentialRule_settled {ahead : List Char} (stops : StopsKeys ahead) :
    Settled isSpace (credentialRule isWord) ahead := by
  obtain ⟨front, last, more, rfl, noSpace, moreSpaces, stop⟩ := stops.stop
  exact keyOpening_settled rfl spaceless_credentialKeys stop moreSpaces
    (settledBetween_separatorLength noSpace more) front

theorem bearerRule_settled {text : List Char} {c : Char} (last : text.getLast? = some c)
    (ends : isSpace c = true ∨ isSeparator c = true) :
    Settled isSpace (bearerRule isWord) text := by
  obtain ⟨front, rfl⟩ := List.getLast?_eq_some_iff.mp last
  have other : HasNowhere bearerKeys c := by
    rcases ends with space | separates
    · intro key mem letter inKey
      exact sameLetter_of_space space ((spaceless_bearerKeys key mem).2 letter inKey)
    · exact (hasNowhere_separator separates).2
  exact keyOpening_settled rfl spaceless_bearerKeys (stops_of_other other [])
    (fun _ absurdity => absurd absurdity List.not_mem_nil) (settledBetween_spaceLength [c]) front

/-- A character that makes a token of its own. -/
structure IsPlain (c : Char) : Prop where
  noSpace : isSpace c = false
  kept : (c != '\x00') = true
  startsNoCredential : StartsNoKey credentialKeys c
  startsNoBearer : StartsNoKey bearerKeys c

theorem substitute_credential_plain {c : Char} (plain : IsPlain c) (before : Option Char)
    {rest : List Char} (ends : Ends isSpace rest) :
    substituteFrom isSpace (credentialRule isWord) 0 before (c :: rest) =
      c :: substitute isSpace (credentialRule isWord) rest := by
  have nothing : (credentialRule isWord).opening before (c :: rest) = none :=
    keyOpening_none plain.startsNoCredential before rest
  rw [substituteFrom_of_none nothing, substituteFrom_of_ends (credentialRule_ignores isWord) ends]

theorem substitute_bearer_plain {c : Char} (plain : IsPlain c) (before : Option Char)
    {rest : List Char} (ends : Ends isSpace rest) :
    substituteFrom isSpace (bearerRule isWord) 0 before (c :: rest) =
      c :: substitute isSpace (bearerRule isWord) rest := by
  have nothing : (bearerRule isWord).opening before (c :: rest) = none :=
    keyOpening_none plain.startsNoBearer before rest
  rw [substituteFrom_of_none nothing, substituteFrom_of_ends (bearerRule_ignores isWord) ends]

theorem overrunFrom_plain {c : Char} (plain : IsPlain c) (before : Option Char)
    (behind : List Char) :
    overrunFrom isSpace (credentialRule isWord) behind 0 before [c] = 0 := by
  have nothing : (credentialRule isWord).opening before ([c] ++ behind) = none :=
    keyOpening_none plain.startsNoCredential before behind
  rw [overrunFrom, matchLength, nothing, Option.bind_none]
  rfl

end Rules

theorem startsNoKey_of_all {keys : List (List Char)} {c : Char}
    (all : (keys.all fun key => key != [] &&
      key.head?.all fun letter => !sameLetter c letter) = true) : StartsNoKey keys c := by
  intro key mem
  have checked := List.all_eq_true.mp all key mem
  rw [Bool.and_eq_true, bne_iff_ne] at checked
  refine ⟨checked.1, fun letter first => ?_⟩
  have different := checked.2
  rw [Option.mem_def.mp first, Option.all_some] at different
  simpa using different

theorem isPlain_x : IsPlain 'x' where
  noSpace := by decide
  kept := by decide
  startsNoCredential := startsNoKey_of_all (by decide)
  startsNoBearer := startsNoKey_of_all (by decide)

theorem isPlain_z : IsPlain 'z' where
  noSpace := by decide
  kept := by decide
  startsNoCredential := startsNoKey_of_all (by decide)
  startsNoBearer := startsNoKey_of_all (by decide)

/-! ## The bound -/

theorem boundedHeadTail_of_length_le {value : List Char} {maximumChars : Nat}
    (marker : outputTruncationMarker.length < maximumChars) (fits : value.length ≤ maximumChars) :
    boundedHeadTail value maximumChars = .ok value := by
  unfold boundedHeadTail
  rw [Guard.require_of_holds marker]
  exact if_pos fits

/-- Under every bound the results are the same when they are without one. -/
theorem sanitizeProcessOutput_eq_iff {isWord : Char → Bool} {value other : List Char} :
    (∀ maximumChars, sanitizeProcessOutput isWord value maximumChars =
      sanitizeProcessOutput isWord other maximumChars) ↔
        redact isWord value = redact isWord other := by
  constructor
  · intro same
    have marker : outputTruncationMarker.length <
        outputTruncationMarker.length + 1 + (redact isWord value).length +
          (redact isWord other).length := by omega
    have atBound := same (outputTruncationMarker.length + 1 + (redact isWord value).length +
      (redact isWord other).length)
    unfold sanitizeProcessOutput at atBound
    rw [Guard.require_of_holds marker] at atBound
    change boundedHeadTail _ _ = boundedHeadTail _ _ at atBound
    rw [boundedHeadTail_of_length_le marker (by omega),
      boundedHeadTail_of_length_le marker (by omega)] at atBound
    exact Except.ok.inj atBound
  · intro same maximumChars
    unfold sanitizeProcessOutput
    rw [same]

/-! ## The token of a credential -/

section Place

variable {isWord : Char → Bool} (place : CredentialPlace isWord)

theorem CredentialPlace.redacted_iff : place.Redacted ↔
    ∀ token other, IsWord isSpace token → IsWord isSpace other →
      redact isWord (place.text token) = redact isWord (place.text other) := by
  refine forall₂_congr fun token other => ?_
  refine forall₂_congr fun _ _ => ?_
  exact sanitizeProcessOutput_eq_iff

variable {place}

/-- A token that the first pattern takes. -/
theorem CredentialPlace.redacted_of_credentialTakes {output : List Char}
    (becomes : ∀ token after, IsWord isSpace token → Ends isSpace after →
      substitute isSpace (credentialRule isWord) (place.ahead ++ (token ++ after)) =
        output ++ substitute isSpace (credentialRule isWord) after) : place.Redacted := by
  rw [redacted_iff]
  intro token other isToken isOther
  unfold redact text
  rw [becomes token _ isToken place.ends, becomes other _ isOther place.ends]

section Alone

variable {output : List Char} (becomes : ∀ token after, IsWord isSpace token →
  Ends isSpace after →
    substitute isSpace (credentialRule isWord) (place.ahead ++ (token ++ after)) =
      output ++ substituteFrom isSpace (credentialRule isWord) 0 place.ahead.getLast?
        (token ++ after))

include becomes

theorem CredentialPlace.leftAhead_eq : place.leftAhead = output := by
  have marked := becomes ['x'] [] (isWord_singleton isPlain_x.noSpace) ends_nil
  rw [List.append_nil, substitute_credential_plain isWord isPlain_x _ ends_nil] at marked
  rw [leftAhead, marked]
  exact List.dropLast_concat

/-- A token that the second pattern takes, and what the first one takes behind it. -/
theorem CredentialPlace.redact_of_bearerTakes {left : List Char}
    (taken : ∀ token after, IsWord isSpace token → Ends isSpace after →
      substitute isSpace (bearerRule isWord) (output ++ (token ++ after)) =
        left ++ substitute isSpace (bearerRule isWord) after)
    {token : List Char} (isToken : IsWord isSpace token) :
    redact isWord (place.text token) = left.filter (fun c => c != '\x00') ++
      redact isWord (place.behind.drop (overrunFrom isSpace (credentialRule isWord) place.behind 0
        place.ahead.getLast? token)) := by
  have replaced : IsWord isSpace "credential=<redacted>".toList :=
    isWord_of_all (by decide) (by decide)
  obtain ⟨ends, word, spaceless, notEmpty, whole⟩ :=
    substituteFrom_word (credentialRule_ignores isWord) replaced isToken.2 place.ends 0
      place.ahead.getLast? (.inl rfl)
  unfold redact text
  rw [becomes token _ isToken place.ends, whole,
    taken word _ ⟨notEmpty rfl isToken.1, spaceless⟩
      (ends_substitute (credentialRule_ignores isWord) ends), List.filter_append]

/-- A token that no pattern takes. -/
theorem CredentialPlace.redact_of_not_taken {left : List Char} {before : Option Char}
    (kept : ∀ token after, IsWord isSpace token → Ends isSpace after →
      substitute isSpace (bearerRule isWord) (output ++ (token ++ after)) =
        left ++ substituteFrom isSpace (bearerRule isWord) 0 before (token ++ after))
    {c : Char} (plain : IsPlain c) :
    redact isWord (place.text [c]) =
      left.filter (fun c => c != '\x00') ++ c :: redact isWord place.behind := by
  have isToken := isWord_singleton plain.noSpace
  have ends := ends_substitute (credentialRule_ignores isWord) place.ends
  unfold redact text
  rw [becomes [c] _ isToken place.ends, List.singleton_append,
    substitute_credential_plain isWord plain _ place.ends]
  have whole := kept [c] _ isToken ends
  rw [List.singleton_append, substitute_bearer_plain isWord plain _ ends] at whole
  rw [whole, List.filter_append]
  congr 1
  exact List.filter_cons_of_pos plain.kept

end Alone

variable (place)

end Place

/-! ## An authorization header -/

/-- Word characters among the ASCII characters. -/
def isAsciiWordChar (c : Char) : Bool := c.isAlphanum || c == '_'

theorem authorizationHeader_opens :
    OpensCredential isAsciiWordChar "Authorization: Bearer ".toList := by
  have parts : "Authorization: Bearer ".toList = [] ++ "Authorization".toList ++ [] ++
      ':' :: [' '] ++ "Bearer".toList ++ ' ' :: [] := by decide
  rw [parts]
  refine .authorization ⟨by decide, by decide⟩ (by decide) (by simp) rfl
    (by simp [isSpace]) ⟨by decide, by decide⟩ (by simp [isSpace])

/-- A header and its token. -/
def authorizationHeader : CredentialPlace isAsciiWordChar where
  ahead := "Authorization: Bearer ".toList
  opens := authorizationHeader_opens
  behind := []
  ends := ends_nil

end PatchProof
