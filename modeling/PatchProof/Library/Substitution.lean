import Mathlib.Data.List.Basic
import Mathlib.Tactic.Common

/-!
# Substituting words behind openings

A rule looks for an opening, and takes the word behind it: everything up to the next space.
Texts are read from the left; a match is replaced, and the reading goes on behind it.

A word is put between a text and what follows it.  When the openings in the text do not
depend on the word, either a match that begins in the text takes the word, whatever the word
is, or what the rule makes of the text is in front of what it makes of the word.
-/

set_option autoImplicit false

namespace Substitution

variable {α : Type} (isSpace : α → Bool)

/-! ## Rules -/

/-- What is in front of a word that is taken, at a place behind some item, and what is put in
place of both. -/
structure Rule (α : Type) where
  opening : Option α → List α → Option Nat
  replacement : List α

/-- The word at the beginning. -/
def word (text : List α) : List α := text.takeWhile fun item => !isSpace item

section Reading

variable (rule : Rule α)

/-- How much is matched at the beginning of a text. -/
def matchLength (before : Option α) (text : List α) : Option Nat :=
  (rule.opening before text).bind fun count =>
    if (word isSpace (text.drop count)).length = 0 then none
    else some (count + (word isSpace (text.drop count)).length)

/-- Substituting in a text of which some items were already taken. -/
def substituteFrom : Nat → Option α → List α → List α
  | _, _, [] => []
  | taken + 1, _, item :: rest => substituteFrom taken (some item) rest
  | 0, before, item :: rest =>
      match matchLength isSpace rule before (item :: rest) with
      | some (more + 1) => rule.replacement ++ substituteFrom more (some item) rest
      | _ => item :: substituteFrom 0 (some item) rest

/-- Substituting in a text. -/
def substitute (text : List α) : List α := substituteFrom isSpace rule 0 none text

/-- How many items behind a text are taken by a match that begins in it. -/
def overrunFrom (behind : List α) : Nat → Option α → List α → Nat
  | taken, _, [] => taken
  | taken + 1, _, item :: rest => overrunFrom behind taken (some item) rest
  | 0, before, item :: rest =>
      match matchLength isSpace rule before (item :: rest ++ behind) with
      | some (more + 1) => overrunFrom behind more (some item) rest
      | _ => overrunFrom behind 0 (some item) rest

/-- Whether a match that begins in the text takes a word that is put behind it. -/
def runsOver (mark : α) (text : List α) : Bool :=
  decide (0 < overrunFrom isSpace rule [mark] 0 none text)

end Reading

/-! ## Words -/

/-- At least one item and no space. -/
def IsWord (text : List α) : Prop := text ≠ [] ∧ ∀ item ∈ text, isSpace item = false

/-- What ends a word: nothing or a space. -/
def Ends (text : List α) : Prop := ∀ item, text.head? = some item → isSpace item = true

/-- The first item is no space. -/
def Begins (text : List α) : Prop := ∃ item, text.head? = some item ∧ isSpace item = false

section Words

variable {isSpace} {text rest : List α}

theorem IsWord.begins (isWord : IsWord isSpace text) (rest : List α) :
    Begins isSpace (text ++ rest) := by
  obtain ⟨notEmpty, noSpace⟩ := isWord
  cases text with
  | nil => exact absurd rfl notEmpty
  | cons item more => exact ⟨item, rfl, noSpace item List.mem_cons_self⟩

theorem isWord_of_all (notEmpty : text ≠ [])
    (all : (text.all fun item => !isSpace item) = true) : IsWord isSpace text := by
  refine ⟨notEmpty, fun item mem => ?_⟩
  simpa using List.all_eq_true.mp all item mem

theorem isWord_singleton {mark : α} (noSpace : isSpace mark = false) : IsWord isSpace [mark] :=
  ⟨List.cons_ne_nil _ _, by simp [noSpace]⟩

theorem ends_nil : Ends isSpace [] := by
  intro item absurdity
  cases absurdity

theorem word_of_ends (ends : Ends isSpace rest) : word isSpace rest = [] := by
  cases rest with
  | nil => rfl
  | cons item more => simp [word, ends item rfl]

/-- A word that is followed by nothing or a space. -/
theorem word_append (isWord : IsWord isSpace text) (ends : Ends isSpace rest) :
    word isSpace (text ++ rest) = text := by
  have all : ∀ item ∈ text, (!isSpace item) = true := by
    intro item mem
    simp [isWord.2 item mem]
  have tail := word_of_ends ends
  unfold word at tail ⊢
  rw [List.takeWhile_append_of_pos all, tail, List.append_nil]

end Words

/-! ## Openings that are settled -/

/-- The openings in a text do not depend on what begins behind it, and end in the text. -/
def Settled (rule : Rule α) (text : List α) : Prop :=
  ∀ front back, text = front ++ back → back ≠ [] → ∀ before tail other,
    Begins isSpace tail → Begins isSpace other →
      rule.opening before (back ++ tail) = rule.opening before (back ++ other) ∧
      ∀ count, rule.opening before (back ++ tail) = some count → count ≤ back.length

section Settled

variable {isSpace} {rule : Rule α} {mark : α} {text : List α}

theorem Settled.tail {item : α} (settled : Settled isSpace rule (item :: text)) :
    Settled isSpace rule text := by
  intro front back parts
  exact settled (item :: front) back (by rw [parts]; rfl)

/-- Behind an opening inside a text a word that is put there is taken to its end or not at
all. -/
theorem length_word_drop {back token after : List α} {count : Nat} (inside : count ≤ back.length)
    (isWord : IsWord isSpace token) (ends : Ends isSpace after) :
    (word isSpace ((back ++ (token ++ after)).drop count)).length =
      if (word isSpace (back.drop count)).length = (back.drop count).length then
        (back.drop count).length + token.length
      else (word isSpace (back.drop count)).length := by
  rw [List.drop_append_of_le_length inside]
  have taken := word_append isWord ends
  unfold word at taken ⊢
  rw [List.takeWhile_append]
  split
  · rw [List.length_append, taken]
  · rfl

/-- A match that begins in the text and takes the mark takes any word. -/
theorem matchLength_settled (settled : Settled isSpace rule text) (notEmpty : text ≠ [])
    (noSpace : isSpace mark = false) (before : Option α) {token after : List α}
    (isWord : IsWord isSpace token) (ends : Ends isSpace after) :
    matchLength isSpace rule before (text ++ (token ++ after)) =
      (matchLength isSpace rule before (text ++ [mark])).map fun count =>
        if text.length < count then text.length + token.length else count := by
  have marked := isWord_singleton noSpace
  obtain ⟨same, bounded⟩ := settled [] text rfl notEmpty before (token ++ after) [mark]
    (isWord.begins after) (marked.begins [])
  unfold matchLength
  rw [← same]
  cases opened : rule.opening before (text ++ (token ++ after)) with
  | none => rfl
  | some count =>
      have inside := bounded count opened
      have withToken := length_word_drop inside isWord ends
      have withMark := length_word_drop inside marked ends_nil
      rw [List.append_nil] at withMark
      have size := @List.length_drop α count text
      have positive : 0 < token.length := List.length_pos_of_ne_nil isWord.1
      simp only [Option.bind_some, withToken, withMark, List.length_singleton]
      split
      · rw [if_neg (by omega), if_neg (by omega), Option.map_some, if_pos (by omega)]
        congr 1
        omega
      · rename_i stops
        have shorter : (word isSpace (text.drop count)).length ≤ (text.drop count).length :=
          (List.takeWhile_sublist _).length_le
        split
        · rfl
        · rw [Option.map_some, if_neg (by omega)]

/-- A match that does not take the mark ends in front of the end of the text. -/
theorem matchLength_mark_ne (settled : Settled isSpace rule text) (notEmpty : text ≠ [])
    (noSpace : isSpace mark = false) {before : Option α} {count : Nat}
    (matched : matchLength isSpace rule before (text ++ [mark]) = some count) :
    count ≠ text.length := by
  have marked := isWord_singleton noSpace
  have bounded := (settled [] text rfl notEmpty before [mark] [mark]
    (marked.begins []) (marked.begins [])).2
  unfold matchLength at matched
  cases opened : rule.opening before (text ++ [mark]) with
  | none =>
      rw [opened] at matched
      cases matched
  | some start =>
      have inside := bounded start opened
      have withMark := length_word_drop inside marked ends_nil
      rw [List.append_nil] at withMark
      have size := @List.length_drop α start text
      have shorter : (word isSpace (text.drop start)).length ≤ (text.drop start).length :=
        (List.takeWhile_sublist _).length_le
      rw [opened] at matched
      simp only [Option.bind_some, withMark, List.length_singleton] at matched
      split at matched
      · rw [if_neg (by omega)] at matched
        have length := Option.some.inj matched
        omega
      · split at matched
        · cases matched
        · have length := Option.some.inj matched
          omega

end Settled

/-! ## Reading on behind a text -/

section Scan

variable {isSpace} {rule : Rule α} {mark : α}

/-- The item in front of what follows a text. -/
def lastOr (before : Option α) (text : List α) : Option α := text.getLast?.or before

theorem lastOr_cons (before : Option α) (item : α) (rest : List α) :
    lastOr before (item :: rest) = lastOr (some item) rest := by
  unfold lastOr
  rw [List.getLast?_cons]
  cases rest.getLast? <;> rfl

/-- What is left of a text of which some items were taken. -/
theorem substituteFrom_eq_drop (taken : Nat) (before : Option α) (text : List α) :
    substituteFrom isSpace rule taken before text =
      substituteFrom isSpace rule 0 (lastOr before (text.take taken)) (text.drop taken) := by
  induction text generalizing taken before with
  | nil => simp [substituteFrom]
  | cons item text ih =>
      cases taken with
      | zero => rfl
      | succ less =>
          rw [substituteFrom, ih, List.take_succ_cons, lastOr_cons, List.drop_succ_cons]

/-- Where no opening begins the item is kept. -/
theorem substituteFrom_of_none {before : Option α} {item : α} {rest : List α}
    (nothing : rule.opening before (item :: rest) = none) :
    substituteFrom isSpace rule 0 before (item :: rest) =
      item :: substituteFrom isSpace rule 0 (some item) rest := by
  rw [substituteFrom, matchLength, nothing, Option.bind_none]

/-- At a space no opening begins. -/
def IgnoresSpace (isSpace : α → Bool) (rule : Rule α) : Prop :=
  ∀ before item rest, isSpace item = true → rule.opening before (item :: rest) = none

section Ignores

variable (ignores : IgnoresSpace isSpace rule)

include ignores

theorem substituteFrom_space {item : α} (space : isSpace item = true) (before : Option α)
    (rest : List α) : substituteFrom isSpace rule 0 before (item :: rest) =
      item :: substituteFrom isSpace rule 0 (some item) rest :=
  substituteFrom_of_none (ignores before item rest space)

/-- In front of a space it does not matter what is before. -/
theorem substituteFrom_of_ends {rest : List α} (ends : Ends isSpace rest) (before : Option α) :
    substituteFrom isSpace rule 0 before rest = substitute isSpace rule rest := by
  cases rest with
  | nil => rfl
  | cons item rest =>
      have space := ends item rfl
      rw [substitute, substituteFrom_space ignores space, substituteFrom_space ignores space]

theorem ends_substitute {rest : List α} (ends : Ends isSpace rest) :
    Ends isSpace (substitute isSpace rule rest) := by
  cases rest with
  | nil => exact ends_nil
  | cons item rest =>
      rw [substitute, substituteFrom_space ignores (ends item rfl)]
      exact ends

/-- Items that are all taken, and then what ends a word. -/
theorem substituteFrom_append_of_ends {text rest : List α} {taken : Nat}
    (all : taken = text.length) (ends : Ends isSpace rest) (before : Option α) :
    substituteFrom isSpace rule taken before (text ++ rest) = substitute isSpace rule rest := by
  rw [substituteFrom_eq_drop, all, List.drop_left, substituteFrom_of_ends ignores ends]

end Ignores

theorem overrunFrom_pos {behind : List α} {taken : Nat} {before : Option α} {text : List α}
    (runsOn : text.length < taken) : 0 < overrunFrom isSpace rule behind taken before text := by
  induction text generalizing taken before with
  | nil => simpa [overrunFrom] using runsOn
  | cons item text ih =>
      cases taken with
      | zero => cases runsOn
      | succ less =>
          rw [overrunFrom]
          exact ih (Nat.lt_of_succ_lt_succ runsOn)

theorem drop_length_word (text : List α) : text.drop (word isSpace text).length =
    text.dropWhile fun item => !isSpace item := by
  have parts : word isSpace text ++ text.dropWhile (fun item => !isSpace item) = text :=
    List.takeWhile_append_dropWhile
  calc text.drop (word isSpace text).length
      = (word isSpace text ++ text.dropWhile fun item => !isSpace item).drop
          (word isSpace text).length := by rw [parts]
    _ = text.dropWhile fun item => !isSpace item := List.drop_left

/-- A match is not empty, and ends where its word ends. -/
theorem matchLength_ends {before : Option α} {text : List α} {count : Nat}
    (matched : matchLength isSpace rule before text = some count) :
    0 < count ∧ Ends isSpace (text.drop count) := by
  unfold matchLength at matched
  obtain ⟨start, -, taken⟩ := Option.bind_eq_some_iff.mp matched
  split at taken
  · cases taken
  · rename_i notEmpty
    cases taken
    refine ⟨by omega, ?_⟩
    rw [← List.drop_drop, drop_length_word]
    intro item first
    have stops := List.head?_dropWhile_not (fun item => !isSpace item) (text.drop start)
    rw [first] at stops
    simpa using stops

/-- **A word behind a settled text is taken by a match that begins in the text, or what
becomes of the text stands in front of what becomes of the rest.** -/
theorem substituteFrom_settled {mark : α} (noSpace : isSpace mark = false)
    (ignores : IgnoresSpace isSpace rule) {text : List α}
    (settled : Settled isSpace rule text) (taken : Nat) (before : Option α)
    (inside : taken < text.length ∨ taken = 0) :
    (0 < overrunFrom isSpace rule [mark] taken before text ∧
      ∃ output, ∀ token after, IsWord isSpace token → Ends isSpace after →
        substituteFrom isSpace rule taken before (text ++ (token ++ after)) =
          output ++ substitute isSpace rule after) ∨
    (overrunFrom isSpace rule [mark] taken before text = 0 ∧
      ∃ output, output.getLast? = text.getLast? ∧
        ∀ token after, IsWord isSpace token → Ends isSpace after →
          substituteFrom isSpace rule taken before (text ++ (token ++ after)) =
            output ++ substituteFrom isSpace rule 0 (lastOr before text) (token ++ after)) := by
  induction text generalizing taken before with
  | nil =>
      obtain rfl : taken = 0 := by
        rcases inside with absurdity | zero
        · cases absurdity
        · exact zero
      exact .inr ⟨rfl, [], rfl, fun token after _ _ => rfl⟩
  | cons item text ih =>
      cases taken with
      | succ less =>
          have shorter : less < text.length := by
            rcases inside with shorter | absurdity
            · exact Nat.lt_of_succ_lt_succ shorter
            · cases absurdity
          have notEmpty : text ≠ [] := List.ne_nil_of_length_pos (by omega)
          simp only [overrunFrom, List.cons_append, substituteFrom, lastOr_cons,
            List.getLast?_cons_of_ne_nil notEmpty]
          exact ih settled.tail less (some item) (.inl shorter)
      | zero =>
          have same : ∀ token after, IsWord isSpace token → Ends isSpace after → _ :=
            fun token after isWord ends => matchLength_settled settled (List.cons_ne_nil _ _)
              noSpace before isWord ends
          cases matched : matchLength isSpace rule before (item :: text ++ [mark]) with
          | none =>
              have kept : ∀ token after, IsWord isSpace token → Ends isSpace after →
                  substituteFrom isSpace rule 0 before (item :: text ++ (token ++ after)) =
                    item :: substituteFrom isSpace rule 0 (some item)
                      (text ++ (token ++ after)) := by
                intro token after isWord ends
                have nothing := same token after isWord ends
                rw [matched, Option.map_none, List.cons_append] at nothing
                rw [List.cons_append, substituteFrom, nothing]
              have scanned : overrunFrom isSpace rule [mark] 0 before (item :: text) =
                  overrunFrom isSpace rule [mark] 0 (some item) text := by
                rw [overrunFrom, matched]
              rw [scanned]
              rcases ih settled.tail 0 (some item) (.inr rfl) with ⟨runsOn, output, becomes⟩ |
                ⟨runsOn, output, last, becomes⟩
              · refine .inl ⟨runsOn, item :: output, fun token after isWord ends => ?_⟩
                rw [kept token after isWord ends, becomes token after isWord ends]
                rfl
              · refine .inr ⟨runsOn, item :: output, ?_, fun token after isWord ends => ?_⟩
                · rw [List.getLast?_cons, List.getLast?_cons, last]
                · rw [kept token after isWord ends, becomes token after isWord ends, lastOr_cons]
                  rfl
          | some count =>
              obtain ⟨more, rfl⟩ : ∃ more, count = more + 1 :=
                Nat.exists_eq_add_one.mpr (matchLength_ends matched).1
              have scanned : overrunFrom isSpace rule [mark] 0 before (item :: text) =
                  overrunFrom isSpace rule [mark] more (some item) text := by
                rw [overrunFrom, matched]
              rw [scanned]
              rcases Nat.lt_trichotomy (item :: text).length (more + 1) with
                longer | exactly | shorter
              · refine .inl ⟨overrunFrom_pos (Nat.lt_of_succ_lt_succ longer), rule.replacement,
                  fun token after isWord ends => ?_⟩
                have taken := same token after isWord ends
                rw [matched, Option.map_some, if_pos longer, List.cons_append, List.length_cons,
                  Nat.add_right_comm] at taken
                rw [List.cons_append, substituteFrom, taken]
                dsimp only
                rw [← List.append_assoc,
                  substituteFrom_append_of_ends ignores (List.length_append).symm ends]
              · exact absurd exactly.symm
                  (matchLength_mark_ne settled (List.cons_ne_nil _ _) noSpace matched)
              · have inText : more < text.length := Nat.lt_of_succ_lt_succ shorter
                have notEmpty : text ≠ [] := List.ne_nil_of_length_pos (by omega)
                have replaced : ∀ token after, IsWord isSpace token → Ends isSpace after →
                    substituteFrom isSpace rule 0 before (item :: text ++ (token ++ after)) =
                      rule.replacement ++ substituteFrom isSpace rule more (some item)
                        (text ++ (token ++ after)) := by
                  intro token after isWord ends
                  have taken := same token after isWord ends
                  rw [matched, Option.map_some, if_neg (Nat.not_lt_of_lt shorter),
                    List.cons_append] at taken
                  rw [List.cons_append, substituteFrom, taken]
                rcases ih settled.tail more (some item) (.inl inText) with
                  ⟨runsOn, output, becomes⟩ | ⟨runsOn, output, last, becomes⟩
                · refine .inl ⟨runsOn, rule.replacement ++ output,
                    fun token after isWord ends => ?_⟩
                  rw [replaced token after isWord ends, becomes token after isWord ends,
                    List.append_assoc]
                · refine .inr ⟨runsOn, rule.replacement ++ output, ?_,
                    fun token after isWord ends => ?_⟩
                  · rw [List.getLast?_cons_of_ne_nil notEmpty, List.getLast?_append, last,
                      List.getLast?_eq_some_getLast notEmpty, Option.some_or]
                  · rw [replaced token after isWord ends, becomes token after isWord ends,
                      lastOr_cons, List.append_assoc]

/-- What becomes of a word is a word.  What stands behind it is what becomes of the rest that
the matches in the word leave. -/
theorem substituteFrom_word (ignores : IgnoresSpace isSpace rule)
    (replacement : IsWord isSpace rule.replacement) {token after : List α}
    (noSpace : ∀ item ∈ token, isSpace item = false) (ends : Ends isSpace after) (taken : Nat)
    (before : Option α) (stops : taken = 0 ∨ Ends isSpace ((token ++ after).drop taken)) :
    Ends isSpace (after.drop (overrunFrom isSpace rule after taken before token)) ∧
    ∃ output, (∀ item ∈ output, isSpace item = false) ∧
      (taken = 0 → token ≠ [] → output ≠ []) ∧
      substituteFrom isSpace rule taken before (token ++ after) =
        output ++ substitute isSpace rule
          (after.drop (overrunFrom isSpace rule after taken before token)) := by
  induction token generalizing taken before with
  | nil =>
      have left : Ends isSpace (after.drop taken) := by
        rcases stops with rfl | stops
        · exact ends
        · exact stops
      refine ⟨left, [], fun _ absurdity => absurd absurdity List.not_mem_nil,
        fun _ absurdity => absurd rfl absurdity, ?_⟩
      rw [overrunFrom, List.nil_append, List.nil_append, substituteFrom_eq_drop,
        substituteFrom_of_ends ignores left]
  | cons item token ih =>
      have ofRest := ih fun other mem => noSpace other (List.mem_cons_of_mem _ mem)
      cases taken with
      | succ less =>
          have behind : Ends isSpace ((token ++ after).drop less) := by
            rcases stops with absurdity | stops
            · cases absurdity
            · exact stops
          obtain ⟨left, output, spaceless, -, becomes⟩ := ofRest less (some item) (.inr behind)
          rw [overrunFrom]
          exact ⟨left, output, spaceless, fun absurdity => absurd absurdity (Nat.succ_ne_zero _),
            becomes⟩
      | zero =>
          cases matched : matchLength isSpace rule before (item :: token ++ after) with
          | none =>
              obtain ⟨left, output, spaceless, -, becomes⟩ := ofRest 0 (some item) (.inl rfl)
              rw [overrunFrom, matched]
              refine ⟨left, item :: output, ?_, fun _ _ => List.cons_ne_nil _ _, ?_⟩
              · intro other mem
                rcases List.mem_cons.mp mem with rfl | mem
                · exact noSpace other List.mem_cons_self
                · exact spaceless other mem
              · rw [List.cons_append] at matched
                rw [List.cons_append, substituteFrom, matched]
                exact congrArg (item :: ·) becomes
          | some count =>
              obtain ⟨positive, behind⟩ := matchLength_ends matched
              obtain ⟨more, rfl⟩ := Nat.exists_eq_add_one.mpr positive
              obtain ⟨left, output, spaceless, -, becomes⟩ :=
                ofRest more (some item) (.inr behind)
              rw [overrunFrom, matched]
              refine ⟨left, rule.replacement ++ output, ?_, ?_, ?_⟩
              · intro other mem
                rcases List.mem_append.mp mem with mem | mem
                · exact replacement.2 other mem
                · exact spaceless other mem
              · intro _ _ nothing
                exact replacement.1 (List.append_eq_nil_iff.mp nothing).1
              · rw [List.cons_append] at matched
                rw [List.cons_append, substituteFrom, matched, List.append_assoc]
                exact congrArg (rule.replacement ++ ·) becomes

end Scan

end Substitution
