import Mathlib.Data.List.Basic
import Mathlib.Tactic.Common

/-!
# Reading JSON as Python does

`json.loads` on a text: the value it returns, or how it fails.  Besides the texts that are
no JSON, it fails on an integer literal with more digits than Python converts, and on
nesting that is too deep.  Its texts are sequences of code points: an escape may stand for
half of a surrogate pair, which no encoded text contains.

The scanner is written with fuel, and there is always enough (`loads_ne_exhausted`).
-/

set_option autoImplicit false

namespace Loads

/-! ## Values -/

/-- A text of Python. -/
abbrev CodePoints := List Nat

def codePoints (text : String) : CodePoints := text.toList.map Char.toNat

def isSurrogate (point : Nat) : Bool := 0xD800 ≤ point && point ≤ 0xDFFF

/-- A value that `json.loads` returns; the fields of an object are in the order of their
first occurrence. -/
inductive Value where
  | null
  | bool (value : Bool)
  | int (value : Int)
  | float (literal : String)
  | string (text : CodePoints)
  | array (items : List Value)
  | object (fields : List (CodePoints × Value))

/-- How reading fails: at a position, given by how much of the text is left there; on an
integer with too many digits; on nesting that is too deep. -/
inductive Failure where
  | decode (left : Nat)
  | digits
  | recursion
  | exhausted
  deriving DecidableEq

/-- A value and what is left of the text after it. -/
abbrev Scanned (α : Type) := Except Failure (α × List Char)

def isSpace (c : Char) : Bool := c == ' ' || c == '\t' || c == '\n' || c == '\r'

def skipSpace (text : List Char) : List Char := text.dropWhile isSpace

/-! ## Strings -/

def hexDigit (c : Char) : Option Nat :=
  if '0' ≤ c ∧ c ≤ '9' then some (c.toNat - '0'.toNat)
  else if 'a' ≤ c ∧ c ≤ 'f' then some (c.toNat - 'a'.toNat + 10)
  else if 'A' ≤ c ∧ c ≤ 'F' then some (c.toNat - 'A'.toNat + 10)
  else none

/-- Four hexadecimal digits that are not the end of the text. -/
def hexUnit : List Char → Option (Nat × List Char)
  | a :: b :: c :: d :: rest =>
      if rest = [] then none
      else do
        let a ← hexDigit a
        let b ← hexDigit b
        let c ← hexDigit c
        let d ← hexDigit d
        return (((a * 16 + b) * 16 + c) * 16 + d, rest)
  | _ => none

def isHighSurrogate (unit : Nat) : Bool := 0xD800 ≤ unit && unit ≤ 0xDBFF

def isLowSurrogate (unit : Nat) : Bool := 0xDC00 ≤ unit && unit ≤ 0xDFFF

/-- The code point of an escape by hexadecimal digits, after its `u`. -/
def scanHexEscape (text : List Char) : Scanned (Option Nat) :=
  match hexUnit text with
  | none => .error (.decode (text.length + 1))
  | some (unit, rest) =>
      if isHighSurrogate unit = true ∧ rest.take 2 = ['\\', 'u'] ∧ 6 < rest.length then
        match hexUnit (rest.drop 2) with
        | none => .error (.decode (rest.length - 1))
        | some (low, after) =>
            if isLowSurrogate low = true then
              .ok (some (0x10000 + (unit - 0xD800) * 0x400 + (low - 0xDC00)), after)
            else .ok (some unit, rest)
      else .ok (some unit, rest)

def simpleEscape (c : Char) : Option Nat :=
  if c = '"' ∨ c = '\\' ∨ c = '/' then some c.toNat
  else if c = 'b' then some 8
  else if c = 'f' then some 12
  else if c = 'n' then some 10
  else if c = 'r' then some 13
  else if c = 't' then some 9
  else none

def scanEscape (opening : Nat) : List Char → Scanned (Option Nat)
  | [] => .error (.decode opening)
  | c :: rest =>
      if c = 'u' then scanHexEscape rest
      else match simpleEscape c with
        | some point => .ok (some point, rest)
        | none => .error (.decode (rest.length + 2))

/-- One code point of a string, or its end. -/
def scanUnit (opening : Nat) : List Char → Scanned (Option Nat)
  | [] => .error (.decode opening)
  | c :: rest =>
      if c = '"' then .ok (none, rest)
      else if c = '\\' then scanEscape opening rest
      else if c.toNat < 32 then .error (.decode (rest.length + 1))
      else .ok (some c.toNat, rest)

/-- A string after its opening quote, of which `opening` is left. -/
def scanString (opening : Nat) : Nat → List Char → Scanned CodePoints
  | 0, _ => .error .exhausted
  | fuel + 1, text =>
      match scanUnit opening text with
      | .error failure => .error failure
      | .ok (none, rest) => .ok ([], rest)
      | .ok (some point, rest) =>
          match scanString opening fuel rest with
          | .error failure => .error failure
          | .ok (points, rest) => .ok (point :: points, rest)

/-! ## Numbers -/

/-- How many digits of an integer Python converts. -/
def maxDigits : Nat := 4300

def isDigit (c : Char) : Bool := '0' ≤ c && c ≤ '9'

def scanFraction : List Char → List Char × List Char
  | '.' :: c :: rest =>
      if isDigit c then ('.' :: c :: rest.takeWhile isDigit, rest.dropWhile isDigit)
      else ([], '.' :: c :: rest)
  | text => ([], text)

def scanSign : List Char → List Char × List Char
  | c :: rest => if c = '+' ∨ c = '-' then ([c], rest) else ([], c :: rest)
  | [] => ([], [])

def scanExponent : List Char → List Char × List Char
  | c :: rest =>
      if (c = 'e' ∨ c = 'E') ∧ (scanSign rest).2.takeWhile isDigit ≠ [] then
        (c :: (scanSign rest).1 ++ (scanSign rest).2.takeWhile isDigit,
          (scanSign rest).2.dropWhile isDigit)
      else ([], c :: rest)
  | [] => ([], [])

def digitsValue (digits : List Char) : Nat :=
  digits.foldl (fun value c => value * 10 + (c.toNat - '0'.toNat)) 0

/-- A number after its sign and its whole digits. -/
def finishNumber (negative : Bool) (whole rest : List Char) : Scanned Value :=
  let fraction := scanFraction rest
  let exponent := scanExponent fraction.2
  if fraction.1 = [] ∧ exponent.1 = [] then
    if maxDigits < whole.length then .error .digits
    else .ok (.int (if negative then -digitsValue whole else digitsValue whole), rest)
  else .ok (.float (String.ofList ((if negative then ['-'] else []) ++ whole ++ fraction.1 ++
    exponent.1)), exponent.2)

def scanWhole (negative : Bool) (left : Nat) : List Char → Scanned Value
  | [] => .error (.decode left)
  | c :: rest =>
      if c = '0' then finishNumber negative [c] rest
      else if isDigit c then
        finishNumber negative (c :: rest.takeWhile isDigit) (rest.dropWhile isDigit)
      else .error (.decode left)

def scanNumber (text : List Char) : Scanned Value :=
  match text with
  | [] => .error (.decode 0)
  | c :: rest =>
      if c = '-' then scanWhole true (rest.length + 1) rest
      else scanWhole false (rest.length + 1) (c :: rest)

/-- A literal or a number. -/
def scanAtom (text : List Char) : Scanned Value :=
  if "null".toList.isPrefixOf text then .ok (.null, text.drop 4)
  else if "true".toList.isPrefixOf text then .ok (.bool true, text.drop 4)
  else if "false".toList.isPrefixOf text then .ok (.bool false, text.drop 5)
  else if "NaN".toList.isPrefixOf text then .ok (.float "NaN", text.drop 3)
  else if "Infinity".toList.isPrefixOf text then .ok (.float "Infinity", text.drop 8)
  else if "-Infinity".toList.isPrefixOf text then .ok (.float "-Infinity", text.drop 9)
  else scanNumber text

/-! ## Values of any kind -/

/-- A dictionary with one more item. -/
def insertField (fields : List (CodePoints × Value)) (field : CodePoints × Value) :
    List (CodePoints × Value) :=
  if fields.any fun other => other.1 = field.1 then
    fields.map fun other => if other.1 = field.1 then field else other
  else fields ++ [field]

mutual

/-- The value that a text starts with, at a nesting that may grow by `depth`. -/
def scanOnce : Nat → Nat → List Char → Scanned Value
  | 0, _, _ => .error .exhausted
  | _ + 1, _, [] => .error (.decode 0)
  | fuel + 1, depth, c :: rest =>
      if c = '"' then
        (scanString (rest.length + 1) fuel rest).map fun found => (.string found.1, found.2)
      else if c = '{' then
        if depth = 0 then .error .recursion
        else if (skipSpace rest).head? = some '}' then
          .ok (.object [], (skipSpace rest).tail)
        else (scanFields fuel (depth - 1) (skipSpace rest)).map fun found =>
          (.object (found.1.foldl insertField []), found.2)
      else if c = '[' then
        if depth = 0 then .error .recursion
        else if (skipSpace rest).head? = some ']' then
          .ok (.array [], (skipSpace rest).tail)
        else (scanItems fuel (depth - 1) (skipSpace rest)).map fun found =>
          (.array found.1, found.2)
      else scanAtom (c :: rest)

/-- The items of an array up to its end. -/
def scanItems : Nat → Nat → List Char → Scanned (List Value)
  | 0, _, _ => .error .exhausted
  | fuel + 1, depth, text =>
      (scanOnce fuel depth text).bind fun item =>
        match skipSpace item.2 with
        | [] => .error (.decode 0)
        | c :: rest =>
            if c = ']' then .ok ([item.1], rest)
            else if c = ',' then
              (scanItems fuel depth (skipSpace rest)).map fun items =>
                (item.1 :: items.1, items.2)
            else .error (.decode (rest.length + 1))

/-- The fields of an object up to its end. -/
def scanFields : Nat → Nat → List Char → Scanned (List (CodePoints × Value))
  | 0, _, _ => .error .exhausted
  | _ + 1, _, [] => .error (.decode 0)
  | fuel + 1, depth, c :: text =>
      if c = '"' then
        (scanString (text.length + 1) fuel text).bind fun key =>
          match skipSpace key.2 with
          | [] => .error (.decode 0)
          | c :: rest =>
              if c = ':' then
                (scanOnce fuel depth (skipSpace rest)).bind fun value =>
                  match skipSpace value.2 with
                  | [] => .error (.decode 0)
                  | c :: rest =>
                      if c = '}' then .ok ([(key.1, value.1)], rest)
                      else if c = ',' then
                        (scanFields fuel depth (skipSpace rest)).map fun fields =>
                          ((key.1, value.1) :: fields.1, fields.2)
                      else .error (.decode (rest.length + 1))
              else .error (.decode (rest.length + 1))
      else .error (.decode (text.length + 1))

end

/-- `json.loads`, where nesting may be `depth` deep. -/
def loads (depth : Nat) (text : String) : Except Failure Value :=
  if text.toList.head? = some '\uFEFF' then .error (.decode text.length)
  else
    (scanOnce (2 * text.length + 1) depth (skipSpace text.toList)).bind fun found =>
      match skipSpace found.2 with
      | [] => .ok found.1
      | _ :: rest => .error (.decode (rest.length + 1))

/-- `lineno` and `colno` of a failure where so much of a text is left. -/
def lineAndColumn (text : String) (left : Nat) : Nat × Nat :=
  let before := text.toList.take (text.length - left)
  (before.count '\n' + 1, (before.reverse.takeWhile (· != '\n')).length + 1)

/-! ## Fuel -/

/-- A scan that leaves less than it was given, or fails for a reason in the text. -/
def Shrinks {α : Type} (text : List Char) : Scanned α → Prop
  | .ok (_, rest) => rest.length < text.length
  | .error failure => failure ≠ .exhausted

section Shrinks

variable {α β : Type} {text : List Char} {scanned : Scanned α}

theorem Shrinks.mono {longer : List Char} (shrinks : Shrinks text scanned)
    (within : text.length ≤ longer.length) : Shrinks longer scanned := by
  cases scanned with
  | error failure => exact shrinks
  | ok found => exact Nat.lt_of_lt_of_le shrinks within

theorem Shrinks.map (shrinks : Shrinks text scanned) {f : α × List Char → β × List Char}
    (same : ∀ found, (f found).2 = found.2) : Shrinks text (scanned.map f) := by
  cases scanned with
  | error failure => exact shrinks
  | ok found =>
      change (f found).2.length < text.length
      rw [same]
      exact shrinks

theorem Shrinks.bind (shrinks : Shrinks text scanned) {f : α × List Char → Scanned β}
    (next : ∀ item rest, rest.length < text.length → Shrinks text (f (item, rest))) :
    Shrinks text (scanned.bind f) := by
  cases scanned with
  | error failure => exact shrinks
  | ok found => exact next found.1 found.2 shrinks

theorem shrinks_decode (left : Nat) : Shrinks text (.error (.decode left) : Scanned α) := by
  intro absurdity
  cases absurdity

theorem length_skipSpace_le (text : List Char) : (skipSpace text).length ≤ text.length :=
  (List.dropWhile_sublist isSpace).length_le

theorem hexUnit_shorter {unit : Nat} {rest : List Char}
    (read : hexUnit text = some (unit, rest)) : rest.length < text.length := by
  unfold hexUnit at read
  split at read
  · split at read
    · cases read
    · simp only [Option.bind_eq_bind, Option.bind_eq_some_iff, Option.pure_def,
        Option.some.injEq, Prod.mk.injEq] at read
      obtain ⟨_, _, _, _, _, _, _, _, _, rfl⟩ := read
      simp only [List.length_cons]
      omega
  · cases read

theorem scanHexEscape_shrinks (text : List Char) : Shrinks text (scanHexEscape text) := by
  unfold scanHexEscape
  split
  · exact shrinks_decode _
  · rename_i unit rest read
    have shorter := hexUnit_shorter read
    split
    · split
      · exact shrinks_decode _
      · rename_i low after readLow
        have lowShorter := hexUnit_shorter readLow
        rw [List.length_drop] at lowShorter
        split
        · change after.length < text.length
          omega
        · exact shorter
    · exact shorter

theorem scanUnit_shrinks (opening : Nat) (text : List Char) :
    Shrinks text (scanUnit opening text) := by
  cases text with
  | nil => exact shrinks_decode _
  | cons c rest =>
      rw [scanUnit]
      split
      · exact Nat.lt_succ_self _
      · split
        · cases rest with
          | nil => exact shrinks_decode _
          | cons escaped rest =>
              rw [scanEscape]
              split
              · refine (scanHexEscape_shrinks rest).mono ?_
                simp only [List.length_cons]
                omega
              · split
                · change rest.length < (c :: escaped :: rest).length
                  simp only [List.length_cons]
                  omega
                · exact shrinks_decode _
        · split
          · exact shrinks_decode _
          · exact Nat.lt_succ_self _

theorem scanString_shrinks (opening : Nat) {fuel : Nat} {text : List Char}
    (enough : text.length < fuel) : Shrinks text (scanString opening fuel text) := by
  induction fuel generalizing text with
  | zero => omega
  | succ fuel ih =>
      have first := scanUnit_shrinks opening text
      unfold scanString
      split
      · rename_i failure failed
        rw [failed] at first
        exact first
      · rename_i rest read
        rw [read] at first
        exact first
      · rename_i point rest read
        rw [read] at first
        have shorter : rest.length < text.length := first
        have others := ih (by omega : rest.length < fuel)
        split
        · rename_i failure failed
          rw [failed] at others
          exact others
        · rename_i points left scanned
          rw [scanned] at others
          exact Nat.lt_trans others shorter

theorem scanFraction_length_le (text : List Char) :
    (scanFraction text).2.length ≤ text.length := by
  unfold scanFraction
  split
  · rename_i c rest
    split
    · have shorter := (List.dropWhile_sublist isDigit (l := rest)).length_le
      simp only [List.length_cons]
      omega
    · exact Nat.le_refl _
  · exact Nat.le_refl _

theorem scanSign_length_le (text : List Char) : (scanSign text).2.length ≤ text.length := by
  unfold scanSign
  split
  · split
    · simp
    · exact Nat.le_refl _
  · exact Nat.le_refl _

theorem scanExponent_length_le (text : List Char) :
    (scanExponent text).2.length ≤ text.length := by
  unfold scanExponent
  split
  · rename_i c rest
    split
    · have shorter := (List.dropWhile_sublist isDigit (l := (scanSign rest).2)).length_le
      have sign := scanSign_length_le rest
      simp only [List.length_cons]
      omega
    · exact Nat.le_refl _
  · exact Nat.le_refl _

theorem finishNumber_shrinks {negative : Bool} {whole rest : List Char}
    (shorter : rest.length < text.length) : Shrinks text (finishNumber negative whole rest) := by
  have fraction := scanFraction_length_le rest
  have exponent := scanExponent_length_le (scanFraction rest).2
  unfold finishNumber
  dsimp only
  split
  · split
    · intro absurdity
      cases absurdity
    · exact shorter
  · change (scanExponent (scanFraction rest).2).2.length < text.length
    omega

theorem scanWhole_shrinks (negative : Bool) (left : Nat) (text : List Char) :
    Shrinks text (scanWhole negative left text) := by
  unfold scanWhole
  split
  · exact shrinks_decode _
  · rename_i c rest
    split
    · exact finishNumber_shrinks (Nat.lt_succ_self _)
    · split
      · have shorter := (List.dropWhile_sublist isDigit (l := rest)).length_le
        exact finishNumber_shrinks (Nat.lt_succ_of_le shorter)
      · exact shrinks_decode _

theorem scanNumber_shrinks (text : List Char) : Shrinks text (scanNumber text) := by
  unfold scanNumber
  split
  · exact shrinks_decode _
  · split
    · exact (scanWhole_shrinks _ _ _).mono (Nat.le_succ _)
    · exact scanWhole_shrinks _ _ _

theorem drop_shorter {literal : List Char} (isPrefix : literal.isPrefixOf text = true)
    (positive : 0 < literal.length) : (text.drop literal.length).length < text.length := by
  have within := (List.isPrefixOf_iff_prefix.mp isPrefix).length_le
  rw [List.length_drop]
  omega

theorem scanAtom_shrinks (text : List Char) : Shrinks text (scanAtom text) := by
  unfold scanAtom
  split
  · exact drop_shorter ‹_› (by decide)
  · split
    · exact drop_shorter ‹_› (by decide)
    · split
      · exact drop_shorter ‹_› (by decide)
      · split
        · exact drop_shorter ‹_› (by decide)
        · split
          · exact drop_shorter ‹_› (by decide)
          · split
            · exact drop_shorter ‹_› (by decide)
            · exact scanNumber_shrinks text

/-- With fuel for twice the text and more, every scan shrinks its text. -/
theorem scan_shrinks (fuel depth : Nat) (text : List Char) :
    (2 * text.length + 1 ≤ fuel → Shrinks text (scanOnce fuel depth text)) ∧
      (2 * text.length + 2 ≤ fuel → Shrinks text (scanItems fuel depth text)) ∧
      (2 * text.length + 2 ≤ fuel → Shrinks text (scanFields fuel depth text)) := by
  induction fuel generalizing depth text with
  | zero => exact ⟨fun absurdity => by omega, fun absurdity => by omega,
      fun absurdity => by omega⟩
  | succ fuel ih =>
      refine ⟨fun enough => ?_, fun enough => ?_, fun enough => ?_⟩
      · cases text with
        | nil => exact shrinks_decode _
        | cons c rest =>
            have spaces := length_skipSpace_le rest
            rw [List.length_cons] at enough
            rw [scanOnce]
            split
            · refine ((scanString_shrinks _ (by omega)).mono (Nat.le_succ _)).map fun _ => rfl
            · split
              · split
                · intro absurdity
                  cases absurdity
                · split
                  · change (skipSpace rest).tail.length < rest.length + 1
                    rw [List.length_tail]
                    omega
                  · have fields := (ih (depth - 1) (skipSpace rest)).2.2 (by omega)
                    refine (fields.mono ?_).map fun _ => rfl
                    exact Nat.le_succ_of_le spaces
              · split
                · split
                  · intro absurdity
                    cases absurdity
                  · split
                    · change (skipSpace rest).tail.length < rest.length + 1
                      rw [List.length_tail]
                      omega
                    · have items := (ih (depth - 1) (skipSpace rest)).2.1 (by omega)
                      refine (items.mono ?_).map fun _ => rfl
                      exact Nat.le_succ_of_le spaces
                · exact scanAtom_shrinks _
      · rw [scanItems]
        refine ((ih depth text).1 (by omega)).bind fun item rest shorter => ?_
        have spaces := length_skipSpace_le rest
        dsimp only
        split
        · exact shrinks_decode _
        · rename_i c after isRest
          rw [isRest, List.length_cons] at spaces
          have spacesAfter := length_skipSpace_le after
          split
          · change after.length < text.length
            omega
          · split
            · have others := (ih depth (skipSpace after)).2.1 (by omega)
              exact (others.mono (by omega)).map fun _ => rfl
            · exact shrinks_decode _
      · cases text with
        | nil => exact shrinks_decode _
        | cons c text =>
            rw [List.length_cons] at enough
            rw [scanFields]
            split
            · refine ((scanString_shrinks _ (by omega)).mono (Nat.le_succ _)).bind
                fun key rest shorter => ?_
              rw [List.length_cons] at shorter
              have spaces := length_skipSpace_le rest
              dsimp only
              split
              · exact shrinks_decode _
              · rename_i colon after isRest
                rw [isRest, List.length_cons] at spaces
                have spacesAfter := length_skipSpace_le after
                split
                · refine (((ih depth (skipSpace after)).1 (by omega)).mono (by
                    rw [List.length_cons]
                    omega)).bind fun value last lastShorter => ?_
                  rw [List.length_cons] at lastShorter
                  have spacesLast := length_skipSpace_le last
                  dsimp only
                  split
                  · exact shrinks_decode _
                  · rename_i separator final isLast
                    rw [isLast, List.length_cons] at spacesLast
                    have spacesFinal := length_skipSpace_le final
                    split
                    · change final.length < text.length + 1
                      omega
                    · split
                      · have others := (ih depth (skipSpace final)).2.2 (by omega)
                        refine (others.mono ?_).map fun _ => rfl
                        rw [List.length_cons]
                        omega
                      · exact shrinks_decode _
                · exact shrinks_decode _
            · exact shrinks_decode _

/-- `json.loads` never runs out of fuel. -/
theorem loads_ne_exhausted (depth : Nat) (text : String) :
    loads depth text ≠ .error .exhausted := by
  have spaces := length_skipSpace_le text.toList
  rw [String.length_toList] at spaces
  have scans := (scan_shrinks (2 * text.length + 1) depth (skipSpace text.toList)).1 (by omega)
  unfold loads
  split
  · intro absurdity
    cases absurdity
  · cases scanned : scanOnce (2 * text.length + 1) depth (skipSpace text.toList) with
    | error failure =>
        rw [scanned] at scans
        intro same
        exact scans (Except.error.inj same)
    | ok found =>
        dsimp only [Except.bind]
        split
        · intro absurdity
          cases absurdity
        · intro absurdity
          cases absurdity

end Shrinks

end Loads
