import PatchProof.Context.Sources

/-!
# The retriever's patterns

The regular expressions that find hunk headers in a diff and callable references in the
text of a prompt, as scanners.  In each of them a repetition is followed by a character
that it cannot match, so the longest match is the only one, except that the pattern of a
qualified class gives back the last parts of a dotted name until a capital follows.
-/

set_option autoImplicit false

namespace PatchProof

variable (runtime : PythonRuntime)

/-! ## Hunk headers -/

/-- The rest of the text after a token. -/
def afterToken? (token : String) (text : List Char) : Option (List Char) :=
  if token.toList.isPrefixOf text then some (text.drop token.length) else none

/-- The number at the head of the text. -/
def headNumber? (text : List Char) : Option (Nat × List Char) :=
  let digits := (text.takeWhile fun c => (runtime.decimal c).isSome).filterMap runtime.decimal
  if digits.isEmpty then none
  else some (digits.foldl (fun number digit => 10 * number + digit) 0, text.drop digits.length)

/-- `(\d+)(?:,(\d+))?`. -/
def headRange? (text : List Char) : Option ((Nat × Option Nat) × List Char) := do
  let (start, rest) ← headNumber? runtime text
  match (afterToken? "," rest).bind (headNumber? runtime) with
  | some (count, rest) => some ((start, some count), rest)
  | none => some ((start, none), rest)

/-- `_HUNK_PATTERN`, the ranges of both sides of a hunk. -/
def hunkHeader? (line : List Char) : Option ((Nat × Option Nat) × (Nat × Option Nat)) := do
  let (old, rest) ← headRange? runtime (← afterToken? "@@ -" line)
  let (new, rest) ← headRange? runtime (← afterToken? " +" rest)
  let _ ← afterToken? " @@" rest
  some (old, new)

/-- The lines that a side of a hunk covers. -/
def hunkLines (side : Nat × Option Nat) : Nat × Nat :=
  let anchor := max 1 side.1
  let count := side.2.getD 1
  (anchor, if count = 0 then anchor else anchor + count - 1)

/-- The ranges of the changed lines of a diff, on one side. -/
def changedRanges (useBase : Bool) (output : String) : List (Nat × Nat) :=
  let headers := (output.toList.splitOn '\n').filterMap (hunkHeader? runtime)
  let ranges := headers.map fun header => hunkLines (if useBase then header.1 else header.2)
  if ranges.isEmpty then [(1, 1)] else ranges

/-! ## References in a prompt -/

/-- An identifier at the head of the text, and what follows it. -/
def headIdentifier? : List Char → Option (String × List Char)
  | c :: rest =>
      if isIdentifierStart c then
        some (String.ofList (c :: rest.takeWhile runtime.isWordChar),
          rest.dropWhile runtime.isWordChar)
      else none
  | [] => none

/-- Where a match at the head of a text may begin again, and what it captured. -/
abbrev Match := String × List Char

/-- `(?:[A-Za-z_]\w*\.)*([A-Za-z_]\w*)\s*\(`, with at most as many parts as fuel. -/
def callableReference? : Nat → List Char → Option Match
  | 0, _ => none
  | fuel + 1, text => do
      let (name, rest) ← headIdentifier? runtime text
      match afterToken? "." rest with
      | some more => callableReference? fuel more
      | none => (afterToken? "(" (rest.dropWhile isSpace)).map fun rest => (name, rest)

/-- `[A-Z][A-Za-z0-9_]*`. -/
def headClass? : List Char → Option Match
  | c :: rest =>
      if 'A' ≤ c ∧ c ≤ 'Z' then
        some (String.ofList (c :: rest.takeWhile isIdentifierChar),
          rest.dropWhile isIdentifierChar)
      else none
  | [] => none

/-- `(?:[A-Za-z_]\w*\.)+([A-Z][A-Za-z0-9_]*)`, with at most as many parts as fuel. -/
def qualifiedClass? : Nat → List Char → Option Match
  | 0, _ => none
  | fuel + 1, text => do
      let (_, rest) ← headIdentifier? runtime text
      let more ← afterToken? "." rest
      -- More parts come first, and are given back when no capital follows them.
      (qualifiedClass? fuel more).or (headClass? more)

/-- `([A-Za-z_]\w*)\.[A-Z][A-Za-z0-9_]*`. -/
def moduleHint? (text : List Char) : Option Match := do
  let (name, rest) ← headIdentifier? runtime text
  let (_, rest) ← headClass? (← afterToken? "." rest)
  some (name, rest)

/-- `findall`, of a pattern that no identifier character may precede. -/
def findAll (match? : List Char → Option Match) : Nat → Option Char → List Char → List String
  | 0, _, _ => []
  | _, _, [] => []
  | fuel + 1, previous, c :: rest =>
      match if previous.any isIdentifierChar then none else match? (c :: rest) with
      | some (captured, after) =>
          captured :: findAll match? fuel
            ((c :: rest).take ((c :: rest).length - after.length)).getLast? after
      | none => findAll match? fuel (some c) rest

/-- Every match in a text. -/
def findAllIn (match? : Nat → List Char → Option Match) (text : String) : List String :=
  findAll (match? text.length) text.length none text.toList

/-- An interpreter that refuses every source, for evaluating the definitions. -/
def plainRuntime : PythonRuntime where
  decode bytes := some (String.ofList (bytes.map fun byte => Char.ofNat byte.toNat))
  decodeReplacing bytes := String.ofList (bytes.map fun byte => Char.ofNat byte.toNat)
  parse _ := .refused
  isKeyword _ := false
  isBuiltin _ := false
  isWordChar := isIdentifierChar
  decimal c := if c.isDigit then some (c.toNat - 48) else none
  lowercase := lower

example : findAllIn (qualifiedClass? plainRuntime) "x = a.B.c(d.E)" = ["B", "E"] := by
  decide +kernel

end PatchProof
