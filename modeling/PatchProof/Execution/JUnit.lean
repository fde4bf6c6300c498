import Mathlib
import PatchProof.Context.Sources
import PatchProof.Library.Words

/-!
# What a test report says

The parser of the report that pytest writes: one element of a tree for the selected test,
whose children tell how it ended, and a fallback on the output when there is no report.
The characters of a word in a pattern are those of the Unicode database and a parameter.

A failed assertion is told from a crash by the word `assertionerror`, looked for anywhere
in the message and in the traceback.  A crash whose text happens to hold that word is
reported as a failed assertion (`crash_not_assertion_iff`).
-/

set_option autoImplicit false

namespace PatchProof

/-! ## Reports -/

/-- An element of a report. -/
inductive Element where
  | node (tag : String) (attrib : List (String × String)) (text : Option String)
      (children : List Element)

namespace Element

def tag : Element → String
  | node tag _ _ _ => tag

def attrib : Element → List (String × String)
  | node _ attrib _ _ => attrib

def text : Element → Option String
  | node _ _ text _ => text

def children : Element → List Element
  | node _ _ _ children => children

mutual

/-- `root.iter()`. -/
def iter : Element → List Element
  | node tag attrib text children => node tag attrib text children :: iterAll children

def iterAll : List Element → List Element
  | [] => []
  | child :: rest => child.iter ++ iterAll rest

end

/-- `_local_name`: what follows the last closing brace. -/
def localName (element : Element) : String :=
  String.ofList (element.tag.toList.reverse.takeWhile (· != '\x7d')).reverse

def testCases (root : Element) : List Element :=
  root.iter.filter fun element => element.localName == "testcase"

/-- A child by its name; the last one of a name counts. -/
def child? (element : Element) (name : String) : Option Element :=
  (element.children.filter fun child => child.localName == name).getLast?

/-- `attrib.get(name, "")`. -/
def get (element : Element) (name : String) : String := (element.attrib.lookup name).getD ""

def message (element : Element) : String := strip (element.get "message")

def body (element : Element) : String := strip (element.text.getD "")

/-- `_element_detail`. -/
def detail (element : Element) : String :=
  if element.message = "" then element.body
  else if element.body = "" then element.message
  else element.message ++ "\n" ++ element.body

end Element

/-- The report file of a run. -/
inductive Report where
  | absent
  | unreadable (error : String)
  | tree (root : Element)

/-- Normalized facts extracted from the report. -/
structure ParsedPytestResult where
  status : TestExecutionStatus
  collectedCount : Nat
  detail : Option String := none
  deriving DecidableEq

/-! ## Expectations of pytest -/

/-- `text.lstrip()`. -/
def lstrip (text : String) : String := String.ofList (text.toList.dropWhile isSpace)

/-- The rest of the text from each start of a line. -/
def lineStarts (text : List Char) : List (List Char) :=
  text :: (text.tails.filter fun rest => rest.head? == some '\n').map List.tail

section Expectations

variable (isWord : Char → Bool)

/-- The names of exceptions that the pattern recognizes end in one of these. -/
def exceptionEndings : List String := ["Error", "Exception", "Exit", "Interrupt"]

/-- A dotted name of an exception; its ending stands behind a first letter. -/
def isExceptionPath (path : List Char) : Bool :=
  let segments := path.splitOn '.'
  (segments.all fun segment => segment.head?.any isIdentifierStart) &&
    segments.getLast?.any fun segment =>
      exceptionEndings.any fun ending => ending.toList.isSuffixOf (segment.drop 1)

/-- The line of a traceback without its indentation and the mark of an error. -/
def withoutErrorMark (line : List Char) : List Char :=
  match line.dropWhile isSpace with
  | 'E' :: c :: rest => if isSpace c then rest.dropWhile isSpace else 'E' :: c :: rest
  | rest => rest

/-- Whether the text goes on with the name of an exception and a colon. -/
def startsWithException (line : List Char) : Bool :=
  let path := (withoutErrorMark line).takeWhile fun c => isWord c || c == '.'
  isExceptionPath path && ((withoutErrorMark line).drop path.length).head? == some ':'

/-- `_pytest_expectation_failure`. -/
def pytestExpectationFailure (detail : String) : Option String :=
  let firstLine := (splitLines (lstrip detail)).headD ""
  if (lineStarts detail.toList).any (startsWithException isWord) then none
  else if firstLine == "Failed: DID NOT WARN" || startsWith "Failed: DID NOT WARN." firstLine then
    some "PYTEST_EXPECTATION_NOT_MET: expected warning was not emitted"
  else if startsWith "Failed: DID NOT RAISE " firstLine then
    some "PYTEST_EXPECTATION_NOT_MET: expected exception was not raised"
  else none

/-! ## Parsing -/

/-- `_without_report`. -/
def withoutReport (exitCode : Int) (stdout stderr : String) : ParsedPytestResult :=
  let combined := strip (stdout ++ "\n" ++ stderr)
  if exitCode = 5 ∨ isWithin "not found:" (lower combined) = true then
    { status := .notCollected
      collectedCount := 0
      detail := some (orElseText combined "selected pytest node was not collected") }
  else if isWithin "error collecting" (lower combined) || isWithin "collection error" (lower combined) then
    { status := .collectionError, collectedCount := 0, detail := some combined }
  else
    { status := .processError
      collectedCount := 0
      detail := some (orElseText combined
        ("pytest exited with " ++ toString exitCode ++ " without a JUnit report")) }

/-- The result of a test case with an error. -/
def errorResult (testCase error : Element) : ParsedPytestResult :=
  let isCollectionError := isWithin "collection failure" (lower error.detail) ||
    isWithin "error collecting" (lower error.detail) || testCase.get "classname" == ""
  { status := if isCollectionError then .collectionError else .testError
    collectedCount := if isCollectionError then 0 else 1
    detail := some error.detail }

/-- The result of a test case that was skipped. -/
def skippedResult (skipped : Element) : ParsedPytestResult :=
  { status := if isWithin "xfail" (lower (skipped.get "type")) ||
        isWithin "xfail" (lower skipped.detail) then .xfailed else .skipped
    collectedCount := 1
    detail := some skipped.detail }

/-- The result of a test case that failed. -/
def failureResult (failure : Element) : ParsedPytestResult :=
  let detail := failure.detail
  if isWithin "xpass" (lower detail) then
    { status := .xpassed, collectedCount := 1, detail := some detail }
  else match pytestExpectationFailure isWord detail with
    | some expectation =>
        { status := .assertionFailed, collectedCount := 1, detail := some expectation }
    | none =>
        if isWithin "assertionerror" (lower detail) || startsWith "assert " (lstrip detail) then
          { status := .assertionFailed, collectedCount := 1, detail := some detail }
        else { status := .testError, collectedCount := 1, detail := some detail }

/-- The result of a test case with none of these children. -/
def outcomeless (exitCode : Int) (stdout : String) : ParsedPytestResult :=
  if isWithin "XPASS" stdout then
    { status := .xpassed, collectedCount := 1, detail := some "pytest reported an unexpected pass" }
  else if exitCode = 0 then { status := .passed, collectedCount := 1 }
  else
    { status := .processError
      collectedCount := 1
      detail := some ("pytest exited with " ++ toString exitCode ++
        " despite a result without an outcome element") }

/-- `PytestJUnitParser.parse`. -/
def parseReport (report : Report) (exitCode : Int) (stdout stderr : String) : ParsedPytestResult :=
  match report with
  | .absent => withoutReport exitCode stdout stderr
  | .unreadable error =>
      { status := .processError
        collectedCount := 0
        detail := some ("pytest JUnit report could not be parsed: " ++ error) }
  | .tree root =>
      match root.testCases with
      | [] => withoutReport exitCode stdout stderr
      | [testCase] =>
          match testCase.child? "error", testCase.child? "skipped", testCase.child? "failure" with
          | some error, _, _ => errorResult testCase error
          | none, some skipped, _ => skippedResult skipped
          | none, none, some failure => failureResult isWord failure
          | none, none, none => outcomeless exitCode stdout
      | testCases =>
          { status := .multipleTestsCollected
            collectedCount := testCases.length
            detail := some ("selected node collected " ++ toString testCases.length ++
              " tests; exactly one is required") }

end Expectations

/-! ## Words in a detail -/

/-- Whether the message or the text of an element holds a word, in any case. -/
def Element.mentions (element : Element) (word : String) : Bool :=
  isWithin word (lower (element.get "message")) || isWithin word (lower (element.text.getD ""))

theorem isWithin_iff {word text : String} : isWithin word text = true ↔ word.toList <:+: text.toList := by
  rw [isWithin, List.any_eq_true, List.infix_iff_prefix_suffix]
  constructor
  · rintro ⟨rest, suffix, starts⟩
    exact ⟨rest, List.isPrefixOf_iff_prefix.mp starts, (List.mem_tails _ _).mp suffix⟩
  · rintro ⟨rest, starts, suffix⟩
    exact ⟨rest, (List.mem_tails _ _).mpr suffix, List.isPrefixOf_iff_prefix.mpr starts⟩

theorem lowerChar_space {c : Char} (space : isSpace c = true) : lowerChar c = c := by
  simp only [isSpace, Bool.or_eq_true, Bool.and_eq_true, decide_eq_true_eq, beq_iff_eq] at space
  have other : c.toNat ≠ 0x212a := by omega
  have small : ¬ (c.val ≥ 'A'.val ∧ c.val ≤ 'Z'.val) := by
    rintro ⟨above, below⟩
    have low : 'A'.toNat ≤ c.toNat := above
    have high : c.toNat ≤ 'Z'.toNat := below
    simp at low high
    omega
  rw [lowerChar, if_neg other, Char.toLower, dif_neg small]

section Words

variable (word : String) (free : ∀ c ∈ word.toList, isSpace c = false) (nonempty : word.toList ≠ [])

include free nonempty

/-- Space around a text does not matter for a word. -/
theorem isWithin_lower_strip (text : String) :
    isWithin word (lower (strip text)) = isWithin word (lower text) := by
  have outside : ∀ c, isSpace c = true → lowerChar c ∉ word.toList := by
    intro c space mem
    rw [lowerChar_space space] at mem
    exact Bool.false_ne_true ((free c mem).symm.trans space)
  rw [Bool.eq_iff_iff, isWithin_iff, isWithin_iff]
  simp only [lower, strip, String.toList_ofList]
  exact Words.infix_map_trim outside nonempty

/-- A word occurs in a detail when the element mentions it. -/
theorem isWithin_detail (element : Element) :
    isWithin word (lower element.detail) = element.mentions word := by
  have strips := isWithin_lower_strip word free nonempty
  have mentioned : element.mentions word =
      (isWithin word (lower element.message) || isWithin word (lower element.body)) := by
    rw [Element.mentions, Element.message, Element.body, strips, strips]
  rw [mentioned]
  have absent : isWithin word (lower "") = false := by
    rw [← Bool.not_eq_true, isWithin_iff]
    simpa [lower] using nonempty
  by_cases noMessage : element.message = ""
  · rw [Element.detail, if_pos noMessage, noMessage, absent, Bool.false_or]
  · by_cases noBody : element.body = ""
    · rw [Element.detail, if_neg noMessage, if_pos noBody, noBody, absent, Bool.or_false]
    · have feed : '\n' ∉ word.toList := fun mem => by simpa [isSpace] using free '\n' mem
      have parts : (lower (element.message ++ "\n" ++ element.body)).toList =
          (lower element.message).toList ++ '\n' :: (lower element.body).toList := by
        simp [lower, lowerChar_space (c := '\n') (by decide)]
      rw [Element.detail, if_neg noMessage, if_neg noBody, Bool.eq_iff_iff, Bool.or_eq_true,
        isWithin_iff, isWithin_iff, isWithin_iff, parts, Words.infix_cut feed nonempty]

end Words

/-! ## Crashes -/

/-- The name of an exception class that is neither a failed assertion nor a failed expectation. -/
structure IsCrash (name : String) : Prop where
  nonempty : name ≠ ""
  plain : ∀ c ∈ name.toList, isSpace c = false ∧ c ≠ ':'
  notAssertion : name ≠ "AssertionError"
  notExpectation : name ≠ "Failed"

/-- The first line is a start of the text. -/
theorem headD_splitLinesFrom (line text : List Char) :
    ((splitLinesFrom line text).headD "").toList <+: line.reverse ++ text := by
  induction line, text using splitLinesFrom.induct with
  | case1 => simp [splitLinesFrom]
  | case2 line started => simp [splitLinesFrom, started]
  | case3 line rest ih => simp [splitLinesFrom]
  | case4 line c rest notPair isBreak ih =>
      rw [splitLinesFrom.eq_3 _ _ _ notPair, if_pos isBreak]
      simp
  | case5 line c rest notPair notBreak ih =>
      rw [splitLinesFrom.eq_3 _ _ _ notPair, if_neg notBreak]
      simpa using ih

section Crash

variable {name : String} (crash : IsCrash name)

include crash

theorem IsCrash.no_colon : ':' ∉ name.toList := fun mem => (crash.plain ':' mem).2 rfl

/-- A text that starts with the name stays as it is. -/
theorem IsCrash.dropWhile_append (rest : List Char) :
    (name.toList ++ rest).dropWhile isSpace = name.toList ++ rest := by
  cases characters : name.toList with
  | nil => exact absurd (String.toList_eq_nil_iff.mp characters) crash.nonempty
  | cons first more =>
      have stays := (crash.plain first (by simp [characters])).1
      rw [List.cons_append, List.dropWhile_cons_of_neg (by simp [stays])]

theorem IsCrash.lstrip_toList {detail : String} {rest : List Char}
    (starts : detail.toList = name.toList ++ rest) :
    (lstrip detail).toList = name.toList ++ rest := by
  rw [lstrip, String.toList_ofList, starts, crash.dropWhile_append]

/-- The detail of a crash starts with its name and a colon. -/
theorem IsCrash.detail_eq {failure : Element} {text : String}
    (message : failure.get "message" = name ++ ": " ++ text) :
    ∃ rest, failure.detail.toList = name.toList ++ ':' :: rest := by
  have colon : isSpace ':' = false := by decide
  have stripped : ∃ rest, failure.message.toList = name.toList ++ ':' :: rest := by
    have whole : (failure.get "message").toList = name.toList ++ ':' :: ' ' :: text.toList := by
      simp [message]
    refine ⟨((' ' :: text.toList).reverse.dropWhile isSpace).reverse, ?_⟩
    rw [Element.message, strip, String.toList_ofList, whole, crash.dropWhile_append,
      List.reverse_append, List.reverse_cons, List.append_assoc, List.singleton_append,
      Words.dropWhile_append_kept colon]
    simp
  obtain ⟨rest, same⟩ := stripped
  have present : failure.message ≠ "" := by
    intro empty
    rw [empty] at same
    simp at same
  rw [Element.detail, if_neg present]
  split
  · exact ⟨rest, same⟩
  · refine ⟨rest ++ '\n' :: failure.body.toList, ?_⟩
    simp [same]

/-- **A crash is no failed expectation.** -/
theorem IsCrash.no_expectation (isWord : Char → Bool) {detail : String} {rest : List Char}
    (starts : detail.toList = name.toList ++ ':' :: rest) :
    pytestExpectationFailure isWord detail = none := by
  have firstLine : ((splitLines (lstrip detail)).headD "").toList <+: name.toList ++ ':' :: rest := by
    rw [← crash.lstrip_toList starts]
    exact headD_splitLinesFrom [] (lstrip detail).toList
  have other : ∀ {tail : List Char},
      ¬ "Failed".toList ++ ':' :: tail <+: ((splitLines (lstrip detail)).headD "").toList := by
    intro tail stem
    obtain ⟨more, same⟩ := stem.trans firstLine
    rw [List.append_assoc, List.cons_append] at same
    have named := Words.eq_of_first_separator (by decide) crash.no_colon same
    exact crash.notExpectation (String.toList_injective named).symm
  have stems : startsWith "Failed: DID NOT WARN." ((splitLines (lstrip detail)).headD "") = false ∧
      startsWith "Failed: DID NOT RAISE " ((splitLines (lstrip detail)).headD "") = false := by
    constructor
    · rw [← Bool.not_eq_true, startsWith, List.isPrefixOf_iff_prefix]
      exact other
    · rw [← Bool.not_eq_true, startsWith, List.isPrefixOf_iff_prefix]
      exact other
  have line : (splitLines (lstrip detail)).headD "" ≠ "Failed: DID NOT WARN" := by
    intro same
    have stem : "Failed".toList ++ ':' :: " DID NOT WARN".toList <+:
        ((splitLines (lstrip detail)).headD "").toList := by
      rw [same]
      exact List.prefix_rfl
    exact other stem
  simp only [pytestExpectationFailure, stems.1, stems.2, beq_eq_false_iff_ne.mpr line, Bool.or_false,
    Bool.false_eq_true, if_false, ite_self]

/-- The text of a crash does not start as an assertion does. -/
theorem IsCrash.no_assert {detail : String} {rest : List Char}
    (starts : detail.toList = name.toList ++ ':' :: rest) :
    startsWith "assert " (lstrip detail) = false := by
  have noColon : ':' ∉ "assert ".toList := by decide
  rw [← Bool.not_eq_true, startsWith, List.isPrefixOf_iff_prefix, crash.lstrip_toList starts]
  intro stem
  have inName := Words.prefix_cut noColon stem
  have space : ' ' ∈ name.toList := inName.subset (by decide)
  exact absurd (crash.plain ' ' space).1 (by decide)

/-- **What is reported of a crash.** -/
theorem IsCrash.failureResult_status (isWord : Char → Bool) {failure : Element} {text : String}
    (message : failure.get "message" = name ++ ": " ++ text) :
    (failureResult isWord failure).status =
      if failure.mentions "xpass" then .xpassed
      else if failure.mentions "assertionerror" then .assertionFailed else .testError := by
  obtain ⟨rest, starts⟩ := crash.detail_eq message
  have unexpected := crash.no_expectation isWord starts
  have noAssert := crash.no_assert starts
  have xpass := isWithin_detail "xpass" (by simp [isSpace]) (by decide) failure
  have assertion := isWithin_detail "assertionerror" (by simp [isSpace]) (by decide) failure
  simp only [failureResult, xpass, assertion, unexpected, noAssert, Bool.or_false]
  split
  · rfl
  · split <;> rfl

end Crash

/-! ## The result -/

/-- **When a crash is not taken for a failed assertion.**  A report of one test case whose failure
starts with the name of an exception class that is neither `AssertionError` nor `Failed` is not
parsed to a failed assertion if and only if the test case also has an error or was skipped, or
the failure mentions an unexpected pass, or nowhere mentions `assertionerror`. -/
theorem crash_not_assertion_iff (isWord : Char → Bool) (root testCase failure : Element)
    (name text : String) (crash : IsCrash name) (single : root.testCases = [testCase])
    (failed : testCase.child? "failure" = some failure)
    (message : failure.get "message" = name ++ ": " ++ text) (exitCode : Int)
    (stdout stderr : String) :
    (parseReport isWord (.tree root) exitCode stdout stderr).status ≠ .assertionFailed ↔
      (testCase.child? "error").isSome = true ∨ (testCase.child? "skipped").isSome = true ∨
        failure.mentions "xpass" = true ∨ failure.mentions "assertionerror" = false := by
  simp only [parseReport, single, failed]
  cases testCase.child? "error" with
  | some error =>
      simp only [errorResult, Option.isSome_some, true_or, iff_true]
      split <;> simp
  | none =>
      cases testCase.child? "skipped" with
      | some skipped =>
          simp only [skippedResult, Option.isSome_some, true_or, or_true, iff_true]
          split <;> simp
      | none =>
          simp only [crash.failureResult_status isWord message]
          cases failure.mentions "xpass" <;> cases failure.mentions "assertionerror" <;> simp

/-! ## Sample reports -/

def sampleFailure (message : String) (body : Option String) : Element :=
  .node "failure" [("message", message)] body []

def sampleReportOf (failure : Element) : Element :=
  .node "testsuites" [] none [.node "testsuite" [("tests", "1")] none
    [.node "testcase" [("classname", "generated"), ("name", "test_one")] none [failure]]]

def valueFailure : Element :=
  sampleFailure "ValueError: bad input" (some "E   ValueError: bad input")

theorem value_error_is_test_error :
    (parseReport isIdentifierChar (.tree (sampleReportOf valueFailure)) 1 "" "").status ≠
      .assertionFailed := by
  refine (crash_not_assertion_iff isIdentifierChar (sampleReportOf valueFailure)
    (.node "testcase" [("classname", "generated"), ("name", "test_one")] none [valueFailure])
    valueFailure "ValueError" "bad input" ⟨by decide, by simp [isSpace], by decide, by decide⟩
    rfl rfl (by decide +kernel) 1 "" "").mpr ?_
  refine .inr (.inr (.inr ?_))
  decide +kernel

/-- A crash whose message names another exception is reported as a failed assertion. -/
theorem quoted_assertion_error_confused :
    IsCrash "ValueError" ∧
      (parseReport isIdentifierChar (.tree (sampleReportOf
        (sampleFailure "ValueError: got AssertionError" none))) 1 "" "").status =
        .assertionFailed := by
  refine ⟨⟨by decide, by simp [isSpace], by decide, by decide⟩, ?_⟩
  decide +kernel

end PatchProof
