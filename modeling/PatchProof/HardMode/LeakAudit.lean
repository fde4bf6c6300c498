import PatchProof.Context.Document
import PatchProof.Context.Sources
import PatchProof.Execution.JUnit
import PatchProof.Investigation.Index

/-!
# The leak audit

Before a case is evaluated with a model, its context is searched for what the model must
not see: the paths of the excluded tests and the lines of the developer's oracle.  The
search is for substrings of the JSON text of the context.

A context that passes holds none of the paths and lines whose characters stand in JSON
strings as they are (`leak_audit_clean`).  The other lines are searched for in a spelling
that the JSON text does not have.  A line with a quote between other characters, as a
comparison with a text has, is found in no context, so that whether a context passes does
not depend on such lines (`leak_audit_blind_to_quotes`).
-/

set_option autoImplicit false

namespace PatchProof

/-! ## The audit -/

/-- How lines begin that every test has. -/
def ordinaryBeginnings : List String := ["import ", "from ", "sys.path.insert"]

/-- The lines of an oracle that are long enough to tell it. -/
def oracleLines (oracleSource : String) : List String :=
  ((splitLines oracleSource).filter fun line =>
    40 ≤ (strip line).length && !ordinaryBeginnings.any fun beginning =>
      startsWith beginning (lstrip line)).map strip

/-- What an audit records. -/
structure ContextLeakAudit where
  passed : Bool
  excludedPathsDeclared : List String
  excludedChangedFilesObserved : Nat
  excludedPythonPathsObserved : Nat
  leakedExcludedPaths : List String
  leakedOracleLines : List String
  contextSha256 : Sha256
  deriving DecidableEq

/-- `_context_leak_audit`, of a case that excludes some paths and expects a number of
excluded changes. -/
def contextLeakAudit (digest : String → Sha256) (excludedPaths : List String)
    (expectedExcludedChangedFiles : Nat) (context : PullRequestContext) (oracleSource : String) :
    ContextLeakAudit :=
  let serialized := context.modelDumpJson
  let leakedPaths := excludedPaths.filter fun path => isWithin path serialized
  let leakedOracleLines := sortedSet ((oracleLines oracleSource).filter fun line =>
    isWithin line serialized)
  { passed := leakedPaths.isEmpty && leakedOracleLines.isEmpty &&
      context.stats.excludedChangedFiles == expectedExcludedChangedFiles
    excludedPathsDeclared := excludedPaths
    excludedChangedFilesObserved := context.stats.excludedChangedFiles
    excludedPythonPathsObserved := context.stats.excludedPythonPaths
    leakedExcludedPaths := leakedPaths
    leakedOracleLines := leakedOracleLines
    contextSha256 := digest serialized }

section Audit

variable {digest : String → Sha256} {excludedPaths : List String}
  {expectedExcludedChangedFiles : Nat} {context : PullRequestContext} {oracleSource : String}

theorem sortedSet_eq_nil_iff {texts : List String} : sortedSet texts = [] ↔ texts = [] := by
  rw [sortedSet, ← List.length_eq_zero_iff, List.length_mergeSort, List.length_eq_zero_iff,
    List.dedup_eq_nil]

/-- An audit passes when it finds nothing and the number of exclusions is as expected. -/
theorem contextLeakAudit_passed_iff :
    (contextLeakAudit digest excludedPaths expectedExcludedChangedFiles context
      oracleSource).passed = true ↔
      (∀ path ∈ excludedPaths, isWithin path context.modelDumpJson = false) ∧
      (∀ line ∈ oracleLines oracleSource, isWithin line context.modelDumpJson = false) ∧
      context.stats.excludedChangedFiles = expectedExcludedChangedFiles := by
  simp only [contextLeakAudit, Bool.and_eq_true, List.isEmpty_iff, sortedSet_eq_nil_iff,
    List.filter_eq_nil_iff, Bool.not_eq_true, beq_iff_eq, and_assoc]

/-- What a text of a context contains, and JSON does not escape, is found. -/
theorem isWithin_modelDumpJson {text part : String} (member : text ∈ context.texts)
    (contains : isWithin part text = true) (unescaped : ∀ c ∈ part.toList, IsUnescaped c) :
    isWithin part context.modelDumpJson = true := by
  rw [isWithin_iff] at contains ⊢
  rw [PullRequestContext.modelDumpJson, String.toList_ofList]
  exact (PullRequestContext.holdsText member).isInfix_of_unescaped contains unescaped

/-- A text with a quote between other characters is found in no context. -/
theorem isWithin_modelDumpJson_of_quotes {part : String} (quotes : QuotesInside part.toList) :
    isWithin part context.modelDumpJson = false := by
  rw [Bool.eq_false_iff, ne_eq, isWithin_iff, PullRequestContext.modelDumpJson,
    String.toList_ofList]
  exact (quotesPlaced_compactJson (fun _ => List.not_mem_nil) context.document).not_isInfix quotes

/-- **A context that passes is clean** of the excluded paths and the oracle's lines that
JSON does not escape: none of its texts contains one. -/
theorem leak_audit_clean
    (passed : (contextLeakAudit digest excludedPaths expectedExcludedChangedFiles context
      oracleSource).passed = true)
    {text : String} (member : text ∈ context.texts) {part : String}
    (hidden : part ∈ excludedPaths ∨ part ∈ oracleLines oracleSource)
    (unescaped : ∀ c ∈ part.toList, IsUnescaped c) : isWithin part text = false := by
  obtain ⟨noPath, noLine, _⟩ := contextLeakAudit_passed_iff.mp passed
  rw [Bool.eq_false_iff]
  intro contains
  have found := isWithin_modelDumpJson member contains unescaped
  have nowhere : isWithin part context.modelDumpJson = false :=
    hidden.elim (noPath part) (noLine part)
  rw [nowhere] at found
  cases found

/-- **Lines with inner quotes do not count.**  Two oracles that differ in such lines only
give a context the same verdict, whatever it shows of them. -/
theorem leak_audit_blind_to_quotes {otherSource : String}
    (sameOtherwise : ∀ line, ¬ QuotesInside line.toList →
      (line ∈ oracleLines oracleSource ↔ line ∈ oracleLines otherSource)) :
    (contextLeakAudit digest excludedPaths expectedExcludedChangedFiles context
      oracleSource).passed =
      (contextLeakAudit digest excludedPaths expectedExcludedChangedFiles context
        otherSource).passed := by
  have sameLines : (∀ line ∈ oracleLines oracleSource,
      isWithin line context.modelDumpJson = false) ↔
        ∀ line ∈ oracleLines otherSource, isWithin line context.modelDumpJson = false := by
    constructor
    · intro clean line member
      by_cases quotes : QuotesInside line.toList
      · exact isWithin_modelDumpJson_of_quotes quotes
      · exact clean line ((sameOtherwise line quotes).mpr member)
    · intro clean line member
      by_cases quotes : QuotesInside line.toList
      · exact isWithin_modelDumpJson_of_quotes quotes
      · exact clean line ((sameOtherwise line quotes).mp member)
  rw [Bool.eq_iff_iff, contextLeakAudit_passed_iff, contextLeakAudit_passed_iff, sameLines]

end Audit

/-! ## A leak that passes -/

/-- A line of an oracle that compares with a text. -/
def comparingLine : String := "assert render_status(state) == \"pass: 12 of 14\""

theorem noInterfaces_bounded : ([] : List String).length ≤ 40 ∧ ([] : List String).length ≤ 40 ∧
    ([] : List String).length ≤ 40 := by
  simp

/-- A context that shows a text and nothing else. -/
def contextShowing (diff : String) : PullRequestContext where
  baseSha := ⟨String.ofList (List.replicate 40 'a'), isGitSha_as⟩
  headSha := ⟨String.ofList (List.replicate 40 'b'), isGitSha_bs⟩
  diff := diff
  changedFiles := []
  changedSymbols := []
  snippets := []
  stats := ⟨0, 0, 0, 0, 0, 0, 0, 0, false⟩
  interfaces := ⟨[], [], [], false, noInterfaces_bounded⟩

theorem oracleLines_comparingLine : oracleLines comparingLine = [comparingLine] := by
  decide +kernel

theorem quotesInside_comparingLine : QuotesInside comparingLine.toList :=
  ⟨"assert render_status(state) ==".toList, "ass: 12 of 14\"".toList, ' ', 'p', by decide,
    by decide, by decide⟩

/-- A text with a character that another one lacks is not in it. -/
theorem isWithin_eq_false_of_lacking {part text : String} {c : Char} (has : c ∈ part.toList)
    (lacks : c ∉ text.toList) : isWithin part text = false := by
  rw [Bool.eq_false_iff, ne_eq, isWithin_iff]
  exact fun within => lacks (within.subset has)

theorem contextShowing_lacks : 'Q' ∉ (contextShowing "def quorum").modelDumpJson.toList := by
  rw [PullRequestContext.modelDumpJson, String.toList_ofList]
  decide +kernel

theorem contextShowing_passes :
    (contextLeakAudit (fun _ => ⟨String.ofList (List.replicate 64 '0'), isSha256_zeros⟩)
      ["tests/test_Quorum.py"] 0 (contextShowing "def quorum") "").passed = true := by
  refine contextLeakAudit_passed_iff.mpr ⟨fun path member => ?_, fun line member => ?_, rfl⟩
  · rw [List.mem_singleton.mp member]
    exact @isWithin_eq_false_of_lacking _ _ 'Q' (by decide) contextShowing_lacks
  · have nothing : oracleLines "" = [] := by decide +kernel
    rw [nothing] at member
    cases member

/-- A context that passes does not show an excluded path. -/
theorem leak_audit_clean_plain :
    isWithin "tests/test_Quorum.py" (contextShowing "def quorum").diff = false := by
  have shown : (contextShowing "def quorum").diff ∈ (contextShowing "def quorum").texts :=
    List.mem_cons_self
  have excluded : "tests/test_Quorum.py" ∈ ["tests/test_Quorum.py"] := List.mem_singleton_self _
  have printable : ("tests/test_Quorum.py".toList.all fun c =>
      decide (c ≠ '"') && decide (c ≠ '\\') && decide (0x20 ≤ c.toNat)) = true := by
    decide +kernel
  refine leak_audit_clean contextShowing_passes shown (.inl excluded) fun c member => ?_
  have facts := List.all_eq_true.mp printable c member
  simp only [Bool.and_eq_true, decide_eq_true_eq] at facts
  exact isUnescaped_of_printable facts.1.1 facts.1.2 facts.2

/-- A context that shows the line passes as if the oracle had no lines. -/
theorem leak_audit_blind_to_quotes_shown :
    isWithin comparingLine (contextShowing comparingLine).diff = true ∧
      (contextLeakAudit (fun _ => ⟨String.ofList (List.replicate 64 '0'), isSha256_zeros⟩) [] 0
        (contextShowing comparingLine) comparingLine).passed =
      (contextLeakAudit (fun _ => ⟨String.ofList (List.replicate 64 '0'), isSha256_zeros⟩) [] 0
        (contextShowing comparingLine) "").passed := by
  refine ⟨by decide +kernel, leak_audit_blind_to_quotes fun line noQuotes => ?_⟩
  have nothing : oracleLines "" = [] := by decide +kernel
  rw [oracleLines_comparingLine, nothing]
  refine iff_of_false (fun member => ?_) List.not_mem_nil
  rw [List.mem_singleton.mp member] at noQuotes
  exact noQuotes quotesInside_comparingLine

end PatchProof
