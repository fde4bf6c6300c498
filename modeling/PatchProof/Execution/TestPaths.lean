import PatchProof.Evidence.Candidate
import PatchProof.Execution.Contract
import PatchProof.Investigation.Index

/-!
# Where tests are injected

A contract declares directories, and the service appends the name of a file of its own to
one of them.  What results has to pass four checks that were written apart: the path of a
candidate, the path of an artifact, the directories of the contract, and the lengths of an
executor request.

The contract strips every trailing slash before it looks at a directory, and knows no
length: `tests//`, `./` and a directory of 300 characters are valid, and no file in them is
usable (`test_paths_usable_iff`).
-/

set_option autoImplicit false

namespace PatchProof

/-! ## The files of the service -/

/-- The tests that the service injects: the readiness probe, and the candidates of a run. -/
inductive InjectedTest where
  | probe
  | initial
  | firstRepair
  | secondRepair
  deriving DecidableEq

namespace InjectedTest

def fileName : InjectedTest → String
  | probe => "test_patchproof_environment_probe.py"
  | initial => "test_patchproof_generated_initial.py"
  | firstRepair => "test_patchproof_generated_repair_1.py"
  | secondRepair => "test_patchproof_generated_repair_2.py"

def function : InjectedTest → String
  | probe => "test_patchproof_environment_probe"
  | _ => generatedTestFunction

def target (test : InjectedTest) (directory : String) : String := directory ++ test.fileName

def nodeId (test : InjectedTest) (directory : String) : String :=
  test.target directory ++ "::" ++ test.function

end InjectedTest

/-- A path that every model accepts as it is, with a node in it. -/
structure UsableTarget (allowedTestPaths : List String) (target nodeId : String) : Prop where
  candidate : isCandidatePath target = true
  artifact : isArtifactPath target = true
  selected : isNodeIdOf target nodeId = true
  permitted : (allowedTestPaths.any fun allowed => startsWith allowed target) = true
  pathFits : 1 ≤ target.length ∧ target.length ≤ 300
  nodeFits : 1 ≤ nodeId.length ∧ nodeId.length ≤ 500

/-- A declared directory in which a file of some name is usable. -/
structure LeavesRoom (directory fileName : String) : Prop where
  oneSlash : endsWith "//" directory = false
  named : directory ≠ "./"
  short : directory.length + fileName.length ≤ 300

/-! ## Segments -/

theorem pathSegments_ne_nil (path : List Char) : pathSegments path ≠ [] := by
  cases path with
  | nil => simp [pathSegments]
  | cons c rest =>
      unfold pathSegments
      split
      · simp
      · split <;> simp

/-- A slash separates what is before it from what is after it. -/
theorem pathSegments_append_slash (front rest : List Char) :
    pathSegments (front ++ '/' :: rest) = pathSegments front ++ pathSegments rest := by
  induction front with
  | nil => rfl
  | cons c front ih =>
      rw [List.cons_append, pathSegments, pathSegments]
      split
      · rw [ih, List.cons_append]
      · rw [ih]
        cases segments : pathSegments front with
        | nil => exact absurd segments (pathSegments_ne_nil front)
        | cons segment more => rfl

theorem pathSegments_of_no_slash {name : List Char} (plain : '/' ∉ name) :
    pathSegments name = [name] := by
  induction name with
  | nil => rfl
  | cons c rest ih =>
      rw [List.mem_cons, not_or] at plain
      rw [pathSegments, if_neg (Ne.symm plain.1), ih plain.2]

/-! ## Declared directories -/

/-- What a valid directory that ends in one slash is. -/
theorem isDirectoryPrefix_cases {directory : String} (valid : isDirectoryPrefix directory = true) :
    ∃ body : List Char, directory.toList = body ++ ['/'] ∧ body ≠ [] ∧
      (∀ c ∈ directory.toList, isUnsupportedPathChar c = false) ∧
      (body.getLast? = some '/' ∨ body = ['.'] ∨ hasProperSegments body = true) := by
  simp only [isDirectoryPrefix, Bool.and_eq_true, Bool.not_eq_true', beq_iff_eq,
    Bool.or_eq_true, List.any_eq_false, Bool.not_eq_true] at valid
  obtain ⟨⟨⟨supported, final⟩, nonempty⟩, segments⟩ := valid
  obtain ⟨body, same⟩ := List.getLast?_eq_some_iff.mp final
  rw [same, List.reverse_append, List.reverse_singleton, List.singleton_append,
    List.dropWhile_cons_of_pos (by rfl)] at nonempty segments
  refine ⟨body, same, ?_, supported, ?_⟩
  · rintro rfl
    cases nonempty
  · by_cases slash : body.getLast? = some '/'
    · exact .inl slash
    · right
      have kept : body.reverse.dropWhile (· == '/') = body.reverse := by
        rw [List.dropWhile_eq_self_iff]
        intro inhabited isSlash
        refine slash ?_
        rw [← List.head?_reverse, List.head?_eq_some_head (List.ne_nil_of_length_pos inhabited)]
        simpa [List.head_eq_getElem] using isSlash
      rw [kept, List.reverse_reverse] at segments
      exact segments

/-- The files of the service have no slash in their names. -/
theorem InjectedTest.fileName_plain (test : InjectedTest) : '/' ∉ test.fileName.toList := by
  cases test <;> simp [fileName]

theorem InjectedTest.fileName_safe (test : InjectedTest) :
    ∀ c ∈ test.fileName.toList, isUnsupportedPathChar c = false := by
  cases test <;> simp [fileName, isUnsupportedPathChar]

theorem InjectedTest.function_length (test : InjectedTest) :
    1 ≤ test.function.length ∧ test.function.length ≤ 34 := by
  cases test <;> simp [function, generatedTestFunction, ← String.length_toList]

theorem InjectedTest.function_safe (test : InjectedTest) :
    ∀ c ∈ test.function.toList, isUnsupportedPathChar c = false := by
  cases test <;> simp [function, generatedTestFunction, isUnsupportedPathChar]

section Targets

variable {directory : String} {body : List Char} (test : InjectedTest)
  (same : directory.toList = body ++ ['/'])

include same

/-- The segments of a target are those of its directory and the name of its file. -/
theorem InjectedTest.pathSegments_target :
    pathSegments (test.target directory).toList = pathSegments body ++ [test.fileName.toList] := by
  rw [target, String.toList_append, same, List.append_assoc, List.singleton_append,
    pathSegments_append_slash, pathSegments_of_no_slash test.fileName_plain]

/-- A target that is an artifact path lies in a directory of proper segments. -/
theorem InjectedTest.proper_of_artifact (accepted : isArtifactPath (test.target directory) = true) :
    hasProperSegments body = true := by
  simp only [isArtifactPath, Bool.and_eq_true] at accepted
  have segments := accepted.1.2
  rw [test.pathSegments_target same, List.all_append, Bool.and_eq_true] at segments
  exact segments.1

section Proper

variable (proper : hasProperSegments body = true)

include proper

/-- Every segment of a target in such a directory names something. -/
theorem InjectedTest.segments_proper :
    ((pathSegments (test.target directory).toList).all fun segment =>
      !segment.isEmpty && segment != ['.'] && segment != ['.', '.']) = true := by
  rw [test.pathSegments_target same, List.all_append, Bool.and_eq_true]
  refine ⟨proper, ?_⟩
  cases test <;> simp [fileName]

theorem InjectedTest.artifact_of_proper
    (supported : ∀ c ∈ directory.toList, isUnsupportedPathChar c = false) :
    isArtifactPath (test.target directory) = true := by
  have last : (pathSegments (test.target directory).toList).getLast? = some test.fileName.toList := by
    rw [test.pathSegments_target same, List.getLast?_concat]
  simp only [isArtifactPath, last, test.segments_proper same proper, Bool.and_true,
    Bool.and_eq_true]
  refine ⟨?_, by cases test <;> decide +kernel⟩
  rw [List.all_eq_true]
  intro c mem
  have plain : isUnsupportedPathChar c = false := by
    rw [target, String.toList_append] at mem
    exact (List.mem_append.mp mem).elim (supported c) (test.fileName_safe c)
  simp only [isUnsupportedPathChar, Bool.or_eq_false_iff, beq_eq_false_iff_ne] at plain
  simp [plain.1.1]

theorem InjectedTest.candidate_of_proper
    (supported : ∀ c ∈ directory.toList, isUnsupportedPathChar c = false) :
    isCandidatePath (test.target directory) = true := by
  have last : (pathSegments (test.target directory).toList).getLast? = some test.fileName.toList := by
    rw [test.pathSegments_target same, List.getLast?_concat]
  simp only [isCandidatePath, last, test.segments_proper same proper, Bool.and_true,
    Bool.and_eq_true]
  refine ⟨?_, by cases test <;> decide +kernel⟩
  rw [List.all_eq_true]
  intro c mem
  have plain : isUnsupportedPathChar c = false := by
    rw [target, String.toList_append] at mem
    exact (List.mem_append.mp mem).elim (supported c) (test.fileName_safe c)
  simp only [isUnsupportedPathChar, Bool.or_eq_false_iff, beq_eq_false_iff_ne] at plain
  simp [plain.1.1, plain.1.2, plain.2]

end Proper

end Targets

/-- The node of a test is a node in its file. -/
theorem InjectedTest.selected (test : InjectedTest) {directory : String}
    (supported : ∀ c ∈ directory.toList, isUnsupportedPathChar c = false) :
    isNodeIdOf (test.target directory) (test.nodeId directory) = true := by
  simp only [isNodeIdOf, Bool.and_eq_true, List.isPrefixOf_iff_prefix, decide_eq_true_eq,
    List.all_eq_true, nodeId, String.toList_append]
  have colons : "::".toList = [':', ':'] := rfl
  have named : 1 ≤ test.function.toList.length := test.function_length.1
  rw [colons]
  refine ⟨⟨List.prefix_append _ _, ?_⟩, fun c mem => ?_⟩
  · simp only [List.length_append]
    omega
  · have plain : isUnsupportedPathChar c = false := by
      rw [target, String.toList_append] at mem
      rcases List.mem_append.mp mem with front | inFunction
      · rcases List.mem_append.mp front with inTarget | colon
        · exact (List.mem_append.mp inTarget).elim (supported c) (test.fileName_safe c)
        · simp only [List.mem_cons, List.not_mem_nil, or_false, or_self] at colon
          subst colon
          decide
      · exact test.function_safe c inFunction
    simp only [isUnsupportedPathChar, Bool.or_eq_false_iff, beq_eq_false_iff_ne] at plain
    simp [plain.1.1.2, plain.1.2, plain.2]

/-- A directory that ends in a slash before its last one has no proper segments. -/
theorem not_proper_of_slash {body : List Char} (slash : body.getLast? = some '/') :
    hasProperSegments body = false := by
  obtain ⟨front, rfl⟩ := List.getLast?_eq_some_iff.mp slash
  rw [hasProperSegments, pathSegments_append_slash, List.all_append]
  simp [pathSegments]

/-- The last slash of a directory is the only one at its end when what is before it does
not end in one. -/
theorem endsWith_slashes_iff {directory : String} {body : List Char}
    (same : directory.toList = body ++ ['/']) :
    endsWith "//" directory = true ↔ body.getLast? = some '/' := by
  have slashes : "//".toList = ['/'] ++ ['/'] := rfl
  rw [endsWith, List.isSuffixOf_iff_suffix, same, slashes, List.suffix_append_self_iff,
    List.getLast?_eq_some_iff]
  exact ⟨fun ⟨front, isBody⟩ => ⟨front, isBody.symm⟩, fun ⟨front, isBody⟩ => ⟨front, isBody.symm⟩⟩

/-! ## The result -/

/-- **When a declared directory is usable.**  For every valid contract, every directory
that it declares and every file of the service, the file has a path and a node that pass
all checks if and only if the directory ends in one slash, is not `./`, and leaves room
for the name. -/
theorem test_paths_usable_iff {isWord : Char → Bool} (contract : ExecutionContract isWord)
    (directory : String) (declared : directory ∈ contract.allowedTestPaths) (test : InjectedTest) :
    UsableTarget contract.allowedTestPaths (test.target directory) (test.nodeId directory) ↔
      LeavesRoom directory test.fileName := by
  have valid : isDirectoryPrefix directory = true := by
    have checked := contract.valid
    simp only [ContractValues.isValid, Bool.and_eq_true, List.all_eq_true] at checked
    exact checked.1.1.1.1.2 directory declared
  obtain ⟨body, same, nonempty, supported, kind⟩ := isDirectoryPrefix_cases valid
  constructor
  · intro usable
    have proper := test.proper_of_artifact same usable.artifact
    refine ⟨?_, ?_, ?_⟩
    · rw [← Bool.not_eq_true]
      intro slashes
      rw [not_proper_of_slash ((endsWith_slashes_iff same).mp slashes)] at proper
      cases proper
    · rintro rfl
      have isDot : body = ['.'] := (List.append_cancel_right same).symm
      rw [isDot] at proper
      exact absurd proper (by decide)
    · have fits := usable.pathFits.2
      rwa [InjectedTest.target, String.length_append] at fits
  · intro room
    have proper : hasProperSegments body = true := by
      rcases kind with slash | isDot | proper
      · have slashes := (endsWith_slashes_iff same).mpr slash
        rw [room.oneSlash] at slashes
        cases slashes
      · refine absurd (String.toList_inj.mp ?_) room.named
        rw [same, isDot]
        rfl
      · exact proper
    have short := room.short
    have function := test.function_length
    have colons : "::".length = 2 := rfl
    have length : (test.target directory).length = directory.length + test.fileName.length :=
      String.length_append _ _
    have nodeLength : (test.nodeId directory).length =
        directory.length + test.fileName.length + 2 + test.function.length := by
      rw [InjectedTest.nodeId, String.length_append, String.length_append, length, colons]
    have positive : 0 < directory.length := by
      rw [← String.length_toList, same, List.length_append]
      exact Nat.succ_pos _
    refine ⟨test.candidate_of_proper same proper supported,
      test.artifact_of_proper same proper supported, test.selected supported, ?_, ?_, ?_⟩
    · refine List.any_eq_true.mpr ⟨directory, declared, ?_⟩
      rw [startsWith, List.isPrefixOf_iff_prefix, InjectedTest.target, String.toList_append]
      exact List.prefix_append _ _
    · omega
    · omega

/-- The values of a contract that installs a lockfile and declares one directory. -/
def declaringValues (directory : String) : ContractValues where
  install := [["uv", "sync", "--frozen"]]
  testCommand := ["uv", "run", "pytest"]
  allowedTestPaths := [directory]
  timeoutSeconds := 60
  installTimeoutSeconds := 900
  synthesized := false

/-- A contract may declare the directory, and the first candidate in it is not usable. -/
def IsDeclaredUnusable (directory : String) : Prop :=
  (declaringValues directory).isValid Char.isAlphanum = true ∧
    ¬ UsableTarget (declaringValues directory).allowedTestPaths
      (InjectedTest.initial.target directory) (InjectedTest.initial.nodeId directory)

/-- Only the directory has to be looked at. -/
theorem declaringValues_isValid {directory : String}
    (isPrefix : isDirectoryPrefix directory = true) :
    (declaringValues directory).isValid Char.isAlphanum = true := by
  have valid : (declaringValues "tests/").isValid Char.isAlphanum = true := by decide +kernel
  simp only [ContractValues.isValid, Bool.and_eq_true, decide_eq_true_eq] at valid ⊢
  obtain ⟨⟨⟨⟨⟨⟨first, few⟩, -⟩, -⟩, seconds⟩, installSeconds⟩, installs⟩ := valid
  refine ⟨⟨⟨⟨⟨⟨first, few⟩, ?_⟩, List.pairwise_singleton _ _⟩, seconds⟩, installSeconds⟩, installs⟩
  exact List.all_eq_true.mpr fun other mem => List.mem_singleton.mp mem ▸ isPrefix

/-- A directory of 300 characters. -/
theorem longDirectory_isPrefix :
    isDirectoryPrefix (String.ofList (List.replicate 299 'a' ++ ['/'])) = true := by
  unfold isDirectoryPrefix
  simp only [String.toList_ofList]
  decide +kernel

/-- Two slashes, the current directory and 300 characters are declared and not usable. -/
theorem declared_paths_unusable :
    IsDeclaredUnusable "tests//" ∧ IsDeclaredUnusable "./" ∧
      IsDeclaredUnusable (String.ofList (List.replicate 299 'a' ++ ['/'])) := by
  refine ⟨⟨declaringValues_isValid (by decide), fun usable => ?_⟩,
    ⟨declaringValues_isValid (by decide), fun usable => ?_⟩,
    declaringValues_isValid longDirectory_isPrefix, fun usable => ?_⟩
  · have refused : isArtifactPath (InjectedTest.initial.target "tests//") = false := by
      decide +kernel
    exact absurd usable.artifact (by simp [refused])
  · have refused : isArtifactPath (InjectedTest.initial.target "./") = false := by
      decide +kernel
    exact absurd usable.artifact (by simp [refused])
  · have long := usable.pathFits.2
    have named : 1 ≤ InjectedTest.initial.fileName.length := by decide
    rw [InjectedTest.target, String.length_append, String.length_ofList, List.length_append,
      List.length_replicate, List.length_singleton] at long
    omega

/-- A contract with the directory of synthesized contracts. -/
def generatedTestsContract : ExecutionContract Char.isAlphanum where
  toContractValues := declaringValues "patchproof_generated_tests/"
  valid := by decide +kernel

/-- The condition can be met: in the directory of synthesized contracts. -/
theorem synthesized_path_usable :
    UsableTarget generatedTestsContract.allowedTestPaths
        (InjectedTest.probe.target "patchproof_generated_tests/")
        (InjectedTest.probe.nodeId "patchproof_generated_tests/") ↔
      LeavesRoom "patchproof_generated_tests/" InjectedTest.probe.fileName :=
  test_paths_usable_iff generatedTestsContract "patchproof_generated_tests/" List.mem_cons_self
    .probe

end PatchProof
