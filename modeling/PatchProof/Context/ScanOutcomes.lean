import PatchProof.Context.Scans
import PatchProof.Context.StageOutcomes

/-!
# When the scans of a retrieval return

The texts that name what was matched join up to three names, and the one of a helper holds its
qualified name.  A scan returns exactly when the texts it makes fit a reason.  The search for
helpers stops at a limit, so what it checks depends on the helpers that it took before.
-/

set_option autoImplicit false

namespace PatchProof

namespace DeterministicContextRetriever

variable (retriever : DeterministicContextRetriever)

/-! ## Likely tests -/

/-- The score of a test file. -/
def testScore (symbolNames moduleTerms : List String) (isChanged : Bool) (path : RepositoryPath)
    (source : String) : Nat :=
  (if isChanged then 80 else 0) + 12 * (symbolNames.filter (containsWord source)).length +
    3 * occurringIn path moduleTerms

/-- A test file that scores parses or is refused, and its reason fits. -/
def TestFits (symbolNames moduleTerms : List String) (isChanged : RepositoryPath → Bool)
    (path : RepositoryPath) (source : String) : Prop :=
  testScore symbolNames moduleTerms (isChanged path) path source ≠ 0 →
    retriever.runtime.parse source ≠ .escaped ∧
      ReasonFits (testReason (isChanged path) (symbolNames.filter (containsWord source)))

theorem bestTestSpan_ends (source : String) (terms : List String) :
    StageEnds (retriever.runtime.parse source ≠ .escaped) (fun _ => True)
      (retriever.bestTestSpan source terms) := by
  unfold bestTestSpan
  refine (CommitPair.parsePython_ends source).map ?_
  intro tree _
  cases tree with
  | none => exact ⟨_, rfl, trivial⟩
  | some tree => exact ⟨_, rfl, trivial⟩

theorem rankTest_ends (symbolNames moduleTerms : List String) (isChanged : RepositoryPath → Bool)
    (path : RepositoryPath) (source : String) (state : ScanState) :
    StageEnds (retriever.TestFits symbolNames moduleTerms isChanged path source) (fun _ => True)
      (retriever.rankTest symbolNames moduleTerms (isChanged path) path source state) := by
  unfold rankTest TestFits
  dsimp only
  change StageEnds _ _ (if testScore symbolNames moduleTerms (isChanged path) path source = 0 then _
    else _)
  by_cases nothing : testScore symbolNames moduleTerms (isChanged path) path source = 0
  · rw [if_pos nothing]
    exact .skipped (fun scores => scores nothing) trivial
  · rw [if_neg nothing]
    have spans := retriever.bestTestSpan_ends source (symbolNames.filter (containsWord source))
    refine Folds.EndsWhen.guarded (spans.bind fun span _ => ?_) nothing
    refine (retriever.sourceSnippet_ends .likelyTest path source span.1 span.2 _).map ?_
    intro snippet _
    exact ⟨_, rfl, trivial⟩

/-! ## References -/

/-- The first line that names one of the terms, with the terms that it names. -/
def firstReference (terms : List String) (source : String) : Option (Nat × List String) :=
  ((splitLines source).zipIdx.map fun line =>
    (line.2 + 1, terms.filter (containsWord line.1))).find? fun line => !line.2.isEmpty

/-- What a reference is shown for. -/
def referenceReason (matched : List String) : String :=
  "source references changed symbol(s): " ++ ", ".intercalate (matched.take 3)

/-- The reason of a source that refers to a term fits. -/
def ReferenceFits (terms : List String) (_path : RepositoryPath) (source : String) : Prop :=
  ∀ reference ∈ firstReference terms source, ReasonFits (referenceReason reference.2)

theorem rankReference_ends (terms : List String) (path : RepositoryPath) (source : String)
    (state : ScanState) :
    StageEnds (ReferenceFits terms path source) (fun _ => True)
      (retriever.rankReference terms path source state) := by
  unfold rankReference ReferenceFits
  dsimp only
  cases found : firstReference terms source with
  | none =>
      unfold firstReference at found
      rw [found]
      exact .returned (fun _ mem => by cases mem) trivial
  | some reference =>
      obtain ⟨number, matched⟩ := reference
      unfold firstReference at found
      rw [found]
      have same : ReasonFits (referenceReason matched) ↔
          ∀ reference ∈ some (number, matched), ReasonFits (referenceReason reference.2) := by
        simp
      refine Folds.EndsWhen.congr ?_ same
      refine (retriever.sourceSnippet_ends .symbolReference path source _ _ _).map ?_
      intro snippet _
      exact ⟨_, rfl, trivial⟩

end DeterministicContextRetriever

namespace CommitPair

open DeterministicContextRetriever

variable {retriever : DeterministicContextRetriever} (pair : CommitPair retriever)

/-- A scan returns exactly when every source that it reads fits. -/
theorem scanFiles_ends
    {rank : RepositoryPath → String → ScanState → Except RetrievalError ScanState}
    (fits : RepositoryPath → String → Prop)
    (ranks : ∀ path source state, StageEnds (fits path source) (fun _ => True)
      (rank path source state)) (paths : List RepositoryPath) :
    StageEnds (∀ path ∈ paths, ∀ source ∈ pair.textAt pair.head path, fits path source)
      (fun _ => True) ((retriever.scanFiles pair.head rank paths).under pair.answer) := by
  unfold scanFiles
  rw [Program.under_foldlM]
  apply Folds.EndsWhen.each fun path => ∀ source ∈ pair.textAt pair.head path, fits path source
  intro state path
  unfold scanFile
  rw [Program.under_bind, pair.readSource_under, Guard.ok_bind]
  cases pair.textAt pair.head path with
  | none => exact .returned (fun _ mem => by cases mem) trivial
  | some source =>
      refine (ranks path source { state with scanned := state.scanned + 1 }).congr ?_
      simp

/-- The tests that score among those that are scanned fit. -/
def TestsFit (paths : List RepositoryPath) (files : List ChangedFile)
    (symbols : List ChangedSymbol) : Prop :=
  ∀ path ∈ (pathsFirst (files.map ChangedFile.path).contains
      (paths.filter RepositoryPath.isTest)).take retriever.budget.maxTestFilesScanned,
    ∀ source ∈ pair.textAt pair.head path,
      retriever.TestFits (symbolTerms symbols)
        ((symbols.filter fun symbol => symbol.path.isPython).map fun symbol =>
          symbol.path.stem).dedup
        (files.map ChangedFile.path).contains path source

theorem likelyTestSnippets_ends (paths : List RepositoryPath) (files : List ChangedFile)
    (symbols : List ChangedSymbol) :
    StageEnds (pair.TestsFit paths files symbols) (fun _ => True)
      ((retriever.likelyTestSnippets pair.head paths files symbols).under pair.answer) :=
  pair.scanFiles_ends _ (retriever.rankTest_ends _ _ _) _

/-- The references among the sources that are scanned fit. -/
def ReferencesFit (paths : List RepositoryPath) (files : List ChangedFile)
    (symbols : List ChangedSymbol) : Prop :=
  symbolTerms symbols ≠ [] →
    ∀ path ∈ ((paths.filter fun path =>
        !(files.map ChangedFile.path).contains path && !path.isTest).mergeSort
          (referenceOrder (symbols.map fun symbol => symbol.path.stem).dedup)).take
            retriever.budget.maxReferenceFilesScanned,
      ∀ source ∈ pair.textAt pair.head path, ReferenceFits (symbolTerms symbols) path source

theorem referenceSnippets_ends (paths : List RepositoryPath) (files : List ChangedFile)
    (symbols : List ChangedSymbol) :
    StageEnds (pair.ReferencesFit paths files symbols) (fun _ => True)
      ((retriever.referenceSnippets pair.head paths files symbols).under pair.answer) := by
  unfold referenceSnippets ReferencesFit
  dsimp only
  by_cases none : symbolTerms symbols = []
  · rw [if_pos (List.isEmpty_iff.mpr none)]
    exact .skipped (fun some => some none) trivial
  · rw [if_neg (fun empty => none (List.isEmpty_iff.mp empty))]
    apply Folds.EndsWhen.guarded _ none
    exact pair.scanFiles_ends _ (retriever.rankReference_ends (symbolTerms symbols)) _

/-! ## Called helpers -/

/-- The names called in one more file. -/
def calledAt (symbols : List ChangedSymbol) (called : List String) (path : RepositoryPath) :
    List String :=
  match pair.treeAt pair.head path with
  | none => called
  | some (_, tree) => called ++ calledNames symbols path tree

/-- The names that helpers are wanted for. -/
def wantedNames (symbols : List ChangedSymbol) : List String :=
  (((symbols.map ChangedSymbol.path).dedup).foldl (pair.calledAt symbols) []).dedup.filter
    fun name => 3 ≤ name.length && !retriever.runtime.isKeyword name &&
      !retriever.runtime.isBuiltin name &&
      !(symbols.map fun symbol => leafName symbol.qualifiedName.text).contains name

theorem addCalledNames_ends (symbols : List ChangedSymbol) (called : List String)
    (path : RepositoryPath) :
    StageEnds (pair.Parses pair.head path) (fun next => next = pair.calledAt symbols called path)
      ((retriever.addCalledNames pair.head symbols called path).under pair.answer) := by
  unfold addCalledNames
  rw [Program.under_bind]
  refine (pair.readTree_ends pair.head path).map ?_
  rintro read rfl
  unfold calledAt
  cases pair.treeAt pair.head path with
  | none => exact ⟨_, rfl, rfl⟩
  | some parsed => exact ⟨_, rfl, rfl⟩

theorem directlyCalledNames_ends (symbols : List ChangedSymbol) :
    StageEnds (∀ path ∈ (symbols.map ChangedSymbol.path).dedup, pair.Parses pair.head path)
      (fun wanted => wanted = pair.wantedNames symbols)
      ((retriever.directlyCalledNames pair.head symbols).under pair.answer) := by
  unfold directlyCalledNames
  dsimp only
  rw [Program.under_bind, Program.under_foldlM]
  have loops := (Folds.EndsWhen.loop (fun called => called)
    (fun _ path => pair.Parses pair.head path) (pair.calledAt symbols)
    (pair.addCalledNames_ends symbols) (symbols.map ChangedSymbol.path).dedup []).congr
      (Folds.checked_each (pair.Parses pair.head) _ _ _)
  refine loops.map ?_
  rintro called rfl
  exact ⟨_, rfl, rfl⟩

/-- What is shown for a helper. -/
def helperReason (definition : Definition) : String :=
  "unchanged helper called by changed code: " ++ definition.qualifiedName

/-- The number of the helpers that were taken, and their names. -/
abbrev HelperView := Nat × List String

/-- The view of a state of the search. -/
def helperView (state : HelperState) : HelperView := (state.ranked.length, state.seen)

section Helpers

variable (retriever) (wanted : List String)

/-- Whether a definition is passed over. -/
def PassesOver (view : HelperView) (definition : Definition) : Bool :=
  retriever.budget.maxCalledHelpers ≤ view.1 ||
    !wanted.contains (leafName definition.qualifiedName) ||
    view.2.contains (leafName definition.qualifiedName)

/-- A definition that is not passed over has a reason that fits. -/
def HelperFits (view : HelperView) (definition : Definition) : Prop :=
  PassesOver retriever wanted view definition = false → ReasonFits (helperReason definition)

/-- The helpers after one definition: one whose excerpt is too long is not taken. -/
def afterDefinition (source : String) (view : HelperView) (definition : Definition) : HelperView :=
  if PassesOver retriever wanted view definition then view
  else if retriever.budget.maxCalledHelperChars <
      (retriever.excerpt source definition.line definition.endLine).length then view
  else (view.1 + 1, view.2 ++ [leafName definition.qualifiedName])

theorem addHelper_ends (path : RepositoryPath) (source : String) (state : HelperState)
    (definition : Definition) :
    StageEnds (HelperFits retriever wanted (helperView state) definition)
      (fun next => helperView next =
        afterDefinition retriever wanted source (helperView state) definition)
      (retriever.addHelper wanted path source state definition) := by
  unfold addHelper HelperFits afterDefinition
  dsimp only
  change StageEnds _ _ (if PassesOver retriever wanted (helperView state) definition = true then _
    else _)
  by_cases passed : PassesOver retriever wanted (helperView state) definition = true
  · rw [if_pos passed, if_pos passed]
    exact .skipped (fun taken => Bool.eq_false_iff.mp taken passed) rfl
  · rw [if_neg passed, if_neg passed]
    refine Folds.EndsWhen.guarded ?_ (Bool.eq_false_iff.mpr passed)
    refine (retriever.sourceSnippet_ends .calledHelper path source definition.line
      definition.endLine (helperReason definition)).map ?_
    intro snippet content
    rw [content]
    by_cases long : retriever.budget.maxCalledHelperChars <
        (retriever.excerpt source definition.line definition.endLine).length
    · rw [if_pos long, if_pos long]
      exact ⟨state, rfl, rfl⟩
    · rw [if_neg long, if_neg long]
      refine ⟨_, rfl, ?_⟩
      unfold helperView
      rw [List.length_append]
      rfl

end Helpers

/-- Whether a file is passed over. -/
def FilePassedOver (retriever : DeterministicContextRetriever) (view : HelperView)
    (path : RepositoryPath) : Bool :=
  retriever.budget.maxCalledHelpers ≤ view.1 || path.isTest

/-- A file that is not passed over parses or is refused, and its definitions fit. -/
def HelperFileFits (wanted : List String) (view : HelperView) (path : RepositoryPath) : Prop :=
  FilePassedOver retriever view path = false →
    pair.Parses pair.head path ∧
      ∀ parsed ∈ pair.treeAt pair.head path,
        Folds.Checked (HelperFits retriever wanted) (afterDefinition retriever wanted parsed.1) view
          parsed.2.definitions

/-- The helpers after one file. -/
def afterFile (wanted : List String) (view : HelperView) (path : RepositoryPath) : HelperView :=
  if FilePassedOver retriever view path then view
  else
    match pair.treeAt pair.head path with
    | none => view
    | some (source, tree) =>
        tree.definitions.foldl (afterDefinition retriever wanted source) view

theorem addHelpers_ends (wanted : List String) (state : HelperState) (path : RepositoryPath) :
    StageEnds (pair.HelperFileFits wanted (helperView state) path)
      (fun next => helperView next = pair.afterFile wanted (helperView state) path)
      ((retriever.addHelpers pair.head wanted state path).under pair.answer) := by
  unfold addHelpers HelperFileFits afterFile
  change StageEnds _ _ (Program.under _
    (if FilePassedOver retriever (helperView state) path = true then _ else _))
  by_cases passed : FilePassedOver retriever (helperView state) path = true
  · rw [if_pos passed, if_pos passed]
    exact .skipped (fun taken => Bool.eq_false_iff.mp taken passed) rfl
  · rw [if_neg passed, if_neg passed, Program.under_bind]
    refine Folds.EndsWhen.guarded ((pair.readTree_ends pair.head path).bind ?_)
      (Bool.eq_false_iff.mpr passed)
    rintro read rfl
    cases pair.treeAt pair.head path with
    | none => exact .returned (fun _ mem => by cases mem) rfl
    | some parsed =>
        obtain ⟨source, tree⟩ := parsed
        have loops := Folds.EndsWhen.loop helperView (HelperFits retriever wanted)
          (afterDefinition retriever wanted source) (addHelper_ends retriever wanted path source)
          tree.definitions state
        exact loops.congr (by simp)

/-- The files of the called names parse or are refused, and what is looked at for helpers
fits. -/
def HelpersFit (symbols : List ChangedSymbol) (paths : List RepositoryPath) : Prop :=
  (∀ path ∈ (symbols.map ChangedSymbol.path).dedup, pair.Parses pair.head path) ∧
    (pair.wantedNames symbols ≠ [] →
      Folds.Checked (pair.HelperFileFits (pair.wantedNames symbols))
        (pair.afterFile (pair.wantedNames symbols)) (0, [])
        ((pathsFirst (symbols.map ChangedSymbol.path).contains paths).take
          retriever.budget.maxReferenceFilesScanned))

theorem calledHelperSnippets_ends (symbols : List ChangedSymbol) (paths : List RepositoryPath) :
    StageEnds (pair.HelpersFit symbols paths) (fun _ => True)
      ((retriever.calledHelperSnippets pair.head symbols paths).under pair.answer) := by
  unfold calledHelperSnippets HelpersFit
  rw [Program.under_bind]
  refine (pair.directlyCalledNames_ends symbols).bind ?_
  rintro wanted rfl
  by_cases none : pair.wantedNames symbols = []
  · rw [none]
    exact .skipped (fun some => some rfl) trivial
  · rw [if_neg (fun empty => none (List.isEmpty_iff.mp empty)), Program.under_bind,
      Program.under_foldlM]
    have loops := Folds.EndsWhen.loop helperView
      (pair.HelperFileFits (pair.wantedNames symbols)) (pair.afterFile (pair.wantedNames symbols))
      (pair.addHelpers_ends (pair.wantedNames symbols))
      ((pathsFirst (symbols.map ChangedSymbol.path).contains paths).take
        retriever.budget.maxReferenceFilesScanned) {}
    refine Folds.EndsWhen.guarded (Folds.EndsWhen.map loops ?_) none
    intro state _
    exact ⟨_, rfl, trivial⟩

/-! ## Interfaces -/

theorem definedSymbols_ends (revision : GitSha) (path : RepositoryPath) :
    StageEnds (pair.Parses revision path) (fun _ => True)
      ((retriever.definedSymbols revision path).under pair.answer) := by
  unfold definedSymbols
  rw [Program.under_bind]
  refine (pair.readTree_ends revision path).map ?_
  intro read _
  cases read with
  | none => exact ⟨_, rfl, trivial⟩
  | some parsed => exact ⟨_, rfl, trivial⟩

/-- Both revisions of a changed production file parse or are refused. -/
def InterfaceFits (file : ChangedFile) : Prop :=
  (!file.isPython || file.isTest) = false →
    pair.Parses pair.base (file.previousPath.getD file.path) ∧ pair.Parses pair.head file.path

theorem addInterfaces_ends (found : List String × List String) (file : ChangedFile) :
    StageEnds (pair.InterfaceFits file) (fun _ => True)
      ((retriever.addInterfaces pair.base pair.head found file).under pair.answer) := by
  unfold addInterfaces InterfaceFits
  by_cases other : (!file.isPython || file.isTest) = true
  · rw [if_pos other]
    exact .skipped (fun production => Bool.eq_false_iff.mp production other) trivial
  · rw [if_neg other, Program.under_bind]
    refine Folds.EndsWhen.guarded ((pair.definedSymbols_ends _ _).bind fun baseSymbols _ => ?_)
      (Bool.eq_false_iff.mpr other)
    rw [Program.under_bind]
    refine (pair.definedSymbols_ends _ _).map fun headSymbols _ => ?_
    exact ⟨_, rfl, trivial⟩

theorem crossRevisionInterfaces_ends (files : List ChangedFile) :
    StageEnds (∀ file ∈ files, pair.InterfaceFits file) (fun _ => True)
      ((retriever.crossRevisionInterfaces pair.base pair.head files).under pair.answer) := by
  unfold crossRevisionInterfaces
  rw [Program.under_bind, Program.under_foldlM]
  refine (Folds.EndsWhen.each pair.InterfaceFits pair.addInterfaces_ends files ([], [])).map ?_
  intro found _
  exact ⟨_, rfl, trivial⟩

end CommitPair

end PatchProof
