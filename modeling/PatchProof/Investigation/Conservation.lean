import Mathlib.Algebra.GroupWithZero.Nat
import PatchProof.Library.Folds
import PatchProof.Investigation.IndexBuild

/-!
# No file is lost

Every Python file that is discovered is indexed or counted under one reason for which it was
not, whether it came from a map or from a Git tree, and the counts stay within the budget.
The files of priority are taken first, so once the limit on files turns one of them away, no
other file is indexed.  An index that does not say it is truncated holds all files, parsed,
and everything that their visitors recorded.
-/

set_option autoImplicit false

namespace PatchProof

/-! ## Selections -/

namespace Selection

variable {α : Type}

/-- How many items were selected or left out. -/
def counted (selection : Selection α) : Nat :=
  selection.selected.length + selection.oversized + selection.fileLimitOmitted +
    selection.byteBudgetOmitted

/-- What holds of a selection after some items. -/
structure Accounts (budget : RepositoryIndexBudget) (size : α → Nat) (start : Nat)
    (seen : List α) (selection : Selection α) : Prop where
  counted : selection.counted = start + seen.length
  sublist : selection.selected.Sublist seen
  files : selection.selected.length ≤ budget.maxFiles
  total : selection.total = (selection.selected.map size).sum
  bytes : selection.total ≤ budget.maxTotalSourceBytes
  each : ∀ item ∈ selection.selected, size item ≤ budget.maxFileBytes

variable {budget : RepositoryIndexBudget} {size : α → Nat} {start : Nat} {seen : List α}
  {selection : Selection α}

/-- An item is left out and counted. -/
theorem Accounts.leaveOut (accounts : selection.Accounts budget size start seen) (item : α)
    {next : Selection α} (sameSelected : next.selected = selection.selected)
    (sameTotal : next.total = selection.total) (one : next.counted = selection.counted + 1) :
    next.Accounts budget size start (seen ++ [item]) where
  counted := by
    have before := accounts.counted
    rw [List.length_append, List.length_singleton]
    omega
  sublist := by
    rw [sameSelected]
    exact accounts.sublist.trans (List.sublist_append_left _ _)
  files := by
    rw [sameSelected]
    exact accounts.files
  total := by
    rw [sameSelected, sameTotal]
    exact accounts.total
  bytes := by
    rw [sameTotal]
    exact accounts.bytes
  each := by
    rw [sameSelected]
    exact accounts.each

/-- An item for which there is room is selected. -/
theorem Accounts.select (accounts : selection.Accounts budget size start seen) (item : α)
    (room : selection.selected.length < budget.maxFiles)
    (small : size item ≤ budget.maxFileBytes)
    (fits : selection.total + size item ≤ budget.maxTotalSourceBytes) :
    { selection with
      selected := selection.selected ++ [item]
      total := selection.total + size item }.Accounts budget size start (seen ++ [item]) where
  counted := by
    have before := accounts.counted
    rw [Selection.counted] at before
    simp only [Selection.counted, List.length_append, List.length_singleton]
    omega
  sublist := accounts.sublist.append (List.Sublist.refl _)
  files := by
    simp only [List.length_append, List.length_singleton]
    omega
  total := by
    rw [List.map_append, List.sum_append, ← accounts.total]
    simp
  bytes := fits
  each := by
    intro other mem
    rcases List.mem_append.mp mem with before | now
    · exact accounts.each other before
    · obtain rfl := List.mem_singleton.mp now
      exact small

end Selection

variable {budget : RepositoryIndexBudget}

/-- The bytes of a file. -/
def SourceFile.size (file : SourceFile) : Nat := file.content.length

theorem buildStep_accounts {start : Nat} {seen : List SourceFile}
    {selection : Selection SourceFile} (file : SourceFile)
    (accounts : selection.Accounts budget SourceFile.size start seen) :
    (buildStep budget selection file).Accounts budget SourceFile.size start (seen ++ [file]) := by
  unfold buildStep
  split
  · exact accounts.leaveOut file rfl rfl (by simp only [Selection.counted]; omega)
  · rename_i room
    split
    · exact accounts.leaveOut file rfl rfl (by simp only [Selection.counted]; omega)
    · rename_i small
      split
      · exact accounts.leaveOut file rfl rfl (by simp only [Selection.counted]; omega)
      · rename_i fits
        exact accounts.select file (Nat.lt_of_not_le room) (Nat.le_of_not_lt small)
          (Nat.le_of_not_lt fits)

theorem gitStep_accounts {start : Nat} {seen : List SizedEntry}
    {selection : Selection SizedEntry} (entry : SizedEntry)
    (accounts : selection.Accounts budget SizedEntry.size start seen) :
    (gitStep budget selection entry).Accounts budget SizedEntry.size start (seen ++ [entry]) := by
  unfold gitStep
  split
  · exact accounts.leaveOut entry rfl rfl (by simp only [Selection.counted]; omega)
  · rename_i small
    split
    · exact accounts.leaveOut entry rfl rfl (by simp only [Selection.counted]; omega)
    · rename_i room
      split
      · exact accounts.leaveOut entry rfl rfl (by simp only [Selection.counted]; omega)
      · rename_i fits
        exact accounts.select entry (Nat.lt_of_not_le room) (Nat.le_of_not_lt small)
          (Nat.le_of_not_lt fits)

/-! ## Files of priority -/

/-- Some item is left out because the limit on files is reached when its turn comes. -/
def LimitLeavesOut {α : Type} (budget : RepositoryIndexBudget)
    (step : Selection α → α → Selection α) (start : Selection α) (taken : List α) (item : α) :
    Prop :=
  ∃ front back, taken = front ++ item :: back ∧
    budget.maxFiles ≤ (front.foldl step start).selected.length

/-- A step that selects nothing more once the limit on files is reached. -/
def StopsAtLimit {α : Type} (budget : RepositoryIndexBudget)
    (step : Selection α → α → Selection α) : Prop :=
  ∀ selection item, budget.maxFiles ≤ selection.selected.length →
    (step selection item).selected = selection.selected

theorem buildStep_stops : StopsAtLimit budget (buildStep budget) := by
  intro selection file full
  unfold buildStep
  rw [if_pos full]

theorem gitStep_stops : StopsAtLimit budget (gitStep budget) := by
  intro selection entry full
  unfold gitStep
  rw [if_pos full]
  split
  · rfl
  · rfl

theorem selected_of_full {α : Type} {step : Selection α → α → Selection α}
    (stops : StopsAtLimit budget step) (items : List α) {selection : Selection α}
    (full : budget.maxFiles ≤ selection.selected.length) :
    (items.foldl step selection).selected = selection.selected := by
  induction items generalizing selection with
  | nil => rfl
  | cons item rest ih =>
      have same := stops selection item full
      rw [List.foldl_cons, ih (by rw [same]; exact full), same]

theorem rank_le_of_takenOrder {priority : List String} {first second : String}
    (ordered : takenOrder priority first ≤ takenOrder priority second)
    (preferred : second ∈ priority) : first ∈ priority := by
  by_contra other
  have compared := (Prod.Lex.le_iff).mp ordered
  simp [takenOrder, preferred, other] at compared

/-- Once a file of priority is left out for the limit on files, only files of priority have
been selected. -/
theorem selected_of_limitLeavesOut {α : Type} {step : Selection α → α → Selection α}
    (stops : StopsAtLimit budget step) {priority : List String} {path : α → String}
    {start : Selection α} {taken : List α} {item : α}
    (among : ∀ front : List α, ∀ other ∈ (front.foldl step start).selected, other ∈ front)
    (sorted : taken.Pairwise fun first second =>
      takenOrder priority (path first) ≤ takenOrder priority (path second))
    (leftOut : LimitLeavesOut budget step start taken item) (preferred : path item ∈ priority)
    {other : α} (mem : other ∈ (taken.foldl step start).selected) : path other ∈ priority := by
  obtain ⟨front, back, rfl, full⟩ := leftOut
  rw [List.foldl_append, selected_of_full stops _ full] at mem
  have before := (List.pairwise_append.mp sorted).2.2 other (among front other mem) item
    List.mem_cons_self
  exact rank_le_of_takenOrder before preferred

/-! ## Sorted files -/

theorem takenFiles_sorted (priority : List String) (files : List SourceFile) :
    (takenFiles priority files).Pairwise fun first second =>
      takenOrder priority first.path.text ≤ takenOrder priority second.path.text := by
  have total : Std.Total fun first second : SourceFile =>
      takenOrder priority first.path.text ≤ takenOrder priority second.path.text :=
    ⟨fun _ _ => le_total _ _⟩
  have transitive : IsTrans SourceFile fun first second =>
      takenOrder priority first.path.text ≤ takenOrder priority second.path.text :=
    ⟨fun _ _ _ => le_trans⟩
  exact List.pairwise_insertionSort _ files

theorem takenEntries_sorted (priority : List String) (entries : List SizedEntry) :
    (takenEntries priority entries).Pairwise fun first second =>
      takenOrder priority first.path.text ≤ takenOrder priority second.path.text := by
  have total : Std.Total fun first second : SizedEntry =>
      takenOrder priority first.path.text ≤ takenOrder priority second.path.text :=
    ⟨fun _ _ => le_total _ _⟩
  have transitive : IsTrans SizedEntry fun first second =>
      takenOrder priority first.path.text ≤ takenOrder priority second.path.text :=
    ⟨fun _ _ _ => le_trans⟩
  exact List.pairwise_insertionSort _ entries

/-! ## What the visitors record -/

theorem collected_whole {maximum : Nat} {calls : List ImportCall} {collected : ImportCollection}
    (returned : calls.foldlM (ImportCollection.append maximum) {} = .ok collected) :
    collected.truncated = false → collected.omitted = 0 ∧ collected.imports = calls := by
  have kept := Folds.foldlM_seen
    (fun seen (collected : ImportCollection) => collected.truncated = false →
      collected.omitted = 0 ∧ collected.imports = seen)
    ?_ (fun _ => ⟨rfl, rfl⟩) returned
  · exact kept
  · intro seen value call next before passed
    unfold ImportCollection.append at passed
    split at passed
    · cases passed
      intro absurdity
      cases absurdity
    · split at passed
      · cases passed
        intro untruncated
        obtain ⟨none, all⟩ := before untruncated
        exact ⟨none, congrArg (· ++ [call]) all⟩
      · cases passed

/-- A symbol under this name is recorded. -/
def Recording.HasSymbol (recorded : Recording) (path : SourcePath) (name : String) : Prop :=
  ∃ row ∈ recorded.symbols, row.path = path ∧ row.qualifiedName = name

/-- Such a reference is recorded. -/
def Recording.HasReference (recorded : Recording) (path : SourcePath) (kind : ReferenceKind)
    (expression : String) (place : Place) : Prop :=
  ∃ row ∈ recorded.references, row.path = path ∧ row.kind = kind ∧
    row.expression = expression ∧ row.place = place

/-- Everything of some calls is recorded that has a plain name. -/
def Recording.Holds (recorded : Recording) (words : WordClass) (path : SourcePath)
    (calls : List VisitorCall) : Prop :=
  ∀ call ∈ calls, match call with
    | .symbol name _ _ _ => recorded.HasSymbol path name
    | .reference _ kind expression place =>
        isPlainIdentifier words (leafName expression) = true →
          recorded.HasReference path kind expression place

/-- What is recorded under one name keeps its path and its name. -/
theorem hasSymbol_map {recorded : Recording} {path : SourcePath} {name other : String}
    {kind : ObservableSymbolKind} {startLine endLine : Nat} (has : recorded.HasSymbol path name) :
    ({ recorded with symbols := recorded.symbols.map fun symbol =>
        if symbol.qualifiedName = other then symbol.withDefinition kind startLine endLine
        else symbol } : Recording).HasSymbol path name := by
  obtain ⟨row, mem, samePath, sameName⟩ := has
  refine ⟨_, List.mem_map_of_mem mem, ?_⟩
  split
  · exact ⟨samePath, sameName⟩
  · exact ⟨samePath, sameName⟩

/-- Recording loses nothing that was recorded. -/
theorem record_keeps {words : WordClass} {path : SourcePath} {aliases : String → Option String}
    {limits : VisitLimits} {recorded next : Recording} {call : VisitorCall}
    (passed : recorded.record words path aliases limits call = .ok next) :
    (∀ name, recorded.HasSymbol path name → next.HasSymbol path name) ∧
    (∀ kind expression place, recorded.HasReference path kind expression place →
      next.HasReference path kind expression place) := by
  unfold Recording.record at passed
  split at passed
  · split at passed
    · cases passed
      exact ⟨fun name has => hasSymbol_map has, fun _ _ _ has => has⟩
    · split at passed
      · cases passed
        exact ⟨fun _ has => has, fun _ _ _ has => has⟩
      · split at passed
        · cases passed
          refine ⟨?_, fun _ _ _ has => has⟩
          rintro name ⟨row, mem, same⟩
          exact ⟨row, List.mem_append_left _ mem, same⟩
        · cases passed
  · split at passed
    · cases passed
      exact ⟨fun _ has => has, fun _ _ _ has => has⟩
    · split at passed
      · dsimp only at passed
        split at passed
        · cases passed
          refine ⟨fun _ has => has, ?_⟩
          rintro kind expression place ⟨row, mem, same⟩
          exact ⟨row, List.mem_append_left _ mem, same⟩
        · cases passed
      · cases passed
        exact ⟨fun _ has => has, fun _ _ _ has => has⟩

/-- The symbols so far are those of one file. -/
def Recording.OfFile (recorded : Recording) (path : SourcePath) : Prop :=
  ∀ row ∈ recorded.symbols, row.path = path

theorem record_ofFile {words : WordClass} {path : SourcePath}
    {aliases : String → Option String} {limits : VisitLimits} {recorded next : Recording}
    {call : VisitorCall} (ofFile : recorded.OfFile path)
    (passed : recorded.record words path aliases limits call = .ok next) : next.OfFile path := by
  unfold Recording.record at passed
  split at passed
  · split at passed
    · cases passed
      intro row mem
      obtain ⟨before, inSymbols, rfl⟩ := List.mem_map.mp mem
      split
      · exact ofFile before inSymbols
      · exact ofFile before inSymbols
    · split at passed
      · cases passed
        exact ofFile
      · split at passed
        · cases passed
          intro row mem
          rcases List.mem_append.mp mem with before | now
          · exact ofFile row before
          · obtain rfl := List.mem_singleton.mp now
            rfl
        · cases passed
  · split at passed
    · cases passed
      exact ofFile
    · split at passed
      · dsimp only at passed
        split at passed
        · cases passed
          exact ofFile
        · cases passed
      · cases passed
        exact ofFile

/-- The flags of a recording are as its counts. -/
def Recording.Untruncated (recorded : Recording) : Prop :=
  recorded.symbolsTruncated = false ∧ recorded.referencesTruncated = false

/-- One call is recorded unless a limit is reached. -/
theorem record_holds {words : WordClass} {path : SourcePath} {aliases : String → Option String}
    {limits : VisitLimits} {recorded next : Recording} {call : VisitorCall}
    (ofFile : recorded.OfFile path)
    (passed : recorded.record words path aliases limits call = .ok next)
    (untruncated : next.Untruncated) :
    recorded.Untruncated ∧ next.symbolsOmitted = recorded.symbolsOmitted ∧
      next.referencesOmitted = recorded.referencesOmitted ∧ next.Holds words path [call] := by
  obtain ⟨symbolsWhole, referencesWhole⟩ := untruncated
  unfold Recording.record at passed
  split at passed
  · rename_i name kind startLine endLine
    split at passed
    · rename_i known
      cases passed
      refine ⟨⟨symbolsWhole, referencesWhole⟩, rfl, rfl, ?_⟩
      intro call mem
      obtain rfl := List.mem_singleton.mp mem
      obtain ⟨row, inSymbols, same⟩ := List.any_eq_true.mp known
      exact hasSymbol_map ⟨row, inSymbols, ofFile row inSymbols, by simpa using same⟩
    · split at passed
      · cases passed
        cases symbolsWhole
      · split at passed
        · cases passed
          refine ⟨⟨symbolsWhole, referencesWhole⟩, rfl, rfl, ?_⟩
          intro call mem
          obtain rfl := List.mem_singleton.mp mem
          exact ⟨_, List.mem_append_right _ (List.mem_singleton_self _), rfl, rfl⟩
        · cases passed
  · rename_i scopes kind expression place
    split at passed
    · cases passed
      cases referencesWhole
    · split at passed
      · dsimp only at passed
        split at passed
        · cases passed
          refine ⟨⟨symbolsWhole, referencesWhole⟩, rfl, rfl, ?_⟩
          intro call mem
          obtain rfl := List.mem_singleton.mp mem
          intro _
          exact ⟨_, List.mem_append_right _ (List.mem_singleton_self _), rfl, rfl, rfl, rfl⟩
        · cases passed
      · rename_i notPlain
        cases passed
        refine ⟨⟨symbolsWhole, referencesWhole⟩, rfl, rfl, ?_⟩
        intro call mem
        obtain rfl := List.mem_singleton.mp mem
        intro plain
        exact absurd plain notPlain

theorem Recording.Holds.keep {words : WordClass} {path : SourcePath}
    {aliases : String → Option String} {limits : VisitLimits} {recorded next : Recording}
    {call : VisitorCall} {calls : List VisitorCall} (holds : recorded.Holds words path calls)
    (passed : recorded.record words path aliases limits call = .ok next) :
    next.Holds words path calls := by
  obtain ⟨symbols, references⟩ := record_keeps passed
  intro other mem
  have before := holds other mem
  cases other with
  | symbol name kind startLine endLine => exact symbols name before
  | reference scopes kind expression place =>
      intro plain
      exact references kind expression place (before plain)

/-- A visitor that is not truncated has recorded all it came upon. -/
theorem recorded_whole {words : WordClass} {path : SourcePath}
    {aliases : String → Option String} {limits : VisitLimits} {calls : List VisitorCall}
    {recorded : Recording}
    (returned : calls.foldlM (Recording.record words path aliases limits) {} = .ok recorded)
    (untruncated : recorded.Untruncated) :
    recorded.symbolsOmitted = 0 ∧ recorded.referencesOmitted = 0 ∧
      recorded.Holds words path calls := by
  have kept := Folds.foldlM_seen
    (fun seen (recorded : Recording) => recorded.OfFile path ∧ (recorded.Untruncated →
      recorded.symbolsOmitted = 0 ∧ recorded.referencesOmitted = 0 ∧
        recorded.Holds words path seen))
    ?_ ?_ returned
  · exact kept.2 untruncated
  · rintro seen value call next ⟨ofFile, before⟩ passed
    refine ⟨record_ofFile ofFile passed, ?_⟩
    intro whole
    obtain ⟨wholeBefore, symbols, references, holds⟩ := record_holds ofFile passed whole
    obtain ⟨symbolsBefore, referencesBefore, holdsBefore⟩ := before wholeBefore
    refine ⟨symbols.trans symbolsBefore, references.trans referencesBefore, ?_⟩
    intro other mem
    rcases List.mem_append.mp mem with earlier | now
    · exact holdsBefore.keep passed other earlier
    · exact holds other now
  · refine ⟨?_, fun _ => ⟨rfl, rfl, ?_⟩⟩
    · intro row mem
      cases mem
    · intro call mem
      cases mem

/-! ## The build -/

/-- Everything that the visitors come upon in a file is in some rows. -/
structure FileIndexed (frontend : PythonFrontend) (file : SourceFile) (symbols : List SymbolRow)
    (imports : List (SourcePath × ImportCall)) (references : List ReferenceRow) : Prop where
  parsed : ∃ source tree, frontend.decode file.content = .ok source ∧
    frontend.parse source = .ok tree ∧
    (∀ call ∈ SyntaxNode.importCallsAll file.path.text [] tree, (file.path, call) ∈ imports) ∧
    ∀ call ∈ SyntaxNode.visitorCallsAll frontend.words [] tree, match call with
      | .symbol name _ _ _ => ∃ row ∈ symbols, row.path = file.path ∧ row.qualifiedName = name
      | .reference _ kind expression place =>
          isPlainIdentifier frontend.words (leafName expression) = true →
          ∃ row ∈ references, row.path = file.path ∧ row.kind = kind ∧
            row.expression = expression ∧ row.place = place

theorem FileIndexed.append {frontend : PythonFrontend} {file : SourceFile}
    {symbols moreSymbols : List SymbolRow} {imports moreImports : List (SourcePath × ImportCall)}
    {references moreReferences : List ReferenceRow}
    (indexed : FileIndexed frontend file symbols imports references) :
    FileIndexed frontend file (symbols ++ moreSymbols) (imports ++ moreImports)
      (references ++ moreReferences) := by
  obtain ⟨source, tree, decoded, parsed, allImports, allCalls⟩ := indexed.parsed
  refine ⟨source, tree, decoded, parsed, ?_, ?_⟩
  · intro call mem
    exact List.mem_append_left _ (allImports call mem)
  · intro call mem
    have before := allCalls call mem
    cases call with
    | symbol name kind startLine endLine =>
        obtain ⟨row, inSymbols, same⟩ := before
        exact ⟨row, List.mem_append_left _ inSymbols, same⟩
    | reference scopes kind expression place =>
        intro plain
        obtain ⟨row, inReferences, same⟩ := before plain
        exact ⟨row, List.mem_append_left _ inReferences, same⟩

namespace BuildProgress

/-- What an untruncated build has of the files so far. -/
structure Whole (frontend : PythonFrontend) (seen : List SourceFile) (progress : BuildProgress) :
    Prop where
  undecodable : progress.undecodable = 0
  syntaxErrors : progress.syntaxErrors = 0
  symbolsOmitted : progress.symbolsOmitted = 0
  importsOmitted : progress.importsOmitted = 0
  referencesOmitted : progress.referencesOmitted = 0
  parsed : ∀ row ∈ progress.files, row.parsed = true
  indexed : ∀ file ∈ seen, FileIndexed frontend file progress.symbols progress.imports
    progress.references

/-- What holds of the build after some files. -/
structure Accounts (frontend : PythonFrontend) (startTruncated : Bool) (seen : List SourceFile)
    (progress : BuildProgress) : Prop where
  counted : progress.files.length + progress.undecodable = seen.length
  bytes : (progress.files.map FileRow.sizeBytes).sum ≤ (seen.map SourceFile.size).sum
  paths : (progress.files.map FileRow.path).Sublist (seen.map SourceFile.path)
  whole : progress.truncated = false → startTruncated = false ∧ progress.Whole frontend seen

variable {frontend : PythonFrontend} {startTruncated : Bool} {seen : List SourceFile}
  {progress next : BuildProgress} {file : SourceFile}

theorem accounts_start : Accounts frontend startTruncated [] { truncated := startTruncated } where
  counted := rfl
  bytes := Nat.le_refl 0
  paths := List.Sublist.refl []
  whole := by
    intro untruncated
    refine ⟨untruncated, rfl, rfl, rfl, rfl, rfl, ?_, ?_⟩
    · intro row mem
      cases mem
    · intro file mem
      cases mem

theorem fileRow_eq_ok {parsed : Bool} {row : FileRow} (made : fileRow file parsed = .ok row) :
    row = ⟨file.path, file.content.length, parsed⟩ := by
  unfold fileRow at made
  split at made
  · cases made
    rfl
  · cases made

theorem seen_bytes (accounts : Accounts frontend startTruncated seen progress)
    (file : SourceFile) {size : Nat} (same : size ≤ file.content.length) :
    (progress.files.map FileRow.sizeBytes).sum + size ≤
      ((seen ++ [file]).map SourceFile.size).sum := by
  have before := accounts.bytes
  rw [List.map_append, List.sum_append]
  simp only [List.map_cons, List.map_nil, List.sum_cons, List.sum_nil, Nat.add_zero,
    SourceFile.size] at before ⊢
  omega

/-- A file that is counted and skipped. -/
theorem accounts_undecodable (accounts : Accounts frontend startTruncated seen progress)
    (file : SourceFile) :
    Accounts frontend startTruncated (seen ++ [file])
      { progress with undecodable := progress.undecodable + 1, truncated := true } where
  counted := by
    have before := accounts.counted
    simp only [List.length_append, List.length_singleton]
    omega
  bytes := seen_bytes accounts file (Nat.zero_le _)
  paths := by
    rw [List.map_append]
    exact accounts.paths.trans (List.sublist_append_left _ _)
  whole := by
    intro absurdity
    cases absurdity

theorem paths_snoc (accounts : Accounts frontend startTruncated seen progress)
    (file : SourceFile) (parsed : Bool) :
    ((progress.files ++ [(⟨file.path, file.content.length, parsed⟩ : FileRow)]).map
      FileRow.path).Sublist ((seen ++ [file]).map SourceFile.path) := by
  rw [List.map_append, List.map_append]
  exact accounts.paths.append (List.Sublist.refl _)

/-- A file whose source does not parse. -/
theorem accounts_unparsed (accounts : Accounts frontend startTruncated seen progress)
    (file : SourceFile) :
    Accounts frontend startTruncated (seen ++ [file])
      { progress with
        files := progress.files ++ [⟨file.path, file.content.length, false⟩]
        syntaxErrors := progress.syntaxErrors + 1
        truncated := true } where
  counted := by
    have before := accounts.counted
    simp only [List.length_append, List.length_singleton]
    omega
  bytes := by
    have bytes := seen_bytes accounts file (Nat.le_refl _)
    simpa using bytes
  paths := paths_snoc accounts file false
  whole := by
    intro absurdity
    cases absurdity

/-- A file whose tree is visited. -/
theorem accounts_visited {budget : RepositoryIndexBudget}
    (accounts : Accounts frontend startTruncated seen progress) (file : SourceFile)
    {source : String} {tree : List SyntaxNode}
    (decoded : frontend.decode file.content = .ok source)
    (parsed : frontend.parse source = .ok tree)
    (visited : visitTree frontend budget
      { progress with files := progress.files ++ [⟨file.path, file.content.length, true⟩] }
      file.path tree = .ok next) :
    Accounts frontend startTruncated (seen ++ [file]) next := by
  obtain ⟨-, visited⟩ := Guard.require_bind_eq_ok_iff.mp visited
  obtain ⟨collected, collects, visited⟩ := Guard.bind_eq_ok_iff.mp visited
  obtain ⟨recorded, records, returned⟩ := Guard.bind_eq_ok_iff.mp visited
  cases returned
  constructor
  · have before := accounts.counted
    simp only [List.length_append, List.length_singleton]
    omega
  · have bytes := seen_bytes accounts file (Nat.le_refl _)
    simpa using bytes
  · exact paths_snoc accounts file true
  · intro untruncated
    simp only [Bool.or_eq_false_iff] at untruncated
    obtain ⟨before, ⟨importsWhole, symbolsWhole⟩, referencesWhole⟩ := untruncated
    obtain ⟨start, whole⟩ := accounts.whole before
    obtain ⟨noImports, allImports⟩ := collected_whole collects importsWhole
    obtain ⟨noSymbols, noReferences, allCalls⟩ :=
      recorded_whole records ⟨symbolsWhole, referencesWhole⟩
    refine ⟨start, whole.undecodable, whole.syntaxErrors, ?_, ?_, ?_, ?_, ?_⟩
    · simp only [whole.symbolsOmitted, noSymbols]
    · simp only [whole.importsOmitted, noImports]
    · simp only [whole.referencesOmitted, noReferences]
    · intro row mem
      rcases List.mem_append.mp mem with earlier | now
      · exact whole.parsed row earlier
      · obtain rfl := List.mem_singleton.mp now
        rfl
    · intro other mem
      rcases List.mem_append.mp mem with earlier | now
      · exact (whole.indexed other earlier).append
      · obtain rfl := List.mem_singleton.mp now
        refine ⟨source, tree, decoded, parsed, ?_, ?_⟩
        · intro call inCalls
          refine List.mem_append_right _ (List.mem_map_of_mem ?_)
          rw [allImports]
          exact inCalls
        · intro call inCalls
          have held := allCalls call inCalls
          cases call with
          | symbol name kind startLine endLine =>
              obtain ⟨row, inSymbols, same⟩ := held
              exact ⟨row, List.mem_append_right _ inSymbols, same⟩
          | reference scopes kind expression place =>
              intro plain
              obtain ⟨row, inReferences, same⟩ := held plain
              exact ⟨row, List.mem_append_right _ inReferences, same⟩

theorem accounts_indexFile {budget : RepositoryIndexBudget}
    (accounts : Accounts frontend startTruncated seen progress)
    (passed : indexFile frontend budget progress file = .ok next) :
    Accounts frontend startTruncated (seen ++ [file]) next := by
  unfold indexFile at passed
  split at passed
  · cases passed
    exact accounts_undecodable accounts file
  · cases passed
  · rename_i source decoded
    split at passed
    · cases passed
    · obtain ⟨row, made, returned⟩ := Guard.bind_eq_ok_iff.mp passed
      obtain rfl := fileRow_eq_ok made
      cases returned
      exact accounts_unparsed accounts file
    · rename_i tree parsed
      obtain ⟨row, made, visited⟩ := Guard.bind_eq_ok_iff.mp passed
      obtain rfl := fileRow_eq_ok made
      exact accounts_visited accounts file decoded parsed visited

end BuildProgress

/-! ## Conservation -/

/-- The start of a build's selection. -/
def Discovery.start (found : Discovery) : Selection SourceFile :=
  { oversized := found.oversized
    fileLimitOmitted := found.fileLimitOmitted
    byteBudgetOmitted := found.byteBudgetOmitted
    truncated := found.fileLimitOmitted != 0 || found.byteBudgetOmitted != 0 ||
      found.symlinks != 0 || found.excluded != 0 || found.oversized != 0 }

/-- What was discovered is what goes into the build and what was left out before. -/
def Discovery.Balances (found : Discovery) (files : List SourceFile) : Prop :=
  found.discovered = files.length + found.symlinks + found.excluded + found.fileLimitOmitted +
    found.byteBudgetOmitted + found.oversized

/-- What an index owes to the files it was built from. -/
structure Conserves (frontend : PythonFrontend) (budget : RepositoryIndexBudget)
    (files : List SourceFile) (index : BuiltIndex) : Prop where
  discovered : index.stats.discovered = index.stats.filesIndexed + index.stats.oversized +
    index.stats.undecodable + index.stats.symlinks + index.stats.excluded +
    index.stats.fileLimitOmitted + index.stats.byteBudgetOmitted
  indexed : index.stats.filesIndexed = index.files.length ∧ index.files.length ≤ budget.maxFiles
  bytes : index.stats.totalSourceBytes ≤ budget.maxTotalSourceBytes
  whole : index.stats.truncated = false →
    index.stats.filesIndexed = index.stats.discovered ∧ index.stats.syntaxErrors = 0 ∧
    index.stats.symbolsOmitted = 0 ∧ index.stats.importsOmitted = 0 ∧
    index.stats.referencesOmitted = 0 ∧
    (index.files.map FileRow.path).Perm (files.map SourceFile.path) ∧
    (∀ row ∈ index.files, row.parsed = true) ∧
    ∀ file ∈ files, FileIndexed frontend file index.symbols index.imports index.references

section Build

variable {frontend : PythonFrontend} {found : Discovery} {priority : List String}
  {files : List SourceFile} {index : BuiltIndex}

theorem selectFiles_accounts (budget : RepositoryIndexBudget) (found : Discovery)
    (priority : List String) (files : List SourceFile) :
    (selectFiles budget found priority files).Accounts budget SourceFile.size
      found.start.counted (takenFiles priority files) := by
  refine Folds.foldl_seen (fun seen (selection : Selection SourceFile) =>
    selection.Accounts budget SourceFile.size found.start.counted seen) ?_ _ ?_
  · intro seen selection file accounts
    exact buildStep_accounts file accounts
  · exact ⟨rfl, List.Sublist.refl _, Nat.zero_le _, rfl, Nat.zero_le _,
      fun _ mem => absurd mem List.not_mem_nil⟩

/-- What an untruncated selection says of its counts. -/
def NothingLeftOut (found : Discovery) (selection : Selection SourceFile) : Prop :=
  selection.truncated = false → found.symlinks = 0 ∧ found.excluded = 0 ∧
    found.start.counted = 0 ∧ selection.oversized = 0 ∧ selection.fileLimitOmitted = 0 ∧
    selection.byteBudgetOmitted = 0

/-- A selection that is not truncated has left nothing out. -/
theorem selectFiles_whole (budget : RepositoryIndexBudget) (found : Discovery)
    (priority : List String) (files : List SourceFile) :
    NothingLeftOut found (selectFiles budget found priority files) := by
  refine Folds.foldl_seen (fun _ selection => NothingLeftOut found selection) ?_ _ ?_
  · intro seen selection file before
    unfold buildStep
    split
    · intro absurdity
      cases absurdity
    · split
      · intro absurdity
        cases absurdity
      · split
        · intro absurdity
          cases absurdity
        · exact before
  · intro start
    simp at start
    simp [Discovery.start, Selection.counted]
    omega

theorem buildIndex_conserves (balances : found.Balances files)
    (built : buildIndex frontend budget found priority files = .ok index) :
    Conserves frontend budget files index := by
  obtain ⟨progress, indexes, returned⟩ := Guard.bind_eq_ok_iff.mp built
  cases returned
  have selected := selectFiles_accounts budget found priority files
  have accounts := Folds.foldlM_seen
    (fun seen (progress : BuildProgress) => progress.Accounts frontend
      (selectFiles budget found priority files).truncated seen)
    (fun seen progress file next accounts passed =>
      BuildProgress.accounts_indexFile accounts passed)
    BuildProgress.accounts_start indexes
  have perm : (takenFiles priority files).Perm files := List.perm_insertionSort _ files
  have counted := selected.counted
  have indexed := accounts.counted
  rw [perm.length_eq] at counted
  have start : found.start.counted =
      found.oversized + found.fileLimitOmitted + found.byteBudgetOmitted := by
    simp [Selection.counted, Discovery.start]
  unfold Discovery.Balances at balances
  rw [start, Selection.counted] at counted
  refine ⟨?_, ⟨rfl, ?_⟩, ?_, ?_⟩
  · dsimp only
    omega
  · have bound := selected.files
    dsimp only
    omega
  · exact Nat.le_trans accounts.bytes (by rw [← selected.total]; exact selected.bytes)
  · intro untruncated
    obtain ⟨untruncatedStart, whole⟩ := accounts.whole untruncated
    obtain ⟨noLinks, noExcluded, noneBefore, noOversized, noLimit, noBytes⟩ :=
      selectFiles_whole budget found priority files untruncatedStart
    rw [start] at noneBefore
    have decodes := whole.undecodable
    have all : (selectFiles budget found priority files).selected = takenFiles priority files := by
      apply selected.sublist.eq_of_length
      rw [perm.length_eq]
      omega
    have paths : progress.files.map FileRow.path =
        (takenFiles priority files).map SourceFile.path := by
      rw [← all]
      apply accounts.paths.eq_of_length
      rw [List.length_map, List.length_map]
      omega
    refine ⟨?_, whole.syntaxErrors, whole.symbolsOmitted, whole.importsOmitted,
      whole.referencesOmitted, ?_, whole.parsed, ?_⟩
    · dsimp only
      omega
    · rw [paths]
      exact perm.map SourceFile.path
    · intro file mem
      refine whole.indexed file ?_
      rw [all]
      exact perm.mem_iff.mpr mem

/-- Every row is that of a file that was selected. -/
theorem buildIndex_rows (built : buildIndex frontend budget found priority files = .ok index) :
    ∀ row ∈ index.files, ∃ file ∈ (selectFiles budget found priority files).selected,
      file.path = row.path := by
  obtain ⟨progress, indexes, returned⟩ := Guard.bind_eq_ok_iff.mp built
  cases returned
  have accounts := Folds.foldlM_seen
    (fun seen (progress : BuildProgress) => progress.Accounts frontend
      (selectFiles budget found priority files).truncated seen)
    (fun seen progress file next accounts passed =>
      BuildProgress.accounts_indexFile accounts passed)
    BuildProgress.accounts_start indexes
  intro row mem
  exact List.mem_map.mp (accounts.paths.subset (List.mem_map_of_mem mem))

end Build

/-- A file of priority that the limit on files keeps out leaves room to files of priority
alone. -/
def YieldsToPriority {α : Type} (budget : RepositoryIndexBudget) (priority : List String)
    (step : Selection α → α → Selection α) (start : Selection α) (taken : List α)
    (path : α → SourcePath) (index : BuiltIndex) : Prop :=
  ∀ item, LimitLeavesOut budget step start taken item → (path item).text ∈ priority →
    ∀ row ∈ index.files, row.path.text ∈ priority

/-- Whatever a build selects is among the files it has come to. -/
theorem buildStep_among (budget : RepositoryIndexBudget) (found : Discovery)
    (front : List SourceFile) :
    ∀ file ∈ (front.foldl (buildStep budget) found.start).selected, file ∈ front := by
  have accounts : (front.foldl (buildStep budget) found.start).Accounts budget SourceFile.size
      found.start.counted front := by
    refine Folds.foldl_seen (fun seen (selection : Selection SourceFile) =>
      selection.Accounts budget SourceFile.size found.start.counted seen) ?_ front ?_
    · intro seen selection file accounts
      exact buildStep_accounts file accounts
    · exact ⟨rfl, List.Sublist.refl _, Nat.zero_le _, rfl, Nat.zero_le _,
        fun _ mem => absurd mem List.not_mem_nil⟩
  intro file mem
  exact accounts.sublist.subset mem

theorem buildIndex_yields {frontend : PythonFrontend} {found : Discovery}
    {priority : List String} {files : List SourceFile} {index : BuiltIndex}
    (built : buildIndex frontend budget found priority files = .ok index) :
    YieldsToPriority budget priority (buildStep budget) found.start (takenFiles priority files)
      SourceFile.path index := by
  intro file leftOut preferred row mem
  obtain ⟨other, inSelected, same⟩ := buildIndex_rows built row mem
  rw [← same]
  exact selected_of_limitLeavesOut buildStep_stops (buildStep_among budget found)
    (takenFiles_sorted priority files) leftOut preferred inSelected

/-! ## From a map of files -/

/-- What an index built from a map owes to the map. -/
structure MapConserved (frontend : PythonFrontend) (files : FileMap)
    (budget : RepositoryIndexBudget) (excluded priority : List String) (index : BuiltIndex) :
    Prop where
  every : index.stats.discovered = files.entries.length
  conserves : Conserves frontend budget (files.normalized excluded) index
  yields : YieldsToPriority budget priority (buildStep budget)
    { truncated := index.stats.excluded != 0 } (takenFiles priority (files.normalized excluded))
    SourceFile.path index

theorem indexFromFiles_conserves {frontend : PythonFrontend} {files : FileMap}
    {excluded priority : List String} {index : BuiltIndex}
    (built : indexFromFiles frontend files budget excluded priority = .ok index) :
    MapConserved frontend files budget excluded priority index := by
  have yields := buildIndex_yields built
  have conserves := buildIndex_conserves (by simp [Discovery.Balances]) built
  obtain ⟨progress, indexes, returned⟩ := Guard.bind_eq_ok_iff.mp built
  cases returned
  refine ⟨?_, conserves, ?_⟩
  · have split := List.length_eq_length_filter_add (l := files.entries)
      fun entry => excluded.contains entry.1.text
    rw [← List.countP_eq_length_filter] at split
    simp only [FileMap.normalized, List.length_map]
    omega
  · simpa [Discovery.start] using yields

/-! ## From a Git tree -/

/-- What holds of the listing so far. -/
structure TreeScan.Accounts (seen : List GitTreeEntry) (scan : TreeScan) : Prop where
  every : scan.discovered = seen.countP fun entry => endsWith ".py" entry.path
  counted : scan.discovered = scan.entries.length + scan.symlinks + scan.excluded

/-- A Python file of the listing is discovered, and counted once. -/
theorem TreeScan.Accounts.discover {seen : List GitTreeEntry} {scan next : TreeScan}
    {entry : GitTreeEntry} (accounts : scan.Accounts seen)
    (python : endsWith ".py" entry.path = true) (one : next.discovered = scan.discovered + 1)
    (counted : next.entries.length + next.symlinks + next.excluded =
      scan.entries.length + scan.symlinks + scan.excluded + 1) :
    next.Accounts (seen ++ [entry]) where
  every := by
    rw [List.countP_append, List.countP_singleton, if_pos python, ← accounts.every, one]
  counted := by
    rw [one, accounts.counted, counted]

theorem scanEntry_accounts {excluded : List String} {seen : List GitTreeEntry}
    {scan next : TreeScan} {entry : GitTreeEntry} (accounts : scan.Accounts seen)
    (passed : scanEntry excluded scan entry = .ok next) : next.Accounts (seen ++ [entry]) := by
  unfold scanEntry at passed
  split at passed
  · rename_i other
    cases passed
    refine ⟨?_, accounts.counted⟩
    have noPython : endsWith ".py" entry.path ≠ true := by simpa using other
    rw [List.countP_append, List.countP_singleton, if_neg noPython, accounts.every, Nat.add_zero]
  · rename_i suffix
    have python : endsWith ".py" entry.path = true := by simpa using suffix
    split at passed
    · dsimp only at passed
      split at passed
      · cases passed
        exact accounts.discover python rfl rfl
      · split at passed
        · cases passed
          exact accounts.discover python rfl (by dsimp only; omega)
        · split at passed
          · cases passed
          · split at passed
            · cases passed
            · cases passed
              refine accounts.discover python rfl ?_
              dsimp only
              rw [List.length_append, List.length_singleton]
              omega
    · cases passed

/-- Reading the blobs of some entries keeps their paths. -/
theorem readBlobs_paths {tree : GitTree} {entries : List SizedEntry} {files : List SourceFile}
    (read : entries.mapM (readBlob tree) = .ok files) :
    files.map SourceFile.path = entries.map SizedEntry.path := by
  induction entries generalizing files with
  | nil =>
      cases read
      rfl
  | cons entry rest ih =>
      rw [List.mapM_cons] at read
      obtain ⟨file, first, read⟩ := Guard.bind_eq_ok_iff.mp read
      obtain ⟨others, later, returned⟩ := Guard.bind_eq_ok_iff.mp read
      cases returned
      have same : file.path = entry.path := by
        unfold readBlob at first
        split at first
        · split at first
          · cases first
            rfl
          · cases first
        · cases first
      rw [List.map_cons, List.map_cons, same, ih later]

/-- The entries that are read from the tree. -/
def selectEntries (budget : RepositoryIndexBudget) (priority : List String)
    (entries : List SizedEntry) : Selection SizedEntry :=
  (takenEntries priority entries).foldl (gitStep budget) {}

theorem selectEntries_accounts (budget : RepositoryIndexBudget) (taken : List SizedEntry) :
    (taken.foldl (gitStep budget) {}).Accounts budget SizedEntry.size 0 taken := by
  refine Folds.foldl_seen (fun seen (selection : Selection SizedEntry) =>
    selection.Accounts budget SizedEntry.size 0 seen) ?_ taken ?_
  · intro seen selection entry accounts
    exact gitStep_accounts entry accounts
  · exact ⟨rfl, List.Sublist.refl _, Nat.zero_le _, rfl, Nat.zero_le _,
      fun _ mem => absurd mem List.not_mem_nil⟩

/-- What was counted before the build, of a tree. -/
def TreeScan.discovery (scan : TreeScan) (selection : Selection SizedEntry) : Discovery where
  discovered := scan.discovered
  symlinks := scan.symlinks
  excluded := scan.excluded
  fileLimitOmitted := selection.fileLimitOmitted
  byteBudgetOmitted := selection.byteBudgetOmitted
  oversized := selection.oversized

/-- What an index built from a tree owes to the tree: the Python files of the listing, and
those of them that were read. -/
structure TreeConserved (frontend : PythonFrontend) (tree : GitTree)
    (budget : RepositoryIndexBudget) (excluded priority : List String) (scan : TreeScan)
    (files : List SourceFile) (index : BuiltIndex) : Prop where
  listed : tree.entries.foldlM (scanEntry excluded) {} = .ok scan
  read : (selectEntries budget priority scan.entries).selected.mapM (readBlob tree) = .ok files
  every : index.stats.discovered = tree.entries.countP fun entry => endsWith ".py" entry.path
  conserves : Conserves frontend budget files index
  yieldsEntries : YieldsToPriority budget priority (gitStep budget) {}
    (takenEntries priority scan.entries) SizedEntry.path index
  yieldsFiles : YieldsToPriority budget priority (buildStep budget)
    (scan.discovery (selectEntries budget priority scan.entries)).start
    (takenFiles priority files) SourceFile.path index

theorem indexFromGit_conserves {frontend : PythonFrontend} {tree : GitTree}
    {excluded priority : List String} {index : BuiltIndex}
    (built : indexFromGit frontend tree budget excluded priority = .ok index) :
    ∃ scan files, TreeConserved frontend tree budget excluded priority scan files index := by
  obtain ⟨scan, listed, built⟩ := Guard.bind_eq_ok_iff.mp built
  obtain ⟨files, read, built⟩ := Guard.bind_eq_ok_iff.mp built
  have scanned := Folds.foldlM_seen (fun seen (scan : TreeScan) => scan.Accounts seen)
    (fun seen scan entry next accounts passed => scanEntry_accounts accounts passed)
    ⟨rfl, rfl⟩ listed
  have selected := selectEntries_accounts budget (takenEntries priority scan.entries)
  have perm : (takenEntries priority scan.entries).Perm scan.entries :=
    List.perm_insertionSort _ _
  have paths := readBlobs_paths read
  have rows := buildIndex_rows built
  have conserves := buildIndex_conserves (by
    have counted := selected.counted
    have lengths := congrArg List.length paths
    have balanced := scanned.counted
    rw [perm.length_eq, Selection.counted] at counted
    rw [List.length_map, List.length_map] at lengths
    simp only [Discovery.Balances]
    omega) built
  refine ⟨scan, files, listed, read, ?_, conserves, ?_, buildIndex_yields built⟩
  · obtain ⟨progress, indexes, returned⟩ := Guard.bind_eq_ok_iff.mp built
    cases returned
    exact scanned.every
  · intro entry leftOut preferred row mem
    obtain ⟨file, inSelected, same⟩ := rows row mem
    have inFiles : file ∈ files :=
      (List.perm_insertionSort _ files).mem_iff.mp
        ((selectFiles_accounts budget _ priority files).sublist.subset inSelected)
    have among : row.path ∈ files.map SourceFile.path := by
      rw [← same]
      exact List.mem_map_of_mem inFiles
    rw [paths] at among
    obtain ⟨other, inEntries, sameEntry⟩ := List.mem_map.mp among
    rw [← sameEntry]
    refine selected_of_limitLeavesOut gitStep_stops ?_ (takenEntries_sorted priority _) leftOut
      preferred inEntries
    intro front other inFront
    exact (selectEntries_accounts budget front).sublist.subset inFront

/-- **Every Python file that is discovered, in a map or in a tree, is indexed or counted under
one reason, within the budget; priority goes first; an index that does not say it is truncated
holds everything.** -/
theorem no_file_is_lost (frontend : PythonFrontend) (files : FileMap) (tree : GitTree)
    (budget : RepositoryIndexBudget) (excluded priority : List String) :
    (match indexFromFiles frontend files budget excluded priority with
      | .ok index => MapConserved frontend files budget excluded priority index
      | .error _ => True) ∧
    (match indexFromGit frontend tree budget excluded priority with
      | .ok index => ∃ scan read,
          TreeConserved frontend tree budget excluded priority scan read index
      | .error _ => True) := by
  constructor
  · split
    · rename_i index built
      exact indexFromFiles_conserves built
    · trivial
  · split
    · rename_i index built
      exact indexFromGit_conserves built
    · trivial

end PatchProof
