import PatchProof.Investigation.Conservation
import PatchProof.Library.Outcomes

/-!
# When no index is built

The decoder and the parser may refuse a file, which is counted and skipped, and what exceeds the
budget is omitted.  Names that are too long are treated in neither way: a record with such a
name does not validate, and the exception leaves the build.  So do the exceptions of the decoder
and the parser that are not expected, and a tree that is too deep for the stack.

Which records are made depends on the room that the files before have left, and that can be
counted on the trees alone.  An index is built exactly when every record that is made validates
and nothing unexpected is raised; a single import with a long alias prevents it
(`long_alias_prevents_index`).
-/

set_option autoImplicit false

namespace PatchProof

/-! ## Imports -/

theorem append_passes (maximum : Nat) (collected : ImportCollection) (call : ImportCall) :
    Folds.ReturnsWhen (maximum ≤ collected.imports.length ∨ call.Fits)
      (fun next => next.imports = Folds.collectUpTo maximum collected.imports call)
      (collected.append maximum call) := by
  unfold ImportCollection.append
  by_cases full : maximum ≤ collected.imports.length
  · rw [if_pos full]
    exact .returned (.inl full) (Folds.collectUpTo_of_full full call).symm
  · rw [if_neg full]
    by_cases fits : call.Fits
    · rw [if_pos fits]
      exact .returned (.inr fits) (Folds.collectUpTo_of_room full call).symm
    · rw [if_neg fits]
      refine .raised ?_ trivial
      rintro (absurdity | absurdity)
      · exact full absurdity
      · exact fits absurdity

/-- The collector returns exactly when every import below the limit validates. -/
theorem collects (maximum : Nat) (calls : List ImportCall) :
    Folds.ReturnsWhen (∀ call ∈ calls.take maximum, call.Fits)
      (fun collected => collected.imports = calls.take maximum)
      (calls.foldlM (ImportCollection.append maximum) {}) := by
  have checked := Folds.EndsWhen.loop ImportCollection.imports
    (fun imports call => maximum ≤ imports.length ∨ call.Fits) (Folds.collectUpTo maximum)
    (append_passes maximum) calls {}
  have nothing : ({} : ImportCollection).imports = [] := rfl
  rwa [Folds.checked_collectUpTo, Folds.foldl_collectUpTo, nothing, List.length_nil, Nat.sub_zero,
    List.nil_append] at checked

/-! ## Symbols and references -/

/-- The names of symbols that are new among some calls. -/
def freshNames (known : List String) : List VisitorCall → List String
  | [] => []
  | .symbol name _ _ _ :: rest =>
      if name ∈ known then freshNames known rest else name :: freshNames (known ++ [name]) rest
  | .reference _ _ _ _ :: rest => freshNames known rest

/-- The row of a call that is a reference under a plain name. -/
def plainRow (words : WordClass) (path : SourcePath) (aliases : String → Option String) :
    VisitorCall → Option ReferenceRow
  | .symbol _ _ _ _ => none
  | .reference scopes kind expression place =>
      if isPlainIdentifier words (leafName expression) then
        some (referenceRow path aliases scopes kind expression place)
      else none

/-- The rows of the references under plain names. -/
def plainRows (words : WordClass) (path : SourcePath) (aliases : String → Option String)
    (calls : List VisitorCall) : List ReferenceRow := calls.filterMap (plainRow words path aliases)

theorem plainRows_reference (words : WordClass) (path : SourcePath)
    (aliases : String → Option String) (scopes : List VisitScope) (kind : ReferenceKind)
    (expression : String) (place : Place) (rest : List VisitorCall) :
    plainRows words path aliases (.reference scopes kind expression place :: rest) =
      if isPlainIdentifier words (leafName expression) then
        referenceRow path aliases scopes kind expression place :: plainRows words path aliases rest
      else plainRows words path aliases rest := by
  unfold plainRows
  rw [List.filterMap_cons, plainRow]
  split
  · rename_i absent
    rw [if_neg]
    intro plain
    rw [if_pos plain] at absent
    cases absent
  · rename_i row present
    split at present
    · rename_i plain
      cases present
      rw [if_pos plain]
    · cases present

section Recording

variable (words : WordClass) (path : SourcePath) (aliases : String → Option String)
  (limits : VisitLimits)

/-- The names of the symbols and the references of a recording. -/
def Recording.view (recorded : Recording) : List String × List ReferenceRow :=
  (recorded.symbols.map SymbolRow.qualifiedName, recorded.references)

/-- What the next call needs to be recorded or omitted. -/
def CallFits (view : List String × List ReferenceRow) : VisitorCall → Prop
  | .symbol name _ _ _ =>
      name ∈ view.1 ∨ limits.maxSymbols ≤ view.1.length ∨ SymbolFits path name
  | .reference scopes kind expression place =>
      limits.maxReferences ≤ view.2.length ∨
        (isPlainIdentifier words (leafName expression) = true →
          (referenceRow path aliases scopes kind expression place).Fits)

/-- The view after the next call. -/
def afterCall (view : List String × List ReferenceRow) :
    VisitorCall → List String × List ReferenceRow
  | .symbol name _ _ _ =>
      (if name ∈ view.1 then view.1 else Folds.collectUpTo limits.maxSymbols view.1 name, view.2)
  | .reference scopes kind expression place =>
      (view.1, if isPlainIdentifier words (leafName expression) then
        Folds.collectUpTo limits.maxReferences view.2
          (referenceRow path aliases scopes kind expression place) else view.2)

/-- A name is known exactly when some symbol has it. -/
theorem any_symbol_iff (recorded : Recording) (name : String) :
    (recorded.symbols.any fun symbol => symbol.qualifiedName == name) = true ↔
      name ∈ recorded.view.1 := by
  rw [List.any_eq_true]
  constructor
  · rintro ⟨symbol, inSymbols, same⟩
    exact List.mem_map.mpr ⟨symbol, inSymbols, eq_of_beq same⟩
  · intro known
    obtain ⟨symbol, inSymbols, same⟩ := List.mem_map.mp known
    exact ⟨symbol, inSymbols, beq_iff_eq.mpr same⟩

/-- One more definition under a known name leaves the names as they are. -/
theorem names_withDefinition (symbols : List SymbolRow) (name : String)
    (kind : ObservableSymbolKind) (startLine endLine : Nat) :
    (symbols.map fun symbol =>
      if symbol.qualifiedName = name then symbol.withDefinition kind startLine endLine
      else symbol).map SymbolRow.qualifiedName = symbols.map SymbolRow.qualifiedName := by
  rw [List.map_map]
  apply List.map_congr_left
  intro symbol _
  rw [Function.comp_apply]
  split
  · rfl
  · rfl

theorem record_passes (recorded : Recording) (call : VisitorCall) :
    Folds.ReturnsWhen (CallFits words path aliases limits recorded.view call)
      (fun next => next.view = afterCall words path aliases limits recorded.view call)
      (recorded.record words path aliases limits call) := by
  cases call with
  | symbol name kind startLine endLine =>
      have same := any_symbol_iff recorded name
      have sameLength : recorded.view.1.length = recorded.symbols.length := List.length_map _
      unfold Recording.record
      dsimp only [CallFits, afterCall]
      by_cases known : name ∈ recorded.view.1
      · rw [if_pos (same.mpr known), if_pos known]
        exact .returned (.inl known) (Prod.ext (names_withDefinition _ _ _ _ _) rfl)
      · rw [if_neg (fun found => known (same.mp found)), if_neg known]
        by_cases full : limits.maxSymbols ≤ recorded.symbols.length
        · rw [if_pos full, Folds.collectUpTo_of_full (by rw [sameLength]; exact full)]
          exact .returned (.inr (.inl (by rw [sameLength]; exact full))) rfl
        · rw [if_neg full, Folds.collectUpTo_of_room (by rw [sameLength]; exact full)]
          by_cases fits : SymbolFits path name
          · rw [if_pos fits]
            exact .returned (.inr (.inr fits)) (Prod.ext List.map_append rfl)
          · rw [if_neg fits]
            refine .raised ?_ trivial
            rintro (absurdity | absurdity | absurdity)
            · exact known absurdity
            · rw [sameLength] at absurdity
              exact full absurdity
            · exact fits absurdity
  | reference scopes kind expression place =>
      unfold Recording.record
      dsimp only [CallFits, afterCall]
      by_cases full : limits.maxReferences ≤ recorded.references.length
      · have fullView : limits.maxReferences ≤ recorded.view.2.length := full
        rw [if_pos full, Folds.collectUpTo_of_full fullView, ite_self]
        exact .returned (.inl full) rfl
      · have roomView : ¬ limits.maxReferences ≤ recorded.view.2.length := full
        rw [if_neg full, Folds.collectUpTo_of_room roomView]
        by_cases plain : isPlainIdentifier words (leafName expression) = true
        · rw [if_pos plain, if_pos plain]
          by_cases fits : (referenceRow path aliases scopes kind expression place).Fits
          · rw [if_pos fits]
            exact .returned (.inr fun _ => fits) rfl
          · rw [if_neg fits]
            refine .raised ?_ trivial
            rintro (absurdity | absurdity)
            · exact full absurdity
            · exact fits (absurdity plain)
        · rw [if_neg plain, if_neg plain]
          exact .returned (.inr fun absurdity => absurd absurdity plain) rfl

/-- The checks of some calls are those of the new names and of the plain references below the
limits. -/
theorem checked_calls (calls : List VisitorCall) (names : List String)
    (references : List ReferenceRow) :
    Folds.Checked (CallFits words path aliases limits) (afterCall words path aliases limits)
        (names, references) calls ↔
      (∀ name ∈ (freshNames names calls).take (limits.maxSymbols - names.length),
        SymbolFits path name) ∧
      ∀ row ∈ (plainRows words path aliases calls).take
        (limits.maxReferences - references.length), row.Fits := by
  induction calls generalizing names references with
  | nil => simp [Folds.Checked, freshNames, plainRows]
  | cons call rest ih =>
      rw [Folds.Checked]
      cases call with
      | symbol name kind startLine endLine =>
          rw [afterCall, ih]
          have sameRows : plainRows words path aliases (.symbol name kind startLine endLine :: rest)
              = plainRows words path aliases rest := rfl
          rw [sameRows, CallFits, freshNames]
          by_cases known : name ∈ names
          · simp [known]
          · by_cases full : limits.maxSymbols ≤ names.length
            · simp [known, full, Folds.collectUpTo_of_full full]
            · rw [if_neg known, if_neg known, Folds.collectUpTo_of_room full,
                Folds.take_cons_of_room full name, List.forall_mem_cons]
              simp [known, full, and_assoc]
      | reference scopes kind expression place =>
          rw [afterCall, ih]
          have sameNames : freshNames names (.reference scopes kind expression place :: rest) =
              freshNames names rest := rfl
          rw [sameNames, CallFits, plainRows_reference]
          by_cases plain : isPlainIdentifier words (leafName expression) = true
          · rw [if_pos plain, if_pos plain]
            by_cases full : limits.maxReferences ≤ references.length
            · simp [full, Folds.collectUpTo_of_full full]
            · rw [Folds.collectUpTo_of_room full, Folds.take_cons_of_room full
                (referenceRow path aliases scopes kind expression place), List.forall_mem_cons]
              simp [plain, full, and_left_comm]
          · simp [plain]

/-- What is recorded of some calls. -/
theorem view_calls (calls : List VisitorCall) (names : List String)
    (references : List ReferenceRow) :
    calls.foldl (afterCall words path aliases limits) (names, references) =
      (names ++ (freshNames names calls).take (limits.maxSymbols - names.length),
        references ++ (plainRows words path aliases calls).take
          (limits.maxReferences - references.length)) := by
  induction calls generalizing names references with
  | nil => simp [freshNames, plainRows]
  | cons call rest ih =>
      rw [List.foldl_cons]
      cases call with
      | symbol name kind startLine endLine =>
          rw [afterCall, ih]
          have sameRows : plainRows words path aliases (.symbol name kind startLine endLine :: rest)
              = plainRows words path aliases rest := rfl
          rw [sameRows, freshNames]
          by_cases known : name ∈ names
          · simp [known]
          · by_cases full : limits.maxSymbols ≤ names.length
            · simp [known, full, Folds.collectUpTo_of_full full]
            · rw [if_neg known, if_neg known, Folds.collectUpTo_of_room full,
                Folds.take_cons_of_room full name, List.append_assoc, List.singleton_append]
      | reference scopes kind expression place =>
          rw [afterCall, ih]
          have sameNames : freshNames names (.reference scopes kind expression place :: rest) =
              freshNames names rest := rfl
          rw [sameNames, plainRows_reference]
          by_cases plain : isPlainIdentifier words (leafName expression) = true
          · rw [if_pos plain, if_pos plain]
            by_cases full : limits.maxReferences ≤ references.length
            · simp [full, Folds.collectUpTo_of_full full]
            · rw [Folds.collectUpTo_of_room full, Folds.take_cons_of_room full
                (referenceRow path aliases scopes kind expression place), List.append_assoc,
                List.singleton_append]
          · simp [plain]

/-- The visitor returns exactly when every new name and every plain reference below its limits
validates. -/
theorem records (calls : List VisitorCall) :
    Folds.ReturnsWhen
      ((∀ name ∈ (freshNames [] calls).take limits.maxSymbols, SymbolFits path name) ∧
        ∀ row ∈ (plainRows words path aliases calls).take limits.maxReferences, row.Fits)
      (fun recorded =>
        recorded.symbols.length = ((freshNames [] calls).take limits.maxSymbols).length ∧
        recorded.references = (plainRows words path aliases calls).take limits.maxReferences)
      (calls.foldlM (Recording.record words path aliases limits) {}) := by
  have checked := Folds.EndsWhen.loop Recording.view (CallFits words path aliases limits)
    (afterCall words path aliases limits) (record_passes words path aliases limits) calls {}
  have nothing : Recording.view {} = ([], []) := rfl
  rw [nothing, checked_calls, view_calls] at checked
  simp only [List.length_nil, Nat.sub_zero, List.nil_append] at checked
  refine checked.mono ?_
  intro recorded _ same
  have names := congrArg (fun view => view.1.length) same
  simp only [Recording.view, List.length_map] at names
  exact ⟨names, congrArg Prod.snd same⟩

end Recording

/-! ## Files -/

/-- What the budget leaves for the next file. -/
structure Room where
  symbols : Nat
  imports : Nat
  references : Nat

/-- The room before the first file. -/
def RepositoryIndexBudget.room (budget : RepositoryIndexBudget) : Room :=
  ⟨budget.maxSymbols, budget.maxImports, budget.maxReferences⟩

section Files

variable (frontend : PythonFrontend)

/-- The references of a tree under plain names, expanded by the imports below the limit. -/
def treeRows (room : Room) (path : SourcePath) (tree : List SyntaxNode) : List ReferenceRow :=
  plainRows frontend.words path
    (moduleAliases ((SyntaxNode.importCallsAll path.text [] tree).take room.imports))
    (SyntaxNode.visitorCallsAll frontend.words [] tree)

/-- The names of the symbols of a tree. -/
def treeNames (tree : List SyntaxNode) : List String :=
  freshNames [] (SyntaxNode.visitorCallsAll frontend.words [] tree)

/-- Every record that is made of a tree validates. -/
def TreeFits (room : Room) (path : SourcePath) (tree : List SyntaxNode) : Prop :=
  (∀ call ∈ (SyntaxNode.importCallsAll path.text [] tree).take room.imports, call.Fits) ∧
  (∀ name ∈ (treeNames frontend tree).take room.symbols, SymbolFits path name) ∧
  ∀ row ∈ (treeRows frontend room path tree).take room.references, row.Fits

/-- Nothing that a file leads to prevents the index. -/
def FileFits (room : Room) (file : SourceFile) : Prop :=
  match frontend.decode file.content with
  | .error .refused => True
  | .error (.raised _) => False
  | .ok source =>
      match frontend.parse source with
      | .error (.raised _) => False
      | .error .refused => ModuleFits file.path
      | .ok tree =>
          ModuleFits file.path ∧ frontend.stackHolds tree = true ∧
            TreeFits frontend room file.path tree

/-- The room that a file leaves. -/
def Room.after (room : Room) (file : SourceFile) : Room :=
  match frontend.decode file.content with
  | .error _ => room
  | .ok source =>
      match frontend.parse source with
      | .error _ => room
      | .ok tree =>
          ⟨room.symbols - (treeNames frontend tree).length,
            room.imports - (SyntaxNode.importCallsAll file.path.text [] tree).length,
            room.references - (treeRows frontend room file.path tree).length⟩

/-- The references that a file adds to the index. -/
def fileRows (room : Room) (file : SourceFile) : List ReferenceRow :=
  match frontend.decode file.content with
  | .error _ => []
  | .ok source =>
      match frontend.parse source with
      | .error _ => []
      | .ok tree => (treeRows frontend room file.path tree).take room.references

/-- The references that some files add to the index. -/
def filesRows : Room → List SourceFile → List ReferenceRow
  | _, [] => []
  | room, file :: rest =>
      fileRows frontend room file ++ filesRows (room.after frontend file) rest

/-- Nothing that some files lead to prevents the index. -/
def FilesFit : Room → List SourceFile → Prop :=
  Folds.Checked (FileFits frontend) (Room.after frontend)

/-- The room that is left in a build. -/
def BuildProgress.room (budget : RepositoryIndexBudget) (progress : BuildProgress) : Room :=
  ⟨budget.maxSymbols - progress.symbols.length, budget.maxImports - progress.imports.length,
    budget.maxReferences - progress.references.length⟩

variable (budget : RepositoryIndexBudget)

/-- The visitors of a tree return exactly when the stack holds them and every record
validates. -/
theorem visitTree_returns (progress : BuildProgress) (path : SourcePath)
    (tree : List SyntaxNode) :
    Folds.ReturnsWhen
      (frontend.stackHolds tree = true ∧ TreeFits frontend (progress.room budget) path tree)
      (fun next =>
        next.room budget =
          ⟨(progress.room budget).symbols - (treeNames frontend tree).length,
            (progress.room budget).imports -
              (SyntaxNode.importCallsAll path.text [] tree).length,
            (progress.room budget).references -
              (treeRows frontend (progress.room budget) path tree).length⟩ ∧
        next.references = progress.references ++
          (treeRows frontend (progress.room budget) path tree).take
            (progress.room budget).references)
      (visitTree frontend budget progress path tree) := by
  refine (Folds.returnsWhen_require _).bind ?_
  intro _ _
  refine (collects _ _).bind ?_
  intro collected same
  rw [same]
  have recording := records frontend.words path
    (moduleAliases ((SyntaxNode.importCallsAll path.text [] tree).take
      (progress.room budget).imports))
    ⟨budget.maxSymbols - progress.symbols.length,
      budget.maxReferences - progress.references.length⟩
    (SyntaxNode.visitorCallsAll frontend.words [] tree)
  apply recording.map
  rintro recorded ⟨names, references⟩
  have treeSymbols : recorded.symbols.length =
      ((treeNames frontend tree).take (progress.room budget).symbols).length := names
  have treeReferences : recorded.references =
      (treeRows frontend (progress.room budget) path tree).take
        (progress.room budget).references := references
  refine ⟨_, rfl, ?_, congrArg (progress.references ++ ·) treeReferences⟩
  have lengthReferences := congrArg List.length treeReferences
  rw [List.length_take] at treeSymbols lengthReferences
  simp only [BuildProgress.room] at treeSymbols lengthReferences
  simp only [BuildProgress.room, List.length_append, List.length_map, Room.mk.injEq]
  refine ⟨?_, ?_, ?_⟩
  · rw [treeSymbols]
    omega
  · rw [List.length_take]
    omega
  · rw [lengthReferences]
    omega

theorem fileRow_returns (file : SourceFile) (parsed : Bool) :
    Folds.ReturnsWhen (ModuleFits file.path) (fun _ => True) (fileRow file parsed) := by
  unfold fileRow
  split
  · rename_i fits
    exact .returned fits trivial
  · rename_i tooLong
    exact .raised tooLong trivial

/-- A file passes the build exactly when nothing that it leads to prevents the index. -/
theorem indexFile_returns (progress : BuildProgress) (file : SourceFile) :
    Folds.ReturnsWhen (FileFits frontend (progress.room budget) file)
      (fun next => next.room budget = (progress.room budget).after frontend file ∧
        next.references = progress.references ++ fileRows frontend (progress.room budget) file)
      (indexFile frontend budget progress file) := by
  cases decoded : frontend.decode file.content with
  | error failure =>
      simp only [indexFile, FileFits, Room.after, fileRows, decoded]
      cases failure with
      | refused => exact .returned trivial ⟨rfl, (List.append_nil _).symm⟩
      | raised message => exact .raised (fun absurdity => absurdity) trivial
  | ok source =>
      cases parsed : frontend.parse source with
      | error failure =>
          simp only [indexFile, FileFits, Room.after, fileRows, decoded, parsed]
          cases failure with
          | refused =>
              apply (fileRow_returns file false).map
              intro row _
              exact ⟨_, rfl, rfl, (List.append_nil _).symm⟩
          | raised message => exact .raised (fun absurdity => absurdity) trivial
      | ok tree =>
          simp only [indexFile, FileFits, Room.after, fileRows, decoded, parsed]
          apply (fileRow_returns file true).bind
          intro row _
          exact visitTree_returns frontend budget
            { progress with files := progress.files ++ [row] } file.path tree

/-! ## Counts -/

/-- The decoder refuses the file. -/
def Undecodable (file : SourceFile) : Bool :=
  match frontend.decode file.content with
  | .error .refused => true
  | _ => false

/-- The parser refuses the file. -/
def Unparseable (file : SourceFile) : Bool :=
  match frontend.decode file.content with
  | .ok source =>
      match frontend.parse source with
      | .error .refused => true
      | _ => false
  | _ => false

/-- The files that were refused are counted, and those that decode have a row. -/
structure BuildProgress.Counts (seen : List SourceFile) (progress : BuildProgress) : Prop where
  undecodable : progress.undecodable = seen.countP (Undecodable frontend)
  syntaxErrors : progress.syntaxErrors = seen.countP (Unparseable frontend)
  rows : progress.files.map FileRow.path =
    (seen.filter fun file => !Undecodable frontend file).map SourceFile.path

theorem visitTree_keeps {progress next : BuildProgress} {path : SourcePath}
    {tree : List SyntaxNode}
    (visited : visitTree frontend budget progress path tree = .ok next) :
    next.files = progress.files ∧ next.undecodable = progress.undecodable ∧
      next.syntaxErrors = progress.syntaxErrors := by
  obtain ⟨-, visited⟩ := Guard.require_bind_eq_ok_iff.mp visited
  obtain ⟨collected, -, visited⟩ := Guard.bind_eq_ok_iff.mp visited
  obtain ⟨recorded, -, returned⟩ := Guard.bind_eq_ok_iff.mp visited
  cases returned
  exact ⟨rfl, rfl, rfl⟩

/-- One file more, of which the counts are known. -/
theorem BuildProgress.Counts.next {seen : List SourceFile} {progress next : BuildProgress}
    (counts : progress.Counts frontend seen) (file : SourceFile)
    (undecodable : next.undecodable =
      progress.undecodable + if Undecodable frontend file then 1 else 0)
    (syntaxErrors : next.syntaxErrors =
      progress.syntaxErrors + if Unparseable frontend file then 1 else 0)
    (rows : next.files.map FileRow.path = progress.files.map FileRow.path ++
      if Undecodable frontend file then [] else [file.path]) :
    next.Counts frontend (seen ++ [file]) where
  undecodable := by
    rw [undecodable, counts.undecodable, List.countP_append, List.countP_singleton]
  syntaxErrors := by
    rw [syntaxErrors, counts.syntaxErrors, List.countP_append, List.countP_singleton]
  rows := by
    rw [rows, counts.rows, List.filter_append, List.map_append]
    cases refused : Undecodable frontend file
    · simp [refused]
    · simp [refused]

theorem indexFile_counts {seen : List SourceFile} {progress next : BuildProgress}
    {file : SourceFile} (counts : progress.Counts frontend seen)
    (passed : indexFile frontend budget progress file = .ok next) :
    next.Counts frontend (seen ++ [file]) := by
  unfold indexFile at passed
  split at passed
  · rename_i refused
    cases passed
    apply counts.next
    · simp [Undecodable, refused]
    · simp [Unparseable, refused]
    · simp [Undecodable, refused]
  · cases passed
  · rename_i source decoded
    split at passed
    · cases passed
    · rename_i refused
      obtain ⟨row, made, returned⟩ := Guard.bind_eq_ok_iff.mp passed
      obtain rfl := BuildProgress.fileRow_eq_ok made
      cases returned
      apply counts.next
      · simp [Undecodable, decoded]
      · simp [Unparseable, decoded, refused]
      · simp [Undecodable, decoded]
    · rename_i tree parsed
      obtain ⟨row, made, visited⟩ := Guard.bind_eq_ok_iff.mp passed
      obtain rfl := BuildProgress.fileRow_eq_ok made
      obtain ⟨sameFiles, sameUndecodable, sameErrors⟩ := visitTree_keeps frontend budget visited
      apply counts.next
      · simp [Undecodable, decoded, sameUndecodable]
      · simp [Unparseable, decoded, parsed, sameErrors]
      · simp [Undecodable, decoded, sameFiles]

/-! ## The index -/

/-- What is skipped of the files that a build selects: those that the decoder refuses have no
row, those that the parser refuses are counted. -/
structure Skips (selected : List SourceFile) (index : BuiltIndex) : Prop where
  undecodable : index.stats.undecodable = selected.countP (Undecodable frontend)
  syntaxErrors : index.stats.syntaxErrors = selected.countP (Unparseable frontend)
  rows : index.files.map FileRow.path =
    (selected.filter fun file => !Undecodable frontend file).map SourceFile.path

/-- The loop of the build returns exactly when nothing that its files lead to prevents the
index. -/
theorem indexFiles_returns (files : List SourceFile) (truncated : Bool) :
    Folds.ReturnsWhen (FilesFit frontend budget.room files)
      (BuildProgress.Counts frontend files)
      (files.foldlM (indexFile frontend budget) { truncated := truncated }) := by
  have checked := Folds.EndsWhen.loop (BuildProgress.room budget) (FileFits frontend)
    (Room.after frontend) (fun progress file => (indexFile_returns frontend budget progress
      file).mono fun _ _ facts => facts.1) files { truncated := truncated }
  apply checked.mono
  intro progress built _
  exact Folds.foldlM_seen (fun seen (progress : BuildProgress) => progress.Counts frontend seen)
    (fun seen progress file next counts passed =>
      indexFile_counts frontend budget counts passed) ⟨rfl, rfl, rfl⟩ built

/-- The references of an index are those that its files add to it. -/
theorem indexFiles_rows {files : List SourceFile} {progress final : BuildProgress}
    (indexes : files.foldlM (indexFile frontend budget) progress = .ok final) :
    final.references =
      progress.references ++ filesRows frontend (progress.room budget) files := by
  induction files generalizing progress with
  | nil =>
      cases indexes
      exact (List.append_nil _).symm
  | cons file rest ih =>
      rw [List.foldlM_cons] at indexes
      obtain ⟨next, passed, more⟩ := Guard.bind_eq_ok_iff.mp indexes
      obtain ⟨-, sameRoom, added⟩ := (indexFile_returns frontend budget progress file).of_ok passed
      rw [ih more, sameRoom, added, filesRows, List.append_assoc]

theorem buildIndex_references {found : Discovery} {priority : List String}
    {files : List SourceFile} {index : BuiltIndex}
    (built : buildIndex frontend budget found priority files = .ok index) :
    index.references = filesRows frontend budget.room
      (selectFiles budget found priority files).selected := by
  obtain ⟨progress, indexes, returned⟩ := Guard.bind_eq_ok_iff.mp built
  cases returned
  exact indexFiles_rows frontend budget indexes

/-- A build returns exactly when nothing that its selected files lead to prevents the index. -/
theorem buildIndex_returns (found : Discovery) (priority : List String)
    (files : List SourceFile) :
    Folds.ReturnsWhen
      (FilesFit frontend budget.room (selectFiles budget found priority files).selected)
      (Skips frontend (selectFiles budget found priority files).selected)
      (buildIndex frontend budget found priority files) := by
  unfold buildIndex
  refine (indexFiles_returns frontend budget _ _).map ?_
  intro progress counts
  exact ⟨_, rfl, counts.undecodable, counts.syntaxErrors, counts.rows⟩

end Files

/-- What was discovered of a map. -/
def FileMap.discovery (files : FileMap) (excluded : List String) : Discovery where
  discovered := (files.normalized excluded).length +
    files.entries.countP fun entry => excluded.contains entry.1.text
  excluded := files.entries.countP fun entry => excluded.contains entry.1.text

/-- The files of a map that the budget selects. -/
def FileMap.selected (files : FileMap) (budget : RepositoryIndexBudget)
    (excluded priority : List String) : List SourceFile :=
  (selectFiles budget (files.discovery excluded) priority (files.normalized excluded)).selected

/-- **An index of a map is built, with the files that do not decode or parse counted and
skipped, exactly when nothing unexpected is raised and every record that is made
validates.** -/
theorem index_built_iff (frontend : PythonFrontend) (files : FileMap)
    (budget : RepositoryIndexBudget) (excluded priority : List String) :
    (∃ index, indexFromFiles frontend files budget excluded priority = .ok index ∧
      Skips frontend (files.selected budget excluded priority) index) ↔
      FilesFit frontend budget.room (files.selected budget excluded priority) :=
  (buildIndex_returns frontend budget (files.discovery excluded) priority
    (files.normalized excluded)).exists_iff

/-! ## A long alias -/

/-- `m.py`. -/
def modulePath : SourcePath := ⟨"m.py", by decide +kernel⟩

/-- A name of 257 letters. -/
def longAlias : String := String.ofList (List.replicate 257 'a')

/-- The bytes of `import m as` with the long name. -/
def longAliasSource : List UInt8 :=
  [105, 109, 112, 111, 114, 116, 32, 109, 32, 97, 115, 32] ++ List.replicate 257 97

/-- A front end that decodes and parses that source as Python does. -/
def longAliasFrontend : PythonFrontend where
  decode _ := .ok ("import m as " ++ longAlias)
  parse _ := .ok
    [.importNames [⟨⟨"m", dotParts_m_proper⟩, some longAlias⟩] ⟨1, 1, 0, Place.first_ordered⟩]
  stackHolds _ := true
  words := asciiWords

/-- The file with that source. -/
def longAliasFile : SourceFile := ⟨modulePath, longAliasSource⟩

/-- The map with that file. -/
def longAliasMap : FileMap where
  entries := [(modulePath, .bytes longAliasSource)]
  distinct := by simp

/-- The import of that source. -/
def longAliasCall : ImportCall :=
  ⟨[], ⟨"m", none, longAlias, "m", some "m", 0⟩, ⟨1, 1, 0, Place.first_ordered⟩⟩

theorem length_repeated (letter : Char) (count : Nat) :
    (String.ofList (List.replicate count letter)).length = count := by
  rw [String.length_ofList, List.length_replicate]

theorem longAliasCall_fails : ¬ longAliasCall.Fits := by
  rintro ⟨-, -, -, ⟨-, short⟩, -⟩
  have long : longAliasCall.row.aliasName.length = 257 := length_repeated 'a' 257
  omega

theorem longAlias_size : longAliasSource.length = 269 := by
  rw [longAliasSource, List.length_append, List.length_replicate]
  rfl

theorem longAlias_selected (budget : RepositoryIndexBudget) (files : 269 ≤ budget.maxFileBytes) :
    longAliasMap.selected budget [] [] = [longAliasFile] := by
  have normalized : longAliasMap.normalized [] = [longAliasFile] := rfl
  have taken : takenFiles [] [longAliasFile] = [longAliasFile] := rfl
  have some := budget.positive.1
  have bytes := budget.perFileBounded
  rw [FileMap.selected, normalized, selectFiles, taken, List.foldl_cons, List.foldl_nil, buildStep]
  have size : longAliasFile.content.length = 269 := longAlias_size
  simp only [size, List.length_nil, Nat.zero_add]
  rw [if_neg (by omega), if_neg (by omega), if_neg (by omega)]
  rfl

/-- A long alias prevents the index under every budget that reads the file. -/
theorem longAlias_fails (budget : RepositoryIndexBudget) (files : 269 ≤ budget.maxFileBytes) :
    ∃ failure, indexFromFiles longAliasFrontend longAliasMap budget [] [] = .error failure := by
  cases built : indexFromFiles longAliasFrontend longAliasMap budget [] [] with
  | error failure => exact ⟨failure, rfl⟩
  | ok index =>
      have fits : FilesFit longAliasFrontend budget.room (longAliasMap.selected budget [] []) :=
        ((buildIndex_returns _ _ _ _ _).of_ok built).1
      rw [longAlias_selected budget files] at fits
      have imports := fits.1.2.2.1 longAliasCall
      obtain ⟨others, positive⟩ := Nat.exists_eq_succ_of_ne_zero
        (Nat.ne_of_gt budget.positive.2.2.2.2.1)
      rw [RepositoryIndexBudget.room, positive] at imports
      exact absurd (imports List.mem_cons_self) longAliasCall_fails

theorem long_alias_prevents_index :
    ∃ failure, indexFromFiles longAliasFrontend longAliasMap {} [] [] = .error failure :=
  longAlias_fails {} (by decide)

end PatchProof
