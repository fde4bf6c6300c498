import Mathlib.Data.List.Dedup
import PatchProof.Investigation.Planner
import PatchProof.Library.Lines

/-!
# Recording definitions

The symbols that a build records for the definitions of its files.  The parser says on
which lines a definition stands, and the text of these lines is hashed, so that a change of
a definition shows as another hash.

The parser ends a line at a line feed, a carriage return, or the two together.  The text is
cut by `splitlines`, which ends a line at form feeds, vertical tabs and other separators as
well.  A source that has one of these before the end of a definition has other lines hashed
than those the definition stands on (`changes_reported`).
-/

set_option autoImplicit false

namespace PatchProof

/-! ## Lines -/

/-- The characters that end a line for the Python tokenizer. -/
def isNewline (c : Char) : Bool := c == '\n' || c == '\r'

/-- The lines of a source as the Python tokenizer counts them. -/
def tokenizerLines (source : String) : List String :=
  (Lines.linesFrom isNewline [] (Lines.joinPairs source.toList)).map String.ofList

/-- No character up to the end of a line is a line break for `splitlines` only. -/
def SplitAlike (source : String) (last : Nat) : Prop :=
  ∀ line ∈ (tokenizerLines source).take last, ∀ c ∈ line.toList, isLineBreak c = false

instance (source : String) (last : Nat) : Decidable (SplitAlike source last) :=
  inferInstanceAs (Decidable (∀ line ∈ (tokenizerLines source).take last, ∀ c ∈ line.toList,
    isLineBreak c = false))

theorem isLineBreak_of_isNewline (c : Char) (newline : isNewline c = true) :
    isLineBreak c = true := by
  simp only [isNewline, Bool.or_eq_true, beq_iff_eq] at newline
  rcases newline with rfl | rfl
  · decide
  · decide

theorem splitLinesFrom_eq (line text : List Char) : splitLinesFrom line text =
    (Lines.linesFrom isLineBreak line (Lines.joinPairs text)).map String.ofList := by
  induction line, text using splitLinesFrom.induct with
  | case1 => simp [splitLinesFrom, Lines.joinPairs, Lines.linesFrom]
  | case2 line unfinished => simp [splitLinesFrom, Lines.joinPairs, Lines.linesFrom, unfinished]
  | case3 line rest ih =>
      have feed : isLineBreak '\n' = true := by decide
      simp [splitLinesFrom, Lines.joinPairs, Lines.linesFrom, feed, ih]
  | case4 line c rest notPair broken ih =>
      rw [splitLinesFrom.eq_3 line c rest notPair, Lines.joinPairs.eq_3 c rest notPair]
      simp [Lines.linesFrom, broken, ih]
  | case5 line c rest notPair unbroken ih =>
      rw [splitLinesFrom.eq_3 line c rest notPair, Lines.joinPairs.eq_3 c rest notPair]
      simp [Lines.linesFrom, unbroken, ih]

theorem splitLines_eq (source : String) : splitLines source =
    (Lines.linesFrom isLineBreak [] (Lines.joinPairs source.toList)).map String.ofList :=
  splitLinesFrom_eq [] source.toList

/-! ## Symbols -/

/-- `_module_name`, of a path that ends in `.py`. -/
def moduleName (path : String) : String :=
  let parts := (pathSegments (path.toList.take (path.length - 3))).map String.ofList
  ".".intercalate (if parts.getLast? = some "__init__" ∧ 1 < parts.length then parts.dropLast
    else parts)

/-- A definition that the parser locates in a source. -/
structure LocatedDefinition where
  qualifiedName : QualifiedName
  kind : ObservableSymbolKind
  line : Nat
  decoratorLines : List Nat
  endLine : Nat
  lineRange : (∀ decorated ∈ decoratorLines, 0 < decorated) ∧ 0 < line ∧ line ≤ endLine

/-- `min([node.lineno, *decorators])`. -/
def LocatedDefinition.startLine (definition : LocatedDefinition) : Nat :=
  definition.decoratorLines.foldl min definition.line

theorem foldl_min_bounds {lines : List Nat} (line : Nat) (positive : ∀ item ∈ lines, 0 < item)
    (linePositive : 0 < line) : 0 < lines.foldl min line ∧ lines.foldl min line ≤ line := by
  induction lines generalizing line with
  | nil => exact ⟨linePositive, Nat.le_refl line⟩
  | cons first rest ih =>
      have firstPositive := positive first List.mem_cons_self
      have bounds := ih (min line first) (fun item mem =>
        positive item (List.mem_cons_of_mem _ mem)) (by omega)
      rw [List.foldl_cons]
      omega

theorem LocatedDefinition.startLine_bounds (definition : LocatedDefinition) :
    0 < definition.startLine ∧ definition.startLine ≤ definition.endLine := by
  obtain ⟨decorators, positive, ordered⟩ := definition.lineRange
  have bounds := foldl_min_bounds definition.line decorators positive
  exact ⟨bounds.1, Nat.le_trans bounds.2 ordered⟩

/-- A file of a build whose source the parser accepts, with its definitions in the order
in which the visitor comes upon them. -/
structure ParsedFile where
  path : SourcePath
  source : String
  exports : Option (List String)
  definitions : List LocatedDefinition

section Recording

variable (digest : String → Sha256)

/-- The hash of the lines that a definition is cut out of. -/
def contentSha256 (file : ParsedFile) (definition : LocatedDefinition) : Sha256 :=
  digest (joinLines (splitLines file.source) definition.startLine definition.endLine)

/-- The symbol of the first definition under a name. -/
def firstSymbol (file : ParsedFile) (definition : LocatedDefinition) : IndexedSymbol where
  path := file.path
  module := moduleName file.path.text
  qualifiedName := definition.qualifiedName
  kind := definition.kind
  startLine := definition.startLine
  endLine := definition.endLine
  parentSymbol := if isDotted definition.qualifiedName.text then
    some (beforeLastDot definition.qualifiedName.text) else none
  isPublic := !startsWith "_" (leafName definition.qualifiedName.text)
  exported := if isDotted definition.qualifiedName.text then none
    else file.exports.map fun exports => exports.contains (leafName definition.qualifiedName.text)
  sourceSha256 := contentSha256 digest file definition
  definitionKinds := [definition.kind]
  lineRange := definition.startLine_bounds
  counted := Nat.one_pos
  kindsWellFormed := ⟨List.mem_singleton_self _, List.nodup_singleton _⟩

/-- The symbol with one more definition. -/
def IndexedSymbol.withDefinition (existing : IndexedSymbol) (definition : LocatedDefinition)
    (content : Sha256) : IndexedSymbol :=
  { existing with
    startLine := min existing.startLine definition.startLine
    endLine := max existing.endLine definition.endLine
    sourceSha256 := digest (existing.sourceSha256.text ++ "\x00" ++ content.text)
    definitionCount := existing.definitionCount + 1
    definitionKinds := if definition.kind ∈ existing.definitionKinds then
      existing.definitionKinds else existing.definitionKinds ++ [definition.kind]
    lineRange := by
      have range := existing.lineRange
      have bounds := definition.startLine_bounds
      omega
    counted := Nat.le_succ_of_le existing.counted
    kindsWellFormed := by
      obtain ⟨mem, distinct⟩ := existing.kindsWellFormed
      split
      · exact ⟨mem, distinct⟩
      · rename_i absent
        refine ⟨List.mem_append_left _ mem, List.nodup_append'.mpr ⟨distinct,
          List.nodup_singleton _, ?_⟩⟩
        simpa using absent }

/-- `_append_symbol`. -/
def appendSymbol (maxSymbols : Nat) (file : ParsedFile) (symbols : List IndexedSymbol)
    (definition : LocatedDefinition) : List IndexedSymbol :=
  if symbols.any fun symbol => symbol.qualifiedName = definition.qualifiedName then
    symbols.map fun symbol =>
      if symbol.qualifiedName = definition.qualifiedName then
        symbol.withDefinition digest definition (contentSha256 digest file definition)
      else symbol
  else if maxSymbols ≤ symbols.length then symbols
  else symbols ++ [firstSymbol digest file definition]

/-- The symbols that the visitor of one file records. -/
def fileSymbols (maxSymbols : Nat) (file : ParsedFile) : List IndexedSymbol :=
  file.definitions.foldl (appendSymbol digest maxSymbols file) []

/-- The symbols of a build, file after file. -/
def buildSymbols (maxSymbols : Nat) (files : List ParsedFile) : List IndexedSymbol :=
  files.foldl (fun symbols file =>
    symbols ++ fileSymbols digest (maxSymbols - symbols.length) file) []

variable {digest}

/-! ## Symbols of one definition -/

theorem SourcePath.eq_of_text {path other : SourcePath} (same : path.text = other.text) :
    path = other := by
  cases path
  cases same
  rfl

theorem QualifiedName.eq_of_text {name other : QualifiedName} (same : name.text = other.text) :
    name = other := by
  cases name
  cases same
  rfl

/-- What holds of the recorded symbols after some definitions. -/
def RecordedFrom (digest : String → Sha256) (file : ParsedFile) (seen : List LocatedDefinition)
    (symbols : List IndexedSymbol) : Prop :=
  ∀ symbol ∈ symbols, symbol.path = file.path ∧
    (∃ definition ∈ seen, definition.qualifiedName = symbol.qualifiedName) ∧
    ∀ definition, (seen.filter fun other => other.qualifiedName = symbol.qualifiedName) =
      [definition] → symbol = firstSymbol digest file definition

/-- A second definition of a name is not its only one. -/
theorem filter_snoc_ne_singleton {seen : List LocatedDefinition} {definition only :
    LocatedDefinition} {name : QualifiedName}
    (before : ∃ other ∈ seen, other.qualifiedName = name) (named : definition.qualifiedName = name) :
    ((seen ++ [definition]).filter fun other => other.qualifiedName = name) ≠ [only] := by
  obtain ⟨other, mem, otherNamed⟩ := before
  intro single
  have kept : other ∈ seen.filter fun other => other.qualifiedName = name :=
    List.mem_filter.mpr ⟨mem, by simpa using otherNamed⟩
  have lengths := congrArg List.length single
  rw [List.filter_append, List.length_append,
    List.filter_cons_of_pos (by simpa using named)] at lengths
  have positive := List.length_pos_of_mem kept
  simp only [List.filter_nil, List.length_singleton] at lengths
  omega

theorem RecordedFrom.append {file : ParsedFile} {seen : List LocatedDefinition}
    {symbols : List IndexedSymbol} (recorded : RecordedFrom digest file seen symbols)
    (maxSymbols : Nat) (definition : LocatedDefinition) :
    RecordedFrom digest file (seen ++ [definition])
      (appendSymbol digest maxSymbols file symbols definition) := by
  have others : ∀ symbol ∈ symbols, symbol.qualifiedName ≠ definition.qualifiedName →
      symbol.path = file.path ∧
      (∃ other ∈ seen ++ [definition], other.qualifiedName = symbol.qualifiedName) ∧
      ∀ only, ((seen ++ [definition]).filter fun other =>
        other.qualifiedName = symbol.qualifiedName) = [only] →
          symbol = firstSymbol digest file only := by
    intro symbol mem different
    obtain ⟨path, ⟨other, otherMem, named⟩, single⟩ := recorded symbol mem
    refine ⟨path, ⟨other, List.mem_append_left _ otherMem, named⟩, fun only same => ?_⟩
    rw [List.filter_append, List.filter_cons_of_neg (by simpa using different.symm),
      List.filter_nil, List.append_nil] at same
    exact single only same
  unfold appendSymbol
  split
  · intro symbol mem
    obtain ⟨existing, existingMem, rfl⟩ := List.mem_map.mp mem
    split
    · rename_i named
      obtain ⟨path, before, _⟩ := recorded existing existingMem
      exact ⟨path, ⟨definition, by simp, named.symm⟩,
        fun only single => absurd single (filter_snoc_ne_singleton before named.symm)⟩
    · rename_i different
      exact others existing existingMem different
  · rename_i absent
    have new : ∀ symbol ∈ symbols, symbol.qualifiedName ≠ definition.qualifiedName := by
      simpa using absent
    split
    · exact fun symbol mem => others symbol mem (new symbol mem)
    · intro symbol mem
      rcases List.mem_append.mp mem with earlier | last
      · exact others symbol earlier (new symbol earlier)
      · obtain rfl := List.mem_singleton.mp last
        refine ⟨rfl, ⟨definition, by simp, rfl⟩, fun only single => ?_⟩
        have mem : definition ∈ (seen ++ [definition]).filter fun other =>
            other.qualifiedName = definition.qualifiedName :=
          List.mem_filter.mpr ⟨by simp, by simp⟩
        change ((seen ++ [definition]).filter fun other =>
          other.qualifiedName = definition.qualifiedName) = [only] at single
        rw [single] at mem
        rw [List.mem_singleton.mp mem]

theorem recordedFrom_foldl (maxSymbols : Nat) (file : ParsedFile)
    (definitions : List LocatedDefinition) {seen : List LocatedDefinition}
    {symbols : List IndexedSymbol} (recorded : RecordedFrom digest file seen symbols) :
    RecordedFrom digest file (seen ++ definitions)
      (definitions.foldl (appendSymbol digest maxSymbols file) symbols) := by
  induction definitions generalizing seen symbols with
  | nil => simpa using recorded
  | cons definition rest ih =>
      have next := ih (recorded.append maxSymbols definition)
      rwa [List.append_assoc, List.singleton_append] at next

theorem fileSymbols_recorded (maxSymbols : Nat) (file : ParsedFile) :
    RecordedFrom digest file file.definitions (fileSymbols digest maxSymbols file) := by
  have empty : RecordedFrom digest file [] [] :=
    fun _ absent => absurd absent List.not_mem_nil
  exact recordedFrom_foldl maxSymbols file file.definitions empty

theorem mem_buildSymbols {maxSymbols : Nat} {files : List ParsedFile} {symbol : IndexedSymbol}
    (mem : symbol ∈ buildSymbols digest maxSymbols files) :
    ∃ file ∈ files, ∃ most, symbol ∈ fileSymbols digest most file := by
  have general : ∀ (files : List ParsedFile) (symbols : List IndexedSymbol),
      symbol ∈ files.foldl (fun symbols file =>
        symbols ++ fileSymbols digest (maxSymbols - symbols.length) file) symbols →
      symbol ∈ symbols ∨ ∃ file ∈ files, ∃ most, symbol ∈ fileSymbols digest most file := by
    intro files
    induction files with
    | nil => exact fun symbols mem => .inl mem
    | cons file rest ih =>
        intro symbols mem
        rcases ih _ mem with earlier | ⟨other, otherMem, most, here⟩
        · rcases List.mem_append.mp earlier with before | here
          · exact .inl before
          · exact .inr ⟨file, List.mem_cons_self, _, here⟩
        · exact .inr ⟨other, List.mem_cons_of_mem _ otherMem, most, here⟩
  rcases general files [] mem with absurdity | found
  · exact absurd absurdity List.not_mem_nil
  · exact found

/-- An index has recorded a definition, the only one of its name in a file. -/
structure Records (digest : String → Sha256) (index : RepositoryIndex) (file : ParsedFile)
    (definition : LocatedDefinition) : Prop where
  built : ∃ maxSymbols files, index.symbols = buildSymbols digest maxSymbols files ∧
    (files.map ParsedFile.path).Nodup ∧ file ∈ files
  once : (file.definitions.filter fun other =>
    other.qualifiedName = definition.qualifiedName) = [definition]
  kept : ∃ symbol ∈ index.symbols,
    symbol.key = (file.path.text, definition.qualifiedName.text)

/-- The symbol under the name of a definition that is recorded once. -/
theorem Records.symbol_eq {index : RepositoryIndex} {file : ParsedFile}
    {definition : LocatedDefinition} (records : Records digest index file definition)
    {symbol : IndexedSymbol} (mem : symbol ∈ index.symbols)
    (key : symbol.key = (file.path.text, definition.qualifiedName.text)) :
    symbol = firstSymbol digest file definition := by
  obtain ⟨maxSymbols, files, built, distinct, fileMem⟩ := records.built
  rw [built] at mem
  obtain ⟨other, otherMem, most, here⟩ := mem_buildSymbols mem
  obtain ⟨path, _, single⟩ := fileSymbols_recorded most other symbol here
  obtain ⟨samePath, sameName⟩ := Prod.mk.inj key
  have isPath : other.path = file.path := path.symm.trans (SourcePath.eq_of_text samePath)
  obtain rfl := List.inj_on_of_nodup_map distinct otherMem fileMem isPath
  have isName := QualifiedName.eq_of_text sameName
  rw [isName] at single
  exact single definition records.once

end Recording

/-! ## Reports -/

/-- What `compare_symbol` says of the two definitions under a key. -/
structure Reports (investigator : RepositoryInvestigator) (key : String × String)
    (changed : Bool) : Prop where
  listed : ∃ comparison ∈ investigator.comparisons (some key.1) (some key.2),
    comparison.key = key
  answered : ∀ path name, ∀ comparison ∈ investigator.comparisons path name,
    comparison.key = key → comparison.implementationChanged = some changed

theorem Reports.unique {investigator : RepositoryInvestigator} {key : String × String}
    {changed other : Bool} (reports : Reports investigator key changed)
    (otherReports : Reports investigator key other) : changed = other := by
  obtain ⟨comparison, mem, isKey⟩ := reports.listed
  have said := reports.answered _ _ comparison mem isKey
  rw [otherReports.answered _ _ comparison mem isKey] at said
  exact (Option.some.inj said).symm

section Reports

open RepositoryInvestigator

variable {digest : String → Sha256} {investigator : RepositoryInvestigator}
  {base head : ParsedFile} {baseDefinition headDefinition : LocatedDefinition}

/-- Whether a query asks for a symbol. -/
def isAskedFor (path name : Option String) (symbol : IndexedSymbol) : Bool :=
  path.all (fun path => symbol.path.text == path) && name.all fun query => symbolMatches symbol query

theorem mem_selected {path name : Option String} {index : RepositoryIndex}
    {symbol : IndexedSymbol} : symbol ∈ selected path name index ↔
      symbol ∈ index.symbols ∧ isAskedFor path name symbol = true :=
  List.mem_filter

/-- A query that asks for a definition recorded once finds its first symbol. -/
theorem Records.underKey_selected {index : RepositoryIndex}
    (records : Records digest index base baseDefinition) {path name : Option String}
    (asked : isAskedFor path name (firstSymbol digest base baseDefinition) = true) :
    underKey (selected path name index) (base.path.text, baseDefinition.qualifiedName.text) =
      some (firstSymbol digest base baseDefinition) := by
  obtain ⟨symbol, mem, key⟩ := records.kept
  obtain rfl := records.symbol_eq mem key
  have found : (underKey (selected path name index)
      (base.path.text, baseDefinition.qualifiedName.text)).isSome := by
    rw [underKey, List.find?_isSome]
    exact ⟨_, List.mem_reverse.mpr (mem_selected.mpr ⟨mem, asked⟩), decide_eq_true key⟩
  obtain ⟨other, isOther⟩ := Option.isSome_iff_exists.mp found
  obtain ⟨otherMem, otherKey⟩ := underKey_eq_some isOther
  rw [isOther, records.symbol_eq (mem_of_mem_selected otherMem) otherKey]

/-- A query that finds something under the key of a recorded definition asks for it. -/
theorem Records.isAskedFor {index : RepositoryIndex}
    (records : Records digest index base baseDefinition) {path name : Option String}
    {symbol : IndexedSymbol} (found : underKey (selected path name index)
      (base.path.text, baseDefinition.qualifiedName.text) = some symbol) :
    isAskedFor path name (firstSymbol digest base baseDefinition) = true := by
  obtain ⟨mem, key⟩ := underKey_eq_some found
  rw [← records.symbol_eq (mem_of_mem_selected mem) key]
  exact (mem_selected.mp mem).2

/-- The comparison of two definitions that are recorded once is the comparison of their
first symbols. -/
theorem Records.reports (inBase : Records digest investigator.base base baseDefinition)
    (inHead : Records digest investigator.head head headDefinition)
    (samePath : base.path = head.path)
    (sameName : baseDefinition.qualifiedName = headDefinition.qualifiedName) :
    Reports investigator (base.path.text, baseDefinition.qualifiedName.text)
      (definitionChanged (firstSymbol digest base baseDefinition)
        (firstSymbol digest head headDefinition)) := by
  have alike : ∀ path name, PatchProof.isAskedFor path name
      (firstSymbol digest base baseDefinition) = PatchProof.isAskedFor path name
        (firstSymbol digest head headDefinition) := by
    intro path name
    simp only [PatchProof.isAskedFor, symbolMatches, firstSymbol, samePath, sameName]
    rfl
  have sameKey : (head.path.text, headDefinition.qualifiedName.text) =
      (base.path.text, baseDefinition.qualifiedName.text) := by
    rw [samePath, sameName]
  have compared : ∀ path name, PatchProof.isAskedFor path name
      (firstSymbol digest base baseDefinition) = true →
      compareAt (selected path name investigator.base) (selected path name investigator.head)
        (base.path.text, baseDefinition.qualifiedName.text) =
      some ⟨base.path.text, baseDefinition.qualifiedName.text,
        .presentOnBoth (firstSymbol digest base baseDefinition)
          (firstSymbol digest head headDefinition)
          (definitionChanged (firstSymbol digest base baseDefinition)
            (firstSymbol digest head headDefinition))⟩ := by
    intro path name asked
    have onHead := inHead.underKey_selected (alike path name ▸ asked)
    rw [sameKey] at onHead
    rw [compareAt, inBase.underKey_selected asked, onHead]
  constructor
  · have asked : PatchProof.isAskedFor (some base.path.text)
        (some baseDefinition.qualifiedName.text) (firstSymbol digest base baseDefinition) = true := by
      simp [PatchProof.isAskedFor, symbolMatches, firstSymbol]
    refine ⟨_, List.mem_filterMap.mpr ⟨_, ?_, compared _ _ asked⟩, rfl⟩
    obtain ⟨mem, key⟩ := underKey_eq_some (inBase.underKey_selected asked)
    rw [List.mem_insertionSort, List.mem_dedup, List.mem_append]
    exact .inl (List.mem_map.mpr ⟨_, mem, key⟩)
  · intro path name comparison mem key
    obtain ⟨asKey, _, isComparison⟩ := List.mem_filterMap.mp mem
    have isKey := (key_of_compareAt isComparison).symm.trans key
    subst isKey
    have asked : PatchProof.isAskedFor path name
        (firstSymbol digest base baseDefinition) = true := by
      unfold compareAt at isComparison
      split at isComparison
      · rename_i onBase _
        exact inBase.isAskedFor onBase
      · rename_i onHead
        rw [← sameKey] at onHead
        rw [alike]
        exact inHead.isAskedFor onHead
      · rename_i onBase _
        exact inBase.isAskedFor onBase
      · cases isComparison
    rw [compared path name asked] at isComparison
    cases isComparison
    rfl

end Reports

/-! ## Changed definitions -/

/-- The lines of a definition, decorators included, as the parser counts them. -/
def ParsedFile.definitionText (file : ParsedFile) (definition : LocatedDefinition) : String :=
  joinLines (tokenizerLines file.source) definition.startLine definition.endLine

theorem take_splitLines_eq {source : String} {last : Nat} (alike : SplitAlike source last) :
    (splitLines source).take last = (tokenizerLines source).take last := by
  rw [splitLines_eq, tokenizerLines, ← List.map_take, ← List.map_take]
  refine congrArg _ (Lines.take_linesFrom_eq isLineBreak_of_isNewline fun item mem => ?_)
  have clean := alike (String.ofList item)
    (by rw [tokenizerLines, ← List.map_take]; exact List.mem_map_of_mem mem)
  rwa [String.toList_ofList] at clean

/-- Where the two splitters agree, the lines that are hashed are those of the definition. -/
theorem contentSha256_of_splitAlike (digest : String → Sha256) {file : ParsedFile}
    {definition : LocatedDefinition} (alike : SplitAlike file.source definition.endLine) :
    contentSha256 digest file definition = digest (file.definitionText definition) := by
  rw [contentSha256, ParsedFile.definitionText, joinLines, joinLines, take_splitLines_eq alike]

/-- A source with text added at the end of one of its lines. -/
def AddedTo (source : String) (line : Nat) (edited : String) : Prop :=
  ∃ front last added back, source.toList = front ++ [last] ++ back ∧
    edited.toList = front ++ [last] ++ added ++ back ∧ isNewline last = false ∧
    (tokenizerLines (String.ofList (front ++ [last]))).length = line ∧ added ≠ [] ∧
    (∀ c ∈ added, isLineBreak c = false) ∧
    ∀ c rest, back = c :: rest → isNewline c = true

section Added

variable {front back added : List Char} {last : Char}

theorem isNewline_of_isLineBreak_eq_false {c : Char} (unbroken : isLineBreak c = false) :
    isNewline c = false := by
  cases newline : isNewline c with
  | false => rfl
  | true => exact absurd (isLineBreak_of_isNewline c newline) (Bool.eq_false_iff.mp unbroken)

theorem ne_of_isNewline_eq_false {c : Char} (unbroken : isNewline c = false) :
    c ≠ '\n' ∧ c ≠ '\r' := by
  constructor
  · rintro rfl
    cases unbroken
  · rintro rfl
    cases unbroken

theorem joinPairs_front (front : List Char) (unbroken : isNewline last = false) (rest : List Char) :
    Lines.joinPairs (front ++ [last] ++ rest) =
      Lines.joinPairs front ++ [last] ++ Lines.joinPairs rest := by
  obtain ⟨notFeed, notReturn⟩ := ne_of_isNewline_eq_false unbroken
  rw [List.append_assoc, List.singleton_append, Lines.joinPairs_append front rest notFeed,
    Lines.joinPairs.eq_3 last rest fun _ same _ => notReturn same, List.append_assoc,
    List.singleton_append]

theorem joinPairs_starts (starts : ∀ c rest, back = c :: rest → isNewline c = true) :
    ∀ c rest, Lines.joinPairs back = c :: rest → isNewline c = true := by
  intro c rest joined
  unfold Lines.joinPairs at joined
  split at joined
  · cases joined
  · cases joined
    rfl
  · obtain ⟨rfl, _⟩ := List.cons.inj joined
    exact starts _ _ rfl

/-- The two sources as the splitters see them. -/
theorem AddedTo.joined {source edited : String} {line : Nat} (addedTo : AddedTo source line edited) :
    ∃ front last added back, Lines.joinPairs source.toList = front ++ [last] ++ back ∧
      Lines.joinPairs edited.toList = front ++ [last] ++ added ++ back ∧
      isNewline last = false ∧ (Lines.linesFrom isNewline [] (front ++ [last])).length = line ∧
      added ≠ [] ∧ (∀ c ∈ added, isLineBreak c = false) ∧
      ∀ c rest, back = c :: rest → isNewline c = true := by
  obtain ⟨front, last, added, back, isSource, isEdited, unbroken, length, new, free, starts⟩ :=
    addedTo
  have noReturn : '\r' ∉ added := fun mem => by cases free _ mem
  refine ⟨Lines.joinPairs front, last, added, Lines.joinPairs back, ?_, ?_, unbroken, ?_, new, free,
    joinPairs_starts starts⟩
  · rw [isSource, joinPairs_front front unbroken]
  · rw [isEdited, List.append_assoc (front ++ [last]), joinPairs_front front unbroken,
      Lines.joinPairs_append_left noReturn, ← List.append_assoc]
  · rw [tokenizerLines, String.toList_ofList, List.length_map] at length
    have joined := joinPairs_front front unbroken []
    rw [List.append_nil, Lines.joinPairs, List.append_nil] at joined
    rwa [joined] at length

/-- The tokenizer's lines up to the one that has text added. -/
theorem AddedTo.tokenizerLines {source edited : String} {line : Nat}
    (addedTo : AddedTo source line edited) : ∃ before final added, before.length + 1 = line ∧
      added ≠ "" ∧ (PatchProof.tokenizerLines source).take line = before ++ [final] ∧
      (PatchProof.tokenizerLines edited).take line = before ++ [final ++ added] := by
  obtain ⟨front, last, added, back, isSource, isEdited, unbroken, length, new, free, starts⟩ :=
    addedTo.joined
  obtain ⟨before, final, lines, addedLines⟩ := Lines.linesFrom_append_last [] front
    unbroken fun c mem => isNewline_of_isLineBreak_eq_false (free c mem)
  rw [lines, List.length_append, List.length_singleton] at length
  obtain ⟨more, sourceLines⟩ :=
    Lines.linesFrom_append [] front unbroken back starts
  obtain ⟨initial, final', rfl⟩ := (List.eq_nil_or_concat' added).resolve_left new
  have lastUnbroken := isNewline_of_isLineBreak_eq_false (free final' (by simp))
  obtain ⟨after, editedLines⟩ := Lines.linesFrom_append []
    (front ++ [last] ++ initial) lastUnbroken back starts
  have taken : ∀ (item : List Char) (rest : List (List Char)),
      ((before ++ [item] ++ rest).map String.ofList).take line =
        before.map String.ofList ++ [String.ofList item] := by
    intro item rest
    rw [← length, List.map_append, List.take_left' (by simp)]
    simp
  refine ⟨before.map String.ofList, String.ofList final, String.ofList (initial ++ [final']), ?_, ?_,
    ?_, ?_⟩
  · rw [List.length_map]
    exact length
  · intro isEmpty
    have noChars := congrArg String.toList isEmpty
    simp at noChars
  · rw [PatchProof.tokenizerLines, isSource, sourceLines, lines, taken]
  · rw [PatchProof.tokenizerLines, isEdited, ← List.append_assoc (front ++ [last]), editedLines,
      List.append_assoc (front ++ [last]), addedLines, taken, String.ofList_append]

/-- The lines that `splitlines` cuts do not see what is added once it is a line ahead. -/
theorem AddedTo.splitLines {source edited : String} {line : Nat}
    (addedTo : AddedTo source line edited) (astray : ¬ SplitAlike source line) :
    (PatchProof.splitLines edited).take line = (PatchProof.splitLines source).take line := by
  obtain ⟨front, last, added, back, isSource, isEdited, unbroken, length, _, _, starts⟩ :=
    addedTo.joined
  have ahead : line ≤ (front ++ [last]).countP isLineBreak := by
    obtain ⟨more, sourceLines⟩ :=
      Lines.linesFrom_append [] front unbroken back starts
    simp only [SplitAlike, not_forall, Bool.not_eq_false] at astray
    obtain ⟨text, mem, c, inText, further⟩ := astray
    rw [PatchProof.tokenizerLines, isSource, sourceLines, ← List.map_take, ← length,
      List.take_left] at mem
    obtain ⟨item, itemMem, rfl⟩ := List.mem_map.mp mem
    rw [String.toList_ofList] at inText
    obtain ⟨inFront, notNewline⟩ :=
      (Lines.mem_linesFrom.mp ⟨item, itemMem, inText⟩).resolve_left List.not_mem_nil
    have fewer := Lines.countP_lt isLineBreak_of_isNewline inFront further notNewline
    have counted := Lines.length_linesFrom [] front unbroken
    rw [length] at counted
    rw [List.countP_append, List.countP_singleton, unbroken] at fewer
    simp only [Bool.false_eq_true, if_false, Nat.add_zero] at fewer
    omega
  rw [splitLines_eq, splitLines_eq, isSource, isEdited, ← List.map_take, ← List.map_take,
    List.append_assoc (front ++ [last]), Lines.take_linesFrom_append _ ahead,
    Lines.take_linesFrom_append _ ahead]

end Added

theorem intercalate_snoc (separator : String) (before : List String) :
    ∃ front, ∀ final, separator.intercalate (before ++ [final]) = front ++ final := by
  induction before with
  | nil => exact ⟨"", fun final => by simp⟩
  | cons first rest ih =>
      cases rest with
      | nil => exact ⟨first ++ separator, fun final => String.intercalate_cons_cons⟩
      | cons second more =>
          obtain ⟨front, same⟩ := ih
          refine ⟨first ++ separator ++ front, fun final => ?_⟩
          rw [List.cons_append, List.cons_append, String.intercalate_cons_cons,
            ← List.cons_append, same, String.append_assoc, String.append_assoc,
            String.append_assoc]

/-- Joined lines tell apart what is added to the last of them. -/
theorem joinLines_snoc_ne {before : List String} (final : String) {added : String} (new : added ≠ "")
    {first : Nat} (within : first ≤ before.length + 1) :
    joinLines (before ++ [final]) first (before.length + 1) ≠
      joinLines (before ++ [final ++ added]) first (before.length + 1) := by
  have cut : ∀ item, joinLines (before ++ [item]) first (before.length + 1) =
      "\n".intercalate (before.drop (first - 1) ++ [item]) := by
    intro item
    rw [joinLines, List.take_of_length_le (by simp), List.drop_append_of_le_length (by omega)]
  obtain ⟨front, joined⟩ := intercalate_snoc "\n" (before.drop (first - 1))
  rw [cut, cut, joined, joined, ← String.append_assoc]
  intro same
  have lists := congrArg String.toList same
  rw [String.toList_append, String.toList_append, String.toList_append,
    List.append_assoc] at lists
  have noChars : added.toList = [] := by simpa using lists
  exact new (String.toList_injective noChars)

/-! ## Which changes are reported -/

/-- **A changed definition is reported when, in both sources, no character up to its end is
a line break for `splitlines` only; after such a character, what is added to the last line
of a definition is reported as no change.** -/
theorem changes_reported (digest : String → Sha256) (investigator : RepositoryInvestigator)
    (base head : ParsedFile) (baseDefinition headDefinition : LocatedDefinition)
    (inBase : Records digest investigator.base base baseDefinition)
    (inHead : Records digest investigator.head head headDefinition)
    (samePath : base.path = head.path)
    (sameName : baseDefinition.qualifiedName = headDefinition.qualifiedName) :
    (SplitAlike base.source baseDefinition.endLine →
      SplitAlike head.source headDefinition.endLine →
      digest (base.definitionText baseDefinition) ≠ digest (head.definitionText headDefinition) →
      Reports investigator (base.path.text, baseDefinition.qualifiedName.text) true) ∧
    (¬ SplitAlike base.source baseDefinition.endLine →
      AddedTo base.source baseDefinition.endLine head.source →
      headDefinition = baseDefinition →
      base.definitionText baseDefinition ≠ head.definitionText headDefinition ∧
        Reports investigator (base.path.text, baseDefinition.qualifiedName.text) false) := by
  have reports := inBase.reports inHead samePath sameName
  constructor
  · intro baseAlike headAlike different
    have changed : RepositoryInvestigator.definitionChanged
        (firstSymbol digest base baseDefinition) (firstSymbol digest head headDefinition) = true := by
      have hashes : contentSha256 digest base baseDefinition ≠
          contentSha256 digest head headDefinition := by
        rwa [contentSha256_of_splitAlike digest baseAlike,
          contentSha256_of_splitAlike digest headAlike]
      simp [RepositoryInvestigator.definitionChanged, firstSymbol, hashes]
    rwa [changed] at reports
  · rintro astray added rfl
    constructor
    · obtain ⟨before, final, text, length, new, source, edited⟩ := added.tokenizerLines
      have range := headDefinition.startLine_bounds
      have within : headDefinition.startLine ≤ before.length + 1 := by omega
      have differ := joinLines_snoc_ne final new within
      rw [length, ← source, ← edited] at differ
      simpa [ParsedFile.definitionText, joinLines, List.take_take] using differ
    · have cut : contentSha256 digest base headDefinition =
          contentSha256 digest head headDefinition := by
        rw [contentSha256, contentSha256, joinLines, joinLines, added.splitLines astray]
      have unchanged : RepositoryInvestigator.definitionChanged
          (firstSymbol digest base headDefinition) (firstSymbol digest head headDefinition) =
            false := by
        simp [RepositoryInvestigator.definitionChanged, firstSymbol, cut]
      rwa [unchanged] at reports

/-! ## A form feed before a definition -/

/-- A digest that tells whether a text ends in a zero. -/
def zeroAtEndDigest (text : String) : Sha256 :=
  if text.toList.getLast? = some '0' then repeatedDigest '0' isLowerHex_zero
  else repeatedDigest '1' isLowerHex_one

/-- A function after a string with a form feed in it. -/
def returningFunction : LocatedDefinition where
  qualifiedName := ⟨"f", f_bounded, f_colonFree⟩
  kind := .function
  line := 2
  decoratorLines := []
  endLine := 3
  lineRange := ⟨fun _ absent => absurd absent List.not_mem_nil, by decide, by decide⟩

def fileReturning (value : String) : ParsedFile where
  path := ⟨"app.py", isRepositorySourcePath_app⟩
  source := "separator = '\x0c'\ndef f():\n    return " ++ value
  exports := none
  definitions := [returningFunction]

def returningInvestigator : RepositoryInvestigator :=
  (samplePlanner (buildSymbols zeroAtEndDigest 9 [fileReturning "1"])
    (buildSymbols zeroAtEndDigest 9 [fileReturning "10"])).investigator

theorem records_fileReturning (value : String) (index : RepositoryIndex)
    (built : index.symbols = buildSymbols zeroAtEndDigest 9 [fileReturning value]) :
    Records zeroAtEndDigest index (fileReturning value) returningFunction where
  built := ⟨9, [fileReturning value], built, List.nodup_singleton _, List.mem_singleton_self _⟩
  once := by simp [fileReturning]
  kept := by
    have symbols : buildSymbols zeroAtEndDigest 9 [fileReturning value] =
        [firstSymbol zeroAtEndDigest (fileReturning value) returningFunction] := rfl
    rw [built, symbols]
    exact ⟨_, List.mem_singleton_self _, rfl⟩

theorem fileReturning_addedTo : AddedTo (fileReturning "1").source 3 (fileReturning "10").source :=
  ⟨(fileReturning "").source.toList, '1', ['0'], [], by simp [fileReturning],
    by simp [fileReturning], by decide, by simp [fileReturning]; rfl, by simp,
    by simp [isLineBreak], by simp⟩

/-- A form feed stands in the first line. -/
theorem not_splitAlike_returning : ¬ SplitAlike (fileReturning "1").source 3 := by
  intro alike
  have unbroken : (((tokenizerLines (fileReturning "1").source).take 3).all fun line =>
      line.toList.all fun c => !isLineBreak c) = true := by
    refine List.all_eq_true.mpr fun line mem => List.all_eq_true.mpr fun c inLine => ?_
    rw [alike line mem c inLine]
    rfl
  have broken : (((tokenizerLines (fileReturning "1").source).take 3).all fun line =>
      line.toList.all fun c => !isLineBreak c) = false := by decide +kernel
  exact Bool.false_ne_true (broken.symm.trans unbroken)

/-- A source without the separators and one with them. -/
theorem changes_reported_returning :
    (fileReturning "1").definitionText returningFunction ≠
        (fileReturning "10").definitionText returningFunction ∧
      Reports returningInvestigator ("app.py", "f") false :=
  (changes_reported zeroAtEndDigest returningInvestigator (fileReturning "1") (fileReturning "10")
    returningFunction returningFunction (records_fileReturning "1" _ rfl)
    (records_fileReturning "10" _ rfl) rfl rfl).2 not_splitAlike_returning fileReturning_addedTo rfl

/-- A function returns another number, in other lines with another hash, and is not
reported as changed. -/
theorem changed_function_unreported : ∃ (digest : String → Sha256)
    (investigator : RepositoryInvestigator) (base head : ParsedFile)
    (definition : LocatedDefinition), Records digest investigator.base base definition ∧
      Records digest investigator.head head definition ∧ base.path = head.path ∧
      digest (base.definitionText definition) ≠ digest (head.definitionText definition) ∧
      ¬ Reports investigator (base.path.text, definition.qualifiedName.text) true := by
  have inBase := records_fileReturning "1" returningInvestigator.base rfl
  have inHead := records_fileReturning "10" returningInvestigator.head rfl
  refine ⟨zeroAtEndDigest, returningInvestigator, fileReturning "1", fileReturning "10",
    returningFunction, inBase, inHead, rfl, by decide +kernel, fun reported => ?_⟩
  have unchanged : RepositoryInvestigator.definitionChanged
      (firstSymbol zeroAtEndDigest (fileReturning "1") returningFunction)
      (firstSymbol zeroAtEndDigest (fileReturning "10") returningFunction) = false := by
    decide +kernel
  have reports := inBase.reports inHead rfl rfl
  rw [unchanged] at reports
  exact Bool.false_ne_true (reports.unique reported)

end PatchProof
