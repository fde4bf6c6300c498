import PatchProof.Context.Models
import PatchProof.Execution.ProductContext
import PatchProof.Library.Json

/-!
# The JSON text of a context

A context is handed around as compact JSON.  What a reader of the raw text can find in it
is limited by the escapes of JSON strings, in two ways.

A text that the document holds is in it with every character escaped.  So a part of it
whose characters need no escape stands in the JSON text as it is
(`HoldsText.isInfix`).

A quote of the JSON text is an escaped one, after a backslash, or it opens or closes a
string, next to punctuation (`quotesPlaced_compact`).  So a text with a quote between
other characters never stands in it, whatever the document holds
(`QuotesPlaced.not_isInfix`).
-/

set_option autoImplicit false

namespace PatchProof

/-! ## Compact JSON -/

mutual

/-- JSON without spaces; `printFloat` prints a number that is not whole. -/
def compactJson (printFloat : ℚ → List Char) : Json → List Char
  | .null => "null".toList
  | .bool value => (if value then "true" else "false").toList
  | .int value => (toString value).toList
  | .float value => printFloat value
  | .string value => quoted value
  | .array items => ['['] ++ commaSeparated (compactItems printFloat items) ++ [']']
  | .object fields => ['\x7b'] ++ commaSeparated (compactFields printFloat fields) ++ ['\x7d']

def compactItems (printFloat : ℚ → List Char) : List Json → List (List Char)
  | [] => []
  | item :: rest => compactJson printFloat item :: compactItems printFloat rest

def compactFields (printFloat : ℚ → List Char) : List (String × Json) → List (List Char)
  | [] => []
  | (name, value) :: rest =>
      (quoted name ++ [':'] ++ compactJson printFloat value) :: compactFields printFloat rest

end

/-- The document has a text among its values. -/
inductive HoldsText : Json → String → Prop
  | here (text : String) : HoldsText (.string text) text
  | item {items : List Json} {item : Json} {text : String} (member : item ∈ items)
      (holds : HoldsText item text) : HoldsText (.array items) text
  | field {fields : List (String × Json)} {name : String} {value : Json} {text : String}
      (member : (name, value) ∈ fields) (holds : HoldsText value text) :
      HoldsText (.object fields) text

/-! ## What stands in the text -/

theorem isInfix_commaSeparated {parts : List (List Char)} {part : List Char}
    (member : part ∈ parts) : part <:+: commaSeparated parts := by
  induction parts using commaSeparated.induct with
  | case1 => cases member
  | case2 only =>
      rw [List.mem_singleton.mp member]
      exact List.infix_rfl
  | case3 first other rest ih =>
      rw [commaSeparated]
      rcases List.mem_cons.mp member with rfl | later
      · exact ⟨[], [','] ++ commaSeparated (other :: rest), by simp⟩
      · exact (ih later).trans (List.suffix_append _ _).isInfix

variable {printFloat : ℚ → List Char}

theorem compact_mem_compactItems {items : List Json} {item : Json} (member : item ∈ items) :
    compactJson printFloat item ∈ compactItems printFloat items := by
  induction items with
  | nil => cases member
  | cons first rest ih =>
      rw [compactItems]
      rcases List.mem_cons.mp member with rfl | later
      · exact List.mem_cons_self
      · exact List.mem_cons_of_mem _ (ih later)

theorem compact_mem_compactFields {fields : List (String × Json)} {name : String} {value : Json}
    (member : (name, value) ∈ fields) :
    quoted name ++ [':'] ++ compactJson printFloat value ∈ compactFields printFloat fields := by
  induction fields with
  | nil => cases member
  | cons first rest ih =>
      obtain ⟨firstName, firstValue⟩ := first
      rw [compactFields]
      rcases List.mem_cons.mp member with same | later
      · cases same
        exact List.mem_cons_self
      · exact List.mem_cons_of_mem _ (ih later)

/-- A text of the document stands in the JSON text with its characters escaped. -/
theorem HoldsText.isInfix {document : Json} {text : String} (holds : HoldsText document text) :
    text.toList.flatMap escapedChar <:+: compactJson printFloat document := by
  induction holds with
  | here text =>
      rw [compactJson, quoted]
      exact ⟨['"'], ['"'], rfl⟩
  | item member _ ih =>
      rw [compactJson]
      exact ih.trans ((isInfix_commaSeparated (compact_mem_compactItems member)).trans
        ⟨['['], [']'], rfl⟩)
  | field member _ ih =>
      rw [compactJson]
      exact ih.trans ((List.suffix_append _ _).isInfix.trans
        ((isInfix_commaSeparated (compact_mem_compactFields member)).trans
          ⟨['\x7b'], ['\x7d'], rfl⟩))

/-- A character that stands in a JSON string as it is. -/
def IsUnescaped (c : Char) : Prop := escapedChar c = [c]

instance (c : Char) : Decidable (IsUnescaped c) := inferInstanceAs (Decidable (_ = _))

/-- Quotes, backslashes and control characters are escaped, and nothing else. -/
theorem isUnescaped_of_printable {c : Char} (noQuote : c ≠ '"') (noBackslash : c ≠ '\\')
    (printable : 0x20 ≤ c.toNat) : IsUnescaped c := by
  have other : ∀ control : Char, control.toNat < 0x20 → c ≠ control := by
    rintro control low rfl
    omega
  rw [IsUnescaped, escapedChar, if_neg noQuote, if_neg noBackslash, if_neg (other _ (by decide)),
    if_neg (other _ (by decide)), if_neg (other _ (by decide)), if_neg (other _ (by decide)),
    if_neg (other _ (by decide)), if_neg (by omega)]

theorem flatMap_escapedChar {text : List Char} (unescaped : ∀ c ∈ text, IsUnescaped c) :
    text.flatMap escapedChar = text := by
  induction text with
  | nil => rfl
  | cons c rest ih =>
      rw [List.flatMap_cons, unescaped c List.mem_cons_self,
        ih fun other member => unescaped other (List.mem_cons_of_mem _ member)]
      rfl

/-- A part of a held text that needs no escape stands in the JSON text. -/
theorem HoldsText.isInfix_of_unescaped {document : Json} {text : String}
    (holds : HoldsText document text) {part : List Char} (within : part <:+: text.toList)
    (unescaped : ∀ c ∈ part, IsUnescaped c) : part <:+: compactJson printFloat document := by
  obtain ⟨front, back, same⟩ := within
  refine List.IsInfix.trans ?_ holds.isInfix
  rw [← same, List.flatMap_append, List.flatMap_append, flatMap_escapedChar unescaped]
  exact ⟨_, _, rfl⟩

/-! ## Where quotes stand -/

/-- What may stand before a quote of a JSON text. -/
def beforeQuote : List Char := ['\x7b', '[', ',', ':', '\\']

/-- What may stand after a quote of a JSON text that is not an escaped one. -/
def afterQuote : List Char := [',', ':', ']', '\x7d']

/-- Every quote stands after a backslash or next to punctuation. -/
def QuotesPlaced (text : List Char) : Prop :=
  ∀ before after, text = before ++ '"' :: after →
    (∀ c ∈ before.getLast?, c ∈ beforeQuote) ∨ ∀ c ∈ after.head?, c ∈ afterQuote

theorem QuotesPlaced.of_not_mem {text : List Char} (quoteless : '"' ∉ text) :
    QuotesPlaced text := by
  intro before after split
  exact absurd (by rw [split]; simp) quoteless

/-- Texts with punctuation between them. -/
theorem QuotesPlaced.joined {front back : List Char} {mark : Char} (frontPlaced : QuotesPlaced front)
    (backPlaced : QuotesPlaced back) (notQuote : mark ≠ '"')
    (closes : front = [] ∨ mark ∈ afterQuote) (opens : back = [] ∨ mark ∈ beforeQuote) :
    QuotesPlaced (front ++ mark :: back) := by
  intro before after split
  rcases List.append_eq_append_iff.mp split with ⟨between, rfl, rest⟩ | ⟨between, same, rest⟩
  · -- The quote is behind the mark.
    cases between with
    | nil => exact absurd (List.cons.inj rest).1 notQuote
    | cons first onwards =>
        obtain ⟨rfl, inBack⟩ := List.cons.inj rest
        have opened : mark ∈ beforeQuote := by
          rcases opens with nothing | opened
          · rw [nothing] at inBack
            simp at inBack
          · exact opened
        refine (backPlaced onwards after inBack).imp_left fun placed c last => ?_
        rw [List.getLast?_append, List.getLast?_cons] at last
        cases earlier : onwards.getLast? with
        | none =>
            rw [earlier] at last
            simp at last
            exact last ▸ opened
        | some other =>
            rw [earlier] at last
            simp at last
            exact placed c (by rw [earlier, last]; rfl)
  · -- The quote is in front of the mark.
    cases between with
    | nil => exact absurd (List.cons.inj rest).1.symm notQuote
    | cons first onwards =>
        obtain ⟨rfl, inAfter⟩ := List.cons.inj rest
        have closed : mark ∈ afterQuote := by
          rcases closes with nothing | closed
          · rw [nothing] at same
            simp at same
          · exact closed
        refine (frontPlaced before onwards same).imp_right fun placed c first => ?_
        rw [inAfter] at first
        cases onwards with
        | nil =>
            simp at first
            exact first ▸ closed
        | cons other _ =>
            simp at first
            exact placed c (by simp [first])

/-- Escaping a character writes a quote only behind a backslash. -/
theorem quote_not_mem_escapedChar {c : Char} (notQuote : c ≠ '"') : '"' ∉ escapedChar c := by
  unfold escapedChar
  split
  · exact absurd ‹_› notQuote
  · repeat' split
    all_goals try simp
    · rename_i control
      have digits : ∀ value < 16, '"' ≠ hexDigitChar value := by decide
      have high : c.toNat / 16 < 16 :=
        Nat.lt_of_le_of_lt (Nat.div_le_div_right (Nat.le_of_lt control)) (by decide)
      exact ⟨digits _ high, digits _ (Nat.mod_lt _ (Nat.succ_pos 15))⟩
    · exact notQuote.symm

theorem backslash_before_quote {text before after : List Char}
    (split : text.flatMap escapedChar = before ++ '"' :: after) :
    before.getLast? = some '\\' := by
  induction text generalizing before with
  | nil => simp at split
  | cons c rest ih =>
      rw [List.flatMap_cons] at split
      by_cases isQuote : c = '"'
      · -- The two characters of the escaped quote come first.
        subst isQuote
        have escaped : escapedChar '"' = ['\\', '"'] := rfl
        rw [escaped] at split
        rcases before with _ | ⟨first, _ | ⟨second, onwards⟩⟩
        · cases split
        · cases split
          rfl
        · obtain ⟨-, -, inRest⟩ : first = '\\' ∧ second = '"' ∧
              rest.flatMap escapedChar = onwards ++ '"' :: after := by
            simpa [eq_comm] using split
          rw [List.getLast?_cons_cons, List.getLast?_cons, ih inRest]
          rfl
      · have quoteless := quote_not_mem_escapedChar isQuote
        rcases List.append_eq_append_iff.mp split with ⟨between, rfl, inRest⟩ | ⟨between, same, inBetween⟩
        · rw [List.getLast?_append, ih inRest]
          rfl
        · cases between with
          | nil =>
              have nothing : ([] : List Char).getLast? = some '\\' := ih inBetween.symm
              cases nothing
          | cons first onwards =>
              obtain ⟨rfl, -⟩ := List.cons.inj inBetween
              exact absurd (by rw [same]; simp) quoteless

theorem quotesPlaced_quoted (text : String) : QuotesPlaced (quoted text) := by
  intro before after split
  rw [quoted] at split
  rcases before with _ | ⟨first, onwards⟩
  · exact .inl fun c last => by cases last
  rcases List.eq_nil_or_concat after with rfl | ⟨shorter, final, rfl⟩
  · exact .inr fun c first => by cases first
  have inside : text.toList.flatMap escapedChar = onwards ++ '"' :: shorter := by
    have split' : text.toList.flatMap escapedChar ++ ['"'] =
        (onwards ++ '"' :: shorter) ++ [final] := by
      simpa using (List.cons.inj split).2
    exact (List.append_inj' split' rfl).1
  refine .inl fun c last => ?_
  rw [List.getLast?_cons, backslash_before_quote inside] at last
  cases last
  have listed : '\\' ∈ beforeQuote := by decide
  exact listed

theorem quotesPlaced_commaSeparated {parts : List (List Char)}
    (placed : ∀ part ∈ parts, QuotesPlaced part) : QuotesPlaced (commaSeparated parts) := by
  induction parts using commaSeparated.induct with
  | case1 => exact .of_not_mem (by simp [commaSeparated])
  | case2 only => exact placed only (List.mem_singleton_self _)
  | case3 first other rest ih =>
      rw [commaSeparated, List.append_assoc]
      exact (placed first List.mem_cons_self).joined
        (ih fun part member => placed part (List.mem_cons_of_mem _ member)) (by decide)
        (.inr (by decide)) (.inr (by decide))

/-- A bracket on either side. -/
theorem QuotesPlaced.enclosed {inside : List Char} {opening closing : Char}
    (placed : QuotesPlaced inside) (opens : opening ∈ beforeQuote) (closes : closing ∈ afterQuote)
    (openingIsNot : opening ≠ '"') (closingIsNot : closing ≠ '"') :
    QuotesPlaced ([opening] ++ inside ++ [closing]) := by
  have closed : QuotesPlaced (inside ++ closing :: []) :=
    placed.joined (.of_not_mem (by simp)) closingIsNot (.inr closes) (.inl rfl)
  have empty : QuotesPlaced [] := .of_not_mem (by simp)
  rw [List.append_assoc]
  exact empty.joined closed openingIsNot (.inl rfl) (.inr opens)

theorem quote_not_mem_toString (value : Int) : '"' ∉ (toString value).toList := by
  have quoteless : ∀ number : Nat, '"' ∉ (toString number).toList := by
    intro number member
    rw [Nat.toString_eq_repr, Nat.toList_repr] at member
    have digit := Nat.isDigit_of_mem_toDigits (by decide) (by decide) member
    exact absurd digit (by decide)
  cases value with
  | ofNat number => exact quoteless number
  | negSucc number =>
      intro member
      have same : toString (Int.negSucc number) = "-" ++ toString (number + 1) := rfl
      rw [same, String.toList_append, List.mem_append] at member
      rcases member with sign | digits
      · exact absurd sign (by decide)
      · exact quoteless _ digits

mutual

/-- **Every quote of a JSON text stands after a backslash or next to punctuation.** -/
theorem quotesPlaced_compactJson (quoteless : ∀ number, '"' ∉ printFloat number) :
    (document : Json) → QuotesPlaced (compactJson printFloat document)
  | .null => by
      rw [compactJson]
      exact .of_not_mem (by decide)
  | .bool value => by
      rw [compactJson]
      cases value <;> exact .of_not_mem (by decide)
  | .int value => by
      rw [compactJson]
      exact .of_not_mem (quote_not_mem_toString value)
  | .float value => by
      rw [compactJson]
      exact .of_not_mem (quoteless value)
  | .string value => by
      rw [compactJson]
      exact quotesPlaced_quoted value
  | .array items => by
      rw [compactJson]
      exact (quotesPlaced_commaSeparated (quotesPlaced_compactItems quoteless items)).enclosed
        (by decide) (by decide) (by decide) (by decide)
  | .object fields => by
      rw [compactJson]
      exact (quotesPlaced_commaSeparated (quotesPlaced_compactFields quoteless fields)).enclosed
        (by decide) (by decide) (by decide) (by decide)

theorem quotesPlaced_compactItems (quoteless : ∀ number, '"' ∉ printFloat number) :
    (items : List Json) → ∀ part ∈ compactItems printFloat items, QuotesPlaced part
  | [] => fun _ member => by
      rw [compactItems] at member
      cases member
  | item :: rest => fun part member => by
      rw [compactItems] at member
      rcases List.mem_cons.mp member with rfl | later
      · exact quotesPlaced_compactJson quoteless item
      · exact quotesPlaced_compactItems quoteless rest part later

theorem quotesPlaced_compactFields (quoteless : ∀ number, '"' ∉ printFloat number) :
    (fields : List (String × Json)) → ∀ part ∈ compactFields printFloat fields, QuotesPlaced part
  | [] => fun _ member => by
      rw [compactFields] at member
      cases member
  | (name, value) :: rest => fun part member => by
      rw [compactFields] at member
      rcases List.mem_cons.mp member with rfl | later
      · rw [List.append_assoc]
        exact (quotesPlaced_quoted name).joined (quotesPlaced_compactJson quoteless value)
          (by decide) (.inr (by decide)) (.inr (by decide))
      · exact quotesPlaced_compactFields quoteless rest part later

end

/-- A text with a quote between characters that are no punctuation of JSON. -/
def QuotesInside (text : List Char) : Prop :=
  ∃ front back before after, text = (front ++ [before]) ++ '"' :: (after :: back) ∧
    before ∉ beforeQuote ∧ after ∉ afterQuote

/-- Such a text stands nowhere in a JSON text. -/
theorem QuotesPlaced.not_isInfix {text part : List Char} (placed : QuotesPlaced text)
    (quotes : QuotesInside part) : ¬ part <:+: text := by
  rintro ⟨left, right, same⟩
  obtain ⟨front, back, before, after, rfl, noOpening, noClosing⟩ := quotes
  have split : text = (left ++ (front ++ [before])) ++ '"' :: (after :: (back ++ right)) := by
    rw [← same]
    simp
  rcases placed _ _ split with opened | closed
  · exact noOpening (opened before (by simp))
  · exact noClosing (closed after rfl)

/-! ## The document of a context -/

def ChangeStatus.value : ChangeStatus → String
  | .added => "ADDED"
  | .modified => "MODIFIED"
  | .deleted => "DELETED"
  | .renamed => "RENAMED"
  | .copied => "COPIED"
  | .typeChanged => "TYPE_CHANGED"
  | .unmerged => "UNMERGED"
  | .unknown => "UNKNOWN"

def SymbolKind.value : SymbolKind → String
  | .function => "FUNCTION"
  | .asyncFunction => "ASYNC_FUNCTION"
  | .method => "METHOD"
  | .asyncMethod => "ASYNC_METHOD"
  | .classDefinition => "CLASS"
  | .module => "MODULE"

def SnippetKind.value : SnippetKind → String
  | .changedSymbol => "CHANGED_SYMBOL"
  | .likelyTest => "LIKELY_TEST"
  | .symbolReference => "SYMBOL_REFERENCE"
  | .importStatement => "IMPORT"
  | .calledHelper => "CALLED_HELPER"

def ChangedFile.document (file : ChangedFile) : Json :=
  .object [("path", .string file.path.text), ("status", .string file.status.value),
    ("previous_path", file.previousPath.elim .null fun path => .string path.text),
    ("is_python", .bool file.isPython), ("is_test", .bool file.isTest)]

def ChangedSymbol.document (symbol : ChangedSymbol) : Json :=
  .object [("path", .string symbol.path.text), ("qualified_name", .string symbol.qualifiedName.text),
    ("kind", .string symbol.kind.value), ("start_line", .int symbol.startLine),
    ("end_line", .int symbol.endLine)]

def ContextSnippet.document (snippet : ContextSnippet) : Json :=
  .object [("kind", .string snippet.kind.value), ("path", .string snippet.path.text),
    ("start_line", .int snippet.startLine), ("end_line", .int snippet.endLine),
    ("content", .string snippet.content), ("reason", .string snippet.reason.text)]

def RetrievalStats.document (stats : RetrievalStats) : Json :=
  .object [("changed_file_count", .int stats.changedFileCount),
    ("changed_python_file_count", .int stats.changedPythonFileCount),
    ("python_path_count", .int stats.pythonPathCount),
    ("test_files_scanned", .int stats.testFilesScanned),
    ("reference_files_scanned", .int stats.referenceFilesScanned),
    ("omitted_changed_files", .int stats.omittedChangedFiles),
    ("excluded_changed_files", .int stats.excludedChangedFiles),
    ("excluded_python_paths", .int stats.excludedPythonPaths),
    ("truncated", .bool stats.truncated)]

def CrossRevisionInterfaces.document (interfaces : CrossRevisionInterfaces) : Json :=
  .object [("present_on_both", .array (interfaces.presentOnBoth.map .string)),
    ("new_on_head", .array (interfaces.newOnHead.map .string)),
    ("removed_on_base", .array (interfaces.removedOnBase.map .string)),
    ("truncated", .bool interfaces.truncated)]

def PullRequestContext.document (context : PullRequestContext) : Json :=
  .object [("base_sha", .string context.baseSha.text), ("head_sha", .string context.headSha.text),
    ("diff", .string context.diff),
    ("changed_files", .array (context.changedFiles.map ChangedFile.document)),
    ("changed_symbols", .array (context.changedSymbols.map ChangedSymbol.document)),
    ("snippets", .array (context.snippets.map ContextSnippet.document)),
    ("stats", context.stats.document), ("interfaces", context.interfaces.document)]

/-- `context.model_dump_json()`.  A context holds no number that is not whole. -/
def PullRequestContext.modelDumpJson (context : PullRequestContext) : String :=
  String.ofList (compactJson (fun _ => []) context.document)

/-- The texts of a context, without its commits and enumerations. -/
def PullRequestContext.texts (context : PullRequestContext) : List String :=
  context.diff ::
    ((context.changedFiles.flatMap fun file =>
        file.path.text :: file.previousPath.toList.map RepositoryPath.text) ++
      (context.changedSymbols.flatMap fun symbol => [symbol.path.text, symbol.qualifiedName.text]) ++
      (context.snippets.flatMap fun snippet =>
        [snippet.path.text, snippet.content, snippet.reason.text]) ++
      context.interfaces.presentOnBoth ++ context.interfaces.newOnHead ++
      context.interfaces.removedOnBase)

theorem ChangedFile.holdsText {file : ChangedFile} {text : String}
    (member : text ∈ file.path.text :: file.previousPath.toList.map RepositoryPath.text) :
    HoldsText file.document text := by
  rcases List.mem_cons.mp member with rfl | previous
  · exact @HoldsText.field _ "path" _ _ (by simp) (.here _)
  · obtain ⟨path, present, rfl⟩ := List.mem_map.mp previous
    have same : file.previousPath = some path := by simpa using present
    exact @HoldsText.field _ "previous_path" (.string path.text) _ (by simp [same]) (.here _)

theorem HoldsText.strings {texts : List String} {text : String} (member : text ∈ texts) :
    HoldsText (.array (texts.map .string)) text :=
  .item (List.mem_map.mpr ⟨text, member, rfl⟩) (.here text)

theorem ChangedSymbol.holdsText {symbol : ChangedSymbol} {text : String}
    (member : text ∈ [symbol.path.text, symbol.qualifiedName.text]) :
    HoldsText symbol.document text := by
  simp only [List.mem_cons, List.not_mem_nil, or_false] at member
  rcases member with rfl | rfl
  · exact @HoldsText.field _ "path" _ _ (by simp) (.here _)
  · exact @HoldsText.field _ "qualified_name" _ _ (by simp) (.here _)

theorem ContextSnippet.holdsText {snippet : ContextSnippet} {text : String}
    (member : text ∈ [snippet.path.text, snippet.content, snippet.reason.text]) :
    HoldsText snippet.document text := by
  simp only [List.mem_cons, List.not_mem_nil, or_false] at member
  rcases member with rfl | rfl | rfl
  · exact @HoldsText.field _ "path" _ _ (by simp) (.here _)
  · exact @HoldsText.field _ "content" _ _ (by simp) (.here _)
  · exact @HoldsText.field _ "reason" _ _ (by simp) (.here _)

theorem CrossRevisionInterfaces.holdsText {interfaces : CrossRevisionInterfaces} {text : String}
    (member : text ∈ interfaces.presentOnBoth ∨ text ∈ interfaces.newOnHead ∨
      text ∈ interfaces.removedOnBase) : HoldsText interfaces.document text := by
  rcases member with both | new | removed
  · exact @HoldsText.field _ "present_on_both" _ _ (by simp) (.strings both)
  · exact @HoldsText.field _ "new_on_head" _ _ (by simp) (.strings new)
  · exact @HoldsText.field _ "removed_on_base" _ _ (by simp) (.strings removed)

/-- Every text of a context is in its document. -/
theorem PullRequestContext.holdsText {context : PullRequestContext} {text : String}
    (member : text ∈ context.texts) : HoldsText context.document text := by
  simp only [texts, List.mem_cons, List.mem_append, List.mem_flatMap, or_assoc] at member
  rcases member with rfl | ⟨file, present, inside⟩ | ⟨symbol, present, inside⟩ |
    ⟨snippet, present, inside⟩ | named
  · exact @HoldsText.field _ "diff" _ _ (by simp) (.here _)
  · exact @HoldsText.field _ "changed_files" _ _ (by simp)
      (.item (List.mem_map.mpr ⟨file, present, rfl⟩)
        (ChangedFile.holdsText (List.mem_cons.mpr inside)))
  · exact @HoldsText.field _ "changed_symbols" _ _ (by simp)
      (.item (List.mem_map.mpr ⟨symbol, present, rfl⟩)
        (ChangedSymbol.holdsText (by simpa using inside)))
  · exact @HoldsText.field _ "snippets" _ _ (by simp)
      (.item (List.mem_map.mpr ⟨snippet, present, rfl⟩)
        (ContextSnippet.holdsText (by simpa using inside)))
  · exact @HoldsText.field _ "interfaces" _ _ (by simp) (CrossRevisionInterfaces.holdsText named)

end PatchProof
