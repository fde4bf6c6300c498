import PatchProof.Context.Signatures

/-!
# A rendered signature reads back

The loop over the positional parameters counts what it has rendered to place the marker of the
positional-only ones, and it walks over three lists from which a receiver has been dropped.  Each
text that it joins is the text of one item of a parameter list.  Items are read back one by one,
since neither a name nor a default value reaches beyond the comma after it, and the grammar accepts
them, since default values belong to the last positional parameters and a bare star is followed by
a keyword-only one.

A default value without a text leaves the whole signature out.
-/

set_option autoImplicit false

namespace PatchProof

variable {python : PythonSyntax}

/-! ## The parts of a signature -/

/-- The text of a parameter. -/
def Parameter.render (parameter : Parameter python) : Option String :=
  PythonArguments.renderParameter parameter.name parameter.default

/-- What the loop over the positional parameters sees of one. -/
def Parameter.seen (parameter : Parameter python) : String × Bool × Option python.Expression :=
  (parameter.name, decide (parameter.kind = .positionalOnly), parameter.default)

/-- One round of the loop over the positional parameters. -/
def renderPositional (posonly : Nat) (parts : List String)
    (item : String × Bool × Option python.Expression) : Option (List String) := do
  let rendered ← PythonArguments.renderParameter item.1 item.2.2
  let parts := parts ++ [rendered]
  some (if item.2.1 && parts.length == posonly then parts ++ ["/"] else parts)

/-- No marker follows a parameter that may be passed by keyword. -/
theorem foldlM_ordinary (posonly : Nat) (ordinary : List (Parameter python)) (parts : List String)
    (kinds : ∀ parameter ∈ ordinary, parameter.kind = .positionalOrKeyword) :
    (ordinary.map Parameter.seen).foldlM (renderPositional posonly) parts =
      (ordinary.mapM Parameter.render).map (parts ++ ·) := by
  induction ordinary generalizing parts with
  | nil => simp
  | cons first rest ih =>
      have kind := kinds first (List.mem_cons_self ..)
      rw [List.map_cons, List.foldlM_cons, List.mapM_cons]
      cases rendered : first.render with
      | none =>
          simp [renderPositional, Parameter.seen, Parameter.render] at rendered ⊢
          simp [rendered]
      | some text =>
          have round : renderPositional posonly parts first.seen = some (parts ++ [text]) := by
            rw [Parameter.render] at rendered
            simp [renderPositional, Parameter.seen, rendered, kind]
          rw [round]
          have later := ih (parts ++ [text]) fun parameter mem => kinds parameter (.tail _ mem)
          simp only [Option.bind_eq_bind, Option.bind_some]
          rw [later]
          cases rest.mapM Parameter.render <;> simp

/-- The marker follows the last positional-only parameter. -/
theorem foldlM_positionalOnly (posonly : Nat) (only : List (Parameter python)) (parts : List String)
    (kinds : ∀ parameter ∈ only, parameter.kind = .positionalOnly)
    (counted : parts.length + only.length = posonly) :
    (only.map Parameter.seen).foldlM (renderPositional posonly) parts =
      (only.mapM Parameter.render).map fun texts =>
        parts ++ texts ++ if only.isEmpty then [] else ["/"] := by
  induction only generalizing parts with
  | nil => simp
  | cons first rest ih =>
      have kind := kinds first (List.mem_cons_self ..)
      rw [List.map_cons, List.foldlM_cons, List.mapM_cons]
      cases rendered : first.render with
      | none =>
          simp [renderPositional, Parameter.seen, Parameter.render] at rendered ⊢
          simp [rendered]
      | some text =>
          rw [List.length_cons] at counted
          cases rest with
          | nil =>
              have round : renderPositional posonly parts first.seen =
                  some (parts ++ [text, "/"]) := by
                rw [Parameter.render] at rendered
                simp [renderPositional, Parameter.seen, rendered, kind, ← counted]
              simp [round]
          | cons second others =>
              have round : renderPositional posonly parts first.seen = some (parts ++ [text]) := by
                rw [Parameter.render] at rendered
                rw [List.length_cons] at counted
                have more : parts.length + 1 ≠ posonly := by omega
                simp [renderPositional, Parameter.seen, rendered, kind, more]
              have later := ih (parts ++ [text])
                (fun parameter mem => kinds parameter (.tail _ mem))
                (by rw [List.length_append, List.length_singleton]; omega)
              rw [round]
              simp only [Option.bind_eq_bind, Option.bind_some]
              rw [later]
              cases (second :: others).mapM Parameter.render <;> simp

/-! ## The positional parameters -/

/-- The parameters that names, kinds and default values make up. -/
def assembleParameters (named : List (String × ParameterKind))
    (defaults : List (Option python.Expression)) : List (Parameter python) :=
  List.zipWith (fun named default => ⟨named.1, named.2, default⟩) named defaults

theorem zip_eq_seen (named : List (String × ParameterKind))
    (defaults : List (Option python.Expression)) :
    (named.map Prod.fst).zip
        ((named.map fun item => decide (item.2 = .positionalOnly)).zip defaults) =
      (assembleParameters named defaults).map Parameter.seen := by
  induction named generalizing defaults with
  | nil => rfl
  | cons first rest ih =>
      cases defaults with
      | nil => rfl
      | cons default others => exact congrArg _ (ih others)

theorem map_kind_assembleParameters {named : List (String × ParameterKind)}
    {defaults : List (Option python.Expression)} (counted : named.length = defaults.length) :
    (assembleParameters named defaults).map Parameter.kind = named.map Prod.snd := by
  induction named generalizing defaults with
  | nil => rfl
  | cons first rest ih =>
      cases defaults with
      | nil => cases counted
      | cons default others => exact congrArg _ (ih (Nat.succ.inj counted))

theorem map_default_assembleParameters {named : List (String × ParameterKind)}
    {defaults : List (Option python.Expression)} (counted : named.length = defaults.length) :
    (assembleParameters named defaults).map Parameter.default = defaults := by
  induction named generalizing defaults with
  | nil =>
      rw [List.eq_nil_of_length_eq_zero counted.symm]
      rfl
  | cons first rest ih =>
      cases defaults with
      | nil => cases counted
      | cons default others => exact congrArg _ (ih (Nat.succ.inj counted))

namespace PythonArguments

variable (arguments : PythonArguments python)

theorem length_positionalNames :
    arguments.positionalNames.length = arguments.positionalDefaults.length := by
  have aligned := arguments.aligned
  simp only [positionalNames, positionalDefaults, List.length_append, List.length_map,
    List.length_replicate]
  omega

/-- The receiver is the first of the names. -/
theorem hasReceiver_eq : arguments.hasReceiver =
    (arguments.posonlyargs ++ arguments.args).head?.any fun first =>
      ["self", "cls"].contains first := by
  have counted := arguments.length_positionalNames
  have names : arguments.positionalNames.map Prod.fst = arguments.posonlyargs ++ arguments.args := by
    simp [positionalNames, Function.comp_def]
  rw [hasReceiver, ← names, positionalParameters]
  cases named : arguments.positionalNames with
  | nil => simp
  | cons first rest =>
      cases defaults : arguments.positionalDefaults with
      | nil =>
          rw [named, defaults] at counted
          cases counted
      | cons default others => simp

variable (dropImplicitReceiver : Bool)

/-- The names without an implicit receiver. -/
def visibleNames : List (String × ParameterKind) :=
  if dropImplicitReceiver && arguments.hasReceiver then arguments.positionalNames.tail
  else arguments.positionalNames

/-- The default values without the one of an implicit receiver. -/
def visibleDefaults : List (Option python.Expression) :=
  if dropImplicitReceiver && arguments.hasReceiver then arguments.positionalDefaults.tail
  else arguments.positionalDefaults

/-- Names and default values lose their first element together. -/
theorem visiblePositional_eq : arguments.visiblePositional dropImplicitReceiver =
    assembleParameters (arguments.visibleNames dropImplicitReceiver)
      (arguments.visibleDefaults dropImplicitReceiver) := by
  unfold visiblePositional visibleNames visibleDefaults
  split_ifs
  · exact List.tail_zipWith
  · rfl

theorem length_visibleNames : (arguments.visibleNames dropImplicitReceiver).length =
    (arguments.visibleDefaults dropImplicitReceiver).length := by
  have counted := arguments.length_positionalNames
  unfold visibleNames visibleDefaults
  split_ifs
  · rw [List.length_tail, List.length_tail, counted]
  · exact counted

/-- The names that remain are positional only first. -/
theorem kinds_visibleNames :
    ∃ only ordinary, (arguments.visibleNames dropImplicitReceiver).map Prod.snd =
        List.replicate only ParameterKind.positionalOnly ++
          List.replicate ordinary ParameterKind.positionalOrKeyword := by
  have all : arguments.positionalNames.map Prod.snd =
      List.replicate arguments.posonlyargs.length ParameterKind.positionalOnly ++
        List.replicate arguments.args.length ParameterKind.positionalOrKeyword := by
    simp [positionalNames, Function.comp_def]
  unfold visibleNames
  split_ifs
  · rw [List.map_tail, all]
    cases arguments.posonlyargs.length with
    | zero => exact ⟨0, arguments.args.length - 1, by simp⟩
    | succ others => exact ⟨others, arguments.args.length, rfl⟩
  · exact ⟨_, _, all⟩

/-- The default values that remain belong to the last parameters. -/
theorem visibleDefaults_eq : ∃ required defaults, arguments.visibleDefaults dropImplicitReceiver =
    List.replicate required none ++ List.map some defaults := by
  unfold visibleDefaults positionalDefaults
  split_ifs
  · cases arguments.posonlyargs.length + arguments.args.length - arguments.defaults.length with
    | zero => exact ⟨0, arguments.defaults.tail, by simp⟩
    | succ others => exact ⟨others, arguments.defaults, rfl⟩
  · exact ⟨_, arguments.defaults, rfl⟩

/-- The three lists of the loop are those of the visible parameters. -/
theorem positionalLists_eq : arguments.positionalLists dropImplicitReceiver =
    ((arguments.visibleNames dropImplicitReceiver).map Prod.fst,
      (arguments.visibleNames dropImplicitReceiver).map
        (fun item => decide (item.2 = .positionalOnly)),
      arguments.visibleDefaults dropImplicitReceiver) := by
  have names : arguments.positionalNames.map Prod.fst = arguments.posonlyargs ++ arguments.args := by
    simp [positionalNames, Function.comp_def]
  have kinds : arguments.positionalNames.map (fun item => decide (item.2 = .positionalOnly)) =
      List.replicate arguments.posonlyargs.length true ++
        List.replicate arguments.args.length false := by
    simp [positionalNames, Function.comp_def]
  unfold positionalLists visibleNames visibleDefaults
  dsimp only
  rw [← arguments.hasReceiver_eq]
  split_ifs
  · rw [List.map_tail, List.map_tail, names, kinds, positionalDefaults, List.length_append]
  · rw [names, kinds, positionalDefaults, List.length_append]

/-- **The positional parts.**  The positional-only parameters come first and are followed by the
marker, if there are any. -/
theorem positionalParts_eq : ∃ only ordinary : List (Parameter python),
    arguments.visiblePositional dropImplicitReceiver = only ++ ordinary ∧
      (∀ parameter ∈ only, parameter.kind = .positionalOnly) ∧
      (∀ parameter ∈ ordinary, parameter.kind = .positionalOrKeyword) ∧
      arguments.positionalParts dropImplicitReceiver =
        (only.mapM Parameter.render).bind fun texts =>
          (ordinary.mapM Parameter.render).map fun others =>
            texts ++ (if only.isEmpty then [] else ["/"]) ++ others := by
  have counted := arguments.length_visibleNames dropImplicitReceiver
  obtain ⟨onlyCount, ordinaryCount, kinds⟩ := arguments.kinds_visibleNames dropImplicitReceiver
  have split := map_kind_assembleParameters counted
  rw [← arguments.visiblePositional_eq, kinds, List.map_eq_append_iff] at split
  obtain ⟨only, ordinary, visible, onlyKinds, ordinaryKinds⟩ := split
  have onlyLength : only.length = onlyCount := by
    simpa using congrArg List.length onlyKinds
  have allOnly : ∀ parameter ∈ only, parameter.kind = .positionalOnly := fun parameter mem =>
    List.eq_of_mem_replicate (onlyKinds ▸ List.mem_map_of_mem mem)
  have allOrdinary : ∀ parameter ∈ ordinary, parameter.kind = .positionalOrKeyword :=
    fun parameter mem => List.eq_of_mem_replicate (ordinaryKinds ▸ List.mem_map_of_mem mem)
  refine ⟨only, ordinary, visible, allOnly, allOrdinary, ?_⟩
  have posonly : (((arguments.visibleNames dropImplicitReceiver).map
      fun item => decide (item.2 = .positionalOnly)).filter id).length = only.length := by
    have same : ((arguments.visibleNames dropImplicitReceiver).map
        fun item => decide (item.2 = ParameterKind.positionalOnly)) =
        ((arguments.visibleNames dropImplicitReceiver).map Prod.snd).map
          fun kind => decide (kind = .positionalOnly) := by
      rw [List.map_map]
      rfl
    rw [same, kinds, onlyLength]
    simp
  have loop : arguments.positionalParts dropImplicitReceiver =
      ((only ++ ordinary).map Parameter.seen).foldlM (renderPositional only.length) [] := by
    rw [positionalParts, arguments.positionalLists_eq]
    dsimp only
    rw [zip_eq_seen, ← arguments.visiblePositional_eq, visible, posonly]
    rfl
  rw [loop, List.map_append, List.foldlM_append,
    foldlM_positionalOnly only.length only [] allOnly (Nat.zero_add _)]
  cases only.mapM Parameter.render with
  | none => rfl
  | some texts => exact foldlM_ordinary only.length ordinary _ allOrdinary

end PythonArguments

/-! ## Reading one item -/

/-- The text of an item of a list. -/
inductive WritesItem (python : PythonSyntax) : ParameterItem python → String → Prop
  | slash : WritesItem python .slash "/"
  | star : WritesItem python .star "*"
  | starred {name : String} (named : python.isName name = true) :
      WritesItem python (.starred name) ("*" ++ name)
  | doubleStarred {name : String} (named : python.isName name = true) :
      WritesItem python (.doubleStarred name) ("**" ++ name)
  | required {name : String} (named : python.isName name = true) :
      WritesItem python (.plain name none) name
  | defaulted {name text : String} {default : python.Expression}
      (named : python.isName name = true)
      (rendered : staticDefaultText (python.defaultValue default) = some text) :
      WritesItem python (.plain name (some default)) (name ++ "=" ++ text)

/-- What may follow an item: the next one, or the end of the list. -/
inductive EndsItem : List Char → Prop
  | comma (rest : List Char) : EndsItem (',' :: rest)
  | closed (rest : List Char) : EndsItem (')' :: rest)

namespace PythonSyntax

/-- A character of a name is none that stands between names. -/
theorem ne_of_isNameChar {c delimiter : Char} (name : python.isNameChar c = true)
    (delimits : delimiter ∈ [' ', ',', '=', ')', '*', '/']) : c ≠ delimiter := by
  rintro rfl
  rw [python.delimits c delimits] at name
  cases name

/-- A name begins with a character of a name. -/
theorem exists_cons_of_isName {name : String} (named : python.isName name = true) :
    ∃ first rest, name.toList = first :: rest ∧ python.isNameChar first = true := by
  obtain ⟨nonempty, chars⟩ := python.named named
  cases text : name.toList with
  | nil => exact absurd text nonempty
  | cons first rest =>
      rw [text, List.all_cons, Bool.and_eq_true] at chars
      exact ⟨first, rest, rfl, chars.1⟩

/-- A name is read up to the first character that is not of a name. -/
theorem readName_append {name : String} {rest : List Char} (named : python.isName name = true)
    (ends : rest.head?.all fun c => !python.isNameChar c) :
    python.readName (name.toList ++ rest) = some (name, rest) := by
  have chars := List.all_eq_true.mp (python.named named).2
  have stops : rest.takeWhile python.isNameChar = [] ∧ rest.dropWhile python.isNameChar = rest := by
    cases rest with
    | nil => exact ⟨rfl, rfl⟩
    | cons first others =>
        have no : python.isNameChar first = false := by simpa using ends
        simp [no]
  have taken : (name.toList ++ rest).takeWhile python.isNameChar = name.toList := by
    rw [List.takeWhile_append_of_pos chars, stops.1, List.append_nil]
  have dropped : (name.toList ++ rest).dropWhile python.isNameChar = rest := by
    rw [List.dropWhile_append_of_pos chars, stops.2]
  unfold readName
  rw [taken, dropped, String.ofList_toList, if_pos named]

end PythonSyntax

theorem EndsItem.no_name {rest : List Char} (ends : EndsItem rest) (python : PythonSyntax) :
    rest.head?.all fun c => !python.isNameChar c := by
  cases ends with
  | comma rest => simp [python.delimits ',' (by decide)]
  | closed rest => simp [python.delimits ')' (by decide)]

/-- A text that does not begin with a blank has none to skip. -/
theorem skipBlanks_cons {first : Char} {rest : List Char} (visible : first ≠ ' ') :
    skipBlanks (first :: rest) = first :: rest :=
  List.dropWhile_cons_of_neg (by simpa using visible)

namespace PythonSyntax

theorem skipBlanks_name {name : String} {rest : List Char} (named : python.isName name = true) :
    skipBlanks (name.toList ++ rest) = name.toList ++ rest := by
  obtain ⟨first, others, text, char⟩ := exists_cons_of_isName named
  rw [text, List.cons_append]
  exact skipBlanks_cons (ne_of_isNameChar char (by decide))

/-- What ends an item is no name. -/
theorem no_readName {rest : List Char} (ends : EndsItem rest) : python.readName rest = none := by
  have empty : rest.takeWhile python.isNameChar = [] := by
    cases ends with
    | comma rest => simp [python.delimits ',' (by decide)]
    | closed rest => simp [python.delimits ')' (by decide)]
  unfold readName
  rw [empty, if_neg]
  intro named
  exact (python.named named).1 rfl

theorem readPlain_required {name : String} {rest : List Char} (named : python.isName name = true)
    (ends : EndsItem rest) :
    python.readPlain (name.toList ++ rest) = some (.plain name none, rest) := by
  unfold readPlain
  rw [readName_append named (ends.no_name python)]
  cases ends <;> rfl

theorem readPlain_defaulted {name text : String} {default : python.Expression} {rest : List Char}
    (named : python.isName name = true)
    (rendered : staticDefaultText (python.defaultValue default) = some text) (ends : EndsItem rest) :
    python.readPlain (name.toList ++ '=' :: (text.toList ++ rest)) =
      some (.plain name (some default), rest) := by
  have read : python.readExpression (text.toList ++ rest) = some (default, rest) := by
    unfold staticDefaultText at rendered
    split at rendered
    · rename_i static
      obtain ⟨stripped, _⟩ := Option.filter_eq_some_iff.mp rendered
      obtain ⟨written, unparsed, rfl⟩ := Option.map_eq_some_iff.mp stripped
      apply python.reads static unparsed
      cases ends with
      | comma rest => exact .inl rfl
      | closed rest => exact .inr rfl
    · cases rendered
  unfold readPlain
  rw [readName_append named (by simp [python.delimits '=' (by decide)])]
  show (python.readExpression (text.toList ++ rest)).bind _ = _
  rw [read]
  rfl

/-- A parameter that is passed by itself is read as one. -/
theorem readItem_plain {name : String} {rest : List Char} (named : python.isName name = true) :
    python.readItem (name.toList ++ rest) = python.readPlain (name.toList ++ rest) := by
  obtain ⟨first, others, text, char⟩ := exists_cons_of_isName named
  rw [text, List.cons_append]
  have noSlash : first ≠ '/' := ne_of_isNameChar char (by decide)
  have noStar : first ≠ '*' := ne_of_isNameChar char (by decide)
  unfold readItem
  split <;> simp_all

/-- **Items are read back**, whatever follows them. -/
theorem readItem_append {item : ParameterItem python} {text : String} {rest : List Char}
    (writes : WritesItem python item text) (ends : EndsItem rest) :
    python.readItem (text.toList ++ rest) = some (item, rest) := by
  cases writes with
  | slash => rfl
  | star =>
      have nameless : python.readName rest = none := no_readName ends
      have starred : "*".toList ++ rest = '*' :: rest := rfl
      rw [starred]
      cases ends <;>
      · unfold readItem
        split
        · simp_all
        · simp_all
        · rename_i following same
          cases same
          erw [nameless]
        · simp_all
  | @starred name named =>
      obtain ⟨first, others, chars, char⟩ := exists_cons_of_isName named
      have noStar : first ≠ '*' := ne_of_isNameChar char (by decide)
      have read := readName_append named (ends.no_name python)
      have skips : skipBlanks (name.toList ++ rest) = name.toList ++ rest := skipBlanks_name named
      have text : ("*" ++ name).toList ++ rest = '*' :: (name.toList ++ rest) := by
        rw [String.toList_append, List.append_assoc]
        rfl
      rw [text]
      rw [chars, List.cons_append] at read skips ⊢
      unfold readItem
      split
      · simp_all
      · simp_all
      · simp_all
      · simp_all
  | @doubleStarred name named =>
      have text : ("**" ++ name).toList ++ rest = '*' :: '*' :: (name.toList ++ rest) := by
        rw [String.toList_append, List.append_assoc]
        rfl
      rw [text]
      show (python.readName (skipBlanks (name.toList ++ rest))).map _ = _
      rw [skipBlanks_name named, readName_append named (ends.no_name python)]
      rfl
  | required named =>
      rw [readItem_plain named, readPlain_required named ends]
  | defaulted named rendered =>
      rw [String.toList_append, String.toList_append, List.append_assoc, List.append_assoc,
        readItem_plain named]
      exact readPlain_defaulted named rendered ends

/-- An item begins with a character that is neither blank nor the end. -/
theorem exists_cons_of_writesItem {item : ParameterItem python} {text : String}
    (writes : WritesItem python item text) :
    ∃ first rest, text.toList = first :: rest ∧ first ≠ ' ' ∧ first ≠ ')' := by
  have fromName : ∀ {name : String} (after : List Char), python.isName name = true →
      ∃ first rest, name.toList ++ after = first :: rest ∧ first ≠ ' ' ∧ first ≠ ')' := by
    intro name after named
    obtain ⟨first, others, chars, char⟩ := exists_cons_of_isName named
    refine ⟨first, others ++ after, by rw [chars, List.cons_append], ?_, ?_⟩
    · exact ne_of_isNameChar char (by decide)
    · exact ne_of_isNameChar char (by decide)
  cases writes with
  | slash => exact ⟨'/', [], rfl, by decide, by decide⟩
  | star => exact ⟨'*', [], rfl, by decide, by decide⟩
  | starred named => exact ⟨'*', _, String.toList_append, by decide, by decide⟩
  | doubleStarred named => exact ⟨'*', _, String.toList_append, by decide, by decide⟩
  | required named =>
      obtain ⟨first, others, chars, delimits⟩ := fromName [] named
      rw [List.append_nil] at chars
      exact ⟨first, others, chars, delimits⟩
  | @defaulted name text default named rendered =>
      obtain ⟨first, others, chars, delimits⟩ := fromName ("=".toList ++ text.toList) named
      refine ⟨first, others, ?_, delimits⟩
      rw [String.toList_append, String.toList_append, List.append_assoc, chars]

/-- Blanks before an item are skipped. -/
theorem readItems_blank (fuel : Nat) (text : List Char) :
    python.readItems fuel (' ' :: text) = python.readItems fuel text := by
  cases fuel with
  | zero => rfl
  | succ fuel =>
      have skips : skipBlanks (' ' :: text) = skipBlanks text := rfl
      rw [readItems, readItems, skips]

/-- The rest of a list after an item. -/
def closing (texts : List String) : List Char :=
  texts.flatMap (fun text => ", ".toList ++ text.toList) ++ [')']

/-- **Lists are read back**, item by item. -/
theorem readItems_closing {items : List (ParameterItem python)} {texts : List String}
    (writes : List.Forall₂ (WritesItem python) items texts) {item : ParameterItem python}
    {text : String} (first : WritesItem python item text) {fuel : Nat}
    (enough : items.length < fuel) :
    python.readItems fuel (text.toList ++ closing texts) = some (item :: items) := by
  induction writes generalizing item text fuel with
  | nil =>
      obtain ⟨fuel, rfl⟩ : ∃ more, fuel = more + 1 := ⟨fuel - 1, by omega⟩
      obtain ⟨begin, others, chars, noBlank, noEnd⟩ := exists_cons_of_writesItem first
      have ends : EndsItem (closing []) := .closed []
      have skips : skipBlanks (text.toList ++ closing []) = text.toList ++ closing [] := by
        rw [chars, List.cons_append]
        exact skipBlanks_cons noBlank
      have notEnd : text.toList ++ closing [] ≠ [')'] := by
        rw [chars, List.cons_append]
        exact fun same => noEnd (List.cons.inj same).1
      rw [readItems, skips, if_neg notEnd, readItem_append first ends]
      rfl
  | @cons second nextText others nextTexts writesSecond rest ih =>
      obtain ⟨fuel, rfl⟩ : ∃ more, fuel = more + 1 := ⟨fuel - 1, by omega⟩
      obtain ⟨begin, following, chars, noBlank, noEnd⟩ := exists_cons_of_writesItem first
      have later : python.readItems fuel (nextText.toList ++ closing nextTexts) = _ :=
        ih writesSecond (Nat.lt_of_succ_lt_succ enough)
      have comma : closing (nextText :: nextTexts) =
          ',' :: ' ' :: (nextText.toList ++ closing nextTexts) := by
        simp [closing]
      have skips : skipBlanks (text.toList ++ closing (nextText :: nextTexts)) =
          text.toList ++ closing (nextText :: nextTexts) := by
        rw [chars, List.cons_append]
        exact skipBlanks_cons noBlank
      have notEnd : text.toList ++ closing (nextText :: nextTexts) ≠ [')'] := by
        rw [chars, List.cons_append]
        exact fun same => noEnd (List.cons.inj same).1
      rw [readItems, skips, if_neg notEnd, comma, readItem_append first (.comma _)]
      show (python.readItems fuel (' ' :: _)).map _ = _
      rw [readItems_blank, later]
      rfl

/-- A list as it is joined. -/
theorem toList_intercalate_closing (text : String) (texts : List String) :
    (", ".intercalate (text :: texts)).toList ++ [')'] = text.toList ++ closing texts := by
  induction texts generalizing text with
  | nil => simp [closing]
  | cons second others ih =>
      rw [String.intercalate_cons_cons, String.toList_append, String.toList_append,
        List.append_assoc, List.append_assoc, ih]
      simp [closing]

theorem length_lt_closing (texts : List String) : texts.length < (closing texts).length := by
  induction texts with
  | nil => exact Nat.zero_lt_one
  | cons text texts ih =>
      have more : closing (text :: texts) = ", ".toList ++ text.toList ++ closing texts := by
        simp [closing]
      rw [more, List.length_append, List.length_append, List.length_cons]
      have comma : ", ".toList.length = 2 := rfl
      omega

/-- **Joined texts are read back** as their items. -/
theorem readItems_intercalate {items : List (ParameterItem python)} {texts : List String}
    (writes : List.Forall₂ (WritesItem python) items texts) :
    python.readItems (((", ".intercalate texts).toList ++ [')']).length + 1)
      ((", ".intercalate texts).toList ++ [')']) = some items := by
  cases writes with
  | nil => rfl
  | @cons item text items texts first rest =>
      rw [toList_intercalate_closing]
      apply readItems_closing rest first
      have counted := rest.length_eq
      have each := length_lt_closing texts
      rw [List.length_append]
      omega

end PythonSyntax

/-! ## The grammar -/

/-- The item of a parameter that is passed by itself. -/
def Parameter.item (parameter : Parameter python) : ParameterItem python :=
  .plain parameter.name parameter.default

/-- Default values belong to the last parameters. -/
def DefaultsLast (defaulted : List Bool) : Prop := defaulted.Pairwise (· ≤ ·)

/-- Parameters that have a kind already. -/
theorem map_kind_eq {kind : ParameterKind} {parameters : List (Parameter python)}
    (kinds : ∀ parameter ∈ parameters, parameter.kind = kind) :
    (parameters.map fun parameter => { parameter with kind }) = parameters := by
  conv_rhs => rw [← List.map_id parameters]
  apply List.map_congr_left
  intro parameter mem
  rw [← kinds parameter mem]
  rfl

namespace ListState

/-- Positional parameters are added in order. -/
theorem foldlM_positional {phase : ListPhase} (early : phase = .positional ∨ phase = .slashed)
    (more : List (Parameter python)) (later : List Bool) (before : List (Parameter python))
    (defaulted : Bool)
    (last : DefaultsLast (defaulted :: (more.map (·.default.isSome) ++ later))) :
    ∃ defaulted', DefaultsLast (defaulted' :: later) ∧
      (more.map Parameter.item).foldlM step ⟨before, phase, defaulted⟩ =
        some ⟨before ++ more.map fun parameter => { parameter with kind := .positionalOrKeyword },
          phase, defaulted'⟩ := by
  induction more generalizing before defaulted with
  | nil => exact ⟨defaulted, last, by simp⟩
  | cons first rest ih =>
      rw [List.map_cons, List.cons_append, DefaultsLast, List.pairwise_cons] at last
      obtain ⟨least, ordered⟩ := last
      obtain ⟨defaulted', last', folded⟩ := ih
        (before ++ [{ first with kind := .positionalOrKeyword }]) first.default.isSome ordered
      refine ⟨defaulted', last', ?_⟩
      have allowed : (defaulted && first.default.isNone) = false := by
        have below : defaulted ≤ first.default.isSome := least _ (List.mem_cons_self ..)
        cases given : first.default with
        | some default => simp
        | none =>
            rw [given] at below
            cases defaulted with
            | false => rfl
            | true => cases below rfl
      have added : step ⟨before, phase, defaulted⟩ first.item =
          some ⟨before ++ [{ first with kind := .positionalOrKeyword }], phase,
            first.default.isSome⟩ := by
        rcases early with rfl | rfl <;> simp [step, Parameter.item, allowed]
      rw [List.map_cons, List.foldlM_cons, added]
      show List.foldlM step _ _ = _
      rw [folded]
      simp

/-- Keyword-only parameters are added in order. -/
theorem foldlM_keywords {phase : ListPhase} (late : phase = .bareStar ∨ phase = .keywords)
    (more before : List (Parameter python)) (defaulted : Bool)
    (kinds : ∀ parameter ∈ more, parameter.kind = .keywordOnly) :
    (more.map Parameter.item).foldlM step ⟨before, phase, defaulted⟩ =
      some ⟨before ++ more, if more.isEmpty then phase else .keywords, defaulted⟩ := by
  induction more generalizing before phase with
  | nil => simp
  | cons first rest ih =>
      have kind := kinds first (List.mem_cons_self ..)
      have same : (⟨first.name, .keywordOnly, first.default⟩ : Parameter python) = first := by
        rw [← kind]
      have added : step ⟨before, phase, defaulted⟩ first.item =
          some ⟨before ++ [first], .keywords, defaulted⟩ := by
        rcases late with rfl | rfl <;> simp [step, Parameter.item, same]
      rw [List.map_cons, List.foldlM_cons, added]
      show List.foldlM step _ _ = _
      rw [ih (.inr rfl) (before ++ [first]) fun parameter mem => kinds parameter (.tail _ mem)]
      simp

/-- The marker turns the parameters so far into positional-only ones. -/
theorem foldlM_slash (only : List (Parameter python)) (defaulted : Bool)
    (kinds : ∀ parameter ∈ only, parameter.kind = .positionalOnly) :
    ∃ phase, (phase = ListPhase.positional ∨ phase = .slashed) ∧
      (if only.isEmpty then [] else [ParameterItem.slash]).foldlM step
        ⟨only.map fun parameter => { parameter with kind := .positionalOrKeyword }, .positional,
          defaulted⟩ = some ⟨only, phase, defaulted⟩ := by
  cases only with
  | nil => exact ⟨.positional, .inl rfl, rfl⟩
  | cons first rest =>
      refine ⟨.slashed, .inr rfl, ?_⟩
      have same := map_kind_eq kinds
      have marked : step ⟨(first :: rest).map fun parameter =>
          { parameter with kind := .positionalOrKeyword }, .positional, defaulted⟩ .slash =
            some ⟨first :: rest, .slashed, defaulted⟩ := by
        simp only [step]
        rw [if_pos ⟨trivial, by simp⟩, List.map_map]
        simp only [Function.comp_def]
        rw [same]
      rw [List.isEmpty_cons, if_neg Bool.false_ne_true, List.foldlM_cons, marked]
      rfl

end ListState

/-- The item that opens the keyword-only parameters. -/
def starItems (vararg : Option String) (keywords : List (Parameter python)) :
    List (ParameterItem python) :=
  match vararg with
  | some name => [.starred name]
  | none => if keywords.isEmpty then [] else [.star]

/-- The items of a parameter list. -/
def listItems (only ordinary : List (Parameter python)) (vararg : Option String)
    (keywords : List (Parameter python)) (kwarg : Option String) : List (ParameterItem python) :=
  only.map Parameter.item ++ (if only.isEmpty then [] else [.slash]) ++
    ordinary.map Parameter.item ++ starItems vararg keywords ++ keywords.map Parameter.item ++
    kwarg.toList.map ParameterItem.doubleStarred

namespace ListState

/-- What follows the positional parameters. -/
theorem finish_tail {phase : ListPhase} (early : phase = .positional ∨ phase = .slashed)
    (before : List (Parameter python)) (defaulted : Bool) (vararg : Option String)
    (keywords : List (Parameter python)) (kwarg : Option String)
    (kinds : ∀ parameter ∈ keywords, parameter.kind = .keywordOnly) :
    ((starItems vararg keywords ++ keywords.map Parameter.item ++
        kwarg.toList.map ParameterItem.doubleStarred).foldlM step ⟨before, phase, defaulted⟩).bind finish =
      some (before ++ vararg.toList.map (fun name => ⟨name, .varPositional, none⟩) ++ keywords ++
        kwarg.toList.map fun name => ⟨name, .varKeyword, none⟩) := by
  -- A bare star stands only before keyword-only parameters, which then lead out of its phase.
  have starred : ∃ late, (late ≠ ListPhase.bareStar ∧ late ≠ .closed) ∧
      (starItems vararg keywords ++ keywords.map Parameter.item).foldlM step
        ⟨before, phase, defaulted⟩ =
      some ⟨before ++ vararg.toList.map (fun name => ⟨name, .varPositional, none⟩) ++ keywords,
        late, defaulted⟩ := by
    rw [List.foldlM_append]
    cases vararg with
    | some name =>
        have opened : (starItems (some name) keywords).foldlM step ⟨before, phase, defaulted⟩ =
            some ⟨before ++ [⟨name, .varPositional, none⟩], .keywords, defaulted⟩ := by
          rcases early with rfl | rfl <;> rfl
        refine ⟨.keywords, by decide, ?_⟩
        rw [opened]
        refine (foldlM_keywords (.inr rfl) keywords _ defaulted kinds).trans ?_
        simp
    | none =>
        cases keywords with
        | nil =>
            refine ⟨phase, by rcases early with rfl | rfl <;> decide, ?_⟩
            simp [starItems]
        | cons first rest =>
            have opened : (starItems none (first :: rest)).foldlM step ⟨before, phase, defaulted⟩ =
                some ⟨before, .bareStar, defaulted⟩ := by
              rcases early with rfl | rfl <;> rfl
            refine ⟨.keywords, by decide, ?_⟩
            rw [opened]
            refine (foldlM_keywords (.inl rfl) (first :: rest) _ defaulted kinds).trans ?_
            simp
  obtain ⟨late, ⟨notBare, notClosed⟩, folded⟩ := starred
  rw [List.foldlM_append, folded]
  cases kwarg with
  | none => simp [finish, notBare]
  | some name => simp [step, finish, notBare, notClosed]

/-- **The grammar accepts the items** of every parameter list, and gives its parameters. -/
theorem finish_listItems {only ordinary keywords : List (Parameter python)}
    (vararg kwarg : Option String)
    (onlyKinds : ∀ parameter ∈ only, parameter.kind = .positionalOnly)
    (ordinaryKinds : ∀ parameter ∈ ordinary, parameter.kind = .positionalOrKeyword)
    (keywordKinds : ∀ parameter ∈ keywords, parameter.kind = .keywordOnly)
    (last : DefaultsLast ((only ++ ordinary).map (·.default.isSome))) :
    ((listItems only ordinary vararg keywords kwarg).foldlM step ⟨[], .positional, false⟩).bind
        finish =
      some (only ++ ordinary ++ vararg.toList.map (fun name => ⟨name, .varPositional, none⟩) ++
        keywords ++ kwarg.toList.map fun name => ⟨name, .varKeyword, none⟩) := by
  have initial : DefaultsLast (false :: (only.map (·.default.isSome) ++
      ordinary.map (·.default.isSome))) := by
    rw [List.map_append] at last
    exact List.pairwise_cons.mpr ⟨fun _ _ => Bool.false_le _, last⟩
  obtain ⟨afterOnly, last', first⟩ := foldlM_positional (.inl rfl) only _ [] false initial
  obtain ⟨phase, early, slashed⟩ := foldlM_slash only afterOnly onlyKinds
  obtain ⟨defaulted, _, second⟩ := foldlM_positional early ordinary [] only afterOnly
    (by rwa [List.append_nil])
  rw [map_kind_eq ordinaryKinds] at second
  rw [listItems, List.append_assoc, List.append_assoc, List.append_assoc, List.append_assoc,
    List.foldlM_append, first]
  show ((List.foldlM step _ _).bind finish) = _
  rw [List.nil_append, List.foldlM_append, slashed]
  show ((List.foldlM step _ _).bind finish) = _
  rw [List.foldlM_append, second]
  show ((List.foldlM step _ _).bind finish) = _
  rw [← List.append_assoc]
  exact finish_tail early (only ++ ordinary) defaulted vararg keywords kwarg keywordKinds

end ListState

/-! ## Signatures -/

/-- Rendered parameters are texts of their items. -/
theorem writes_mapM_render {parameters : List (Parameter python)} {texts : List String}
    (named : ∀ parameter ∈ parameters, python.isName parameter.name = true)
    (rendered : parameters.mapM Parameter.render = some texts) :
    List.Forall₂ (WritesItem python) (parameters.map Parameter.item) texts := by
  induction parameters generalizing texts with
  | nil =>
      cases rendered
      exact .nil
  | cons first rest ih =>
      rw [List.mapM_cons] at rendered
      obtain ⟨text, own, rendered⟩ := Option.bind_eq_some_iff.mp rendered
      obtain ⟨others, later, rendered⟩ := Option.bind_eq_some_iff.mp rendered
      cases rendered
      refine .cons ?_ (ih (fun parameter mem => named parameter (.tail _ mem)) later)
      have name := named first (List.mem_cons_self ..)
      unfold Parameter.render PythonArguments.renderParameter at own
      unfold Parameter.item
      cases given : first.default with
      | none =>
          rw [given] at own
          cases own
          exact .required name
      | some default =>
          rw [given] at own
          obtain ⟨written, defaultText, rfl⟩ := Option.map_eq_some_iff.mp own
          exact .defaulted name defaultText

/-- A list is rendered exactly when every default value has a text. -/
theorem isSome_mapM_render (parameters : List (Parameter python)) :
    (parameters.mapM Parameter.render).isSome = true ↔
      ∀ parameter ∈ parameters, ∀ default, parameter.default = some default →
        (staticDefaultText (python.defaultValue default)).isSome = true := by
  induction parameters with
  | nil => simp
  | cons first rest ih =>
      have own : first.render.isSome = true ↔ ∀ default, first.default = some default →
          (staticDefaultText (python.defaultValue default)).isSome = true := by
        unfold Parameter.render PythonArguments.renderParameter
        cases first.default <;> simp
      rw [List.forall_mem_cons, ← own, ← ih, List.mapM_cons]
      cases first.render <;> cases rest.mapM Parameter.render <;> simp

namespace PythonArguments

variable (arguments : PythonArguments python) (dropImplicitReceiver : Bool)

theorem keywordParameters_eq : arguments.keywordParameters =
    (arguments.kwonlyargs.zip arguments.kwDefaults).map
      fun item => ⟨item.1, .keywordOnly, item.2⟩ := by
  rw [keywordParameters, ← List.map_uncurry_zip_eq_zipWith]
  rfl

theorem mapM_keywordParameters :
    (arguments.kwonlyargs.zip arguments.kwDefaults).mapM
        (fun item => renderParameter item.1 item.2) =
      arguments.keywordParameters.mapM Parameter.render := by
  rw [keywordParameters_eq, List.mapM_map]
  rfl

theorem isEmpty_keywordParameters :
    arguments.keywordParameters.isEmpty = arguments.kwonlyargs.isEmpty := by
  have counted : arguments.keywordParameters.length = arguments.kwonlyargs.length := by
    rw [keywordParameters_eq, List.length_map, List.length_zip, arguments.kwAligned, Nat.min_self]
  rw [Bool.eq_iff_iff, List.isEmpty_iff_length_eq_zero, List.isEmpty_iff_length_eq_zero, counted]

theorem keywordParameters_spec :
    ∀ parameter ∈ arguments.keywordParameters,
      parameter.kind = .keywordOnly ∧ python.isName parameter.name = true := by
  intro parameter mem
  rw [keywordParameters_eq] at mem
  obtain ⟨⟨name, default⟩, pair, rfl⟩ := List.mem_map.mp mem
  have own := (List.of_mem_zip pair).1
  exact ⟨rfl, arguments.names name (by simp [own])⟩

theorem named_visiblePositional :
    ∀ parameter ∈ arguments.visiblePositional dropImplicitReceiver,
      python.isName parameter.name = true := by
  have all : ∀ parameter ∈ arguments.positionalParameters,
      python.isName parameter.name = true := by
    intro parameter mem
    rw [positionalParameters, ← List.map_uncurry_zip_eq_zipWith] at mem
    obtain ⟨⟨⟨name, kind⟩, default⟩, pair, rfl⟩ := List.mem_map.mp mem
    have own := (List.of_mem_zip pair).1
    unfold positionalNames at own
    refine arguments.names name ?_
    simp only [List.mem_append, List.mem_map, Prod.mk.injEq] at own ⊢
    rcases own with ⟨_, own, rfl, _⟩ | ⟨_, own, rfl, _⟩ <;> simp [own]
  intro parameter mem
  unfold visiblePositional at mem
  split_ifs at mem
  · exact all parameter (List.mem_of_mem_tail mem)
  · exact all parameter mem

/-- The default values of the visible positional parameters belong to the last ones. -/
theorem defaultsLast_visiblePositional :
    DefaultsLast ((arguments.visiblePositional dropImplicitReceiver).map (·.default.isSome)) := by
  obtain ⟨required, defaults, visible⟩ := arguments.visibleDefaults_eq dropImplicitReceiver
  have given := map_default_assembleParameters (arguments.length_visibleNames dropImplicitReceiver)
  rw [← arguments.visiblePositional_eq, visible] at given
  have flags : (arguments.visiblePositional dropImplicitReceiver).map (·.default.isSome) =
      List.replicate required false ++ List.replicate defaults.length true := by
    rw [← Function.comp_def, ← List.map_map, given]
    simp [Function.comp_def]
  rw [flags]
  refine List.pairwise_append.mpr ⟨?_, ?_, ?_⟩
  · exact List.pairwise_replicate.mpr (.inr (Bool.le_refl _))
  · exact List.pairwise_replicate.mpr (.inr (Bool.le_refl _))
  · intro first mem _ _
    rw [List.eq_of_mem_replicate mem]
    exact Bool.false_le _

/-- The marker or the variadic parameter is written as its item. -/
theorem writes_starItems :
    List.Forall₂ (WritesItem python) (starItems arguments.vararg arguments.keywordParameters)
      (match arguments.vararg with
        | some name => ["*" ++ name]
        | none => if arguments.kwonlyargs.isEmpty then [] else ["*"]) := by
  unfold starItems
  cases given : arguments.vararg with
  | some name => exact .cons (.starred (arguments.names name (by simp [given]))) .nil
  | none =>
      rw [arguments.isEmpty_keywordParameters]
      cases arguments.kwonlyargs.isEmpty with
      | true => exact .nil
      | false => exact .cons .star .nil

theorem writes_kwarg :
    List.Forall₂ (WritesItem python) (arguments.kwarg.toList.map ParameterItem.doubleStarred)
      (arguments.kwarg.toList.map fun name => "**" ++ name) := by
  cases given : arguments.kwarg with
  | none => exact .nil
  | some name => exact .cons (.doubleStarred (arguments.names name (by simp [given]))) .nil

/-- What is rendered: the texts of the items of the visible parameters, and this whenever their
default values have texts. -/
theorem signatureText_spec (qualifiedName : String) :
    ∃ only ordinary, arguments.visiblePositional dropImplicitReceiver = only ++ ordinary ∧
      (∀ parameter ∈ only, parameter.kind = .positionalOnly) ∧
      (∀ parameter ∈ ordinary, parameter.kind = .positionalOrKeyword) ∧
      (∀ text, arguments.signatureText qualifiedName dropImplicitReceiver = some text →
        ∃ texts, text = qualifiedName ++ "(" ++ ", ".intercalate texts ++ ")" ∧
          List.Forall₂ (WritesItem python)
            (listItems only ordinary arguments.vararg arguments.keywordParameters arguments.kwarg)
            texts) ∧
      ((arguments.signatureText qualifiedName dropImplicitReceiver).isSome = true ↔
        ((only ++ ordinary).mapM Parameter.render).isSome = true ∧
          (arguments.keywordParameters.mapM Parameter.render).isSome = true) := by
  obtain ⟨only, ordinary, visible, onlyKinds, ordinaryKinds, parts⟩ :=
    arguments.positionalParts_eq dropImplicitReceiver
  have named := arguments.named_visiblePositional dropImplicitReceiver
  rw [visible] at named
  refine ⟨only, ordinary, visible, onlyKinds, ordinaryKinds, ?_, ?_⟩
  · intro text rendered
    unfold signatureText at rendered
    rw [parts, mapM_keywordParameters] at rendered
    obtain ⟨positional, both, rendered⟩ := Option.bind_eq_some_iff.mp rendered
    obtain ⟨onlyTexts, ownOnly, both⟩ := Option.bind_eq_some_iff.mp both
    obtain ⟨ordinaryTexts, ownOrdinary, rfl⟩ := Option.map_eq_some_iff.mp both
    obtain ⟨keywordTexts, ownKeywords, rendered⟩ := Option.bind_eq_some_iff.mp rendered
    cases rendered
    refine ⟨_, rfl, ?_⟩
    have slash : List.Forall₂ (WritesItem python)
        (if only.isEmpty then [] else [ParameterItem.slash])
        (if only.isEmpty then [] else ["/"]) := by
      cases only.isEmpty with
      | true => exact .nil
      | false => exact .cons .slash .nil
    have onlyWrites := writes_mapM_render
      (fun parameter mem => named parameter (List.mem_append_left _ mem)) ownOnly
    have ordinaryWrites := writes_mapM_render
      (fun parameter mem => named parameter (List.mem_append_right _ mem)) ownOrdinary
    have keywordWrites := writes_mapM_render
      (fun parameter mem => (arguments.keywordParameters_spec parameter mem).2) ownKeywords
    exact List.rel_append (List.rel_append (List.rel_append (List.rel_append
      (List.rel_append onlyWrites slash) ordinaryWrites) arguments.writes_starItems)
      keywordWrites) arguments.writes_kwarg
  · unfold signatureText
    rw [parts, mapM_keywordParameters, List.mapM_append]
    cases only.mapM Parameter.render <;> cases ordinary.mapM Parameter.render <;>
      cases arguments.keywordParameters.mapM Parameter.render <;> simp

/-- **Signatures are rendered faithfully.**  A rendered parameter list, read as Python reads it,
has the visible parameters of the function with their names, kinds, order and default values.  A
signature is rendered exactly when the default values of these parameters all have texts. -/
theorem signatureText_faithful (qualifiedName : String) :
    (∀ text, arguments.signatureText qualifiedName dropImplicitReceiver = some text →
      ∃ listing, text = qualifiedName ++ "(" ++ listing ∧
        python.parseParameters listing.toList =
          some (arguments.parameters dropImplicitReceiver)) ∧
    ((arguments.signatureText qualifiedName dropImplicitReceiver).isSome = true ↔
      ∀ parameter ∈ arguments.parameters dropImplicitReceiver, ∀ default,
        parameter.default = some default →
          (staticDefaultText (python.defaultValue default)).isSome = true) := by
  obtain ⟨only, ordinary, visible, onlyKinds, ordinaryKinds, writes, isSome⟩ :=
    arguments.signatureText_spec dropImplicitReceiver qualifiedName
  have shown : arguments.parameters dropImplicitReceiver = only ++ ordinary ++
      arguments.vararg.toList.map (fun name => ⟨name, .varPositional, none⟩) ++
      arguments.keywordParameters ++
      arguments.kwarg.toList.map fun name => ⟨name, .varKeyword, none⟩ := by
    rw [parameters, visible]
  constructor
  · intro text rendered
    obtain ⟨texts, rfl, written⟩ := writes text rendered
    refine ⟨", ".intercalate texts ++ ")", by rw [String.append_assoc], ?_⟩
    have last := arguments.defaultsLast_visiblePositional dropImplicitReceiver
    rw [visible] at last
    have accepted := ListState.finish_listItems arguments.vararg arguments.kwarg onlyKinds
      ordinaryKinds (fun parameter mem => (arguments.keywordParameters_spec parameter mem).1) last
    have read := PythonSyntax.readItems_intercalate written
    unfold PythonSyntax.parseParameters
    rw [String.toList_append]
    show (python.readItems (((", ".intercalate texts).toList ++ [')']).length + 1)
      ((", ".intercalate texts).toList ++ [')'])).bind _ = _
    rw [read, shown]
    exact accepted
  · rw [isSome, isSome_mapM_render, isSome_mapM_render, shown]
    have starred : ∀ (kind : ParameterKind) (name : Option String),
        ∀ parameter ∈ name.toList.map (fun name => (⟨name, kind, none⟩ : Parameter python)),
          ∀ default, parameter.default = some default →
            (staticDefaultText (python.defaultValue default)).isSome = true := by
      intro kind name parameter mem default given
      obtain ⟨_, _, rfl⟩ := List.mem_map.mp mem
      cases given
    simp only [List.forall_mem_append]
    constructor
    · rintro ⟨positional, keywords⟩
      exact ⟨⟨⟨positional, starred _ _⟩, keywords⟩, starred _ _⟩
    · rintro ⟨⟨⟨positional, _⟩, keywords⟩, _⟩
      exact ⟨positional, keywords⟩

end PythonArguments

/-! ## What the retriever is given

The retriever's own rendering starts from arguments that carry their default values. -/

/-- A parameter as the retriever sees it. -/
def Parameter.argument (parameter : Parameter python) : Argument where
  name := parameter.name
  default := parameter.default.map python.defaultValue

theorem Parameter.render_argument (parameter : Parameter python) :
    parameter.argument.render = parameter.render := by
  obtain ⟨name, kind, _ | default⟩ := parameter <;> rfl

namespace PythonArguments

variable (arguments : PythonArguments python) (dropImplicitReceiver : Bool)

/-- The arguments as the retriever sees them. -/
def toArguments : Arguments where
  posonlyargs := (arguments.positionalParameters.take arguments.posonlyargs.length).map
    Parameter.argument
  args := (arguments.positionalParameters.drop arguments.posonlyargs.length).map Parameter.argument
  vararg := arguments.vararg
  kwonlyargs := arguments.keywordParameters.map Parameter.argument
  kwarg := arguments.kwarg

theorem map_kind_positionalParameters : arguments.positionalParameters.map Parameter.kind =
    List.replicate arguments.posonlyargs.length ParameterKind.positionalOnly ++
      List.replicate arguments.args.length ParameterKind.positionalOrKeyword := by
  have kinds := map_kind_assembleParameters arguments.length_positionalNames
  rw [positionalParameters]
  refine kinds.trans ?_
  simp [positionalNames, Function.comp_def]

/-- The retriever tells positional-only parameters apart by where they stand. -/
theorem positional_toArguments : arguments.toArguments.positional dropImplicitReceiver =
    (arguments.visiblePositional dropImplicitReceiver).map fun parameter =>
      (parameter.argument, decide (parameter.kind = .positionalOnly)) := by
  have only : ∀ parameter ∈ arguments.positionalParameters.take arguments.posonlyargs.length,
      parameter.kind = .positionalOnly := by
    intro parameter mem
    have kind := List.mem_map_of_mem (f := Parameter.kind) mem
    rw [List.map_take, map_kind_positionalParameters, List.take_left' (by simp)] at kind
    exact List.eq_of_mem_replicate kind
  have ordinary : ∀ parameter ∈ arguments.positionalParameters.drop arguments.posonlyargs.length,
      parameter.kind = .positionalOrKeyword := by
    intro parameter mem
    have kind := List.mem_map_of_mem (f := Parameter.kind) mem
    rw [List.map_drop, map_kind_positionalParameters, List.drop_left' (by simp)] at kind
    exact List.eq_of_mem_replicate kind
  have all : arguments.toArguments.posonlyargs.map (·, true) ++
        arguments.toArguments.args.map (·, false) =
      arguments.positionalParameters.map fun parameter =>
        (parameter.argument, decide (parameter.kind = .positionalOnly)) := by
    conv_rhs => rw [← List.take_append_drop arguments.posonlyargs.length
      arguments.positionalParameters, List.map_append]
    simp only [toArguments, List.map_map]
    congr 1
    · exact List.map_congr_left fun parameter mem => by simp [only parameter mem]
    · exact List.map_congr_left fun parameter mem => by simp [ordinary parameter mem]
  have receiver : (arguments.positionalParameters.map fun parameter =>
        (parameter.argument, decide (parameter.kind = ParameterKind.positionalOnly))).head?.any
        (fun first => ["self", "cls"].contains first.1.name) = arguments.hasReceiver := by
    rw [List.head?_map, Option.any_map]
    rfl
  rw [Arguments.positional, all, receiver, visiblePositional]
  split
  · rw [List.map_tail]
  · rfl

/-- The loop goes over the visible parameters. -/
theorem positionalParts_eq_foldlM : arguments.positionalParts dropImplicitReceiver =
    ((arguments.visiblePositional dropImplicitReceiver).map Parameter.seen).foldlM
      (renderPositional ((arguments.visiblePositional dropImplicitReceiver).countP
        fun parameter => decide (parameter.kind = .positionalOnly))) [] := by
  have counted := arguments.length_visibleNames dropImplicitReceiver
  have kinds : (arguments.visibleNames dropImplicitReceiver).map
        (fun item => decide (item.2 = ParameterKind.positionalOnly)) =
      (arguments.visiblePositional dropImplicitReceiver).map
        fun parameter => decide (parameter.kind = .positionalOnly) := by
    have same := congrArg (List.map fun kind => decide (kind = ParameterKind.positionalOnly))
      (map_kind_assembleParameters counted)
    rw [← arguments.visiblePositional_eq, List.map_map, List.map_map] at same
    exact same.symm
  rw [positionalParts, arguments.positionalLists_eq]
  dsimp only
  rw [zip_eq_seen, ← arguments.visiblePositional_eq, kinds, List.filter_map, List.length_map,
    ← List.countP_eq_length_filter]
  rfl

/-- **The two renderings agree.**  On the syntax tree the text is the one that the retriever
renders from the arguments it sees. -/
theorem functionSignatureText_toArguments (qualifiedName : String) :
    functionSignatureText qualifiedName arguments.toArguments dropImplicitReceiver =
      arguments.signatureText qualifiedName dropImplicitReceiver := by
  have rendered : arguments.toArguments.kwonlyargs.mapM Argument.render =
      arguments.keywordParameters.mapM Parameter.render := by
    rw [toArguments, List.mapM_map]
    exact congrArg (fun render => arguments.keywordParameters.mapM render)
      (funext Parameter.render_argument)
  have keywordless : arguments.toArguments.kwonlyargs.isEmpty = arguments.kwonlyargs.isEmpty := by
    rw [← isEmpty_keywordParameters, toArguments, List.isEmpty_map]
  have round : ∀ posonly (parts : List String) (parameter : Parameter python),
      (do
        let rendered ← parameter.argument.render
        some (if decide (parameter.kind = .positionalOnly) && parts.length + 1 == posonly
          then parts ++ [rendered, "/"] else parts ++ [rendered])) =
      renderPositional posonly parts parameter.seen := by
    intro posonly parts parameter
    rw [parameter.render_argument]
    simp [renderPositional, Parameter.seen, Parameter.render]
  rw [functionSignatureText, signatureText, positionalParts_eq_foldlM, positional_toArguments,
    List.countP_map, List.foldlM_map, List.foldlM_map, rendered, keywordless,
    mapM_keywordParameters]
  dsimp only
  simp only [round]
  rfl

end PythonArguments
/-! ## A small language -/

/-- Letters as names, and one default value. -/
def zeroSyntax : PythonSyntax where
  Expression := Unit
  tree _ := .node .constant []
  unparse _ := some "0"
  readExpression
    | '0' :: rest => some ((), rest)
    | _ => none
  isNameChar c := c.isAlpha
  isName name := !name.toList.isEmpty && name.toList.all Char.isAlpha
  reads := by
    intro _ text rest _ written _
    cases written
    rfl
  named := by
    intro name named
    rw [Bool.and_eq_true, Bool.not_eq_true', List.isEmpty_eq_false_iff] at named
    exact named
  delimits := by
    intro c mem
    simp only [List.mem_cons, List.not_mem_nil, or_false] at mem
    rcases mem with rfl | rfl | rfl | rfl | rfl | rfl <;> rfl

/-- `def f(self, a, /, b=0, *, c, **d)`. -/
def mixedArguments : PythonArguments zeroSyntax where
  posonlyargs := ["self", "a"]
  args := ["b"]
  vararg := none
  kwonlyargs := ["c"]
  kwDefaults := [none]
  kwarg := some "d"
  defaults := [()]
  aligned := by decide
  kwAligned := rfl
  names := by decide

example : mixedArguments.signatureText "f" true = some "f(a, /, b=0, *, c, **d)" := by
  decide +kernel

end PatchProof
