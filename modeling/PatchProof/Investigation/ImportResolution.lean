import PatchProof.Execution.TestPaths
import PatchProof.Investigation.Recording

/-!
# What an import binds

The collector of imports records for every name that an import statement binds the dotted
name it stands for.  For a relative import it climbs from the parts of the module's own name
and gives up when it would climb above all of them.

Python resolves the same import in the package of the module, and refuses a level that is
larger than the depth of the package.  The collector compares one less than the level with
the depth, so at the first level that Python refuses it still records a target: the name
without any package (`top_level_import_resolved`).
-/

set_option autoImplicit false

namespace PatchProof

/-! ## Dotted names -/

/-- `text.split(".")`. -/
def dotParts (text : String) : List String := (text.toList.splitOn '.').map String.ofList

/-- `".".join(parts)`. -/
def joinDots (parts : List String) : String := ".".intercalate parts

/-- Names of the syntax tree joined by dots; none is empty. -/
structure DottedName where
  text : String
  proper : ∀ part ∈ dotParts text, part ≠ ""

theorem dotParts_joinDots {parts : List String} (nonempty : parts ≠ [])
    (plain : ∀ part ∈ parts, '.' ∉ part.toList) : dotParts (joinDots parts) = parts := by
  have dot : ".".toList = ['.'] := rfl
  rw [dotParts, joinDots, String.toList_intercalate, dot, List.splitOn_intercalate]
  · rw [List.map_map]
    have same : String.ofList ∘ String.toList = id := by
      funext part
      exact String.ofList_toList
    rw [same, List.map_id]
  · intro letters mem
    obtain ⟨part, inParts, rfl⟩ := List.mem_map.mp mem
    exact plain part inParts
  · simpa using nonempty

theorem joinDots_dotParts (text : String) : joinDots (dotParts text) = text := by
  have dot : ".".toList = ['.'] := rfl
  apply String.toList_injective
  rw [joinDots, String.toList_intercalate, dotParts, List.map_map, dot]
  have same : String.toList ∘ String.ofList = id := by
    funext letters
    exact String.toList_ofList
  rw [same, List.map_id, List.intercalate_splitOn]

theorem joinDots_append {front back : List String} (frontNonempty : front ≠ [])
    (backNonempty : back ≠ []) :
    joinDots (front ++ back) = joinDots front ++ "." ++ joinDots back :=
  String.intercalate_append_of_ne_nil frontNonempty backNonempty

/-! ## Import statements -/

/-- One name of an import statement. -/
structure ImportItem where
  name : DottedName
  asname : Option String := none

/-- One name that an import statement binds, with what the statement says of it. -/
inductive ImportedName where
  | ofImport (item : ImportItem)
  | ofImportFrom (module : Option DottedName) (level : Nat) (item : ImportItem)

/-- What the collector keeps of one name that is bound. -/
structure ImportRow where
  module : String
  importedName : Option String
  aliasName : String
  importedTarget : String
  aliasTarget : Option String
  relativeLevel : Nat
  deriving DecidableEq

/-- `name.split(".", maxsplit=1)[0]`. -/
def beforeFirstDot (text : String) : String := String.ofList (text.toList.takeWhile (· != '.'))

/-- `PurePosixPath(path).name`. -/
def pathName (path : String) : String :=
  String.ofList ((pathSegments path.toList).getLast?.getD [])

/-- `visit_Import`, of one name. -/
def importRow (item : ImportItem) : ImportRow :=
  let bound := item.asname.getD (beforeFirstDot item.name.text)
  { module := item.name.text
    importedName := none
    aliasName := bound
    importedTarget := item.name.text
    aliasTarget := some (if item.asname.isSome then item.name.text else bound)
    relativeLevel := 0 }

/-- The target of one name of a relative import. -/
def relativeTarget (path : String) (module : Option DottedName) (level : Nat)
    (item : ImportItem) : Option String :=
  let own := if moduleName path = "" then [] else dotParts (moduleName path)
  let parts := if pathName path ≠ "__init__.py" ∧ own ≠ [] then own.dropLast else own
  let ascend := level - 1
  if parts.length < ascend then none
  else
    let front := parts.take (parts.length - ascend)
    let suffix := dotParts ((module.map DottedName.text).getD "") ++ [item.name.text]
    some (joinDots ((front ++ suffix).filter (· ≠ "")))

/-- `visit_ImportFrom`, of one name. -/
def importFromRow (path : String) (module : Option DottedName) (level : Nat)
    (item : ImportItem) : ImportRow :=
  let dots := String.ofList (List.replicate level '.')
  let absolute := match module with
    | some module => module.text ++ "." ++ item.name.text
    | none => item.name.text
  { module := orElseText (dots ++ (module.map DottedName.text).getD "") "."
    importedName := some item.name.text
    aliasName := item.asname.getD item.name.text
    importedTarget := dots ++ absolute
    aliasTarget := if level = 0 then some absolute else relativeTarget path module level item
    relativeLevel := level }

/-- The row of one name. -/
def ImportedName.row (path : String) : ImportedName → ImportRow
  | .ofImport item => importRow item
  | .ofImportFrom module level item => importFromRow path module level item

/-! ## Modules -/

/-- The path of a module below the import root: the directories, then the file without its
ending. -/
structure ModulePath where
  packages : List String
  leaf : String
  proper : ∀ part ∈ packages ++ [leaf],
    part ≠ "" ∧ '.' ∉ part.toList ∧ '/' ∉ part.toList

namespace ModulePath

variable (path : ModulePath)

def text : String := "/".intercalate (path.packages ++ [path.leaf ++ ".py"])

/-- `__package__`: of a package its own name, of a plain module the package it is in. -/
def package : List String := path.packages

/-- How far the collector climbs: `__init__.py` at the root is a module of its own name. -/
def climbed : List String :=
  if path.packages = [] ∧ path.leaf = "__init__" then ["__init__"] else path.packages

end ModulePath

/-! ## Python's rule -/

/-- The package that a relative level names, if it does not go beyond the top-level one. -/
def resolvePackage (package : List String) (level : Nat) : Option (List String) :=
  if level = 0 then some []
  else if package.length < level then none
  else some (package.take (package.length - (level - 1)))

/-- The dotted name that Python binds. -/
def ImportedName.pythonTarget (path : ModulePath) : ImportedName → Option String
  | .ofImport item =>
      some (if item.asname.isSome then item.name.text else beforeFirstDot item.name.text)
  | .ofImportFrom module level item =>
      (resolvePackage path.package level).map fun base =>
        joinDots (base ++ ((module.map fun module => [module.text]).getD []) ++ [item.name.text])

/-! ## The parts of a module's name -/

theorem pathSegments_eq_splitOn (letters : List Char) :
    pathSegments letters = letters.splitOn '/' := by
  induction letters with
  | nil => rfl
  | cons c rest ih =>
      have split := List.splitOn_ne_nil '/' rest
      rw [pathSegments, List.splitOn_cons_eq_if_modifyHead, ih]
      by_cases slash : c = '/'
      · simp [slash]
      · cases segments : rest.splitOn '/' with
        | nil => exact absurd segments split
        | cons segment more => simp [slash]

/-- The segments of texts that are joined by slashes. -/
theorem pathSegments_intercalate {parts : List String} (nonempty : parts ≠ [])
    (plain : ∀ part ∈ parts, '/' ∉ part.toList) :
    (pathSegments ("/".intercalate parts).toList).map String.ofList = parts := by
  have slash : "/".toList = ['/'] := rfl
  rw [pathSegments_eq_splitOn, String.toList_intercalate, slash, List.splitOn_intercalate]
  · rw [List.map_map]
    have same : String.ofList ∘ String.toList = id := by
      funext part
      exact String.ofList_toList
    rw [same, List.map_id]
  · intro letters mem
    obtain ⟨part, inParts, rfl⟩ := List.mem_map.mp mem
    exact plain part inParts
  · simpa using nonempty

namespace ModulePath

variable {path : ModulePath}

theorem text_eq (path : ModulePath) :
    path.text = "/".intercalate (path.packages ++ [path.leaf]) ++ ".py" := by
  rw [text]
  by_cases root : path.packages = []
  · rw [root, List.nil_append, List.nil_append, String.intercalate_singleton,
      String.intercalate_singleton]
  · rw [String.intercalate_append_of_ne_nil root (List.cons_ne_nil _ _),
      String.intercalate_append_of_ne_nil root (List.cons_ne_nil _ _),
      String.intercalate_singleton, String.intercalate_singleton, ← String.append_assoc]

theorem moduleName_text (path : ModulePath) : moduleName path.text =
    joinDots (if path.leaf = "__init__" ∧ path.packages ≠ [] then path.packages
      else path.packages ++ [path.leaf]) := by
  have ending : ".py".toList.length = 3 := rfl
  have stem : path.text.toList.take (path.text.length - 3) =
      ("/".intercalate (path.packages ++ [path.leaf])).toList := by
    rw [text_eq, String.toList_append, ← String.length_toList, String.toList_append,
      List.length_append, ending, Nat.add_sub_cancel, List.take_left]
  have nonempty : path.packages ++ [path.leaf] ≠ [] := by simp
  have segments := pathSegments_intercalate nonempty
    fun part mem => (path.proper part mem).2.2
  unfold moduleName
  rw [stem, segments]
  simp only [List.getLast?_append, List.getLast?_singleton, Option.some_or, Option.some.injEq,
    List.length_append, List.length_singleton, List.dropLast_concat]
  have more : (1 < path.packages.length + 1) = (path.packages ≠ []) := by
    rw [← List.length_pos_iff]
    simp
  simp only [more]
  rfl

theorem pathName_text (path : ModulePath) : pathName path.text = path.leaf ++ ".py" := by
  have plain : ∀ part ∈ path.packages ++ [path.leaf ++ ".py"], '/' ∉ part.toList := by
    intro part mem
    rcases List.mem_append.mp mem with inPackages | last
    · exact (path.proper part (List.mem_append_left _ inPackages)).2.2
    · obtain rfl := List.mem_singleton.mp last
      have leaf := (path.proper path.leaf (by simp)).2.2
      rw [String.toList_append, List.mem_append, not_or]
      exact ⟨leaf, by decide⟩
  have segments := congrArg List.getLast? (pathSegments_intercalate (by simp) plain)
  rw [List.getLast?_map, List.getLast?_append, List.getLast?_singleton] at segments
  rw [pathName, text]
  cases found : (pathSegments ("/".intercalate (path.packages ++
      [path.leaf ++ ".py"])).toList).getLast? with
  | none => rw [found] at segments; cases segments
  | some last =>
      rw [found] at segments
      exact Option.some.inj segments

/-- The collector climbs from these parts. -/
theorem parts_eq (path : ModulePath) :
    (let own := if moduleName path.text = "" then [] else dotParts (moduleName path.text)
     if pathName path.text ≠ "__init__.py" ∧ own ≠ [] then own.dropLast else own) =
      path.climbed := by
  have proper := path.proper
  have named : ∀ parts : List String, parts ≠ [] → (∀ part ∈ parts, part ∈
      path.packages ++ [path.leaf]) → dotParts (joinDots parts) = parts ∧ joinDots parts ≠ "" := by
    intro parts nonempty among
    have split := dotParts_joinDots nonempty fun part mem => (proper part (among part mem)).2.1
    refine ⟨split, ?_⟩
    intro empty
    rw [empty] at split
    have blank : "" ∈ parts := by
      rw [← split]
      decide
    exact (proper "" (among "" blank)).1 rfl
  have leafName : (path.leaf ++ ".py" ≠ "__init__.py") = (path.leaf ≠ "__init__") := by
    have ending : "__init__.py" = "__init__" ++ ".py" := by decide
    rw [ending, ne_eq, ne_eq, String.append_left_inj]
  rw [moduleName_text, pathName_text]
  by_cases package : path.leaf = "__init__"
  · by_cases root : path.packages = []
    · obtain ⟨split, nonempty⟩ := named (path.packages ++ [path.leaf]) (by simp)
        fun part mem => mem
      rw [package, root, List.nil_append] at split nonempty
      simp [package, root, climbed, split, nonempty]
    · obtain ⟨split, nonempty⟩ := named path.packages root
        fun part mem => List.mem_append_left _ mem
      simp [package, root, climbed, split, nonempty]
  · obtain ⟨split, nonempty⟩ := named (path.packages ++ [path.leaf]) (by simp)
      fun part mem => mem
    simp [package, climbed, split, nonempty, leafName]

theorem climbed_cases (path : ModulePath) : path.climbed = path.packages ∨
    path.packages = [] ∧ path.climbed = ["__init__"] := by
  unfold climbed
  split
  · rename_i root
    exact .inr ⟨root.1, rfl⟩
  · exact .inl rfl

theorem climbed_proper {part : String} (mem : part ∈ path.climbed) : part ≠ "" := by
  rcases path.climbed_cases with same | ⟨_, same⟩
  · rw [same] at mem
    exact (path.proper part (List.mem_append_left _ mem)).1
  · rw [same] at mem
    obtain rfl := List.mem_singleton.mp mem
    decide

end ModulePath

/-! ## Targets -/

theorem DottedName.text_ne_empty (name : DottedName) : name.text ≠ "" := by
  intro empty
  have proper := name.proper ""
  rw [empty] at proper
  exact proper (by decide) rfl

/-- Parts in the middle of a dotted name may be joined first. -/
theorem joinDots_middle {parts : List String} (nonempty : parts ≠ []) (front : List String)
    (last : String) :
    joinDots (front ++ parts ++ [last]) = joinDots (front ++ [joinDots parts] ++ [last]) := by
  have single : joinDots [joinDots parts] = joinDots parts := String.intercalate_singleton
  have both : joinDots (parts ++ [last]) = joinDots ([joinDots parts] ++ [last]) := by
    rw [joinDots_append nonempty (List.cons_ne_nil _ _),
      joinDots_append (List.cons_ne_nil _ _) (List.cons_ne_nil _ _), single]
  rw [List.append_assoc, List.append_assoc]
  by_cases start : front = []
  · rw [start, List.nil_append, List.nil_append, both]
  · rw [joinDots_append start (by simp), joinDots_append start (by simp), both]

/-- The target of a relative import, by the parts that the collector climbs from. -/
theorem relativeTarget_text (path : ModulePath) (module : Option DottedName) (level : Nat)
    (item : ImportItem) : relativeTarget path.text module level item =
      if path.climbed.length < level - 1 then none
      else some (joinDots (path.climbed.take (path.climbed.length - (level - 1)) ++
        ((module.map fun module => [module.text]).getD []) ++ [item.name.text])) := by
  have parts := path.parts_eq
  dsimp only at parts
  unfold relativeTarget
  dsimp only
  rw [parts]
  split
  · rfl
  · have front : ∀ part ∈ path.climbed.take (path.climbed.length - (level - 1)), part ≠ "" :=
      fun part mem => ModulePath.climbed_proper (List.mem_of_mem_take mem)
    rw [List.filter_append, List.filter_append, List.filter_eq_self.mpr (by simpa using front),
      List.filter_cons_of_pos (by simpa using item.name.text_ne_empty), List.filter_nil]
    cases module with
    | none =>
        have nothing : (dotParts "").filter (· ≠ "") = [] := by decide
        rw [Option.map_none, Option.map_none, Option.getD_none, Option.getD_none, nothing,
          List.nil_append, List.append_nil]
    | some module =>
        have kept : (dotParts module.text).filter (· ≠ "") = dotParts module.text :=
          List.filter_eq_self.mpr (by simpa using module.proper)
        have nonempty : dotParts module.text ≠ [] := by
          rw [dotParts, ne_eq, List.map_eq_nil_iff]
          exact List.splitOn_ne_nil '.' _
        rw [Option.map_some, Option.map_some, Option.getD_some, Option.getD_some, kept,
          ← List.append_assoc, joinDots_middle nonempty, joinDots_dotParts]

/-- The level of a name stays in the package of the module, or is so large that the collector
gives up as well. -/
def ImportedName.LevelFits (path : ModulePath) : ImportedName → Prop
  | .ofImport _ => True
  | .ofImportFrom _ level _ => level ≤ path.package.length ∨ path.climbed.length + 1 < level

/-- **The collector agrees with Python on every level that stays in the package**, and on
those that are more than one above what it climbs from. -/
theorem aliasTarget_eq_pythonTarget_iff (path : ModulePath) (imported : ImportedName) :
    (imported.row path.text).aliasTarget = imported.pythonTarget path ↔
      imported.LevelFits path := by
  cases imported with
  | ofImport item =>
      refine iff_of_true ?_ trivial
      simp only [ImportedName.row, importRow, ImportedName.pythonTarget]
      cases item.asname <;> rfl
  | ofImportFrom module level item =>
      have climbs := path.climbed_cases
      have inPackages : path.package = path.packages := rfl
      simp only [ImportedName.row, importFromRow, ImportedName.pythonTarget,
        ImportedName.LevelFits, resolvePackage]
      by_cases absolute : level = 0
      · refine iff_of_true ?_ (.inl (by omega))
        have single : joinDots [item.name.text] = item.name.text := String.intercalate_singleton
        cases module with
        | none => simp [absolute, single]
        | some module =>
            have joined : joinDots [module.text, item.name.text] =
                module.text ++ "." ++ item.name.text := by
              simp [joinDots, String.intercalate_singleton]
            simp [absolute, joined]
      · rw [if_neg absolute, if_neg absolute, relativeTarget_text]
        by_cases beyond : path.package.length < level
        · rw [if_pos beyond, Option.map_none]
          split
          · rename_i above
            exact iff_of_true rfl (.inr (by omega))
          · rename_i below
            refine iff_of_false (by simp) ?_
            omega
        · have inside : path.climbed = path.packages := by
            rcases climbs with same | ⟨root, _⟩
            · exact same
            · rw [inPackages, root, List.length_nil] at beyond
              omega
          rw [if_neg beyond]
          rw [inPackages] at beyond ⊢
          rw [inside, if_neg (by omega), Option.map_some]
          exact iff_of_true rfl (.inl (Nat.le_of_not_lt beyond))

/-- A sample module at the import root. -/
def topLevelModule : ModulePath where
  packages := []
  leaf := "app"
  proper := by decide

theorem dotParts_m_proper : ∀ part ∈ dotParts "m", part ≠ "" := by
  decide

/-- `from .m import x`. -/
def relativeImport : ImportedName :=
  .ofImportFrom (some ⟨"m", dotParts_m_proper⟩) 1 ⟨⟨"x", by decide⟩, none⟩

/-- In a module at the root no relative import resolves, but the collector records a target
for one. -/
theorem top_level_import_resolved :
    (relativeImport.row topLevelModule.text).aliasTarget = some "m.x" ∧
      relativeImport.pythonTarget topLevelModule = none ∧
      ¬ (relativeImport.row topLevelModule.text).aliasTarget =
        relativeImport.pythonTarget topLevelModule := by
  decide

end PatchProof
