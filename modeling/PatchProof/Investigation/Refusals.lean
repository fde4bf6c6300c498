import PatchProof.Investigation.Planner

/-!
# What queries refuse

A query is refused by its contract, which its callers expect, or because a match that it
found does not validate, which they do not.  The reasons of the planner's matches fit
their field as long as a symbol query is not too long, so under the default limits the
starting context is always built.
-/

set_option autoImplicit false

namespace PatchProof

/-! ## Reasons -/

theorem length_leafName_le (text : String) : (leafName text).length ≤ text.length := by
  have sublist := List.takeWhile_sublist (· != '.') (l := text.toList.reverse)
  have lengths := sublist.length_le
  simp only [leafName, String.length_ofList, List.length_reverse] at lengths ⊢
  rwa [String.length_toList] at lengths

/-- A text that fits the reason of a match. -/
def IsReason (text : String) : Prop := 1 ≤ text.length ∧ text.length ≤ 500

theorem isReason_after {front name : String} (frame : 1 ≤ front.length ∧ front.length ≤ 100)
    (bounded : name.length ≤ 400) : IsReason (front ++ name) := by
  simp only [IsReason, String.length_append]
  omega

theorem isReason_between {front name back : String}
    (frame : 1 ≤ front.length ∧ front.length + back.length ≤ 100)
    (bounded : name.length ≤ 400) : IsReason (front ++ name ++ back) := by
  simp only [IsReason, String.length_append]
  omega

namespace RepositoryInvestigator

/-- A reference matches for a reason that fits. -/
theorem reason_of_rankReference {query : String} {callersOnly : Bool}
    {reference : IndexedReference} {rank : Nat × InvestigationMatchType × String}
    (ranked : rankReference query callersOnly reference = some rank) (bounded : query.length ≤ 400) :
    IsReason rank.2.2 := by
  have leaf := Nat.le_trans (length_leafName_le query) bounded
  unfold rankReference at ranked
  split at ranked
  · cases ranked
  · split at ranked
    · cases ranked
      exact isReason_between (by decide) bounded
    · split at ranked
      · cases ranked
        exact isReason_between (by decide) bounded
      · split at ranked
        · cases ranked
          dsimp only
          split
          · exact isReason_between (by decide) leaf
          · exact isReason_between (by decide) leaf
        · cases ranked

/-- A test that is related to a symbol is related for a reason that fits. -/
theorem reason_of_rankTest {query : String} {references : List IndexedReference}
    {imports : List IndexedImport} {source : String}
    {rank : Nat × InvestigationMatchType × String}
    (ranked : rankTest ⟨some query, none, none⟩ references imports source = some rank)
    (bounded : query.length ≤ 400) : IsReason rank.2.2 := by
  have leaf := Nat.le_trans (length_leafName_le query) bounded
  unfold rankTest at ranked
  dsimp only at ranked
  split at ranked
  · rename_i named found
    cases ranked
    have same := (Option.filter_eq_some_iff.mp found).1
    cases same
    exact isReason_between (by decide) bounded
  · split at ranked
    · rename_i named found
      cases ranked
      have same := (Option.filter_eq_some_iff.mp found).1
      cases same
      exact isReason_between (by decide) bounded
    · split at ranked
      · rename_i named reference found
        cases ranked
        obtain ⟨_, _, same⟩ := Option.map_eq_some_iff.mp found
        cases same
        exact isReason_between (by decide) leaf
      · split at ranked
        · rename_i named item found
          cases ranked
          obtain ⟨_, _, same⟩ := Option.map_eq_some_iff.mp found
          cases same
          dsimp only
          split
          · exact isReason_after (by decide) bounded
          · exact isReason_after (by decide) bounded
        · split at ranked
          · rename_i imported
            cases imported
          · split at ranked
            · rename_i term found
              cases found
              split at ranked
              · cases ranked
                exact isReason_after (by decide) leaf
              · cases ranked
            · cases ranked

/-! ## Contracts -/

/-- Whether a query, if it was refused, was refused by its contract. -/
def RefusedByContract {α : Type} : Except QueryFailure α → Prop
  | .ok _ => True
  | .error failure => ∃ message, failure = .contract message

theorem refusedByContract_bind {α β : Type} {answer : Except QueryFailure α}
    {next : α → Except QueryFailure β} (answered : RefusedByContract answer)
    (continued : ∀ value, RefusedByContract (next value)) :
    RefusedByContract (answer >>= next) := by
  cases answer with
  | error failure => exact answered
  | ok value => exact continued value

theorem refusedByContract_bind_of_ok {α β : Type} {answer : Except QueryFailure α}
    {next : α → Except QueryFailure β} (answered : RefusedByContract answer)
    (continued : ∀ value, answer = .ok value → RefusedByContract (next value)) :
    RefusedByContract (answer >>= next) := by
  cases answer with
  | error failure => exact answered
  | ok value => exact continued value rfl

theorem refusedByContract_mapM {α β : Type} {f : α → Except QueryFailure β} {items : List α}
    (answered : ∀ item ∈ items, RefusedByContract (f item)) :
    RefusedByContract (items.mapM f) := by
  induction items with
  | nil => trivial
  | cons item rest ih =>
      rw [List.mapM_cons]
      refine refusedByContract_bind (answered item List.mem_cons_self) fun value => ?_
      refine refusedByContract_bind (ih fun other mem => ?_) fun values => trivial
      exact answered other (List.mem_cons_of_mem _ mem)

theorem locate_refusedByContract {kind : InvestigationQueryKind} {revision : RevisionRole}
    {path : SourcePath} {startLine endLine : Nat} {symbolName : Option String}
    {matchType : InvestigationMatchType} {reason : String} {cut : Bool} (isReason : IsReason reason)
    (ranged : 0 < startLine ∧ startLine ≤ endLine) :
    RefusedByContract
      (locate kind revision path startLine endLine symbolName matchType reason cut) := by
  unfold locate
  split
  · trivial
  · rename_i unbounded
    exact absurd isReason unbounded

variable (investigator : RepositoryInvestigator)

theorem symbolQuery_refusedByContract (value : String) :
    RefusedByContract (investigator.symbolQuery value) := by
  unfold symbolQuery
  split
  · trivial
  · exact ⟨_, rfl⟩

theorem optionalSymbol_refusedByContract (value : Option String) :
    RefusedByContract (investigator.optionalSymbol value) := by
  cases value with
  | none => trivial
  | some value =>
      exact refusedByContract_bind (investigator.symbolQuery_refusedByContract value)
        fun query => trivial

theorem maximum_refusedByContract (limit : Option Nat) :
    RefusedByContract (investigator.maximum limit) := by
  unfold maximum
  split
  · trivial
  · split
    · trivial
    · exact ⟨_, rfl⟩

/-- A comparison is refused by its contract, if at all. -/
theorem compareSymbol_refusedByContract (path name : Option String) (limit : Option Nat) :
    RefusedByContract (investigator.compareSymbol path name limit) := by
  refine refusedByContract_bind ?_ fun path =>
    refusedByContract_bind (investigator.optionalSymbol_refusedByContract name) fun name => ?_
  · unfold optionalPairPath
    split
    · trivial
    · split
      · exact ⟨_, rfl⟩
      · split
        · trivial
        · exact ⟨_, rfl⟩
  · split
    · exact ⟨_, rfl⟩
    · exact refusedByContract_bind (investigator.maximum_refusedByContract limit)
        fun most => trivial

variable {investigator}

theorem symbolQuery_eq_ok {value query : String}
    (accepted : investigator.symbolQuery value = .ok query) :
    query = value ∧ value.length ≤ investigator.budget.maxSymbolQueryChars := by
  unfold symbolQuery at accepted
  split at accepted
  · rename_i checks
    cases accepted
    exact ⟨rfl, checks.2.1⟩
  · cases accepted

/-- Whether every reference of an index has its lines in order. -/
def ReferencesInOrder (index : RepositoryIndex) : Prop :=
  ∀ reference ∈ index.references, 0 < reference.startLine ∧ reference.startLine ≤ reference.endLine

theorem mem_of_firstAtLocation {α : Type} {item : IndexedReference × α}
    {ranked : List (IndexedReference × α)}
    {seen : List (String × Nat × Nat × Nat × String × Option String)}
    (mem : item ∈ firstAtLocation ranked seen) : item ∈ ranked := by
  induction ranked generalizing seen with
  | nil => cases mem
  | cons first rest ih =>
      unfold firstAtLocation at mem
      split at mem
      · exact List.mem_cons_of_mem _ (ih mem)
      · rcases List.mem_cons.mp mem with rfl | later
        · exact List.mem_cons_self
        · exact List.mem_cons_of_mem _ (ih later)

/-- A caller query is refused by its contract, if at all. -/
theorem findCallers_refusedByContract (queries : investigator.budget.maxSymbolQueryChars ≤ 400)
    {revision : RevisionRole} (ordered : ReferencesInOrder (investigator.indexOf revision))
    (symbol : String) (limit : Option Nat) :
    RefusedByContract (investigator.findCallers revision symbol limit) := by
  refine refusedByContract_bind_of_ok (investigator.symbolQuery_refusedByContract symbol)
    fun query accepted => ?_
  obtain ⟨rfl, bounded⟩ := symbolQuery_eq_ok accepted
  refine refusedByContract_bind (investigator.maximum_refusedByContract limit) fun most => ?_
  refine refusedByContract_bind ?_ fun found => trivial
  refine refusedByContract_bind (refusedByContract_mapM ?_) fun references => ?_
  · rintro ⟨reference, rank⟩ mem
    obtain ⟨source, inIndex, mapped⟩ := List.mem_filterMap.mp (mem_of_firstAtLocation mem)
    obtain ⟨_, ranked, same⟩ := Option.map_eq_some_iff.mp mapped
    cases same
    refine refusedByContract_bind (locate_refusedByContract ?_ (ordered reference inIndex))
      fun provenance => trivial
    exact reason_of_rankReference ranked (Nat.le_trans bounded queries)
  · exact refusedByContract_bind (refusedByContract_mapM fun item mem => by cases mem)
      fun imports => trivial

/-- A query for the tests of a symbol is refused by its contract, if at all. -/
theorem findRelatedTests_refusedByContract
    (queries : investigator.budget.maxSymbolQueryChars ≤ 400) (revision : RevisionRole)
    (symbol : String) (limit : Option Nat) :
    RefusedByContract (investigator.findRelatedTests revision (some symbol) none limit) := by
  refine refusedByContract_bind_of_ok (investigator.optionalSymbol_refusedByContract (some symbol))
    fun query accepted => ?_
  obtain ⟨_, queried, returned⟩ := Guard.bind_eq_ok_iff.mp accepted
  cases returned
  obtain ⟨rfl, bounded⟩ := symbolQuery_eq_ok queried
  have anywhere : optionalPath (investigator.indexOf revision) none = .ok none := rfl
  rw [anywhere, Guard.ok_bind]
  refine refusedByContract_bind (investigator.maximum_refusedByContract limit) fun most => ?_
  refine refusedByContract_bind (refusedByContract_mapM ?_) fun found => trivial
  rintro ⟨test, rank⟩ mem
  obtain ⟨source, _, mapped⟩ := List.mem_filterMap.mp mem
  obtain ⟨_, ranked, same⟩ := Option.map_eq_some_iff.mp mapped
  cases same
  refine refusedByContract_bind (locate_refusedByContract ?_ test.lineRange) fun provenance => trivial
  exact reason_of_rankTest ranked (Nat.le_trans bounded queries)

end RepositoryInvestigator

/-! ## The starting context -/

namespace DeterministicInvestigationPlanner

open RepositoryInvestigator

variable {planner : DeterministicInvestigationPlanner}

theorem traceCallers_eq_ok (queries : planner.investigator.budget.maxSymbolQueryChars ≤ 400)
    (ordered : ReferencesInOrder planner.investigator.head) (symbols : List IndexedSymbol) :
    ∃ reaches, planner.traceCallers symbols = .ok reaches := by
  induction symbols with
  | nil => exact ⟨[], rfl⟩
  | cons symbol rest ih =>
      obtain ⟨traced, isTraced⟩ := ih
      have byContract : RefusedByContract (planner.investigator.findCallers .head
          symbol.qualifiedName.text (some planner.budget.maxCallersPerSymbol)) := by
        apply findCallers_refusedByContract queries
        exact ordered
      have called : ∃ callers, planner.callersOf symbol = .ok callers := by
        unfold callersOf
        split
        · exact ⟨_, rfl⟩
        · rename_i message refused
          rw [refused] at byContract
          obtain ⟨_, absurdity⟩ := byContract
          cases absurdity
        · exact ⟨_, rfl⟩
      obtain ⟨callers, isCalled⟩ := called
      rw [traceCallers, isCalled, isTraced]
      exact ⟨_, rfl⟩

theorem length_addTests_le {most : Nat} {found : List String} (room : found.length < most)
    (items : List InvestigationMatch) : (addTests most found items).length ≤ most := by
  induction items generalizing found with
  | nil => exact Nat.le_of_lt room
  | cons item rest ih =>
      unfold addTests
      split
      · exact ih room
      · rename_i symbol _
        dsimp only
        have grown : (if found.contains (ObservableIdentity.fromSymbol symbol).text = true then found
            else found ++ [(ObservableIdentity.fromSymbol symbol).text]).length ≤ most := by
          split
          · exact Nat.le_of_lt room
          · rw [List.length_append]
            exact room
        by_cases full : most ≤ (if found.contains (ObservableIdentity.fromSymbol symbol).text = true
            then found else found ++ [(ObservableIdentity.fromSymbol symbol).text]).length
        · rw [if_pos full]
          exact grown
        · rw [if_neg full]
          exact ih (Nat.not_le.mp full)

theorem relatedTests_eq_ok (queries : planner.investigator.budget.maxSymbolQueryChars ≤ 400)
    (observables : List RankedObservable) {found : List String}
    (room : found.length ≤ planner.budget.maxRelatedTests) :
    ∃ tests, planner.relatedTests found observables = .ok tests ∧
      tests.length ≤ planner.budget.maxRelatedTests := by
  induction observables generalizing found with
  | nil => exact ⟨found, rfl, room⟩
  | cons observable rest ih =>
      have byContract : RefusedByContract (planner.investigator.findRelatedTests .head
          (some observable.identity.qualifiedName.text) none
          (some planner.budget.maxRelatedTests)) :=
        findRelatedTests_refusedByContract queries _ _ _
      unfold relatedTests
      split
      · exact ⟨found, rfl, room⟩
      · rename_i notFull
        split
        · exact ih room
        · rename_i message refused
          rw [refused] at byContract
          obtain ⟨_, absurdity⟩ := byContract
          cases absurdity
        · exact ih (length_addTests_le (Nat.not_le.mp notFull) _)

/-- **Under limits that fit the schema, the starting context is built.** -/
theorem build_of_limits (queries : planner.investigator.budget.maxSymbolQueryChars ≤ 400)
    (removed : planner.budget.maxRemovedSymbols ≤ 20)
    (related : planner.budget.maxRelatedTests ≤ 20)
    (ordered : ReferencesInOrder planner.investigator.head) :
    ∃ context, planner.build = .ok context := by
  have compared : ∃ observables, planner.investigator.compareObservables none = .ok observables :=
    ⟨_, rfl⟩
  obtain ⟨observables, isCompared⟩ := compared
  obtain ⟨reaches, isTraced⟩ := traceCallers_eq_ok queries ordered
    ((observables.newOnHead.take planner.budget.maxNewHeadSymbols).take
      planner.budget.maxCallerTraces)
  have searched := relatedTests_eq_ok queries
    (((planner.rankShared observables.presentOnBoth reaches
      planner.investigator.relevanceIdentities).take planner.budget.maxSharedObservables).take
        planner.budget.maxCallerTraces) (List.length_nil.trans_le (Nat.zero_le planner.budget.maxRelatedTests))
  obtain ⟨tests, isSearched, fewTests⟩ := searched
  have fewRemoved : ((observables.removedFromHead.map fun symbol =>
      (ObservableIdentity.fromSymbol symbol).text).take
        planner.budget.maxRemovedSymbols).length ≤ 20 :=
    Nat.le_trans (List.length_take_le _ _) removed
  unfold build
  dsimp only
  rw [isCompared, Guard.ok_bind, isTraced, Guard.ok_bind, isSearched, Guard.ok_bind, if_neg (by omega)]
  exact ⟨_, rfl⟩

end DeterministicInvestigationPlanner

end PatchProof
