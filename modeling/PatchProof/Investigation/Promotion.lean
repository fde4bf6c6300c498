import Mathlib.Data.List.Dedup
import Mathlib.Data.Prod.Lex
import Mathlib.Data.String.Basic
import PatchProof.Investigation.Planner
import PatchProof.Library.Ranking

/-!
# What is promoted into the starting context

A shared symbol qualifies for the starting context when its implementation changed, when
it is in the closure of what changed by exact identity, or when a call site of a new
symbol stands in it.  Call sites are found by the leaf name, so the third way is open to
callers of other symbols of that name.

Those are kept out exactly when enough qualifying symbols are ranked before each of them;
a symbol that calls its own `helper` is promoted by a new `helper` in another file.
-/

set_option autoImplicit false

namespace PatchProof

/-! ## The order of observables -/

/-- The place of an observable. -/
def RankedObservable.sortKey (item : RankedObservable) : ℕ ×ₗ ℕ ×ₗ String ×ₗ String :=
  toLex (item.rank.priority, toLex (if item.implementationChanged then 0 else 1,
    toLex (item.identity.path.text, item.identity.qualifiedName.text)))

theorem RepositoryInvestigator.keyLe_iff {first second : String × String} :
    keyLe first second = true ↔ toLex first ≤ toLex second := by
  obtain ⟨path, name⟩ := first
  obtain ⟨otherPath, otherName⟩ := second
  simp [keyLe, Prod.Lex.le_iff]

theorem RankedObservable.sortLe_iff {first second : RankedObservable} :
    sortLe first second = true ↔ first.sortKey ≤ second.sortKey := by
  simp only [sortLe, sortKey, Prod.Lex.le_iff, Bool.or_eq_true, Bool.and_eq_true,
    decide_eq_true_eq, beq_iff_eq, RepositoryInvestigator.keyLe_iff]
  rfl

instance : Std.Total fun first second : RankedObservable =>
    RankedObservable.sortLe first second = true where
  total first second := by
    simp only [RankedObservable.sortLe_iff]
    exact le_total _ _

instance : IsTrans RankedObservable fun first second =>
    RankedObservable.sortLe first second = true where
  trans first second third := by
    simp only [RankedObservable.sortLe_iff]
    exact le_trans

namespace DeterministicInvestigationPlanner

variable (planner : DeterministicInvestigationPlanner)

/-! ## Ways to qualify -/

/-- The symbols of HEAD whose callers are traced. -/
def tracedSymbols (observables : CrossRevisionObservables) : List IndexedSymbol :=
  (observables.newOnHead.take planner.budget.maxNewHeadSymbols).take planner.budget.maxCallerTraces

def identityText (symbol : IndexedSymbol) : String := (ObservableIdentity.fromSymbol symbol).text

/-- Whether a call site of a traced symbol was found in this one. -/
def CalledFrom (reaches : List (String × String)) (symbol : IndexedSymbol) : Prop :=
  ∃ edge ∈ reaches, edge.1 = identityText symbol

instance (reaches : List (String × String)) (symbol : IndexedSymbol) :
    Decidable (CalledFrom reaches symbol) :=
  inferInstanceAs (Decidable (∃ edge ∈ reaches, edge.1 = identityText symbol))

/-- Whether a symbol is in the closure of what changed. -/
def IsRelevant (symbol : IndexedSymbol) : Prop :=
  identityText symbol ∈ planner.investigator.relevanceIdentities

instance (symbol : IndexedSymbol) : Decidable (planner.IsRelevant symbol) :=
  inferInstanceAs (Decidable (identityText symbol ∈ planner.investigator.relevanceIdentities))

/-- The parent of a symbol, by its name in the same file. -/
def parentOf (symbol : IndexedSymbol) : Option IndexedSymbol :=
  (symbol.parentSymbol.filter (· ≠ "")).bind fun parent =>
    RepositoryInvestigator.underKey planner.investigator.head.symbols (symbol.path.text, parent)

/-- The place of a symbol among the observables. -/
def standing (symbol : IndexedSymbol) (changed : Bool) : ℕ ×ₗ ℕ ×ₗ String ×ₗ String :=
  toLex ((rankObservable symbol (planner.parentOf symbol)).priority,
    toLex (if changed then 0 else 1, toLex (symbol.path.text, symbol.qualifiedName.text)))

/-- Whether a comparison qualifies and is ranked before a symbol. -/
def Outranks (reaches : List (String × String)) (other : SymbolComparison)
    (symbol : IndexedSymbol) (changed : Bool) : Prop :=
  ∃ base head otherChanged, other.views = .presentOnBoth base head otherChanged ∧
    (otherChanged = true ∨ CalledFrom reaches head ∨ planner.IsRelevant head) ∧
    planner.standing head otherChanged < planner.standing symbol changed

instance (reaches : List (String × String)) (other : SymbolComparison) (symbol : IndexedSymbol)
    (changed : Bool) : Decidable (planner.Outranks reaches other symbol changed) :=
  match views : other.views with
  | .presentOnBoth base head otherChanged => decidable_of_iff
      ((otherChanged = true ∨ CalledFrom reaches head ∨ planner.IsRelevant head) ∧
        planner.standing head otherChanged < planner.standing symbol changed) (by
      constructor
      · rintro ⟨qualifies, ahead⟩
        exact ⟨base, head, otherChanged, views, qualifies, ahead⟩
      · rintro ⟨_, _, _, same, qualifies, ahead⟩
        rw [views] at same
        cases same
        exact ⟨qualifies, ahead⟩)
  | .newOnHead _ => .isFalse (by simp [Outranks, views])
  | .removedFromHead _ => .isFalse (by simp [Outranks, views])

/-- A shared symbol that only a call site speaks for. -/
structure OnlyCalled (reaches : List (String × String)) (comparison : SymbolComparison)
    (base head : IndexedSymbol) : Prop where
  unchanged : comparison.views = .presentOnBoth base head false
  called : CalledFrom reaches head
  unrelated : ¬ planner.IsRelevant head

/-- Every symbol that only a call site speaks for is outranked by as many as there is
room for. -/
def CallSitesOutranked : Prop :=
  ∀ observables reaches, planner.investigator.compareObservables none = .ok observables →
    planner.traceCallers (planner.tracedSymbols observables) = .ok reaches →
    ∀ comparison ∈ observables.presentOnBoth, ∀ base head,
      planner.OnlyCalled reaches comparison base head →
      planner.budget.maxSharedObservables ≤
        observables.presentOnBoth.countP fun other => planner.Outranks reaches other head false

variable {planner} {reaches : List (String × String)} {comparison : SymbolComparison}

/-! ## Ranked comparisons -/

theorem firstSorted_eq_nil {most : Nat} (positive : 0 < most) {texts : List String} :
    firstSorted most texts = [] ↔ texts = [] := by
  rw [firstSorted, List.take_eq_nil_iff]
  constructor
  · rintro (absurdity | empty)
    · omega
    · rw [List.eq_nil_iff_forall_not_mem] at empty ⊢
      intro text mem
      exact empty text ((List.mem_insertionSort (· ≤ ·)).mpr (List.mem_dedup.mpr mem))
  · rintro rfl
    exact .inr rfl

theorem selectionReasons_ne_nil (changed reached relevant : Bool) :
    selectionReasons changed reached relevant ≠ [] ↔
      changed = true ∨ reached = true ∨ relevant = true := by
  cases changed <;> cases reached <;> cases relevant <;> decide

theorem reached_iff {symbol : IndexedSymbol} :
    (!(firstSorted 8 ((reaches.filter fun edge =>
      edge.1 = (ObservableIdentity.fromSymbol symbol).text).map Prod.snd)).isEmpty) = true ↔
      CalledFrom reaches symbol := by
  rw [Bool.not_eq_true', ← Bool.not_eq_true, List.isEmpty_iff, firstSorted_eq_nil (by decide),
    List.map_eq_nil_iff, List.filter_eq_nil_iff]
  simp [CalledFrom, identityText]

variable (planner reaches) in
/-- A shared comparison is ranked exactly when it qualifies, at its symbol's place. -/
theorem rankComparison_of_presentOnBoth {base head : IndexedSymbol} {changed : Bool}
    (views : comparison.views = .presentOnBoth base head changed) :
    (changed = true ∨ CalledFrom reaches head ∨ planner.IsRelevant head) ∧
        (∃ observable, planner.rankComparison reaches planner.investigator.relevanceIdentities
            comparison = some observable ∧ observable.sortKey = planner.standing head changed ∧
          observable.identity = ObservableIdentity.fromSymbol head ∧
          observable.implementationChanged = changed) ∨
      ¬ (changed = true ∨ CalledFrom reaches head ∨ planner.IsRelevant head) ∧
        planner.rankComparison reaches planner.investigator.relevanceIdentities comparison =
          none := by
  have qualifies := selectionReasons_ne_nil changed
    (!(firstSorted 8 ((reaches.filter fun edge =>
      edge.1 = (ObservableIdentity.fromSymbol head).text).map Prod.snd)).isEmpty)
    (planner.investigator.relevanceIdentities.contains
      (ObservableIdentity.fromSymbol head).text)
  rw [reached_iff, List.contains_iff_mem] at qualifies
  unfold rankComparison
  rw [views]
  dsimp only
  split
  · rename_i affected
    exact .inl ⟨qualifies.mp affected, _, rfl, rfl, rfl, rfl⟩
  · rename_i unaffected
    exact .inr ⟨fun qualified => unaffected (qualifies.mpr qualified), rfl⟩

/-! ## The observables of a context -/

theorem presentOnBoth_views {limit : Option Nat} {observables : CrossRevisionObservables}
    (compared : planner.investigator.compareObservables limit = .ok observables)
    (mem : comparison ∈ observables.presentOnBoth) :
    ∃ base head changed, comparison.views = .presentOnBoth base head changed := by
  obtain ⟨most, _, returned⟩ := Guard.bind_eq_ok_iff.mp compared
  cases returned
  have present : comparison.presence = .presentOnBoth := by
    simpa using (List.mem_filter.mp mem).2
  unfold SymbolComparison.presence at present
  split at present
  · rename_i base head changed views
    exact ⟨base, head, changed, views⟩
  · cases present
  · cases present

/-- Two ranked comparisons in one place are the same observable. -/
theorem rankComparison_settled {relevant : List String} {limit : Option Nat}
    {observables : CrossRevisionObservables}
    (compared : planner.investigator.compareObservables limit = .ok observables)
    {first second : RankedObservable}
    (inFirst : first ∈ observables.presentOnBoth.filterMap (planner.rankComparison reaches relevant))
    (inSecond : second ∈
      observables.presentOnBoth.filterMap (planner.rankComparison reaches relevant))
    (same : first.sortKey = second.sortKey) : first = second := by
  obtain ⟨one, inOne, rankedOne⟩ := List.mem_filterMap.mp inFirst
  obtain ⟨other, inOther, rankedOther⟩ := List.mem_filterMap.mp inSecond
  have keyOf : ∀ {comparison : SymbolComparison} {observable : RankedObservable},
      comparison ∈ observables.presentOnBoth →
      planner.rankComparison reaches relevant comparison = some observable →
      observable.identity.key = comparison.key := by
    intro comparison observable mem ranked
    obtain ⟨base, head, changed, views, key⟩ := rankComparison_eq_some ranked
    rw [key]
    exact (RepositoryInvestigator.shares_of_presentOnBoth
      (RepositoryInvestigator.mem_of_compareObservables compared mem) views).2
  have sameKey : one.key = other.key := by
    rw [← keyOf inOne rankedOne, ← keyOf inOther rankedOther]
    have parts := congrArg (fun key => (ofLex (ofLex (ofLex key).2).2)) same
    exact congrArg ofLex parts
  have sameComparison := RepositoryInvestigator.eq_of_key_eq
    (RepositoryInvestigator.mem_of_compareObservables compared inOne)
    (RepositoryInvestigator.mem_of_compareObservables compared inOther) sameKey
  rw [sameComparison, rankedOther] at rankedOne
  exact (Option.some.inj rankedOne).symm

/-- What stands before a ranked comparison is what outranks it. -/
theorem before_eq_countP {limit : Option Nat} {observables : CrossRevisionObservables}
    (compared : planner.investigator.compareObservables limit = .ok observables)
    {observable : RankedObservable} {head : IndexedSymbol} {changed : Bool}
    (place : observable.sortKey = planner.standing head changed) :
    Ranking.before (fun first second => RankedObservable.sortLe first second = true)
        (observables.presentOnBoth.filterMap
          (planner.rankComparison reaches planner.investigator.relevanceIdentities)) observable =
      observables.presentOnBoth.countP fun other => planner.Outranks reaches other head changed := by
  rw [Ranking.before, List.countP_filterMap]
  refine List.countP_congr fun other mem => ?_
  obtain ⟨base, otherHead, otherChanged, views⟩ := presentOnBoth_views compared mem
  rcases rankComparison_of_presentOnBoth planner reaches views with
    ⟨qualifies, ranked, isRanked, otherPlace, _, _⟩ | ⟨unqualified, unranked⟩
  · simp only [isRanked, Option.map_some, Option.getD_some, decide_eq_true_eq,
      RankedObservable.sortLe_iff, place, otherPlace, not_le]
    constructor
    · rintro ⟨_, ahead⟩
      exact ⟨base, otherHead, otherChanged, views, qualifies, ahead⟩
    · rintro ⟨_, _, _, same, _, ahead⟩
      rw [views] at same
      cases same
      exact ⟨le_of_lt ahead, ahead⟩
  · simp only [unranked, Option.map_none, Option.getD_none, Bool.false_eq_true, false_iff,
      decide_eq_true_eq]
    rintro ⟨_, _, _, same, qualifies, _⟩
    rw [views] at same
    cases same
    exact unqualified qualifies

/-- A ranked comparison is in the context exactly when there is room for it. -/
theorem mem_sharedObservables {limit : Option Nat} {observables : CrossRevisionObservables}
    (compared : planner.investigator.compareObservables limit = .ok observables)
    (mem : comparison ∈ observables.presentOnBoth) {observable : RankedObservable}
    (ranked : planner.rankComparison reaches planner.investigator.relevanceIdentities comparison =
      some observable) {head : IndexedSymbol} {changed : Bool}
    (place : observable.sortKey = planner.standing head changed) (most : Nat) :
    observable ∈ (planner.rankShared observables.presentOnBoth reaches
        planner.investigator.relevanceIdentities).take most ↔
      (observables.presentOnBoth.countP fun other =>
        planner.Outranks reaches other head changed) < most := by
  rw [← before_eq_countP compared place, rankShared]
  refine Ranking.mem_take_insertionSort ?_ (List.mem_filterMap.mpr ⟨comparison, mem, ranked⟩) most
  intro first inFirst second inSecond ahead behind
  rw [RankedObservable.sortLe_iff] at ahead behind
  exact rankComparison_settled compared inFirst inSecond (le_antisymm ahead behind)

/-- What a build made its context of. -/
theorem build_eq_ok {context : InvestigationStartingContext} (built : planner.build = .ok context) :
    ∃ observables reaches, planner.investigator.compareObservables none = .ok observables ∧
      planner.traceCallers (planner.tracedSymbols observables) = .ok reaches ∧
      context.sharedObservables = (planner.rankShared observables.presentOnBoth reaches
        planner.investigator.relevanceIdentities).take planner.budget.maxSharedObservables := by
  obtain ⟨observables, compared, built⟩ := Guard.bind_eq_ok_iff.mp built
  obtain ⟨reaches, traced, built⟩ := Guard.bind_eq_ok_iff.mp built
  obtain ⟨tests, _, built⟩ := Guard.bind_eq_ok_iff.mp built
  refine ⟨observables, reaches, compared, traced, ?_⟩
  split at built
  · cases built
  · cases built
    rfl

/-- **The observables of a starting context are changed or relevant exactly when those that
only a call site speaks for are outranked.** -/
theorem context_relevant_iff {context : InvestigationStartingContext}
    (built : planner.build = .ok context) :
    (∀ observable ∈ context.sharedObservables, observable.implementationChanged = true ∨
        observable.identity.text ∈ planner.investigator.relevanceIdentities) ↔
      planner.CallSitesOutranked := by
  obtain ⟨observables, reaches, compared, traced, shared⟩ := build_eq_ok built
  rw [shared]
  constructor
  · intro relevant otherObservables otherReaches otherCompared otherTraced
    rw [compared] at otherCompared
    cases otherCompared
    rw [traced] at otherTraced
    cases otherTraced
    intro comparison mem base head only
    rcases rankComparison_of_presentOnBoth planner reaches only.unchanged with
      ⟨_, observable, ranked, place, identity, unchanged⟩ | ⟨unqualified, _⟩
    · by_contra room
      have inContext := (mem_sharedObservables compared mem ranked place _).mpr (not_le.mp room)
      rcases relevant observable inContext with changed | inClosure
      · exact Bool.false_ne_true (unchanged.symm.trans changed)
      · rw [identity] at inClosure
        exact only.unrelated inClosure
    · exact absurd (.inr (.inl only.called)) unqualified
  · intro outranked observable inContext
    have inRanked := List.mem_of_mem_take inContext
    rw [rankShared, List.mem_insertionSort] at inRanked
    obtain ⟨comparison, mem, ranked⟩ := List.mem_filterMap.mp inRanked
    obtain ⟨base, head, changed, views⟩ := presentOnBoth_views compared mem
    rcases rankComparison_of_presentOnBoth planner reaches views with
      ⟨qualifies, same, isRanked, place, identity, sameChanged⟩ | ⟨_, unranked⟩
    · rw [ranked] at isRanked
      cases isRanked
      rw [sameChanged, identity]
      rcases qualifies with isChanged | called | isRelevant
      · exact .inl isChanged
      · by_contra neither
        obtain ⟨notChanged, unrelated⟩ := not_or.mp neither
        rw [Bool.not_eq_true] at notChanged
        subst notChanged
        have full := outranked observables reaches compared traced comparison mem base head
          ⟨views, called, unrelated⟩
        have room := (mem_sharedObservables compared mem ranked place _).mp inContext
        omega
      · exact .inr isRelevant
    · rw [ranked] at unranked
      cases unranked

theorem context_relevant_iff_one :
    let planner := samplePlanner [sampleSymbol "app.py" "render" 3 (repeatedDigest '1')]
      [sampleSymbol "app.py" "render" 3 (repeatedDigest '2')]
    ∃ context, planner.build = .ok context ∧
      ((∀ observable ∈ context.sharedObservables, observable.implementationChanged = true ∨
          observable.identity.text ∈ planner.investigator.relevanceIdentities) ↔
        planner.CallSitesOutranked) := by
  intro planner
  have built : (planner.build).isOk = true := by decide +kernel
  cases answered : planner.build with
  | error exception =>
      rw [answered] at built
      cases built
  | ok context => exact ⟨context, rfl, context_relevant_iff answered⟩

end DeterministicInvestigationPlanner

/-! ## A caller of something else -/

/-- A call of `helper` through an attribute of `tool`, standing in `render`. -/
def sampleCall : IndexedReference where
  path := ⟨"app.py", by decide +kernel⟩
  scope := ⟨"render", by decide +kernel⟩
  kind := .call
  name := "helper"
  expression := "tool.helper"
  moduleImportAliasExpansion := none
  startLine := 4
  endLine := 4
  column := 4

/-- `render` is the same on both revisions; HEAD adds a `helper` to another file. -/
def sampleNamesakes : DeterministicInvestigationPlanner :=
  samplePlanner [sampleRender 3 (repeatedDigest '1' isLowerHex_one) (by decide)]
    [sampleRender 3 (repeatedDigest '1' isLowerHex_one) (by decide),
      sampleSymbol "lib.py" "helper" 1 (repeatedDigest '2' isLowerHex_two) (by decide +kernel)
        (by decide) (by decide) Nat.one_pos] [sampleCall]

/-- The new helper promotes a symbol that is unchanged and outside the closure. -/
theorem caller_of_namesake_promoted :
    ∃ context, sampleNamesakes.build = .ok context ∧
      ∃ observable ∈ context.sharedObservables, observable.implementationChanged = false ∧
        observable.identity.text = "app.py::render" ∧
        observable.identity.text ∉ sampleNamesakes.investigator.relevanceIdentities := by
  have promoted : (match sampleNamesakes.build with
      | .error _ => false
      | .ok context => context.sharedObservables.any fun observable =>
          !observable.implementationChanged && observable.identity.text == "app.py::render" &&
            !sampleNamesakes.investigator.relevanceIdentities.contains observable.identity.text) =
      true := by
    decide +kernel
  split at promoted
  · cases promoted
  · rename_i context built
    obtain ⟨observable, mem, found⟩ := List.any_eq_true.mp promoted
    simp only [Bool.and_eq_true, Bool.not_eq_true', beq_iff_eq, ← Bool.not_eq_true,
      List.contains_iff_mem] at found
    obtain ⟨⟨unchanged, named⟩, unrelated⟩ := found
    exact ⟨context, built, observable, mem, Bool.eq_false_iff.mpr unchanged, named, unrelated⟩

end PatchProof
