import PatchProof.Library.Reaching
import PatchProof.Investigation.Investigator

/-!
# The closure of what a pull request may affect

The investigator builds a graph with an edge from every shared symbol to what its HEAD
definition refers to, and searches it backwards from the symbols that changed or are new.
What it finds is what reaches one of these along at most as many edges as the budget has
hops, whatever cycles the graph has.
-/

set_option autoImplicit false

namespace PatchProof

namespace RepositoryInvestigator

variable (investigator : RepositoryInvestigator) (compared : List SymbolComparison)

/-! ## The graph -/

/-- An edge of the dependency graph: the HEAD definition of the first refers to the second. -/
def DependsOn (identity target : String × String) : Prop :=
  ∃ comparison ∈ compared, comparison.key = identity ∧
    target ∈ investigator.dependencies compared comparison

/-- The identity of a symbol that changed or is new. -/
def IsChange (identity : String × String) : Prop :=
  ∃ comparison ∈ compared, comparison.key = identity ∧ comparison.isChangeOrAddition = true

/-- The identities that depend on one of those given. -/
def dependents (known : List (String × String)) : List (String × String) :=
  (compared.filter fun comparison =>
    (investigator.dependencies compared comparison).any known.contains).map SymbolComparison.key

variable {investigator compared}

theorem mem_dependents_iff (known : List (String × String)) (identity : String × String) :
    identity ∈ investigator.dependents compared known ↔
      ∃ target ∈ known, investigator.DependsOn compared identity target := by
  unfold dependents DependsOn
  simp only [List.mem_map, List.mem_filter, List.any_eq_true, List.contains_iff_mem]
  constructor
  · rintro ⟨comparison, ⟨inCompared, target, referred, inKnown⟩, key⟩
    exact ⟨target, inKnown, comparison, inCompared, key, referred⟩
  · rintro ⟨target, inKnown, comparison, inCompared, key, referred⟩
    exact ⟨comparison, ⟨inCompared, target, referred, inKnown⟩, key⟩

/-- The expansion is the backward search of the graph. -/
theorem expandRelevance_eq_grow (hops : Nat) (relevant : List (String × String)) :
    investigator.expandRelevance compared hops relevant =
      Reaching.grow (investigator.dependents compared) hops relevant := by
  induction hops generalizing relevant with
  | zero => rfl
  | succ hops ih =>
      unfold expandRelevance Reaching.grow
      dsimp only [dependents]
      rw [ih]

theorem mem_changes_iff (identity : String × String) :
    identity ∈ (compared.filter SymbolComparison.isChangeOrAddition).map SymbolComparison.key ↔
      IsChange compared identity := by
  simp only [IsChange, List.mem_map, List.mem_filter]
  constructor
  · rintro ⟨comparison, ⟨inCompared, changes⟩, key⟩
    exact ⟨comparison, inCompared, key, changes⟩
  · rintro ⟨comparison, inCompared, key, changes⟩
    exact ⟨comparison, ⟨inCompared, changes⟩, key⟩

/-! ## The closure -/

/-- What is relevant is what reaches a change within the hops of the budget. -/
theorem mem_relevanceKeys_iff (investigator : RepositoryInvestigator)
    (compared : List SymbolComparison) (identity : String × String) :
    identity ∈ investigator.relevanceKeys compared ↔
      Reaching.ReachesWithin (investigator.DependsOn compared) (IsChange compared)
        investigator.budget.maxRelevanceHops identity := by
  unfold relevanceKeys
  rw [expandRelevance_eq_grow, Reaching.mem_grow_iff mem_dependents_iff]
  constructor
  · intro reaches
    exact reaches.congr fun identity mem => (mem_changes_iff identity).mp mem
  · intro reaches
    exact reaches.congr fun identity change => (mem_changes_iff identity).mpr change

/-- **The relevance closure is exact.**  An identity is relevant when a changed or a new
symbol is reached from it along at most as many edges as the budget has hops; more hops lose
nothing. -/
theorem relevance_closure_exact (investigator : RepositoryInvestigator)
    (compared : List SymbolComparison) :
    (∀ identity, identity ∈ investigator.relevanceKeys compared ↔
      Reaching.ReachesWithin (investigator.DependsOn compared) (IsChange compared)
        investigator.budget.maxRelevanceHops identity) ∧
    ∀ budget : InvestigationBudget,
      investigator.budget.maxRelevanceHops ≤ budget.maxRelevanceHops →
      investigator.relevanceKeys compared ⊆
        { investigator with budget := budget }.relevanceKeys compared := by
  constructor
  · intro identity
    exact mem_relevanceKeys_iff investigator compared identity
  · intro budget within identity mem
    have reaches := (mem_relevanceKeys_iff investigator compared identity).mp mem
    exact (mem_relevanceKeys_iff { investigator with budget := budget } compared
      identity).mpr (reaches.mono within)

end RepositoryInvestigator

end PatchProof
