import Mathlib.Data.List.Basic
import Mathlib.Tactic.Common

/-!
# Ordered trees and their walks

Trees whose nodes carry labels and have any number of children in order.  The walk of a tree
goes level by level, from left to right.  Relabelling the nodes commutes with the walk.
-/

set_option autoImplicit false

inductive RoseTree (α : Type) where
  | node (label : α) (children : List (RoseTree α))

namespace RoseTree

variable {α β : Type}

def label : RoseTree α → α
  | node label _ => label

def children : RoseTree α → List (RoseTree α)
  | node _ children => children

/-! ## Relabelling -/

mutual

/-- The tree with every label replaced. -/
def map (f : α → β) : RoseTree α → RoseTree β
  | node label children => node (f label) (mapAll f children)

def mapAll (f : α → β) : List (RoseTree α) → List (RoseTree β)
  | [] => []
  | tree :: trees => tree.map f :: mapAll f trees

end

theorem mapAll_eq (f : α → β) (trees : List (RoseTree α)) : mapAll f trees = trees.map (map f) := by
  induction trees with
  | nil => rfl
  | cons tree trees ih => rw [mapAll, ih, List.map_cons]

@[simp] theorem label_map (f : α → β) (tree : RoseTree α) : (tree.map f).label = f tree.label := by
  cases tree
  rfl

@[simp] theorem children_map (f : α → β) (tree : RoseTree α) :
    (tree.map f).children = tree.children.map (map f) := by
  cases tree
  exact mapAll_eq f _

mutual

theorem map_id : ∀ tree : RoseTree α, tree.map id = tree
  | node label children => by rw [map, mapAll_id children, id]

theorem mapAll_id : ∀ trees : List (RoseTree α), mapAll id trees = trees
  | [] => rfl
  | tree :: trees => by rw [mapAll, map_id tree, mapAll_id trees]

end

/-! ## The walk -/

/-- Two lists of levels, level by level. -/
def beside : List (List α) → List (List α) → List (List α)
  | [], levels => levels
  | level :: levels, [] => level :: levels
  | level :: levels, other :: others => (level ++ other) :: beside levels others

mutual

/-- The labels of a tree, level by level. -/
def levels : RoseTree α → List (List α)
  | node label children => [label] :: levelsAll children

def levelsAll : List (RoseTree α) → List (List α)
  | [] => []
  | tree :: trees => beside tree.levels (levelsAll trees)

end

/-- The labels in the order of a walk that visits a level before the next one. -/
def walk (tree : RoseTree α) : List α := tree.levels.flatten

theorem beside_map (f : α → β) (levels others : List (List α)) :
    beside (levels.map (List.map f)) (others.map (List.map f)) =
      (beside levels others).map (List.map f) := by
  induction levels generalizing others with
  | nil => rfl
  | cons level levels ih =>
      cases others with
      | nil => rfl
      | cons other others => simp only [List.map_cons, beside, ih, List.map_append]

mutual

theorem levels_map (f : α → β) : ∀ tree : RoseTree α,
    (tree.map f).levels = tree.levels.map (List.map f)
  | node label children => by
      rw [map, levels, levels, levelsAll_map f children, List.map_cons, List.map_singleton]

theorem levelsAll_map (f : α → β) : ∀ trees : List (RoseTree α),
    levelsAll (mapAll f trees) = (levelsAll trees).map (List.map f)
  | [] => rfl
  | tree :: trees => by
      rw [mapAll, levelsAll, levelsAll, levels_map f tree, levelsAll_map f trees, beside_map]

end

/-- **The walk of a relabelled tree** is the relabelled walk. -/
theorem walk_map (f : α → β) (tree : RoseTree α) : (tree.map f).walk = tree.walk.map f := by
  rw [walk, walk, levels_map, List.map_flatten]

end RoseTree
