import Mathlib.Data.List.SplitBy
import Stencil.Regex.Node.Basic
/-!
# Parts of a node

Nodes are put together in a normal form: sequences and choices lean to the left, and what
all branches of a choice begin with stands in front of it. Whichever form they take, they
hold the same groups and the same assertions.
-/
namespace Stencil.Regex

namespace Node

/-- Whether some group or assertion in a node has a property. -/
def Has (P : Node → Prop) : Node → Prop
  | empty | set _ _ => False
  | assertion condition => P (assertion condition)
  | sequence first second | choice first second => first.Has P ∨ second.Has P
  | capture index inside => P (capture index inside) ∨ inside.Has P
  | repetition _ _ inside => inside.Has P

variable {P : Node → Prop}

theorem has_andThen (first second : Node) :
    (first.andThen second).Has P ↔
      first.Has P ∨ second.Has P := by
  induction second generalizing first with
  | empty => simp [andThen, Has]
  | sequence middle last ihMiddle ihLast =>
    rw [andThen, ihLast, ihMiddle, Has, or_assoc]
  | _ => cases first <;> simp [andThen, Has]

theorem has_orElse (first second : Node) :
    (first.orElse second).Has P ↔
      first.Has P ∨ second.Has P := by
  induction second generalizing first with
  | choice middle last ihMiddle ihLast =>
    rw [orElse, ihLast, ihMiddle, Has, or_assoc]
  | _ => simp [orElse, Has]

theorem has_foldl_andThen (items : List Node) (first : Node) :
    (items.foldl andThen first).Has P ↔
      first.Has P ∨ ∃ item ∈ items, item.Has P := by
  induction items generalizing first with
  | nil => simp
  | cons item items ih => simp [ih, has_andThen, or_assoc]

theorem has_ofItems (items : List Node) :
    (ofItems items).Has P ↔ ∃ item ∈ items, item.Has P := by
  rw [ofItems, has_foldl_andThen]
  simp [Has]

theorem has_foldl_orElse (branches : List Node) (first : Node) :
    (branches.foldl orElse first).Has P ↔
      first.Has P ∨ ∃ branch ∈ branches, branch.Has P := by
  induction branches generalizing first with
  | nil => simp
  | cons branch branches ih => simp [ih, has_orElse, or_assoc]

theorem has_itemsOnto (node : Node) (rest : List Node) :
    (∃ item ∈ node.itemsOnto rest, item.Has P) ↔
      node.Has P ∨ ∃ item ∈ rest, item.Has P := by
  induction node generalizing rest with
  | empty => simp [itemsOnto, Has]
  | sequence first second ihFirst ihSecond =>
    rw [itemsOnto, ihFirst, ihSecond, Has, or_assoc]
  | _ => simp [itemsOnto]

theorem has_branchesOnto (node : Node) (rest : List Node) :
    (∃ branch ∈ node.branchesOnto rest, branch.Has P) ↔
      node.Has P ∨ ∃ branch ∈ rest, branch.Has P := by
  induction node generalizing rest with
  | choice first second ihFirst ihSecond =>
    rw [branchesOnto, ihFirst, ihSecond, Has, or_assoc]
  | _ => simp [branchesOnto]

/-- Branches that make one class hold neither groups nor assertions. -/
private theorem not_has_of_classOf? {branches : List Node} {members : CharClass}
    (h : classOf? branches = some members) :
    ¬∃ branch ∈ branches, branch.Has P := by
  intro holds
  rcases holds with ⟨branch, member, has⟩
  unfold classOf? at h
  dsimp only at h
  split at h
  · cases h
  · rename_i all
    rw [List.length_filterMap_lt_length_iff_exists] at all
    apply all
    refine ⟨branch, member, ?_⟩
    cases branch with
    | set alphabet members => cases has
    | _ => rfl

theorem has_ofBranches (branches : List Node) :
    (ofBranches branches).Has P ↔
      ∃ branch ∈ branches, branch.Has P := by
  unfold ofBranches
  split
  · rename_i members classes
    exact iff_of_false id (not_has_of_classOf? classes)
  · cases branches with
    | nil => simp [Has]
    | cons first others => simp [has_foldl_orElse]

theorem has_parts (node : Node) :
    (∃ item ∈ node.parts.flatten, item.Has P) ↔ node.Has P := by
  rw [parts, List.flatten_splitBy, has_itemsOnto]
  simp

private theorem sharedParts_prefix (first other : List (List Node)) :
    sharedParts first other <+: first ∧ sharedParts first other <+: other := by
  induction first generalizing other with
  | nil => simp [sharedParts]
  | cons part rest ih =>
    cases other with
    | nil => simp [sharedParts]
    | cons part' others =>
      rw [sharedParts]
      split
      · rename_i same
        subst same
        exact ⟨(List.prefix_cons_inj part).mpr (ih others).1,
          (List.prefix_cons_inj part).mpr (ih others).2⟩
      · exact ⟨List.nil_prefix, List.nil_prefix⟩

private theorem foldl_sharedParts_prefix (sequences : List (List (List Node)))
    (first : List (List Node)) :
    sequences.foldl sharedParts first <+: first ∧
      ∀ sequence ∈ sequences, sequences.foldl sharedParts first <+: sequence := by
  induction sequences generalizing first with
  | nil => simp
  | cons sequence sequences ih =>
    have shared := sharedParts_prefix first sequence
    obtain ⟨front, others⟩ := ih (sharedParts first sequence)
    refine ⟨front.trans shared.1, ?_⟩
    intro other member
    rcases List.mem_cons.mp member with rfl | member
    · exact front.trans shared.2
    · exact others other member

/-- Putting shared parts in front of a choice loses nothing and makes nothing. -/
theorem has_factored (node : Node) :
    node.factored.Has P ↔ node.Has P := by
  have whole : (∃ branch ∈ node.branchesOnto [], branch.Has P) ↔ node.Has P := by
    rw [has_branchesOnto]
    simp
  unfold factored
  split
  · rename_i first second more same
    rw [same] at whole
    generalize same' : first :: second :: more = branches at whole ⊢
    dsimp only
    split
    · rw [has_ofBranches, whole]
    · have shares : ∀ sequence ∈ branches.map parts,
          ((branches.map parts).drop 1).foldl sharedParts first.parts <+: sequence := by
        subst same'
        obtain ⟨front, others⟩ := foldl_sharedParts_prefix ((second :: more).map parts) first.parts
        intro sequence member
        rcases List.mem_cons.mp member with rfl | member
        · exact front
        · exact others sequence member
      generalize ((branches.map parts).drop 1).foldl sharedParts first.parts = shared at shares ⊢
      rw [has_andThen, has_ofItems, has_ofBranches, ← whole]
      constructor
      · intro holds
        rcases holds with ⟨item, member, inner⟩ | ⟨rest, member, inner⟩
        · have some : first ∈ branches := by simp [← same']
          have front := shares first.parts (List.mem_map_of_mem some)
          exact ⟨first, some, (has_parts first).mp
            ⟨item, front.sublist.flatten.subset member, inner⟩⟩
        · simp only [List.map_map, List.mem_map, Function.comp_apply] at member
          obtain ⟨branch, some, rfl⟩ := member
          obtain ⟨item, member, inner⟩ := (has_ofItems _).mp inner
          exact ⟨branch, some, (has_parts branch).mp
            ⟨item, (List.drop_sublist _ _).flatten.subset member, inner⟩⟩
      · intro holds
        rcases holds with ⟨branch, some, inner⟩
        obtain ⟨item, member, inner⟩ := (has_parts branch).mpr inner
        obtain ⟨rest, split⟩ := shares branch.parts (List.mem_map_of_mem some)
        rw [← split, List.flatten_append, List.mem_append] at member
        rcases member with member | member
        · exact .inl ⟨item, member, inner⟩
        · refine .inr ⟨ofItems rest.flatten, ?_, (has_ofItems _).mpr ⟨item, member, inner⟩⟩
          refine List.mem_map.mpr ⟨branch.parts, List.mem_map_of_mem some, ?_⟩
          rw [← split, List.drop_left]
  · rfl

theorem has_repeated (bounds : Bounds) (greedy : Bool) (inside : Node) :
    (repeated bounds greedy inside).Has P ↔
      bounds ≠ ⟨0, some 0⟩ ∧ inside.Has P := by
  have zero : (if inside.isVacuous then bounds.withinOne else bounds) = ⟨0, some 0⟩ ↔
      bounds = ⟨0, some 0⟩ := by
    obtain ⟨least, most⟩ := bounds
    cases most with
    | none => split <;> simp [Bounds.withinOne]
    | some most =>
      split
      · simp only [Bounds.withinOne, Bounds.mk.injEq, Option.some.injEq, Option.getD_some]
        omega
      · rfl
  unfold repeated
  dsimp only
  rw [if_congr zero rfl rfl]
  generalize (if inside.isVacuous then bounds.withinOne else bounds) = within
  split
  · rename_i none
    simp [none, Has]
  · rename_i some
    split
    · simp [some]
    · simp [some, Has]

end Node

end Stencil.Regex
