import Stencil.Proofs.Regex.Parts
import Stencil.Proofs.Regex.Pieces
import Stencil.Regex.Program
/-!
# Groups of an expression

The capture groups of a pattern, in the order of their opening parentheses. Resolving
numbers them in this order. Each group keeps its number in the compiled expression unless
it stands in a part that is repeated no times.
-/
namespace Stencil.Regex

/-- A capture group: what stands in it, and whether it is part of what is matched. A group
in a part that is repeated no times is not. -/
structure Group where
  inside : Pattern
  kept : Bool
deriving DecidableEq

namespace Pattern

def groupsWithin (kept : Bool) : Pattern → List Group
  | empty | atom _ | flags _ => []
  | sequence first second | choice first second =>
    first.groupsWithin kept ++ second.groupsWithin kept
  | capture inside => ⟨inside, kept⟩ :: inside.groupsWithin kept
  | group _ inside => inside.groupsWithin kept
  | repetition bounds _ inside => inside.groupsWithin (kept && bounds != ⟨0, some 0⟩)

/-- The capture groups in the order of their opening parentheses. -/
def groups (pattern : Pattern) : List Group :=
  pattern.groupsWithin true

theorem length_groupsWithin (pattern : Pattern) (kept : Bool) :
    (pattern.groupsWithin kept).length = pattern.groupCount := by
  induction pattern generalizing kept with
  | empty | atom item | flags change => rfl
  | sequence first second ihFirst ihSecond | choice first second ihFirst ihSecond =>
    simp [groupsWithin, groupCount, ihFirst, ihSecond]
  | capture inside ih => simp [groupsWithin, groupCount, ih, Nat.add_comm]
  | group change inside ih | repetition bounds greedy inside ih =>
    simp [groupsWithin, groupCount, ih]

theorem groupsWithin_ofItems (kept : Bool) (items : List Pattern) :
    (ofItems items).groupsWithin kept = items.reverse.flatMap (groupsWithin kept) := by
  induction items with
  | nil => rfl
  | cons item earlier ih =>
    cases earlier with
    | nil => simp [ofItems]
    | cons last earlier =>
      change (ofItems (last :: earlier)).groupsWithin kept ++ item.groupsWithin kept = _
      rw [ih]
      simp

theorem groupsWithin_ofBranches (kept : Bool) (branches : List Pattern) :
    (ofBranches branches).groupsWithin kept = branches.reverse.flatMap (groupsWithin kept) := by
  induction branches with
  | nil => rfl
  | cons branch earlier ih =>
    cases earlier with
    | nil => simp [ofBranches]
    | cons last earlier =>
      change (ofBranches (last :: earlier)).groupsWithin kept ++ branch.groupsWithin kept = _
      rw [ih]
      simp

/-- A group is nested less deeply than what it stands in. -/
theorem depth_lt_of_mem_groupsWithin {pattern : Pattern} {kept : Bool} {found : Group}
    (h : found ∈ pattern.groupsWithin kept) : found.inside.depth < pattern.depth := by
  induction pattern generalizing kept with
  | empty | atom item | flags change => cases h
  | sequence first second ihFirst ihSecond | choice first second ihFirst ihSecond =>
    rw [groupsWithin, List.mem_append] at h
    have inner : found.inside.depth < max first.depth second.depth := by
      rcases h with h | h
      · exact (ihFirst h).trans_le (Nat.le_max_left _ _)
      · exact (ihSecond h).trans_le (Nat.le_max_right _ _)
    rw [depth]
    split <;> omega
  | capture inside ih =>
    rw [groupsWithin, List.mem_cons] at h
    rw [depth]
    rcases h with rfl | h
    · exact Nat.lt_add_of_pos_left Nat.one_pos
    · have := ih h
      omega
  | group change inside ih | repetition bounds greedy inside ih =>
    have := ih h
    rw [depth]
    omega

end Pattern

namespace Content

/-- The capture groups of all branches. -/
def groups (content : Content) : List Group :=
  content.toPattern.groups

theorem groups_eq (content : Content) :
    content.groups = content.branches.reverse.flatMap (Pattern.groupsWithin true) ++
      content.items.reverse.flatMap (Pattern.groupsWithin true) := by
  rw [groups, Pattern.groups, toPattern, Pattern.groupsWithin_ofBranches, List.reverse_cons,
    List.flatMap_append, List.flatMap_singleton, branch, Pattern.groupsWithin_ofItems]

/-- The groups of a piece come after those of what it continues. -/
theorem Continues.groups_eq {outer own whole : Content} (h : Continues outer own whole) :
    whole.groups = outer.groups ++ own.groups := by
  cases h with
  | branch items => simp [Content.groups_eq]
  | branches later first items =>
    simp [Content.groups_eq, Pattern.groupsWithin_ofItems]

end Content

/-! ## Numbers -/

/-- Whether a group stands in a node under some number. -/
def Node.Captures (node : Node) (index : Nat) (inside : Node) : Prop :=
  node.Has (· = .capture index inside)

/-- A node is what the inside of a group is resolved to when the group has a number. -/
def Group.Resolves (group : Group) (index : Nat) (found : Node) : Prop :=
  ∃ flags within, group.inside.resolve flags (index + 1) = .ok within ∧
    within.node.factored = found

namespace Pattern

theorem kept_of_mem_groupsWithin {pattern : Pattern} {kept : Bool} {group : Group}
    (h : group ∈ pattern.groupsWithin kept) (stays : group.kept = true) : kept = true := by
  induction pattern generalizing kept with
  | empty | atom item | flags change => cases h
  | sequence first second ihFirst ihSecond | choice first second ihFirst ihSecond =>
    rcases List.mem_append.mp h with h | h
    · exact ihFirst h
    · exact ihSecond h
  | capture inside ih =>
    rcases List.mem_cons.mp h with rfl | h
    · exact stays
    · exact ih h
  | group change inside ih => exact ih h
  | repetition bounds greedy inside ih =>
    have both := ih h
    rw [Bool.and_eq_true] at both
    exact both.1

/-- A group of a pattern whose groups are numbered from `next` on has its number. -/
def Numbers (pattern : Pattern) (next index : Nat) (found : Group) : Prop :=
  ∃ place, pattern.groups[place]? = some found ∧ index = next + place

private theorem numbers_append {first second whole : Pattern} {flags : Flags} {next : Nat}
    {before : Resolved} (h : first.resolve flags next = .ok before)
    (parts : whole.groups = first.groups ++ second.groups) {index : Nat} {found : Group} :
    whole.Numbers next index found ↔
      first.Numbers next index found ∨ second.Numbers before.next index found := by
  have length := length_groupsWithin first true
  rw [next_of_resolve h, ← length]
  change whole.Numbers next index found ↔
    first.Numbers next index found ∨ second.Numbers (next + first.groups.length) index found
  unfold Numbers
  rw [parts]
  constructor
  · intro holds
    rcases holds with ⟨place, there, rfl⟩
    by_cases early : place < first.groups.length
    · rw [List.getElem?_append_left early] at there
      exact .inl ⟨place, there, rfl⟩
    · rw [List.getElem?_append_right (by omega)] at there
      exact .inr ⟨place - first.groups.length, there, by omega⟩
  · intro holds
    rcases holds with ⟨place, there, rfl⟩ | ⟨place, there, rfl⟩
    · have early := (List.getElem?_eq_some_iff.mp there).1
      exact ⟨place, (List.getElem?_append_left early).trans there, rfl⟩
    · refine ⟨first.groups.length + place, ?_, by omega⟩
      rw [List.getElem?_append_right (by omega), Nat.add_sub_cancel_left]
      exact there

private theorem not_captures_of_atom {item : Atom} {flags : Flags} {node found : Node}
    {index : Nat} (h : item.toNode flags = .ok node) : ¬node.Captures index found := by
  have class_ (alphabet : Alphabet) (members : CharClass) :
      ¬(Node.ofClass alphabet members).Captures index found := by
    unfold Node.ofClass
    split <;> exact id
  cases item with
  | character c =>
    cases h
    exact class_ _ _
  | byte c | set members levels =>
    unfold Atom.toNode at h
    dsimp only at h
    split at h
    · cases h
      exact class_ _ _
    · cases h
  | anyCharacter =>
    unfold Atom.toNode at h
    dsimp only at h
    split at h
    · cases h
      exact id
    · cases h
  | caret | dollar | textStart | textEnd | word edge =>
    cases h
    exact Node.noConfusion

/-- A group with some number is the one at that place among the groups of the pattern. -/
theorem group_of_captures {pattern : Pattern} {flags : Flags} {next index : Nat}
    {resolved : Resolved} {found : Node} (h : pattern.resolve flags next = .ok resolved)
    (captures : resolved.node.Captures index found) :
    ∃ group, pattern.Numbers next index group ∧ group.kept = true ∧
      group.Resolves index found := by
  induction pattern generalizing flags next resolved with
  | empty | flags change =>
    cases h
    cases captures
  | atom item =>
    obtain ⟨node, made, rfl⟩ := map_eq_ok h
    exact absurd captures (not_captures_of_atom made)
  | sequence first second ihFirst ihSecond | choice first second ihFirst ihSecond =>
    obtain ⟨before, hBefore, h⟩ := bind_eq_ok h
    obtain ⟨after, hAfter, h⟩ := bind_eq_ok h
    cases h
    have either : before.node.Captures index found ∨ after.node.Captures index found := by
      simpa only [Node.Captures, Node.has_andThen, Node.has_orElse] using captures
    rcases either with captures | captures
    · obtain ⟨group, numbers, rest⟩ := ihFirst hBefore captures
      exact ⟨group, (numbers_append hBefore rfl).mpr (.inl numbers), rest⟩
    · obtain ⟨group, numbers, rest⟩ := ihSecond hAfter captures
      exact ⟨group, (numbers_append hBefore rfl).mpr (.inr numbers), rest⟩
  | capture inside ih =>
    obtain ⟨within, hWithin, h⟩ := bind_eq_ok h
    cases h
    rcases captures with same | captures
    · obtain ⟨rfl, rfl⟩ := Node.capture.inj same
      exact ⟨⟨inside, true⟩, ⟨0, rfl, rfl⟩, rfl, flags, within, hWithin, rfl⟩
    · obtain ⟨group, ⟨place, there, rfl⟩, rest⟩ :=
        ih hWithin ((Node.has_factored _).mp captures)
      exact ⟨group, ⟨place + 1, there, by omega⟩, rest⟩
  | group change inside ih =>
    obtain ⟨within, hWithin, h⟩ := bind_eq_ok h
    cases h
    exact ih hWithin ((Node.has_factored _).mp captures)
  | repetition bounds greedy inside ih =>
    obtain ⟨within, hWithin, h⟩ := bind_eq_ok h
    cases h
    obtain ⟨some, captures⟩ := (Node.has_repeated _ _ _).mp captures
    obtain ⟨group, ⟨place, there, same⟩, rest⟩ := ih hWithin captures
    refine ⟨group, ⟨place, ?_, same⟩, rest⟩
    rw [groups, groupsWithin, bne_iff_ne.mpr some]
    exact there

/-- Every group that is kept has the number of its place. -/
theorem captures_of_group {pattern : Pattern} {flags : Flags} {next index : Nat}
    {resolved : Resolved} {group : Group} (h : pattern.resolve flags next = .ok resolved)
    (numbers : pattern.Numbers next index group) (kept : group.kept = true) :
    ∃ found, resolved.node.Captures index found := by
  induction pattern generalizing flags next resolved with
  | empty | flags change | atom item =>
    obtain ⟨place, there, _⟩ := numbers
    cases there
  | sequence first second ihFirst ihSecond | choice first second ihFirst ihSecond =>
    obtain ⟨before, hBefore, h⟩ := bind_eq_ok h
    obtain ⟨after, hAfter, h⟩ := bind_eq_ok h
    cases h
    simp only [Node.Captures, Node.has_andThen, Node.has_orElse]
    rcases (numbers_append hBefore rfl).mp numbers with numbers | numbers
    · obtain ⟨found, captures⟩ := ihFirst hBefore numbers
      exact ⟨found, .inl captures⟩
    · obtain ⟨found, captures⟩ := ihSecond hAfter numbers
      exact ⟨found, .inr captures⟩
  | capture inside ih =>
    obtain ⟨within, hWithin, h⟩ := bind_eq_ok h
    cases h
    obtain ⟨place, there, rfl⟩ := numbers
    cases place with
    | zero => exact ⟨_, .inl rfl⟩
    | succ place =>
      obtain ⟨found, captures⟩ := ih hWithin ⟨place, there, by omega⟩
      exact ⟨found, .inr ((Node.has_factored _).mpr captures)⟩
  | group change inside ih =>
    obtain ⟨within, hWithin, h⟩ := bind_eq_ok h
    cases h
    obtain ⟨found, captures⟩ := ih hWithin numbers
    exact ⟨found, (Node.has_factored _).mpr captures⟩
  | repetition bounds greedy inside ih =>
    obtain ⟨within, hWithin, h⟩ := bind_eq_ok h
    cases h
    obtain ⟨place, there, same⟩ := numbers
    have member : group ∈ inside.groupsWithin (true && bounds != ⟨0, some 0⟩) :=
      List.mem_of_getElem? there
    have repeats := kept_of_mem_groupsWithin member kept
    rw [groups, groupsWithin, repeats] at there
    obtain ⟨found, captures⟩ := ih hWithin ⟨place, there, same⟩
    refine ⟨found, (Node.has_repeated _ _ _).mpr ⟨?_, captures⟩⟩
    simpa using repeats

end Pattern

namespace Node

theorem le_lastGroup {node found : Node} {index : Nat} (h : node.Captures index found) :
    index ≤ node.lastGroup := by
  induction node with
  | empty | set alphabet members | assertion condition => cases h
  | sequence first second ihFirst ihSecond | choice first second ihFirst ihSecond =>
    rcases h with h | h
    · exact (ihFirst h).trans (Nat.le_max_left _ _)
    · exact (ihSecond h).trans (Nat.le_max_right _ _)
  | capture number inside ih =>
    rcases h with same | h
    · obtain ⟨rfl, _⟩ := Node.capture.inj same
      exact Nat.le_max_left _ _
    · exact (ih h).trans (Nat.le_max_right _ _)
  | repetition bounds greedy inside ih => exact ih h

/-- The last number is zero or that of a group. -/
theorem captures_lastGroup (node : Node) :
    node.lastGroup = 0 ∨ ∃ found, node.Captures node.lastGroup found := by
  induction node with
  | empty | set alphabet members | assertion condition => exact .inl rfl
  | sequence first second ihFirst ihSecond | choice first second ihFirst ihSecond =>
    rw [lastGroup]
    rcases Nat.le_total first.lastGroup second.lastGroup with less | less
    · rw [Nat.max_eq_right less]
      rcases ihSecond with none | ⟨found, h⟩
      · exact .inl none
      · exact .inr ⟨found, .inr h⟩
    · rw [Nat.max_eq_left less]
      rcases ihFirst with none | ⟨found, h⟩
      · exact .inl none
      · exact .inr ⟨found, .inl h⟩
  | capture number inside ih =>
    rw [lastGroup]
    rcases Nat.le_total number inside.lastGroup with less | less
    · rw [Nat.max_eq_right less]
      rcases ih with none | ⟨found, h⟩
      · exact .inl none
      · exact .inr ⟨found, .inr h⟩
    · rw [Nat.max_eq_left less]
      exact .inr ⟨inside, .inl rfl⟩
  | repetition bounds greedy inside ih => exact ih

end Node

namespace Pattern

/-- The groups of a node are those of a pattern that are kept, each with the number of its
place. -/
structure NumbersGroupsOf (pattern : Pattern) (node : Node) : Prop where
  group : ∀ index found, node.Captures index found → ∃ group,
    pattern.Numbers 1 index group ∧ group.kept = true ∧ group.Resolves index found
  found : ∀ index group, pattern.Numbers 1 index group → group.kept = true → ∃ found,
    node.Captures index found ∧ group.Resolves index found

theorem numbersGroupsOf_toNode {pattern : Pattern} {flags : Flags} {node : Node}
    (h : pattern.toNode flags = .ok node) : pattern.NumbersGroupsOf node := by
  obtain ⟨resolved, made, rfl⟩ := map_eq_ok h
  have back (index : Nat) (found : Node) (captures : resolved.node.factored.Captures index found) :
      ∃ group, pattern.Numbers 1 index group ∧ group.kept = true ∧ group.Resolves index found :=
    group_of_captures made ((Node.has_factored _).mp captures)
  refine ⟨back, ?_⟩
  intro index group numbers kept
  obtain ⟨found, captures⟩ := captures_of_group made numbers kept
  have captures' := (Node.has_factored _).mpr captures
  obtain ⟨other, ⟨place, there, same⟩, _, resolves⟩ := back index found captures'
  obtain ⟨place', there', same'⟩ := numbers
  obtain rfl : place = place' := by omega
  obtain rfl : other = group := Option.some.inj (there.symm.trans there')
  exact ⟨found, captures', resolves⟩

/-- If the last group is kept, the compiled expression numbers as many as the pattern has. -/
theorem lastGroup_of_kept_last {pattern : Pattern} {flags : Flags} {node : Node}
    (h : pattern.toNode flags = .ok node)
    (kept : ∀ group ∈ pattern.groups.getLast?, group.kept = true) :
    node.lastGroup = pattern.groups.length := by
  obtain ⟨resolved, made, rfl⟩ := map_eq_ok h
  apply Nat.le_antisymm
  · rcases resolved.node.factored.captures_lastGroup with none | ⟨found, captures⟩
    · omega
    · obtain ⟨group, ⟨place, there, same⟩, _⟩ :=
        group_of_captures made ((Node.has_factored _).mp captures)
      have := (List.getElem?_eq_some_iff.mp there).1
      omega
  · cases last : pattern.groups.getLast? with
    | none =>
      rw [List.getLast?_eq_none_iff] at last
      simp [last]
    | some group =>
      have stays := kept group last
      rw [List.getLast?_eq_getElem?] at last
      have numbers : pattern.Numbers 1 pattern.groups.length group := by
        have := (List.getElem?_eq_some_iff.mp last).1
        exact ⟨pattern.groups.length - 1, last, by omega⟩
      obtain ⟨found, captures⟩ := captures_of_group made numbers stays
      exact Node.le_lastGroup ((Node.has_factored _).mpr captures)

/-- If all groups are kept, the compiled expression has as many as the pattern. -/
theorem lastGroup_of_toNode {pattern : Pattern} {flags : Flags} {node : Node}
    (h : pattern.toNode flags = .ok node) (kept : ∀ group ∈ pattern.groups, group.kept = true) :
    node.lastGroup = pattern.groups.length :=
  lastGroup_of_kept_last h fun group last => kept group (List.mem_of_getLast? last)

end Pattern

/-- An expression that is read and has a meaning compiles unless it is too large. -/
theorem Program.compile_of_toNode {expression : List Char} {pattern : Pattern} {node : Node}
    {caseless : Bool} (sizeLimit : Option Nat) (read : Pattern.read expression = .ok pattern)
    (made : pattern.toNode { caseless } = .ok node) :
    compile expression caseless sizeLimit =
      if size node ≤ sizeLimit.getD defaultSizeLimit then .ok (.ofNode node)
      else .error (.tooLarge (sizeLimit.getD defaultSizeLimit)) := by
  unfold compile
  rw [read]
  change ((pattern.toNode { caseless }).mapError Fault.malformed >>= fun node => _) = _
  rw [made]
  rfl

/-- What compiles is read, has a meaning and keeps to the size limit. -/
theorem Program.compile_eq_ok_iff {expression : List Char} {caseless : Bool}
    {sizeLimit : Option Nat} {program : Program} :
    compile expression caseless sizeLimit = .ok program ↔ ∃ pattern node,
      Pattern.read expression = .ok pattern ∧ pattern.toNode { caseless } = .ok node ∧
        size node ≤ sizeLimit.getD defaultSizeLimit ∧ program = .ofNode node := by
  constructor
  · intro h
    cases read : Pattern.read expression with
    | error fault =>
      unfold compile at h
      rw [read] at h
      cases h
    | ok pattern =>
      cases made : pattern.toNode { caseless } with
      | error fault =>
        unfold compile at h
        rw [read] at h
        change ((pattern.toNode { caseless }).mapError Fault.malformed >>= fun node => _) = _ at h
        rw [made] at h
        cases h
      | ok node =>
        rw [compile_of_toNode sizeLimit read made] at h
        by_cases small : size node ≤ sizeLimit.getD defaultSizeLimit
        · rw [if_pos small] at h
          cases h
          exact ⟨pattern, node, rfl, made, small, rfl⟩
        · rw [if_neg small] at h
          cases h
  · intro holds
    rcases holds with ⟨pattern, node, read, made, small, rfl⟩
    rw [compile_of_toNode sizeLimit read made, if_pos small]

end Stencil.Regex
