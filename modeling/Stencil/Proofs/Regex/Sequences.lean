import Stencil.Proofs.Regex.Matching
/-!
# Sequences

A sequence in normal form leans to the left and has no empty parts. It matches and it
compiles as its items do one after another.
-/
namespace Stencil.Regex

namespace Node

/-- Attempts that are carried through one node after another. -/
def TakesAll : List Node → Attempt → Attempt → Prop
  | [], start, stop => stop = start
  | item :: items, start, stop => ∃ middle, item.Takes start middle ∧ TakesAll items middle stop

theorem takesAll_append {items others : List Node} {start stop : Attempt} :
    TakesAll (items ++ others) start stop ↔
      ∃ middle, TakesAll items start middle ∧ TakesAll others middle stop := by
  induction items generalizing start with
  | nil => simp [TakesAll]
  | cons item items ih =>
    rw [List.cons_append, TakesAll]
    simp only [ih]
    constructor
    · intro holds
      rcases holds with ⟨next, first, middle, rest, last⟩
      exact ⟨middle, ⟨next, first, rest⟩, last⟩
    · intro holds
      rcases holds with ⟨middle, ⟨next, first, rest⟩, last⟩
      exact ⟨next, first, middle, rest, last⟩

theorem takes_andThen (first second : Node) {start stop : Attempt} :
    (first.andThen second).Takes start stop ↔
      ∃ middle, first.Takes start middle ∧ second.Takes middle stop := by
  induction second generalizing first stop with
  | empty => simp [andThen, Takes]
  | sequence middle last ihMiddle ihLast =>
    rw [andThen, ihLast]
    simp only [ihMiddle, Takes]
    constructor
    · intro holds
      rcases holds with ⟨place', ⟨place, early, between⟩, late⟩
      exact ⟨place, early, place', between, late⟩
    · intro holds
      rcases holds with ⟨place, early, place', between, late⟩
      exact ⟨place', ⟨place, early, between⟩, late⟩
  | _ => cases first <;> simp [andThen, Takes]

theorem before_andThen (first second : Node) (rest : Automaton) :
    (first.andThen second).before rest = first.before (second.before rest) := by
  induction second generalizing first rest with
  | empty => rfl
  | sequence middle last ihMiddle ihLast => rw [andThen, ihLast, ihMiddle, before]
  | _ => cases first <;> rfl

theorem takes_ofItems (items : List Node) {start stop : Attempt} :
    (ofItems items).Takes start stop ↔ TakesAll items start stop := by
  have further (first : Node) : (items.foldl andThen first).Takes start stop ↔
      ∃ middle, first.Takes start middle ∧ TakesAll items middle stop := by
    induction items generalizing first with
    | nil => simp [TakesAll]
    | cons item items ih =>
      rw [List.foldl_cons, ih]
      simp only [takes_andThen, TakesAll]
      constructor
      · intro holds
        rcases holds with ⟨place', ⟨place, early, between⟩, late⟩
        exact ⟨place, early, place', between, late⟩
      · intro holds
        rcases holds with ⟨place, early, place', between, late⟩
        exact ⟨place', ⟨place, early, between⟩, late⟩
  rw [ofItems, further]
  simp [Takes]

theorem before_ofItems (items : List Node) (rest : Automaton) :
    (ofItems items).before rest = items.foldr before rest := by
  have further (first : Node) :
      (items.foldl andThen first).before rest = first.before (items.foldr before rest) := by
    induction items generalizing first with
    | nil => rfl
    | cons item items ih => rw [List.foldl_cons, ih, before_andThen, List.foldr_cons]
  exact further empty

/-- Whether a node can be one part of a sequence as it stands. -/
def isItem : Node → Bool
  | empty | sequence _ _ | choice _ _ => false
  | _ => true

theorem empty_andThen {item : Node} (h : item.isItem) : empty.andThen item = item := by
  cases item with
  | empty | sequence first second | choice first second => cases h
  | _ => rfl

theorem factored_andThen {item : Node} (h : item.isItem) (first : Node) :
    (first.andThen item).factored = first.andThen item := by
  cases item with
  | empty | sequence first second | choice first second => cases h
  | _ => cases first <;> rfl

/-- Nothing stands in front of a choice that is none. -/
theorem factored_ofItems {items : List Node} (h : ∀ item ∈ items, item.isItem) :
    (ofItems items).factored = ofItems items := by
  rcases List.eq_nil_or_concat items with rfl | ⟨earlier, last, rfl⟩
  · rfl
  · have item : last.isItem := h last (by simp)
    rw [List.concat_eq_append, ofItems, List.foldl_append]
    exact factored_andThen item _

theorem takes_atMostOne {greedy : Bool} {inside : Node} {start stop : Attempt} :
    (repetition .atMostOne greedy inside).Takes start stop ↔
      stop = start ∨ inside.Takes start stop := by
  rw [Bounds.atMostOne, takes_bounded]
  constructor
  · intro holds
    rcases holds with ⟨count, _, most, taken⟩
    have few : count = 0 ∨ count = 1 := by omega
    rcases few with rfl | rfl
    · exact .inl taken
    · obtain ⟨middle, first, same⟩ := taken
      obtain rfl : stop = middle := same
      exact .inr first
  · intro holds
    rcases holds with same | taken
    · exact ⟨0, Nat.le_refl _, Nat.zero_le _, same⟩
    · exact ⟨1, Nat.zero_le _, Nat.le_refl _, stop, taken, rfl⟩

theorem repeated_atMostOne (greedy : Bool) (inside : Node) :
    repeated .atMostOne greedy inside = repetition .atMostOne greedy inside := by
  unfold repeated
  split <;> rfl

end Node

namespace Pattern

/-- Patterns that resolve to nodes one after another, under flags that they do not switch. -/
inductive ResolvesAll (flags : Flags) : Nat → List Pattern → List Node → Nat → Prop
  | nil (next : Nat) : ResolvesAll flags next [] [] next
  | cons {next next' last : Nat} {item : Pattern} {items : List Pattern} {node : Node}
      {nodes : List Node} (first : item.resolve flags next = .ok ⟨node, flags, next'⟩)
      (single : node.isItem) (others : ResolvesAll flags next' items nodes last) :
    ResolvesAll flags next (item :: items) (node :: nodes) last

namespace ResolvesAll

variable {flags : Flags} {next middle last : Nat} {items items' : List Pattern}
  {nodes nodes' : List Node}

theorem append (h : ResolvesAll flags next items nodes middle)
    (h' : ResolvesAll flags middle items' nodes' last) :
    ResolvesAll flags next (items ++ items') (nodes ++ nodes') last := by
  induction h with
  | nil => exact h'
  | cons first single _ ih => exact .cons first single (ih h')

theorem isItem (h : ResolvesAll flags next items nodes last) : ∀ node ∈ nodes, node.isItem := by
  induction h with
  | nil => exact fun _ member => nomatch member
  | cons _ single _ ih => exact List.forall_mem_cons.mpr ⟨single, ih⟩

/-- The items of a sequence, the latest first as they are built, resolve in their order. -/
theorem ofItems (h : ResolvesAll flags next items nodes last) :
    (Pattern.ofItems items.reverse).resolve flags next = .ok ⟨.ofItems nodes, flags, last⟩ := by
  have further {first : Nat} (earlier : List Pattern) (done : Node)
      (begun : (Pattern.ofItems earlier).resolve flags first = .ok ⟨done, flags, next⟩) :
      (Pattern.ofItems (items.reverse ++ earlier)).resolve flags first =
        .ok ⟨nodes.foldl Node.andThen done, flags, last⟩ := by
    induction h generalizing earlier done with
    | nil => exact begun
    | @cons next next' last item items node nodes resolved single others ih =>
      rw [List.reverse_cons, List.append_assoc, List.singleton_append, List.foldl_cons]
      refine ih (item :: earlier) (done.andThen node) ?_
      cases earlier with
      | nil =>
        obtain ⟨rfl, rfl⟩ : done = .empty ∧ next = first := by
          cases begun
          exact ⟨rfl, rfl⟩
        rw [Node.empty_andThen single]
        exact resolved
      | cons latest earlier =>
        change ((Pattern.ofItems (latest :: earlier)).resolve flags first >>= fun before => _) = _
        rw [begun]
        change (item.resolve flags next >>= fun after => _) = _
        rw [resolved]
        rfl
  have whole := further [] .empty rfl
  rwa [List.append_nil] at whole

end ResolvesAll

/-- If a sequence of items that leave the flags as they are has a meaning, so has each item. -/
theorem resolve_of_mem {flags : Flags} {items : List Pattern}
    (unswitched : ∀ item ∈ items, ∀ next resolved, item.resolve flags next = .ok resolved →
      resolved.flags = flags) {next : Nat} {resolved : Resolved}
    (h : (ofItems items).resolve flags next = .ok resolved) : resolved.flags = flags ∧
      ∀ item ∈ items, ∃ next resolved, item.resolve flags next = .ok resolved := by
  induction items generalizing next resolved with
  | nil =>
    cases h
    exact ⟨rfl, fun _ member => nomatch member⟩
  | cons item earlier ih =>
    obtain ⟨own, others⟩ := List.forall_mem_cons.mp unswitched
    cases earlier with
    | nil =>
      refine ⟨own next resolved h, ?_⟩
      intro other member
      rw [List.mem_singleton.mp member]
      exact ⟨next, resolved, h⟩
    | cons latest earlier =>
      obtain ⟨before, hBefore, h⟩ := bind_eq_ok h
      obtain ⟨after, hAfter, h⟩ := bind_eq_ok h
      cases h
      obtain ⟨same, each⟩ := ih others hBefore
      rw [same] at hAfter
      exact ⟨own before.next after hAfter, List.forall_mem_cons.mpr ⟨⟨_, _, hAfter⟩, each⟩⟩

end Pattern

end Stencil.Regex
