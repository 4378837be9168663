import Stencil.Proofs.Regex.Limits
import Stencil.Proofs.Regex.Parts
import Stencil.Proofs.Regex.Search
/-!
# Bare expressions

An expression without capture groups and assertions looks at nothing but the text that it
takes. What it matches is a set of texts, wherever these stand.
-/
namespace Stencil.Regex

/-- The place after some text that stands next. -/
def Place.past (text : List Char) (place : Place) : Place :=
  ⟨place.position + text.length, text.getLast?.or place.previous, place.rest.drop text.length⟩

theorem Place.past_start (before rest : List Char) :
    (start (before ++ rest)).past before = ⟨before.length, before.getLast?, rest⟩ := by
  simp [past, start]

namespace Attempt

def past (text : List Char) (attempt : Attempt) : Attempt :=
  { attempt with place := attempt.place.past text }

@[simp] theorem past_nil (attempt : Attempt) : attempt.past [] = attempt := rfl

theorem past_append (first second : List Char) (attempt : Attempt) :
    attempt.past (first ++ second) = (attempt.past first).past second := by
  simp [past, Place.past, List.getLast?_append, Option.or_assoc, Nat.add_assoc]

theorem prefix_past {first second : List Char} {attempt : Attempt}
    (front : first <+: attempt.place.rest) :
    second <+: (attempt.past first).place.rest ↔ first ++ second <+: attempt.place.rest := by
  obtain ⟨rest, whole⟩ := front
  rw [past, Place.past, ← whole, List.drop_left, List.prefix_append_right_inj]

theorem move?_eq_some {members : CharClass} {start stop : Attempt} :
    start.move? members = some stop ↔
      ∃ c, members.contains c = true ∧ [c] <+: start.place.rest ∧ stop = start.past [c] := by
  obtain ⟨⟨position, previous, rest⟩, opened, closed⟩ := start
  unfold move?
  cases rest with
  | nil => simp
  | cons c rest =>
    dsimp only
    constructor
    · intro h
      split at h
      · rename_i member
        cases h
        exact ⟨c, member, by simp, rfl⟩
      · cases h
    · intro holds
      rcases holds with ⟨other, member, front, rfl⟩
      obtain rfl : other = c := by simpa using front
      rw [if_pos member]
      rfl

theorem move?_eq_none {members : CharClass} {start : Attempt}
    (h : ∀ c, start.place.rest.head? = some c → members.contains c = false) :
    start.move? members = none := by
  cases moved : start.move? members with
  | none => rfl
  | some stop =>
    obtain ⟨c, member, ⟨rest, whole⟩, _⟩ := move?_eq_some.mp moved
    have first := h c (by rw [← whole]; rfl)
    cases first.symm.trans member

end Attempt

/-- A relation between attempts that moves over text, and over the same text wherever that
stands. -/
def ByText (takes : Attempt → Attempt → Prop) : Prop :=
  ∀ start stop, takes start stop → ∃ text, text <+: start.place.rest ∧ stop = start.past text ∧
    ∀ other : Attempt, text <+: other.place.rest → takes other (other.past text)

namespace ByText

variable {takes takes' : Attempt → Attempt → Prop}

theorem refl : ByText fun start stop => stop = start := by
  intro start _ same
  subst same
  exact ⟨[], List.nil_prefix, rfl, fun _ _ => rfl⟩

theorem trans (h : ByText takes) (h' : ByText takes') :
    ByText fun start stop => ∃ middle, takes start middle ∧ takes' middle stop := by
  intro start stop holds
  rcases holds with ⟨middle, first, second⟩
  obtain ⟨text, front, rfl, anywhere⟩ := h start middle first
  obtain ⟨text', front', rfl, anywhere'⟩ := h' _ stop second
  refine ⟨text ++ text', (Attempt.prefix_past front).mp front',
    (Attempt.past_append text text' start).symm, ?_⟩
  intro other whole
  have early : text <+: other.place.rest := (List.prefix_append _ _).trans whole
  refine ⟨other.past text, anywhere other early, ?_⟩
  rw [Attempt.past_append]
  exact anywhere' _ ((Attempt.prefix_past early).mpr whole)

theorem or (h : ByText takes) (h' : ByText takes') :
    ByText fun start stop => takes start stop ∨ takes' start stop := by
  intro start stop holds
  rcases holds with taken | taken
  · obtain ⟨text, front, same, anywhere⟩ := h start stop taken
    exact ⟨text, front, same, fun other whole => .inl (anywhere other whole)⟩
  · obtain ⟨text, front, same, anywhere⟩ := h' start stop taken
    exact ⟨text, front, same, fun other whole => .inr (anywhere other whole)⟩

theorem rounds (h : ByText takes) (count : Nat) : ByText (Rounds takes count) := by
  induction count with
  | zero => exact refl
  | succ count ih => exact h.trans ih

end ByText

namespace Node

/-- A node with neither groups nor assertions. -/
def IsBare (node : Node) : Prop :=
  ¬node.Has fun _ => True

/-- A bare node moves over text, whatever stands around it. -/
theorem byText_of_isBare {node : Node} (bare : node.IsBare) : ByText node.Takes := by
  induction node with
  | empty => exact .refl
  | set alphabet members =>
    intro start stop taken
    obtain ⟨c, member, front, same⟩ := Attempt.move?_eq_some.mp taken
    refine ⟨[c], front, same, ?_⟩
    intro other front
    exact Attempt.move?_eq_some.mpr ⟨c, member, front, rfl⟩
  | assertion condition => exact absurd trivial bare
  | sequence first second ihFirst ihSecond =>
    obtain ⟨bareFirst, bareSecond⟩ := not_or.mp bare
    exact (ihFirst bareFirst).trans (ihSecond bareSecond)
  | choice first second ihFirst ihSecond =>
    obtain ⟨bareFirst, bareSecond⟩ := not_or.mp bare
    exact (ihFirst bareFirst).or (ihSecond bareSecond)
  | capture index inside => exact absurd (.inl trivial) bare
  | repetition bounds greedy inside ih =>
    intro start stop holds
    rcases holds with ⟨count, least, most, taken⟩
    obtain ⟨text, front, same, anywhere⟩ := (ih bare).rounds count start stop taken
    exact ⟨text, front, same, fun other front => ⟨count, least, most, anywhere other front⟩⟩

/-- A node matches the whole of a text. -/
def Spells (node : Node) (text : List Char) : Prop :=
  ∃ stop, node.Takes { place := .start text } stop ∧ stop.place.rest = []

theorem takes_iff_spells {node : Node} (bare : node.IsBare) {start stop : Attempt} :
    node.Takes start stop ↔
      ∃ text, text <+: start.place.rest ∧ stop = start.past text ∧ node.Spells text := by
  constructor
  · intro taken
    obtain ⟨text, front, same, anywhere⟩ := byText_of_isBare bare start stop taken
    refine ⟨text, front, same, _, anywhere _ (List.prefix_refl text), ?_⟩
    exact List.drop_length
  · intro holds
    rcases holds with ⟨text, front, rfl, last, taken, ends⟩
    obtain ⟨text', front', rfl, anywhere⟩ := byText_of_isBare bare _ last taken
    obtain rfl : text' = text := by
      refine front'.eq_of_length_le ?_
      exact List.drop_eq_nil_iff.mp ends
    exact anywhere start front

end Node

/-! ## Patterns -/

namespace Limits

/-- Neither groups nor assertions. -/
def bare : Limits where
  atoms
    | .caret | .dollar | .textStart | .textEnd | .word _ => false
    | _ => true
  captures := false

end Limits

private theorem Node.isBare_ofClass (alphabet : Alphabet) (members : CharClass) :
    (ofClass alphabet members).IsBare := by
  unfold ofClass
  split <;> exact id

private theorem Atom.isBare_toNode {item : Atom} (h : Limits.bare.atoms item) {flags : Flags}
    {node : Node} (made : item.toNode flags = .ok node) : node.IsBare := by
  cases item with
  | caret | dollar | textStart | textEnd | word edge => cases h
  | character c =>
    cases made
    exact Node.isBare_ofClass _ _
  | byte c | set members levels =>
    rw [toNode] at made
    split at made
    · cases made
      exact Node.isBare_ofClass _ _
    · cases made
  | anyCharacter =>
    rw [toNode] at made
    split at made
    · cases made
      exact id
    · cases made

/-- A pattern without groups and assertions means the same whichever number comes next, and
leaves that number as it is. -/
theorem Pattern.resolve_of_bare {pattern : Pattern} (bare : pattern.keeps .bare) {flags : Flags}
    {next : Nat} {resolved : Resolved} (h : pattern.resolve flags next = .ok resolved) :
    resolved.node.IsBare ∧
      ∀ other, pattern.resolve flags other = .ok { resolved with next := other } := by
  induction pattern generalizing flags next resolved with
  | empty | flags change =>
    cases h
    exact ⟨id, fun _ => rfl⟩
  | atom item =>
    obtain ⟨node, made, rfl⟩ := map_eq_ok h
    have bareNode : node.IsBare := Atom.isBare_toNode bare made
    refine ⟨bareNode, ?_⟩
    intro other
    rw [resolve, made]
    rfl
  | sequence first second ihFirst ihSecond | choice first second ihFirst ihSecond =>
    rw [keeps, Bool.and_eq_true] at bare
    obtain ⟨before, hBefore, h⟩ := bind_eq_ok h
    obtain ⟨after, hAfter, h⟩ := bind_eq_ok h
    cases h
    obtain ⟨bareFirst, same⟩ := ihFirst bare.1 hBefore
    obtain ⟨bareSecond, same'⟩ := ihSecond bare.2 hAfter
    constructor
    · simp only [Node.IsBare, Node.has_andThen, Node.has_orElse]
      exact not_or.mpr ⟨bareFirst, bareSecond⟩
    · intro other
      rw [resolve, same]
      change (second.resolve before.flags other >>= fun after => _) = _
      rw [same']
      rfl
  | capture inside => cases bare
  | group change inside ih =>
    obtain ⟨within, hWithin, h⟩ := bind_eq_ok h
    cases h
    obtain ⟨bareInside, same⟩ := ih bare hWithin
    constructor
    · rw [Node.IsBare, Node.has_factored]
      exact bareInside
    · intro other
      rw [resolve, same]
      rfl
  | repetition bounds greedy inside ih =>
    obtain ⟨within, hWithin, h⟩ := bind_eq_ok h
    cases h
    obtain ⟨bareInside, same⟩ := ih bare hWithin
    constructor
    · rw [Node.IsBare, Node.has_repeated]
      intro has
      exact bareInside has.2
    · intro other
      rw [resolve, same]
      rfl

namespace Node

/-! ## Searching -/

private theorem contains_all (c : Char) : CharClass.all.contains c = true := by
  have valid : c.toNat ≤ CharClass.lastCode := by
    have := c.valid
    change c.toNat.isValidChar at this
    unfold Nat.isValidChar at this
    unfold CharClass.lastCode
    omega
  simp [CharClass.contains, CharClass.all, CharClass.ofRange, Text.inRanges, valid]

/-- A match after any text is one at some later place. -/
theorem takes_anywhere {node : Node} {start stop : Attempt} : node.anywhere.Takes start stop ↔
    ∃ text, text <+: start.place.rest ∧ node.Takes (start.past text) stop := by
  have bare : (repetition .any false (set .unicode .all)).IsBare := id
  have skips (text : List Char) (start : Attempt) (front : text <+: start.place.rest) :
      Rounds (set .unicode .all).Takes text.length start (start.past text) := by
    induction text generalizing start with
    | nil => rfl
    | cons c text ih =>
      have early : [c] <+: start.place.rest := (List.prefix_append [c] text).trans front
      refine ⟨start.past [c], ?_, ?_⟩
      · exact Attempt.move?_eq_some.mpr ⟨c, contains_all c, early, rfl⟩
      · have later := ih (start.past [c]) ((Attempt.prefix_past early).mpr front)
        rwa [← Attempt.past_append] at later
  constructor
  · intro holds
    rcases holds with ⟨middle, skipped, taken⟩
    obtain ⟨text, front, rfl, _⟩ := byText_of_isBare bare start middle skipped
    exact ⟨text, front, taken⟩
  · intro holds
    rcases holds with ⟨text, front, taken⟩
    refine ⟨start.past text, ?_, taken⟩
    exact takes_unbounded.mpr ⟨text.length, Nat.zero_le _, skips text start front⟩

/-- A search finds a match exactly if a node has one at some place in the text. -/
theorem search_eq_none {node : Node} {text : List Char} :
    (Automaton.ofNode node).search text = none ↔ ∀ skipped stop, skipped <+: text →
      ¬node.Takes (({ place := .start text } : Attempt).past skipped) stop := by
  constructor
  · intro nothing skipped stop front taken
    obtain ⟨found, same⟩ := search_of_takes (takes_anywhere.mpr ⟨skipped, front, taken⟩)
    cases nothing.symm.trans same
  · intro nothing
    cases result : (Automaton.ofNode node).search text with
    | none => rfl
    | some found =>
      obtain ⟨skipped, front, taken⟩ := takes_anywhere.mp (takes_of_search result)
      exact absurd taken (nothing skipped found front)

end Node

end Stencil.Regex
