import Stencil.Proofs.Regex.Bare
/-!
# Groups on the way

Between two places an attempt goes over some text and closes groups. Where the indices of
these groups follow one another, their texts make a list, and stretches one after another
make the lists one after another.
-/
namespace Stencil.Regex

/-- The text of the group with an index, of those that are counted from `next` on. -/
def captureAt (next : Nat) (captures : List (Option (List Char))) (index : Nat) :
    Option (List Char) :=
  if next ≤ index then captures[index - next]?.join else none

theorem captureAt_of_le {next index : Nat} {captures : List (Option (List Char))}
    (beyond : next + captures.length ≤ index) : captureAt next captures index = none := by
  rw [captureAt, if_pos (by omega), List.getElem?_eq_none (by omega)]
  rfl

theorem captureAt_append (next : Nat) (captures others : List (Option (List Char)))
    (index : Nat) : captureAt next (captures ++ others) index =
      (captureAt (next + captures.length) others index).or (captureAt next captures index) := by
  by_cases early : next + captures.length ≤ index
  · rw [captureAt_of_le early, Option.or_none, captureAt, captureAt, if_pos (by omega),
      if_pos early, List.getElem?_append_right (by omega), Nat.sub_sub]
  · have other : captureAt (next + captures.length) others index = none := if_neg early
    rw [other, Option.none_or, captureAt, captureAt]
    by_cases late : next ≤ index
    · rw [if_pos late, if_pos late, List.getElem?_append_left (by omega)]
    · rw [if_neg late, if_neg late]

theorem captureAt_cons (next : Nat) (capture : Option (List Char))
    (captures : List (Option (List Char))) (index : Nat) :
    captureAt next (capture :: captures) index =
      if index = next then capture else captureAt (next + 1) captures index := by
  unfold captureAt
  by_cases same : index = next
  · subst same
    simp
  · rw [if_neg same]
    by_cases late : next + 1 ≤ index
    · rw [if_pos (by omega), if_pos late, show index - next = index - (next + 1) + 1 by omega,
        List.getElem?_cons_succ]
    · rw [if_neg (by omega), if_neg late]

theorem captureAt_replicate (next count index : Nat) :
    captureAt next (List.replicate count none) index = none := by
  unfold captureAt
  split
  · cases there : (List.replicate count (none : Option (List Char)))[index - next]? with
    | none => rfl
    | some found =>
      have member := List.mem_of_getElem? there
      rw [(List.mem_replicate.mp member).2]
      rfl
  · rfl

/-- An attempt gets over a text and leaves open what was open. Of the groups with indices
from `next` on it closes those that have a capture. -/
structure Closes (next : Nat) (captures : List (Option (List Char))) (text : List Char)
    (start stop : Attempt) : Prop where
  front : text <+: start.place.rest
  place : stop.place = start.place.past text
  opened : stop.opened = start.opened
  groups : ∀ index, stop.group? index = (captureAt next captures index).or (start.group? index)

namespace Closes

variable {next : Nat} {captures others : List (Option (List Char))} {text more : List Char}
  {start middle stop : Attempt}

theorem rest (h : Closes next captures text start stop) {after : List Char}
    (whole : start.place.rest = text ++ after) : stop.place.rest = after := by
  rw [h.place, Place.past, whole, List.drop_left]

/-- Going over text closes nothing, however many groups there were to close. -/
theorem past (next count : Nat) (front : text <+: start.place.rest) :
    Closes next (List.replicate count none) text start (start.past text) where
  front := front
  place := rfl
  opened := rfl
  groups index := by
    rw [captureAt_replicate]
    rfl

theorem append (first : Closes next captures text start middle)
    (second : Closes (next + captures.length) others more middle stop) :
    Closes next (captures ++ others) (text ++ more) start stop where
  front := by
    have later := second.front
    rw [first.place] at later
    exact (Attempt.prefix_past first.front).mp later
  place := by
    have whole := congrArg Attempt.place (Attempt.past_append text more start)
    rw [second.place, first.place]
    exact whole.symm
  opened := second.opened.trans first.opened
  groups index := by
    rw [captureAt_append, second.groups, first.groups, Option.or_assoc]

/-- What is closed within a group comes after the group itself. -/
theorem capture (inside : Closes (next + 1) captures text start.openGroup middle) :
    Closes next (some text :: captures) text start (middle.closeGroup next) := by
  obtain ⟨front, place, opened, groups⟩ := inside
  have shut : middle.closeGroup next =
      ⟨middle.place, start.opened,
        ⟨next, start.place, middle.place.position⟩ :: middle.closed⟩ := by
    unfold Attempt.closeGroup
    rw [opened]
    rfl
  rw [shut]
  refine ⟨front, place, rfl, ?_⟩
  intro index
  rw [captureAt_cons]
  by_cases same : index = next
  · subst same
    have own : (⟨index, start.place, middle.place.position⟩ : GroupSpan).text = text := by
      obtain ⟨rest, whole⟩ := front
      change start.place.rest.take (middle.place.position - start.place.position) = text
      rw [place]
      change start.place.rest.take (start.place.position + text.length - start.place.position) = _
      rw [Nat.add_sub_cancel_left]
      change text ++ rest = start.place.rest at whole
      rw [← whole, List.take_left]
    rw [if_pos rfl, Attempt.group?, List.find?_cons_of_pos (by simp), Option.map_some, own]
    rfl
  · rw [if_neg same, Attempt.group?, List.find?_cons_of_neg (by simpa using Ne.symm same)]
    exact groups index

/-- Groups that are left out have no captures. -/
theorem skip (count : Nat) (h : Closes (next + (1 + count)) captures text start stop) :
    Closes next (none :: (List.replicate count none ++ captures)) text start stop := by
  have skipped : Closes next (List.replicate (1 + count) none) [] start start :=
    .past next _ List.nil_prefix
  have length : (List.replicate (1 + count) (none : Option (List Char))).length = 1 + count :=
    List.length_replicate
  have whole := skipped.append (length.symm ▸ h)
  rwa [Nat.add_comm 1, List.replicate_succ] at whole

/-- From a start where no group is closed, the captures are read off in the order of their
indices. -/
theorem map_group? (h : Closes 1 captures text start stop) (fresh : start.closed = []) :
    (List.range' 1 captures.length).map stop.group? = captures := by
  apply List.ext_getElem
  · simp
  · intro place short _
    have none : start.group? (1 + place) = none := by
      rw [Attempt.group?, fresh]
      rfl
    rw [List.getElem_map, List.getElem_range', Nat.one_mul, h.groups, none, Option.or_none,
      captureAt, if_pos (by omega), Nat.add_sub_cancel_left, List.getElem?_eq_getElem]
    rfl

end Closes

end Stencil.Regex
