import Mathlib.Data.Finset.Prod
import Stencil.Proofs.Regex.Matching
/-!
# Search

The search through the paths of an automaton finds a match if there is one. Whatever could
be reached from a fork that was met before is still to be reached from a path that is left,
and there over fewer forks.
-/
namespace Stencil.Regex

namespace Place

/-- A place stands in a text: what is before it and what is after it make up the text. -/
def StandsIn (text : List Char) (place : Place) : Prop :=
  ∃ before, text = before ++ place.rest ∧ place.position = before.length ∧
    place.previous = before.getLast?

theorem standsIn_start (text : List Char) : (start text).StandsIn text :=
  ⟨[], rfl, rfl, rfl⟩

theorem StandsIn.position_le {text : List Char} {place : Place} (h : place.StandsIn text) :
    place.position ≤ text.length := by
  obtain ⟨before, whole, position, _⟩ := h
  rw [whole, position, List.length_append]
  exact Nat.le_add_right _ _

/-- There is one place at each position in a text. -/
theorem StandsIn.eq {text : List Char} {place other : Place} (h : place.StandsIn text)
    (h' : other.StandsIn text) (same : place.position = other.position) : place = other := by
  obtain ⟨position, previous, rest⟩ := place
  obtain ⟨position', previous', rest'⟩ := other
  obtain ⟨before, whole, rfl, rfl⟩ := h
  obtain ⟨before', whole', rfl, rfl⟩ := h'
  obtain ⟨rfl, rfl⟩ := List.append_inj (whole.symm.trans whole') same
  rfl

theorem StandsIn.move {text rest : List Char} {place : Place} {c : Char} (h : place.StandsIn text)
    (front : place.rest = c :: rest) :
    (⟨place.position + 1, some c, rest⟩ : Place).StandsIn text := by
  obtain ⟨before, whole, position, _⟩ := h
  refine ⟨before ++ [c], ?_, ?_, ?_⟩
  · simp [whole, front]
  · simp [position]
  · simp

end Place

@[simp] theorem Attempt.place_closeGroup (attempt : Attempt) (index : Nat) :
    (attempt.closeGroup index).place = attempt.place := by
  unfold Attempt.closeGroup
  split <;> rfl

namespace Step

theorem place_take {step : Step} {start stop : Attempt} (h : step.take start = some stop)
    {start' : Attempt} (same : start'.place = start.place) :
    ∃ stop', step.take start' = some stop' ∧ stop'.place = stop.place := by
  cases step with
  | move members =>
    rw [take, Attempt.move?] at h ⊢
    rw [same]
    split at h
    · cases h
    · split at h
      · rename_i holds
        cases h
        exact ⟨_, if_pos holds, rfl⟩
      · cases h
  | check assertion =>
    rw [take] at h ⊢
    rw [same]
    split at h
    · rename_i holds
      cases h
      exact ⟨_, if_pos holds, same⟩
    · cases h
  | openGroup =>
    cases h
    exact ⟨_, rfl, same⟩
  | closeGroup index =>
    cases h
    refine ⟨_, rfl, ?_⟩
    rw [Attempt.place_closeGroup, Attempt.place_closeGroup, same]

theorem place_takeAll {steps : List Step} {start stop : Attempt}
    (h : takeAll steps start = some stop) {start' : Attempt} (same : start'.place = start.place) :
    ∃ stop', takeAll steps start' = some stop' ∧ stop'.place = stop.place := by
  induction steps generalizing start start' with
  | nil =>
    cases h
    exact ⟨_, rfl, same⟩
  | cons step steps ih =>
    rw [takeAll] at h ⊢
    split at h
    · rename_i next first
      obtain ⟨next', first', same'⟩ := place_take first same
      rw [first']
      exact ih h same'
    · cases h

theorem standsIn_take {text : List Char} {step : Step} {start stop : Attempt}
    (h : step.take start = some stop) (inside : start.place.StandsIn text) :
    stop.place.StandsIn text := by
  cases step with
  | move members =>
    rw [take, Attempt.move?] at h
    split at h
    · cases h
    · rename_i front
      split at h
      · cases h
        exact inside.move front
      · cases h
  | check assertion =>
    rw [take] at h
    split at h
    · cases h
      exact inside
    · cases h
  | openGroup =>
    cases h
    exact inside
  | closeGroup index =>
    cases h
    rw [Attempt.place_closeGroup]
    exact inside

theorem standsIn_takeAll {text : List Char} {steps : List Step} {start stop : Attempt}
    (h : takeAll steps start = some stop) (inside : start.place.StandsIn text) :
    stop.place.StandsIn text := by
  induction steps generalizing start with
  | nil =>
    cases h
    exact inside
  | cons step steps ih =>
    rw [takeAll] at h
    split at h
    · rename_i next first
      exact ih h (standsIn_take first inside)
    · cases h

end Step

/-- Whether a path completes a match depends on the place alone. -/
theorem Path.Completes.of_place {forks : Array Fork} {count : Nat} {path : Path}
    {start stop : Attempt} (h : path.Completes forks count start stop) {start' : Attempt}
    (same : start'.place = start.place) :
    ∃ stop', path.Completes forks count start' stop' ∧ stop'.place = stop.place := by
  induction h generalizing start' with
  | done ends taken =>
    obtain ⟨stop', taken', same'⟩ := Step.place_takeAll taken same
    exact ⟨stop', .done ends taken', same'⟩
  | cross leads taken found offers _ ih =>
    obtain ⟨middle', taken', same'⟩ := Step.place_takeAll taken same
    obtain ⟨stop', rest, last⟩ := ih same'
    exact ⟨stop', .cross leads taken' found offers rest, last⟩

/-- Once its steps are taken, a path completes what the fork that it leads to completes. -/
theorem Path.completes_iff_toFork {forks : Array Fork} {count index : Nat} {path : Path}
    {start middle stop : Attempt} (leads : path.fork = some index)
    (taken : Step.takeAll path.steps start = some middle) :
    path.Completes forks count start stop ↔
      (toFork index).Completes forks count middle stop := by
  constructor
  · intro h
    cases h with
    | done ends _ => cases leads.symm.trans ends
    | cross leads' taken' found offers rest =>
      cases leads.symm.trans leads'
      cases taken.symm.trans taken'
      exact .cross rfl rfl found offers rest
  · intro h
    cases h with
    | done ends _ => cases ends
    | cross leads' taken' found offers rest =>
      cases leads'
      cases taken'
      exact .cross leads taken found offers rest

namespace Automaton

variable {forks : Array Fork}

/-- What a search finds is completed by one of the paths that it was given. -/
theorem explore_sound {fuel : Nat} {left : List (Path × Attempt)} {met : Crossings}
    {stop : Attempt} (h : explore forks fuel left met = some stop) :
    ∃ entry ∈ left, ∃ count, entry.1.Completes forks count entry.2 stop := by
  induction fuel generalizing left met with
  | zero => cases h
  | succ fuel ih =>
    have later {path : Path} {start : Attempt} {left : List (Path × Attempt)}
        (found : ∃ entry ∈ left, ∃ count, entry.1.Completes forks count entry.2 stop) :
        ∃ entry ∈ (path, start) :: left, ∃ count, entry.1.Completes forks count entry.2 stop := by
      obtain ⟨entry, member, completes⟩ := found
      exact ⟨entry, List.mem_cons_of_mem _ member, completes⟩
    cases left with
    | nil => cases h
    | cons entry left =>
      obtain ⟨path, start⟩ := entry
      rw [explore] at h
      split at h
      · exact later (ih h)
      · rename_i middle taken
        split at h
        · rename_i ends
          cases h
          exact ⟨_, List.mem_cons_self, 0, .done ends taken⟩
        · rename_i index leads
          dsimp only at h
          split at h
          · exact later (ih h)
          · split at h
            · exact later (ih h)
            · rename_i fork found
              obtain ⟨entry, member, count, completes⟩ := ih h
              simp only [List.mem_cons] at member
              rcases member with rfl | rfl | member
              · exact ⟨_, List.mem_cons_self, count + 1,
                  .cross leads taken found (.inl rfl) completes⟩
              · exact ⟨_, List.mem_cons_self, count + 1,
                  .cross leads taken found (.inr rfl) completes⟩
              · exact ⟨entry, List.mem_cons_of_mem _ member, count, completes⟩

/-- One of the paths that are left completes a match, over fewer forks than this. -/
def Reaches (forks : Array Fork) (left : List (Path × Attempt)) (count : Nat) : Prop :=
  ∃ entry ∈ left, ∃ fewer < count, ∃ stop, entry.1.Completes forks fewer entry.2 stop

namespace Reaches

variable {left : List (Path × Attempt)} {count : Nat} {path : Path} {start middle : Attempt}

theorem append_left (h : Reaches forks left count) (more : List (Path × Attempt)) :
    Reaches forks (left ++ more) count := by
  obtain ⟨entry, member, completes⟩ := h
  exact ⟨entry, List.mem_append_left _ member, completes⟩

/-- A path may be dropped if whatever it completes is still reached without it, or with it
over fewer forks. -/
theorem drop (h : Reaches forks ((path, start) :: left) count)
    (known : ∀ count stop, path.Completes forks count start stop →
      Reaches forks ((path, start) :: left) count) : Reaches forks left count := by
  induction count using Nat.strongRecOn with
  | _ count ih =>
    obtain ⟨entry, member, fewer, less, stop, completes⟩ := h
    rcases List.mem_cons.mp member with rfl | member
    · have again : Reaches forks ((path, start) :: left) fewer := known fewer stop completes
      obtain ⟨entry, member, fewer', less', completes⟩ := ih fewer less again
      exact ⟨entry, member, fewer', less'.trans less, completes⟩
    · exact ⟨entry, member, fewer, less, stop, completes⟩

/-- What a fork completes from a place is reached by one of its two paths from there. -/
theorem of_fork {index : Nat} {fork : Fork} {stop : Attempt}
    (found : forks[index]? = some fork) (same : start.place = middle.place)
    (crosses : (Path.toFork index).Completes forks count start stop) :
    Reaches forks [(fork.preferred, middle), (fork.other, middle)] count := by
  obtain ⟨fewer, rfl, rest | rest⟩ := (Path.completes_toFork found).mp crosses
  · obtain ⟨stop', rest, _⟩ := rest.of_place same.symm
    exact ⟨_, List.mem_cons_self, fewer, Nat.lt_succ_self _, stop', rest⟩
  · obtain ⟨stop', rest, _⟩ := rest.of_place same.symm
    exact ⟨_, List.mem_cons_of_mem _ List.mem_cons_self, fewer, Nat.lt_succ_self _, stop', rest⟩

/-- The two paths from a fork reach what the path to the fork did. -/
theorem cross {index : Nat} {fork : Fork} (leads : path.fork = some index)
    (taken : Step.takeAll path.steps start = some middle) (found : forks[index]? = some fork)
    (h : Reaches forks ((path, start) :: left) count) :
    Reaches forks ([(fork.preferred, middle), (fork.other, middle)] ++ left) count := by
  obtain ⟨entry, member, fewer, less, stop, completes⟩ := h
  rcases List.mem_cons.mp member with rfl | member
  · have crosses := (Path.completes_iff_toFork leads taken).mp completes
    obtain ⟨entry, member, fewer', less', completes⟩ := of_fork found rfl crosses
    exact ⟨entry, List.mem_append_left _ member, fewer', less'.trans less, completes⟩
  · exact ⟨entry, List.mem_append_right _ member, fewer, less, stop, completes⟩

end Reaches

/-- What could be reached from the crossings that were met can be reached from the paths that
are left, over fewer forks. -/
def Covered (forks : Array Fork) (text : List Char) (left : List (Path × Attempt))
    (met : Crossings) : Prop :=
  ∀ crossing, met.contains crossing = true → ∀ count start stop, start.place.StandsIn text →
    start.place.position = crossing.position →
    (Path.toFork crossing.fork).Completes forks count start stop → Reaches forks left count

namespace Covered

variable {text : List Char} {left : List (Path × Attempt)} {met : Crossings} {path : Path}
  {start middle : Attempt}

/-- A path that completes nothing may be dropped, and so may one that leads to a crossing
that was met. -/
theorem drop (h : Covered forks text ((path, start) :: left) met)
    (known : ∀ count stop, path.Completes forks count start stop →
      Reaches forks ((path, start) :: left) count) : Covered forks text left met := by
  intro crossing member count attempt stop inside position completes
  exact (h crossing member count attempt stop inside position completes).drop known

/-- Once a crossing is met, the two paths from its fork are left. -/
theorem cross {index : Nat} {fork : Fork} (h : Covered forks text ((path, start) :: left) met)
    (leads : path.fork = some index) (taken : Step.takeAll path.steps start = some middle)
    (found : forks[index]? = some fork) (place : middle.place.StandsIn text) :
    Covered forks text ([(fork.preferred, middle), (fork.other, middle)] ++ left)
      (met.insert ⟨middle.place.position, index⟩) := by
  intro crossing member count attempt stop inside position completes
  rw [Std.TreeSet.contains_insert, Bool.or_eq_true] at member
  rcases member with same | member
  · obtain rfl := Std.LawfulEqCmp.eq_of_compare (beq_iff_eq.mp same)
    have there : attempt.place = middle.place := inside.eq place position
    exact (Reaches.of_fork found there completes).append_left left
  · exact (h crossing member count attempt stop inside position completes).cross leads taken found

end Covered

/-- The crossings in a text that were not met. -/
def unmet (forks : Array Fork) (text : List Char) (met : Crossings) : Nat :=
  ((Finset.range (text.length + 1) ×ˢ Finset.range forks.size).filter fun place =>
    met.contains ⟨place.1, place.2⟩ = false).card

theorem unmet_insert {text : List Char} {met : Crossings} {crossing : Crossing}
    (new : met.contains crossing = false) (position : crossing.position ≤ text.length)
    (fork : crossing.fork < forks.size) :
    unmet forks text (met.insert crossing) < unmet forks text met := by
  apply Finset.card_lt_card
  refine Finset.ssubset_iff_subset_ne.mpr ⟨?_, ?_⟩
  · intro place member
    rw [Finset.mem_filter, Std.TreeSet.contains_insert, Bool.or_eq_false_iff] at member
    exact Finset.mem_filter.mpr ⟨member.1, member.2.2⟩
  · intro same
    have inside : (crossing.position, crossing.fork) ∈
        (Finset.range (text.length + 1) ×ˢ Finset.range forks.size).filter fun place =>
          met.contains ⟨place.1, place.2⟩ = false := by
      refine Finset.mem_filter.mpr ⟨?_, new⟩
      rw [Finset.mem_product, Finset.mem_range, Finset.mem_range]
      exact ⟨Nat.lt_succ_of_le position, fork⟩
    rw [← same, Finset.mem_filter, Std.TreeSet.contains_insert_self] at inside
    cases inside.2

theorem unmet_le (text : List Char) (met : Crossings) :
    unmet forks text met ≤ forks.size * (text.length + 1) := by
  refine (Finset.card_filter_le _ _).trans (Nat.le_of_eq ?_)
  rw [Finset.card_product, Finset.card_range, Finset.card_range, Nat.mul_comm]

/-- A search that finds nothing had no path to a match. -/
theorem explore_complete {text : List Char} {fuel : Nat} {left : List (Path × Attempt)}
    {met : Crossings} (enough : left.length + 2 * unmet forks text met < fuel)
    (inside : ∀ entry ∈ left, entry.2.place.StandsIn text) (covered : Covered forks text left met)
    (h : explore forks fuel left met = none) (count : Nat) : ¬Reaches forks left count := by
  induction fuel generalizing left met with
  | zero => exact absurd enough (Nat.not_lt_zero _)
  | succ fuel ih =>
    cases left with
    | nil =>
      intro holds
      rcases holds with ⟨entry, member, _⟩
      cases member
    | cons entry left =>
      obtain ⟨path, start⟩ := entry
      obtain ⟨here, inside⟩ := List.forall_mem_cons.mp inside
      rw [List.length_cons] at enough
      -- if whatever the first path completes is reached all the same, the others decide
      have drop (rest : explore forks fuel left met = none)
          (known : ∀ count stop, path.Completes forks count start stop →
            Reaches forks ((path, start) :: left) count) :
          ¬Reaches forks ((path, start) :: left) count := by
        intro reaches
        exact ih (by omega) inside (covered.drop known) rest (reaches.drop known)
      rw [explore] at h
      split at h
      · rename_i stuck
        apply drop h
        intro count stop completes
        cases completes with
        | done _ taken => cases stuck.symm.trans taken
        | cross _ taken => cases stuck.symm.trans taken
      · rename_i middle taken
        split at h
        · cases h
        · rename_i index leads
          dsimp only at h
          have place : middle.place.StandsIn text := Step.standsIn_takeAll taken here
          split at h
          · rename_i known
            apply drop h
            intro count stop completes
            have crosses := (Path.completes_iff_toFork leads taken).mp completes
            exact covered _ known count middle stop place rfl crosses
          · rename_i new
            split at h
            · rename_i missing
              apply drop h
              intro count stop completes
              cases (Path.completes_iff_toFork leads taken).mp completes with
              | done ends _ => cases ends
              | cross leads' _ found _ _ =>
                cases leads'
                cases missing.symm.trans found
            · rename_i fork found
              have bound : index < forks.size := (Array.getElem?_eq_some_iff.mp found).1
              have fewer := unmet_insert (Bool.eq_false_iff.mpr new) place.position_le bound
              have enough' : ([(fork.preferred, middle), (fork.other, middle)] ++ left).length +
                  2 * unmet forks text (met.insert ⟨middle.place.position, index⟩) < fuel := by
                rw [List.length_append, List.length_cons, List.length_cons, List.length_nil]
                omega
              have inside' : ∀ entry ∈ [(fork.preferred, middle), (fork.other, middle)] ++ left,
                  entry.2.place.StandsIn text := by
                simp only [List.cons_append, List.nil_append, List.forall_mem_cons]
                exact ⟨place, place, inside⟩
              have covered' := covered.cross leads taken found place
              intro reaches
              exact ih enough' inside' covered' h (reaches.cross leads taken found)

/-- A search for which an automaton has a path to a match finds one. -/
theorem search_complete {automaton : Automaton} {text : List Char}
    (h : automaton.search text = none) (count : Nat) (stop : Attempt) :
    ¬automaton.start.Completes automaton.forks count { place := .start text } stop := by
  have bound : unmet automaton.forks text ∅ ≤ automaton.forks.size * (text.length + 1) :=
    unmet_le text ∅
  have enough : [(automaton.start, ({ place := .start text } : Attempt))].length +
      2 * unmet automaton.forks text ∅ < 2 * (automaton.forks.size * (text.length + 1)) + 2 := by
    rw [List.length_singleton]
    omega
  have inside : ∀ entry ∈ [(automaton.start, ({ place := .start text } : Attempt))],
      entry.2.place.StandsIn text := by
    simpa using Place.standsIn_start text
  have covered : Covered automaton.forks text
      [(automaton.start, ({ place := .start text } : Attempt))] ∅ := by
    intro crossing member
    simp at member
  intro completes
  apply explore_complete enough inside covered h (count + 1)
  exact ⟨_, List.mem_cons_self, count, Nat.lt_succ_self _, stop, completes⟩

end Automaton

namespace Node

private theorem completes_empty {forks : Array Fork} {count : Nat} {start stop : Attempt} :
    ({} : Path).Completes forks count start stop ↔ count = 0 ∧ stop = start := by
  constructor
  · intro h
    cases h with
    | done _ taken =>
      cases taken
      exact ⟨rfl, rfl⟩
    | cross leads => cases leads
  · intro holds
    rcases holds with ⟨rfl, rfl⟩
    exact .done rfl rfl

private theorem compiles_anywhere (node : Node) : Path.Compiles (Automaton.ofNode node).forks
    node.anywhere.Takes (Automaton.ofNode node).start {} :=
  compiles_before node.anywhere (List.prefix_refl _)

/-- The match that a search finds is one of the node after any text. -/
theorem takes_of_search {node : Node} {text : List Char} {stop : Attempt}
    (h : (Automaton.ofNode node).search text = some stop) :
    node.anywhere.Takes { place := .start text } stop := by
  obtain ⟨entry, member, count, completes⟩ := Automaton.explore_sound h
  obtain rfl := List.mem_singleton.mp member
  obtain ⟨_, middle, _, taken, rest⟩ := (compiles_anywhere node).sound count _ stop completes
  obtain ⟨_, rfl⟩ := completes_empty.mp rest
  exact taken

/-- If a node has a match after any text, a search finds one. -/
theorem search_of_takes {node : Node} {text : List Char} {stop : Attempt}
    (h : node.anywhere.Takes { place := .start text } stop) :
    ∃ found, (Automaton.ofNode node).search text = some found := by
  cases result : (Automaton.ofNode node).search text with
  | some found => exact ⟨found, rfl⟩
  | none =>
    obtain ⟨count, completes⟩ := (compiles_anywhere node).complete 0 _ stop stop h
      (completes_empty.mpr ⟨rfl, rfl⟩)
    exact absurd completes (Automaton.search_complete result count stop)

end Node

end Stencil.Regex
