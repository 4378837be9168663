import Stencil.Proofs.Regex.Bare
import Stencil.Proofs.Regex.Sequences
/-!
# Decided matches

A match is decided if at each fork either the preferred path goes on to its end, or that path
fails at once and the other goes on. The search finds a decided match, since it never comes
back to a fork, and every other path it leaves behind is a less preferred one.
-/
namespace Stencil.Regex

namespace Path

/-- A path completes a match with a decision at each of its forks. The number is that of the
forks. -/
inductive Decided (forks : Array Fork) : Nat → Path → Attempt → Attempt → Prop
  | done {path : Path} {start stop : Attempt} (ends : path.fork = none)
      (taken : Step.takeAll path.steps start = some stop) : Decided forks 0 path start stop
  | preferred {path : Path} {start middle stop : Attempt} {index count : Nat} {fork : Fork}
      (leads : path.fork = some index) (taken : Step.takeAll path.steps start = some middle)
      (found : forks[index]? = some fork)
      (rest : Decided forks count fork.preferred middle stop) :
    Decided forks (count + 1) path start stop
  | other {path : Path} {start middle stop : Attempt} {index count : Nat} {fork : Fork}
      (leads : path.fork = some index) (taken : Step.takeAll path.steps start = some middle)
      (found : forks[index]? = some fork)
      (stuck : Step.takeAll fork.preferred.steps middle = none)
      (rest : Decided forks count fork.other middle stop) :
    Decided forks (count + 1) path start stop

namespace Decided

variable {forks : Array Fork} {count : Nat} {path : Path} {start middle stop : Attempt}

theorem after {step : Step} (first : step.take start = some middle)
    (h : path.Decided forks count middle stop) :
    (path.after step).Decided forks count start stop := by
  have taken {last : Attempt} (taken : Step.takeAll path.steps middle = some last) :
      Step.takeAll (path.after step).steps start = some last := by
    rw [Path.after, Step.takeAll, first]
    exact taken
  cases h with
  | done ends others => exact .done ends (taken others)
  | preferred leads others found rest => exact .preferred leads (taken others) found rest
  | other leads others found stuck rest => exact .other leads (taken others) found stuck rest

private theorem not_stuck (h : path.Decided forks count start stop) :
    Step.takeAll path.steps start ≠ none := by
  intro stuck
  cases h with
  | done _ taken => cases stuck.symm.trans taken
  | preferred _ taken => cases stuck.symm.trans taken
  | other _ taken => cases stuck.symm.trans taken

private theorem stuck_of_place {steps : List Step} (stuck : Step.takeAll steps start = none)
    (same : middle.place = start.place) : Step.takeAll steps middle = none := by
  cases taken : Step.takeAll steps middle with
  | none => rfl
  | some last =>
    obtain ⟨other, taken', _⟩ := Step.place_takeAll taken same.symm
    cases stuck.symm.trans taken'

/-- From a place a path has one number of forks at most. -/
theorem count_unique {count' : Nat} {start' stop' : Attempt}
    (h : path.Decided forks count start stop) (h' : path.Decided forks count' start' stop')
    (same : start'.place = start.place) : count = count' := by
  induction h generalizing count' start' stop' with
  | done ends taken =>
    cases h' with
    | done => rfl
    | preferred leads => cases ends.symm.trans leads
    | other leads => cases ends.symm.trans leads
  | preferred leads taken found rest ih =>
    obtain ⟨middle', taken', same'⟩ := Step.place_takeAll taken same
    cases h' with
    | done ends => cases ends.symm.trans leads
    | preferred leads' taken'' found' rest' =>
      cases leads.symm.trans leads'
      cases found.symm.trans found'
      cases taken'.symm.trans taken''
      rw [ih rest' same']
    | other leads' taken'' found' stuck _ =>
      cases leads.symm.trans leads'
      cases found.symm.trans found'
      cases taken'.symm.trans taken''
      exact absurd (stuck_of_place stuck same'.symm) rest.not_stuck
  | other leads taken found stuck rest ih =>
    obtain ⟨middle', taken', same'⟩ := Step.place_takeAll taken same
    cases h' with
    | done ends => cases ends.symm.trans leads
    | preferred leads' taken'' found' rest' =>
      cases leads.symm.trans leads'
      cases found.symm.trans found'
      cases taken'.symm.trans taken''
      exact absurd (stuck_of_place stuck same') rest'.not_stuck
    | other leads' taken'' found' stuck' rest' =>
      cases leads.symm.trans leads'
      cases found.symm.trans found'
      cases taken'.symm.trans taken''
      rw [ih rest' same']

end Decided

end Path

namespace Automaton

variable {forks : Array Fork}

/-- Whatever was met before has more forks to go than are left now. -/
private def Ahead (forks : Array Fork) (text : List Char) (count : Nat) (met : Crossings) : Prop :=
  ∀ crossing, met.contains crossing = true → ∃ more > count, ∃ start stop,
    start.place.StandsIn text ∧ start.place.position = crossing.position ∧
      (Path.toFork crossing.fork).Decided forks more start stop

private theorem Ahead.new {text : List Char} {count index : Nat} {met : Crossings}
    {start stop : Attempt} (h : Ahead forks text count met) (inside : start.place.StandsIn text)
    (decided : (Path.toFork index).Decided forks count start stop) :
    met.contains ⟨start.place.position, index⟩ = false := by
  rw [Bool.eq_false_iff]
  intro known
  obtain ⟨more, ahead, other, stop', inside', position, decided'⟩ := h _ known
  have same : other.place = start.place := inside'.eq inside position
  have unique := decided.count_unique decided' same
  omega

private theorem Ahead.insert {text : List Char} {count index : Nat} {met : Crossings}
    {start stop : Attempt} (h : Ahead forks text (count + 1) met)
    (inside : start.place.StandsIn text)
    (decided : (Path.toFork index).Decided forks (count + 1) start stop) :
    Ahead forks text count (met.insert ⟨start.place.position, index⟩) := by
  intro crossing member
  rw [Std.TreeSet.contains_insert, Bool.or_eq_true] at member
  rcases member with same | member
  · obtain rfl := Std.LawfulEqCmp.eq_of_compare (beq_iff_eq.mp same)
    exact ⟨count + 1, Nat.lt_succ_self _, start, stop, inside, rfl, decided⟩
  · obtain ⟨more, ahead, found⟩ := h crossing member
    exact ⟨more, Nat.lt_of_succ_lt ahead, found⟩

/-- A search that comes to a decided match ends with it. -/
theorem explore_of_decided {text : List Char} {count fuel : Nat} {path : Path}
    {start stop : Attempt} (h : path.Decided forks count start stop)
    (inside : start.place.StandsIn text) {met : Crossings}
    (enough : 2 * unmet forks text met < fuel) (left : List (Path × Attempt))
    (ahead : Ahead forks text count met) :
    explore forks fuel ((path, start) :: left) met = some stop := by
  induction h generalizing fuel met left with
  | done ends taken =>
    obtain ⟨fuel, rfl⟩ := Nat.exists_eq_succ_of_ne_zero (Nat.ne_of_gt (Nat.zero_lt_of_lt enough))
    rw [explore]
    simp only [taken, ends]
  | @preferred path start middle stop index count fork leads taken found rest ih =>
    obtain ⟨fuel, rfl⟩ := Nat.exists_eq_succ_of_ne_zero (Nat.ne_of_gt (Nat.zero_lt_of_lt enough))
    have place := Step.standsIn_takeAll taken inside
    have whole : (Path.toFork index).Decided forks (count + 1) middle stop :=
      .preferred rfl rfl found rest
    have new := ahead.new place whole
    have fewer := unmet_insert new place.position_le (Array.getElem?_eq_some_iff.mp found).1
    rw [explore]
    simp only [taken, leads, new, found, Bool.false_eq_true, if_false]
    exact ih place (by omega) _ (ahead.insert place whole)
  | @other path start middle stop index count fork leads taken found stuck rest ih =>
    obtain ⟨fuel, rfl⟩ := Nat.exists_eq_succ_of_ne_zero (Nat.ne_of_gt (Nat.zero_lt_of_lt enough))
    have place := Step.standsIn_takeAll taken inside
    have whole : (Path.toFork index).Decided forks (count + 1) middle stop :=
      .other rfl rfl found stuck rest
    have new := ahead.new place whole
    have fewer := unmet_insert new place.position_le (Array.getElem?_eq_some_iff.mp found).1
    obtain ⟨fuel, rfl⟩ : ∃ less, fuel = less + 1 := ⟨fuel - 1, by omega⟩
    rw [explore]
    simp only [taken, leads, new, found, Bool.false_eq_true, if_false]
    rw [explore]
    simp only [stuck]
    exact ih place (by omega) _ (ahead.insert place whole)

theorem search_of_decided {automaton : Automaton} {text : List Char} {count : Nat}
    {stop : Attempt} (h : automaton.start.Decided automaton.forks count
      { place := .start text } stop) : automaton.search text = some stop := by
  have bound : unmet automaton.forks text ∅ ≤ automaton.forks.size * (text.length + 1) :=
    unmet_le text ∅
  refine explore_of_decided h (Place.standsIn_start text) (by omega) [] ?_
  intro crossing member
  simp at member

end Automaton

/-! ## Nodes -/

namespace Node

/-- Whatever comes after a node, a match is decided from `start` if it is from `stop`. -/
def Leads (node : Node) (start stop : Attempt) : Prop :=
  ∀ (forks : Array Fork) (rest : Automaton), (node.before rest).PartOf forks →
    ∀ count last, rest.start.Decided forks count stop last →
      ∃ more, (node.before rest).start.Decided forks more start last

/-- Whatever comes after a node, it fails before it comes to a fork. -/
def Blocked (node : Node) (start : Attempt) : Prop :=
  ∀ rest, Step.takeAll (node.before rest).start.steps start = none

def LeadsAll : List Node → Attempt → Attempt → Prop
  | [], start, stop => stop = start
  | item :: items, start, stop => ∃ middle, item.Leads start middle ∧ LeadsAll items middle stop

variable {first second inside : Node} {items : List Node} {index : Nat}
  {start middle stop : Attempt}

theorem leads_set {alphabet : Alphabet} {members : CharClass}
    (h : (set alphabet members).Takes start stop) : (set alphabet members).Leads start stop := by
  intro forks rest _ count last decided
  exact ⟨count, decided.after h⟩

theorem leads_assertion {condition : Assertion} (h : condition.holdsAt start.place = true) :
    (assertion condition).Leads start start := by
  intro forks rest _ count last decided
  exact ⟨count, decided.after (if_pos h)⟩

theorem leads_sequence (h : first.Leads start middle) (h' : second.Leads middle stop) :
    (sequence first second).Leads start stop := by
  intro forks rest part count last decided
  have part' : (second.before rest).PartOf forks := (prefix_before first _).trans part
  obtain ⟨more, decided⟩ := h' forks rest part' count last decided
  exact h forks _ part more last decided

theorem leads_andThen (h : first.Leads start middle) (h' : second.Leads middle stop) :
    (first.andThen second).Leads start stop := by
  intro forks rest part count last decided
  rw [before_andThen] at part ⊢
  exact leads_sequence h h' forks rest part count last decided

theorem leads_ofItems (h : LeadsAll items start stop) : (ofItems items).Leads start stop := by
  intro forks rest part count last decided
  rw [before_ofItems] at part ⊢
  induction items generalizing start with
  | nil =>
    obtain rfl : stop = start := h
    exact ⟨count, decided⟩
  | cons item items ih =>
    obtain ⟨next, leads, h⟩ := h
    obtain ⟨more, decided⟩ := ih h ((prefix_before item _).trans part)
    exact leads forks _ part more last decided

theorem leads_capture (h : inside.Leads start.openGroup middle) :
    (capture index inside).Leads start (middle.closeGroup index) := by
  intro forks rest part count last decided
  obtain ⟨more, decided⟩ := h forks (rest.after (.closeGroup index)) part count last
    (decided.after rfl)
  exact ⟨more, decided.after rfl⟩

/-- What can be taken once, and goes on, is taken. -/
theorem leads_present (h : inside.Leads start stop) :
    (repetition .atMostOne true inside).Leads start stop := by
  intro forks rest part count last decided
  obtain ⟨table, found⟩ := Automaton.partOf_addFork part
  obtain ⟨more, decided⟩ := h forks rest table count last decided
  exact ⟨more + 1, .preferred rfl rfl found decided⟩

/-- What fails at once is left out. -/
theorem leads_absent (h : inside.Blocked start) :
    (repetition .atMostOne true inside).Leads start start := by
  intro forks rest part count last decided
  obtain ⟨_, found⟩ := Automaton.partOf_addFork part
  exact ⟨count + 1, .other rfl rfl found (h rest) decided⟩

/-- No more text is skipped than has to be. -/
theorem leads_skip (start : Attempt) :
    (repetition .any false (set .unicode .all)).Leads start start := by
  intro forks rest part count last decided
  obtain ⟨_, found⟩ := Automaton.partOf_addFork part
  exact ⟨count + 1, .preferred rfl rfl found decided⟩

theorem blocked_set {alphabet : Alphabet} {members : CharClass}
    (h : start.move? members = none) : (set alphabet members).Blocked start := by
  intro rest
  simp only [before, Automaton.after, Path.after, Step.takeAll, Step.take, h]

theorem blocked_capture (h : inside.Blocked start.openGroup) :
    (capture index inside).Blocked start :=
  fun rest => h (rest.after (.closeGroup index))

theorem blocked_ofItems {item : Node} (h : item.Blocked start) (items : List Node) :
    (ofItems (item :: items)).Blocked start := by
  intro rest
  rw [before_ofItems]
  exact h _

/-- Characters of a class are taken up to the first that is not of the class. -/
theorem leads_class {alphabet : Alphabet} {members : CharClass} {text : List Char}
    (nonempty : text ≠ []) (front : text <+: start.place.rest)
    (all : ∀ c ∈ text, members.contains c = true)
    (ends : (start.past text).move? members = none) :
    (repetition .atLeastOne true (set alphabet members)).Leads start (start.past text) := by
  intro forks rest part count last decided
  obtain ⟨_, found⟩ := Automaton.partOf_addFork part
  have first {c : Char} {text : List Char} {start : Attempt}
      (front : c :: text <+: start.place.rest) (member : members.contains c = true) :
      (Step.move members).take start = some (start.past [c]) ∧
        text <+: (start.past [c]).place.rest := by
    have early : [c] <+: start.place.rest := (List.prefix_append [c] text).trans front
    exact ⟨Attempt.move?_eq_some.mpr ⟨c, member, early, rfl⟩,
      (Attempt.prefix_past early).mpr front⟩
  -- from the fork on, by induction on the text that is left
  have further (text : List Char) (start : Attempt) (front : text <+: start.place.rest)
      (all : ∀ c ∈ text, members.contains c = true)
      (ends : (start.past text).move? members = none)
      (decided : rest.start.Decided forks count (start.past text) last) :
      ∃ more, (Path.toFork rest.forks.size).Decided forks more start last := by
    induction text generalizing start with
    | nil =>
      refine ⟨count + 1, .other rfl rfl found ?_ decided⟩
      exact (blocked_set ends : (set alphabet members).Blocked start) {}
    | cons c text ih =>
      obtain ⟨own, all⟩ := List.forall_mem_cons.mp all
      obtain ⟨moved, later⟩ := first front own
      have split : start.past (c :: text) = (start.past [c]).past text :=
        Attempt.past_append [c] text start
      rw [split] at ends decided
      obtain ⟨more, decided⟩ := ih (start.past [c]) later all ends decided
      exact ⟨more + 1, .preferred rfl rfl found (decided.after moved)⟩
  cases text with
  | nil => exact absurd rfl nonempty
  | cons c text =>
    obtain ⟨own, all⟩ := List.forall_mem_cons.mp all
    obtain ⟨moved, later⟩ := first front own
    have split : start.past (c :: text) = (start.past [c]).past text :=
      Attempt.past_append [c] text start
    rw [split] at ends decided
    obtain ⟨more, decided⟩ := further text (start.past [c]) later all ends decided
    exact ⟨more, decided.after moved⟩

/-- A node that leads from the start of a text gives the match that a search finds. -/
theorem search_of_leads {node : Node} {text : List Char}
    (h : node.Leads { place := .start text } stop) :
    (Automaton.ofNode node).search text = some stop := by
  have whole : node.anywhere.Leads { place := .start text } stop :=
    leads_sequence (leads_skip _) h
  obtain ⟨more, decided⟩ := whole _ {} (List.prefix_refl _) 0 stop (.done rfl rfl)
  exact Automaton.search_of_decided decided

end Node

end Stencil.Regex
