import Stencil.Regex.Automaton.Search
/-!
# Matching

What a node matches is said by recursion on the node, without an automaton. The paths of
the automaton that is compiled from a node complete exactly such matches.
-/
namespace Stencil.Regex

/-- A relation between attempts carried through some number of rounds. -/
def Rounds (round : Attempt → Attempt → Prop) : Nat → Attempt → Attempt → Prop
  | 0, start, stop => stop = start
  | count + 1, start, stop => ∃ middle, round start middle ∧ Rounds round count middle stop

theorem rounds_add {round : Attempt → Attempt → Prop} {count more : Nat} {start stop : Attempt} :
    Rounds round (count + more) start stop ↔
      ∃ middle, Rounds round count start middle ∧ Rounds round more middle stop := by
  induction count generalizing start with
  | zero => simp [Rounds]
  | succ count ih =>
    rw [Nat.succ_add]
    constructor
    · intro holds
      rcases holds with ⟨next, first, rest⟩
      obtain ⟨middle, rest, last⟩ := ih.mp rest
      exact ⟨middle, ⟨next, first, rest⟩, last⟩
    · intro holds
      rcases holds with ⟨middle, ⟨next, first, rest⟩, last⟩
      exact ⟨next, first, ih.mpr ⟨middle, rest, last⟩⟩

namespace Node

/-- An attempt gets from one place to another by a node. A repetition takes at least its
least number of rounds, and more only up to the greatest. -/
def Takes : Node → Attempt → Attempt → Prop
  | empty, start, stop => stop = start
  | set _ members, start, stop => start.move? members = some stop
  | assertion condition, start, stop => condition.holdsAt start.place = true ∧ stop = start
  | sequence first second, start, stop =>
    ∃ middle, first.Takes start middle ∧ second.Takes middle stop
  | choice first second, start, stop => first.Takes start stop ∨ second.Takes start stop
  | capture index inside, start, stop =>
    ∃ middle, inside.Takes start.openGroup middle ∧ stop = middle.closeGroup index
  | repetition bounds _ inside, start, stop =>
    ∃ count, bounds.least ≤ count ∧ (∀ most ∈ bounds.most, count ≤ max bounds.least most) ∧
      Rounds inside.Takes count start stop

theorem takes_unbounded {least : Nat} {greedy : Bool} {inside : Node} {start stop : Attempt} :
    (repetition ⟨least, none⟩ greedy inside).Takes start stop ↔
      ∃ count, least ≤ count ∧ Rounds inside.Takes count start stop := by
  simp [Takes]

theorem takes_bounded {least most : Nat} {greedy : Bool} {inside : Node} {start stop : Attempt} :
    (repetition ⟨least, some most⟩ greedy inside).Takes start stop ↔
      ∃ count, least ≤ count ∧ count ≤ max least most ∧ Rounds inside.Takes count start stop := by
  simp [Takes]

end Node

namespace Path

/-- Taking a path, and then paths from the forks on the way, completes a match. The number
is that of the forks. -/
inductive Completes (forks : Array Fork) : Nat → Path → Attempt → Attempt → Prop
  | done {path : Path} {start stop : Attempt} (ends : path.fork = none)
      (taken : Step.takeAll path.steps start = some stop) : Completes forks 0 path start stop
  | cross {path next : Path} {start middle stop : Attempt} {index count : Nat} {fork : Fork}
      (leads : path.fork = some index) (taken : Step.takeAll path.steps start = some middle)
      (found : forks[index]? = some fork) (offers : next = fork.preferred ∨ next = fork.other)
      (rest : Completes forks count next middle stop) :
    Completes forks (count + 1) path start stop

variable {forks : Array Fork} {count : Nat} {path : Path} {start stop : Attempt}

theorem completes_after (step : Step) : Completes forks count (path.after step) start stop ↔
    ∃ middle, step.take start = some middle ∧ Completes forks count path middle stop := by
  constructor
  · intro h
    cases h with
    | done ends taken =>
      rw [after, Step.takeAll] at taken
      split at taken
      · rename_i middle first
        exact ⟨middle, first, .done ends taken⟩
      · cases taken
    | cross leads taken found offers rest =>
      rw [after, Step.takeAll] at taken
      split at taken
      · rename_i middle first
        exact ⟨middle, first, .cross leads taken found offers rest⟩
      · cases taken
  · intro holds
    rcases holds with ⟨middle, first, h⟩
    cases h with
    | done ends taken =>
      refine .done ends ?_
      rw [after, Step.takeAll, first]
      exact taken
    | cross leads taken found offers rest =>
      refine .cross leads ?_ found offers rest
      rw [after, Step.takeAll, first]
      exact taken

theorem completes_toFork {index : Nat} {fork : Fork} (found : forks[index]? = some fork) :
    Completes forks count (toFork index) start stop ↔ ∃ fewer, count = fewer + 1 ∧
      (Completes forks fewer fork.preferred start stop ∨
        Completes forks fewer fork.other start stop) := by
  constructor
  · intro h
    cases h with
    | done ends taken => cases ends
    | cross leads taken found' offers rest =>
      cases leads
      cases taken
      obtain rfl := Option.some.inj (found.symm.trans found')
      rcases offers with rfl | rfl
      · exact ⟨_, rfl, .inl rest⟩
      · exact ⟨_, rfl, .inr rest⟩
  · intro holds
    rcases holds with ⟨fewer, rfl, rest | rest⟩
    · exact .cross rfl rfl found (.inl rfl) rest
    · exact .cross rfl rfl found (.inr rfl) rest

end Path

namespace Automaton

/-- The forks of an automaton stand first in a larger table. -/
def PartOf (automaton : Automaton) (forks : Array Fork) : Prop :=
  automaton.forks.toList <+: forks.toList

theorem PartOf.found {automaton : Automaton} {forks : Array Fork} (h : automaton.PartOf forks)
    {index : Nat} {fork : Fork} (found : automaton.forks[index]? = some fork) :
    forks[index]? = some fork := by
  obtain ⟨more, whole⟩ := h
  rw [← Array.getElem?_toList] at found ⊢
  rw [← whole, List.getElem?_append_left (List.getElem?_eq_some_iff.mp found).1, found]

theorem partOf_addFork {fork : Fork} {table forks : Array Fork}
    (h : (addFork fork table).PartOf forks) :
    table.toList <+: forks.toList ∧ forks[table.size]? = some fork := by
  have whole : table.toList ++ [fork] <+: forks.toList := by simpa [PartOf, addFork] using h
  refine ⟨(List.prefix_append _ _).trans whole, h.found ?_⟩
  simp [addFork]

private theorem prefix_repeat {step : Automaton → Automaton}
    (grows : ∀ rest, rest.forks.toList <+: (step rest).forks.toList) (rounds : Nat)
    (rest : Automaton) : rest.forks.toList <+: (Nat.repeat step rounds rest).forks.toList := by
  induction rounds with
  | zero => exact List.prefix_refl _
  | succ rounds ih => exact ih.trans (grows _)

end Automaton

namespace Node

/-- The path to the fork after a round that repeats without bound. -/
def again (inside : Node) (rest : Automaton) : Path :=
  .toFork (rest.forks.size + inside.forkCount)

/-- A round that leads to a fork, and the fork to a further round or on. -/
def round (greedy : Bool) (inside : Node) (rest : Automaton) : Automaton :=
  let first := inside.before ⟨inside.again rest, rest.forks⟩
  ⟨first.start, first.forks.push (.ofRound greedy first.start rest.start)⟩

theorem before_unbounded (least : Nat) (greedy : Bool) (inside : Node) (rest : Automaton) :
    (repetition ⟨least, none⟩ greedy inside).before rest =
      if least = 0 then
        if inside.consumes then ⟨inside.again rest, (inside.round greedy rest).forks⟩
        else (inside.round greedy rest).orExit greedy rest.start
      else Nat.repeat inside.before (least - 1) (inside.round greedy rest) :=
  rfl

theorem before_bounded (least most : Nat) (greedy : Bool) (inside : Node) (rest : Automaton) :
    (repetition ⟨least, some most⟩ greedy inside).before rest =
      Nat.repeat inside.before least
        (Nat.repeat (fun next => (inside.before next).orExit greedy rest.start) (most - least)
          rest) :=
  rfl

private theorem prefix_push (table : Array Fork) (fork : Fork) :
    table.toList <+: (table.push fork).toList := by
  simp

/-- A node puts its forks behind those that are there. -/
theorem prefix_before (node : Node) (rest : Automaton) :
    rest.forks.toList <+: (node.before rest).forks.toList := by
  induction node generalizing rest with
  | empty | set alphabet members | assertion condition => exact List.prefix_refl _
  | sequence first second ihFirst ihSecond => exact (ihSecond rest).trans (ihFirst _)
  | choice first second ihFirst ihSecond =>
    exact ((ihSecond rest).trans (ihFirst ⟨rest.start, _⟩)).trans (prefix_push _ _)
  | capture index inside ih => exact ih (rest.after (.closeGroup index))
  | repetition bounds greedy inside ih =>
    obtain ⟨least, most⟩ := bounds
    cases most with
    | some most =>
      rw [before_bounded]
      refine List.IsPrefix.trans ?_ (Automaton.prefix_repeat ih _ _)
      exact Automaton.prefix_repeat (fun rest => (ih rest).trans (prefix_push _ _)) _ _
    | none =>
      have round : rest.forks.toList <+: (inside.round greedy rest).forks.toList :=
        (ih ⟨inside.again rest, rest.forks⟩).trans (prefix_push _ _)
      rw [before_unbounded]
      split
      · split
        · exact round
        · exact round.trans (prefix_push _ _)
      · exact round.trans (Automaton.prefix_repeat ih _ _)

end Node

/-- A path matches by a relation and then goes on as another path, with no more forks left
than before. -/
structure Path.Compiles (forks : Array Fork) (takes : Attempt → Attempt → Prop)
    (first rest : Path) : Prop where
  sound : ∀ count start stop, first.Completes forks count start stop →
    ∃ fewer middle, fewer ≤ count ∧ takes start middle ∧ rest.Completes forks fewer middle stop
  complete : ∀ count start middle stop, takes start middle →
    rest.Completes forks count middle stop → ∃ more, first.Completes forks more start stop

namespace Path.Compiles

variable {forks : Array Fork} {takes takes' : Attempt → Attempt → Prop} {first middle rest : Path}

theorem congr (h : Compiles forks takes first rest)
    (same : ∀ start stop, takes start stop ↔ takes' start stop) :
    Compiles forks takes' first rest := by
  obtain rfl : takes = takes' := by
    funext start stop
    exact propext (same start stop)
  exact h

theorem refl (path : Path) : Compiles forks (fun start stop => stop = start) path path where
  sound count start stop h := ⟨count, start, Nat.le_refl _, rfl, h⟩
  complete count start middle stop same h := ⟨count, by rwa [← same]⟩

theorem trans (h : Compiles forks takes first middle) (h' : Compiles forks takes' middle rest) :
    Compiles forks (fun start stop => ∃ place, takes start place ∧ takes' place stop) first
      rest where
  sound count start stop completes := by
    obtain ⟨fewer, place, less, taken, completes⟩ := h.sound count start stop completes
    obtain ⟨fewer', place', less', taken', completes⟩ := h'.sound fewer place stop completes
    exact ⟨fewer', place', Nat.le_trans less' less, ⟨place, taken, taken'⟩, completes⟩
  complete count start place stop taken completes := by
    obtain ⟨between, taken, taken'⟩ := taken
    obtain ⟨more, completes⟩ := h'.complete count between place stop taken' completes
    exact h.complete more start between stop taken completes

theorem step (step : Step) (path : Path) :
    Compiles forks (fun start stop => step.take start = some stop) (path.after step) path where
  sound count start stop completes := by
    obtain ⟨place, taken, completes⟩ := (completes_after step).mp completes
    exact ⟨count, place, Nat.le_refl _, taken, completes⟩
  complete count start place stop taken completes :=
    ⟨count, (completes_after step).mpr ⟨place, taken, completes⟩⟩

/-- A fork between two paths that go on alike. -/
theorem fork {index : Nat} {fork : Fork} (found : forks[index]? = some fork)
    (h : Compiles forks takes fork.preferred rest) (h' : Compiles forks takes' fork.other rest) :
    Compiles forks (fun start stop => takes start stop ∨ takes' start stop) (.toFork index)
      rest where
  sound count start stop completes := by
    obtain ⟨fewer, rfl, completes | completes⟩ := (completes_toFork found).mp completes
    · obtain ⟨fewer', place, less, taken, completes⟩ := h.sound fewer start stop completes
      exact ⟨fewer', place, Nat.le_succ_of_le less, .inl taken, completes⟩
    · obtain ⟨fewer', place, less, taken, completes⟩ := h'.sound fewer start stop completes
      exact ⟨fewer', place, Nat.le_succ_of_le less, .inr taken, completes⟩
  complete count start place stop taken completes := by
    rcases taken with taken | taken
    · obtain ⟨more, completes⟩ := h.complete count start place stop taken completes
      exact ⟨more + 1, (completes_toFork found).mpr ⟨more, rfl, .inl completes⟩⟩
    · obtain ⟨more, completes⟩ := h'.complete count start place stop taken completes
      exact ⟨more + 1, (completes_toFork found).mpr ⟨more, rfl, .inr completes⟩⟩

/-- A fork between a path and the way out, whichever is preferred. -/
theorem ofRound {index : Nat} {greedy : Bool} {round : Path}
    (found : forks[index]? = some (.ofRound greedy round rest))
    (h : Compiles forks takes round rest) :
    Compiles forks (fun start stop => takes start stop ∨ stop = start) (.toFork index) rest := by
  cases greedy with
  | true => exact fork found h (refl rest)
  | false => exact (fork found (refl rest) h).congr fun _ _ => or_comm

/-- After each round there is a fork to a further round or on. -/
theorem loop {index : Nat} {greedy : Bool} {round : Path}
    (found : forks[index]? = some (.ofRound greedy round rest))
    (h : Compiles forks takes round (.toFork index)) :
    Compiles forks (fun start stop => ∃ count, Rounds takes count start stop) (.toFork index)
      rest where
  sound count start stop completes := by
    induction count using Nat.strongRecOn generalizing start with
    | _ count ih =>
      obtain ⟨fewer, rfl, completes⟩ := (completes_toFork found).mp completes
      have either : round.Completes forks fewer start stop ∨
          rest.Completes forks fewer start stop := by
        cases greedy with
        | true => exact completes
        | false => exact completes.symm
      rcases either with completes | completes
      · obtain ⟨fewer', place, less, taken, completes⟩ := h.sound fewer start stop completes
        obtain ⟨last, place', less', ⟨rounds, others⟩, completes⟩ :=
          ih fewer' (Nat.lt_succ_of_le less) place completes
        exact ⟨last, place', by omega, ⟨rounds + 1, place, taken, others⟩, completes⟩
      · exact ⟨fewer, start, Nat.le_succ _, ⟨0, rfl⟩, completes⟩
  complete count start place stop taken completes := by
    have leads {fewer : Nat} {start : Attempt}
        (completes : round.Completes forks fewer start stop ∨
          rest.Completes forks fewer start stop) :
        ∃ more, (toFork index).Completes forks more start stop := by
      refine ⟨fewer + 1, (completes_toFork found).mpr ⟨fewer, rfl, ?_⟩⟩
      cases greedy with
      | true => exact completes
      | false => exact completes.symm
    obtain ⟨rounds, taken⟩ := taken
    induction rounds generalizing start with
    | zero =>
      obtain rfl : place = start := taken
      exact leads (.inr completes)
    | succ rounds ih =>
      obtain ⟨between, first, others⟩ := taken
      obtain ⟨more, further⟩ := ih between others
      obtain ⟨more', completes'⟩ := h.complete more start between stop first further
      exact leads (.inl completes')

end Path.Compiles

namespace Node

open Stencil.Regex.Path

variable {forks : Array Fork} {takes : Attempt → Attempt → Prop}

private theorem compiles_repeat {step : Automaton → Automaton}
    (grows : ∀ rest, rest.forks.toList <+: (step rest).forks.toList)
    (once : ∀ rest, (step rest).PartOf forks →
      Compiles forks takes (step rest).start rest.start)
    (rounds : Nat) {rest : Automaton} (part : (Nat.repeat step rounds rest).PartOf forks) :
    Compiles forks (Rounds takes rounds) (Nat.repeat step rounds rest).start rest.start := by
  induction rounds with
  | zero => exact .refl _
  | succ rounds ih => exact (once _ part).trans (ih ((grows _).trans part))

/-- Rounds with a way out before each of them. -/
private theorem compiles_rounds {inside : Node}
    (once : ∀ rest, (inside.before rest).PartOf forks →
      Compiles forks takes (inside.before rest).start rest.start)
    (greedy : Bool) (rounds : Nat) {rest : Automaton}
    (part : (Nat.repeat (fun next => (inside.before next).orExit greedy rest.start) rounds
      rest).PartOf forks) :
    Compiles forks (fun start stop => ∃ count ≤ rounds, Rounds takes count start stop)
      (Nat.repeat (fun next => (inside.before next).orExit greedy rest.start) rounds rest).start
      rest.start := by
  induction rounds with
  | zero =>
    apply (Compiles.refl _).congr
    intro start stop
    constructor
    · intro same
      exact ⟨0, Nat.le_refl _, same⟩
    · intro holds
      rcases holds with ⟨count, none, taken⟩
      obtain rfl := Nat.le_zero.mp none
      exact taken
  | succ rounds ih =>
    obtain ⟨table, found⟩ := Automaton.partOf_addFork part
    have round := (once _ table).trans (ih ((prefix_before inside _).trans table))
    apply (Compiles.ofRound found round).congr
    intro start stop
    constructor
    · intro holds
      rcases holds with ⟨place, first, count, less, others⟩ | same
      · exact ⟨count + 1, Nat.succ_le_succ less, place, first, others⟩
      · exact ⟨0, Nat.zero_le _, same⟩
    · intro holds
      rcases holds with ⟨count, less, taken⟩
      cases count with
      | zero => exact .inr taken
      | succ count =>
        obtain ⟨place, first, others⟩ := taken
        exact .inl ⟨place, first, count, Nat.le_of_succ_le_succ less, others⟩

/-- The fork after a round leads to any number of further rounds, and the round before it to
one more. -/
private theorem compiles_round {inside : Node}
    (once : ∀ rest, (inside.before rest).PartOf forks →
      Compiles forks inside.Takes (inside.before rest).start rest.start)
    {greedy : Bool} {rest : Automaton} (part : (inside.round greedy rest).PartOf forks) :
    Compiles forks (fun start stop => ∃ count, Rounds inside.Takes count start stop)
        (inside.again rest) rest.start ∧
      Compiles forks (fun start stop => ∃ count, Rounds inside.Takes (count + 1) start stop)
        (inside.round greedy rest).start rest.start := by
  obtain ⟨first, found⟩ := Automaton.partOf_addFork part
  rw [size_forks_before] at found
  have round : Compiles forks inside.Takes
      (inside.before ⟨inside.again rest, rest.forks⟩).start (inside.again rest) := once _ first
  have loop := Compiles.loop found round
  refine ⟨loop, ?_⟩
  apply (round.trans loop).congr
  intro start stop
  constructor
  · intro holds
    rcases holds with ⟨place, taken, count, others⟩
    exact ⟨count, place, taken, others⟩
  · intro holds
    rcases holds with ⟨count, place, taken, others⟩
    exact ⟨place, taken, count, others⟩

private theorem compiles_unbounded {inside : Node}
    (once : ∀ rest, (inside.before rest).PartOf forks →
      Compiles forks inside.Takes (inside.before rest).start rest.start)
    {least : Nat} {greedy : Bool} {rest : Automaton}
    (part : ((repetition ⟨least, none⟩ greedy inside).before rest).PartOf forks) :
    Compiles forks (repetition ⟨least, none⟩ greedy inside).Takes
      ((repetition ⟨least, none⟩ greedy inside).before rest).start rest.start := by
  rw [before_unbounded] at part ⊢
  by_cases zero : least = 0
  · subst zero
    rw [if_pos rfl] at part ⊢
    by_cases consumes : inside.consumes
    · rw [if_pos consumes] at part ⊢
      apply (compiles_round once part).1.congr
      intro start stop
      simp [takes_unbounded]
    · rw [if_neg consumes] at part ⊢
      obtain ⟨table, found⟩ := Automaton.partOf_addFork part
      have rounds := (compiles_round once table).2
      apply (Compiles.ofRound found rounds).congr
      intro start stop
      rw [takes_unbounded]
      constructor
      · intro holds
        rcases holds with ⟨count, taken⟩ | same
        · exact ⟨count + 1, Nat.zero_le _, taken⟩
        · exact ⟨0, Nat.le_refl _, same⟩
      · intro holds
        rcases holds with ⟨_ | count, _, taken⟩
        · exact .inr taken
        · exact .inl ⟨count, taken⟩
  · rw [if_neg zero] at part ⊢
    have table := (Automaton.prefix_repeat (prefix_before inside) _ _).trans part
    have rounds := (compiles_round once table).2
    have early := compiles_repeat (prefix_before inside) once _ part
    apply (early.trans rounds).congr
    intro start stop
    rw [takes_unbounded]
    constructor
    · intro holds
      rcases holds with ⟨place, taken, count, others⟩
      refine ⟨least - 1 + (count + 1), by omega, ?_⟩
      exact rounds_add.mpr ⟨place, taken, others⟩
    · intro holds
      rcases holds with ⟨count, enough, taken⟩
      obtain ⟨more, rfl⟩ : ∃ more, count = least - 1 + (more + 1) :=
        ⟨count - least, by omega⟩
      obtain ⟨place, taken, others⟩ := rounds_add.mp taken
      exact ⟨place, taken, more, others⟩

private theorem compiles_bounded {inside : Node}
    (once : ∀ rest, (inside.before rest).PartOf forks →
      Compiles forks inside.Takes (inside.before rest).start rest.start)
    {least most : Nat} {greedy : Bool} {rest : Automaton}
    (part : ((repetition ⟨least, some most⟩ greedy inside).before rest).PartOf forks) :
    Compiles forks (repetition ⟨least, some most⟩ greedy inside).Takes
      ((repetition ⟨least, some most⟩ greedy inside).before rest).start rest.start := by
  rw [before_bounded] at part ⊢
  have table := (Automaton.prefix_repeat (prefix_before inside) _ _).trans part
  have extra := compiles_rounds once greedy (most - least) table
  have early := compiles_repeat (prefix_before inside) once least part
  apply (early.trans extra).congr
  intro start stop
  rw [takes_bounded]
  constructor
  · intro holds
    rcases holds with ⟨place, taken, count, less, others⟩
    exact ⟨least + count, by omega, by omega, rounds_add.mpr ⟨place, taken, others⟩⟩
  · intro holds
    rcases holds with ⟨count, enough, less, taken⟩
    obtain ⟨more, rfl⟩ := Nat.exists_eq_add_of_le enough
    obtain ⟨place, taken, others⟩ := rounds_add.mp taken
    exact ⟨place, taken, more, by omega, others⟩

/-- The automaton of a node matches as the node does. -/
theorem compiles_before (node : Node) {rest : Automaton} (part : (node.before rest).PartOf forks) :
    Compiles forks node.Takes (node.before rest).start rest.start := by
  induction node generalizing rest with
  | empty => exact .refl _
  | set alphabet members => exact Compiles.step (.move members) rest.start
  | assertion condition =>
    apply (Compiles.step (.check condition) rest.start).congr
    intro start stop
    rw [Step.take, Takes]
    by_cases holds : condition.holdsAt start.place
    · simp [holds, eq_comm]
    · simp [holds]
  | sequence first second ihFirst ihSecond =>
    have later := ihSecond ((prefix_before first _).trans part)
    exact (ihFirst part).trans later
  | choice first second ihFirst ihSecond =>
    obtain ⟨table, found⟩ := Automaton.partOf_addFork part
    have other := ihSecond ((prefix_before first ⟨rest.start, _⟩).trans table)
    exact Compiles.fork found (ihFirst table) other
  | capture index inside ih =>
    have inner := (ih part).trans (Compiles.step (.closeGroup index) rest.start)
    apply ((Compiles.step .openGroup _).trans inner).congr
    intro start stop
    rw [Takes]
    constructor
    · intro holds
      rcases holds with ⟨opened, same, middle, taken, same'⟩
      cases same
      cases same'
      exact ⟨middle, taken, rfl⟩
    · intro holds
      rcases holds with ⟨middle, taken, rfl⟩
      exact ⟨start.openGroup, rfl, middle, taken, rfl⟩
  | repetition bounds greedy inside ih =>
    have once (rest : Automaton) (part : (inside.before rest).PartOf forks) := ih part
    obtain ⟨least, _ | most⟩ := bounds
    · exact compiles_unbounded once part
    · exact compiles_bounded once part

end Node

end Stencil.Regex
