import Stencil.Proofs.Regex.Pieces
import Stencil.Template.Expression
/-!
# Assembling an expression

The expression of a template is put together from texts that are expressions on their
own. This file says what each way of putting them together builds: one text behind
another, an optional group, anchors, and escaped characters.
-/
namespace Stencil

theorem Template.anchor_eq (text : List Char) :
    anchor text = '^' :: '(' :: '?' :: ':' :: (text ++ [')', '$']) := by
  simp [anchor]

namespace Regex

/-- A text that is read without regard to blanks up to its end, closes its groups, and
leaves a content and the names of its groups, the latest first. -/
def Builds (text : List Char) (content : Content) (names : List String) : Prop :=
  ∃ lexemes, Progress.Reads {} text lexemes ⟨{}, ⟨content, [], names⟩⟩

namespace Builds

open Progress

variable {text more : List Char} {content content' : Content} {names names' : List String}

theorem nil : Builds [] {} [] :=
  ⟨[], .nil {}⟩

theorem apart (h : Builds text content names) : Lexeme.Apart false text := by
  obtain ⟨lexemes, reads⟩ := h
  exact reads.apart

theorem read (h : Builds text content names) : Pattern.read text =
    if content.toPattern.depth ≤ Pattern.depthLimit then .ok content.toPattern
    else .error .tooDeep := by
  obtain ⟨lexemes, reads⟩ := h
  exact reads.read rfl

/-- In any other text a piece does what it does alone. -/
theorem within (h : Builds text content names) {before : Progress}
    (plain : before.verbosity.verbose = false)
    (fresh : ∀ name ∈ names, name ∉ before.builder.names) :
    ∃ lexemes whole, before.builder.content.Continues content whole ∧
      before.Reads text lexemes ⟨before.verbosity,
        ⟨whole, before.builder.enclosing, names ++ before.builder.names⟩⟩ := by
  obtain ⟨lexemes, reads⟩ := h
  obtain ⟨⟨verbose, around⟩, builder⟩ := before
  obtain rfl : verbose = false := plain
  obtain ⟨whole, continues, reads'⟩ := reads.within rfl rfl fresh
  exact ⟨lexemes, whole, continues, reads'⟩

/-- Text behind a piece continues what the piece builds. -/
theorem append (h : Builds text content names) (h' : Builds more content' names')
    (fresh : ∀ name ∈ names', name ∉ names) :
    ∃ whole, content.Continues content' whole ∧ Builds (text ++ more) whole (names' ++ names) := by
  have apart := h'.apart
  obtain ⟨lexemes, reads⟩ := h
  let middle : Progress := ⟨{}, ⟨content, [], names⟩⟩
  have plain : middle.verbosity.verbose = false := rfl
  obtain ⟨following, whole, continues, further⟩ := h'.within plain fresh
  exact ⟨whole, continues, lexemes ++ following, reads.append further rfl apart⟩

theorem read_open {rest : List Char} (apart : Lexeme.Apart false rest) :
    Lexeme.read false '(' rest = .ok (.openCapture none, rest) := by
  change Lexeme.readGroupHead false rest = _
  unfold Lexeme.readGroupHead
  rw [Lexeme.trim_false]
  have mark := (Lexeme.apart_false.mp apart).1
  split
  · simp at mark
  · simp at mark
  · simp at mark
  · rfl

/-- A group around an expression that repeats once at most. -/
theorem optional (h : Builds text content names) : Builds ('(' :: text ++ [')', '?'])
    ⟨[], [.repetition .atMostOne true (.capture content.toPattern)]⟩ names := by
  have begins : Lexeme.Apart false (text ++ [')', '?']) :=
    h.apart.append (by simp [Lexeme.apart_false])
  let opened : Progress := ⟨⟨false, [false]⟩, ⟨{}, [(.capture, {})], []⟩⟩
  let shut : Progress := ⟨{}, ⟨⟨[], [.capture content.toPattern]⟩, [], names⟩⟩
  let last : Progress := ⟨{},
    ⟨⟨[], [.repetition .atMostOne true (.capture content.toPattern)]⟩, [], names⟩⟩
  have plain : opened.verbosity.verbose = false := rfl
  obtain ⟨lexemes, whole, continues, inside⟩ := h.within plain fun name _ => List.not_mem_nil
  obtain rfl := continues.eq_of_start
  rw [show names ++ opened.builder.names = names from List.append_nil _] at inside
  have repeated : shut.Reads ['?'] [.quantifier .atMostOne true] last :=
    .cons rfl rfl (.nil last) rfl rfl
  have group : opened.Reads (text ++ [')', '?'])
      (lexemes ++ [.close, .quantifier .atMostOne true]) last :=
    .append inside (.cons rfl rfl repeated rfl rfl) rfl (by simp [Lexeme.apart_false])
  exact ⟨_, .cons rfl (read_open begins) group rfl rfl⟩

/-- Anchors around an expression make a group of it. -/
theorem anchor (h : Builds text content names) : Builds (Template.anchor text)
    ⟨[], [.atom .dollar, .group {} content.toPattern, .atom .caret]⟩ names := by
  let caret : Progress := ⟨{}, ⟨⟨[], [.atom .caret]⟩, [], []⟩⟩
  let opened : Progress := ⟨⟨false, [false]⟩, caret.builder.openGroup (.plain {})⟩
  let shut : Progress := ⟨{}, ⟨⟨[], [.group {} content.toPattern, .atom .caret]⟩, [], names⟩⟩
  let last : Progress := ⟨{},
    ⟨⟨[], [.atom .dollar, .group {} content.toPattern, .atom .caret]⟩, [], names⟩⟩
  have plain : opened.verbosity.verbose = false := rfl
  obtain ⟨lexemes, whole, continues, inside⟩ := h.within plain fun name _ => List.not_mem_nil
  obtain rfl := continues.eq_of_start
  rw [show names ++ opened.builder.names = names from List.append_nil _] at inside
  have dollar : shut.Reads ['$'] [.atom .dollar] last := .cons rfl rfl (.nil last) rfl rfl
  have group : opened.Reads (text ++ [')', '$']) (lexemes ++ [.close, .atom .dollar]) last :=
    .append inside (.cons rfl rfl dollar rfl rfl) rfl (by simp [Lexeme.apart_false])
  rw [Template.anchor_eq]
  exact ⟨_, .cons rfl rfl (.cons rfl rfl group rfl rfl) rfl rfl⟩

private theorem read_mark {c : Char} (mark : c ∈ expressionMarks) (rest : List Char) :
    Lexeme.read false '\\' (c :: rest) = .ok (.atom (.character c), rest) := by
  simp only [expressionMarks, List.mem_cons, List.not_mem_nil, or_false] at mark
  rcases mark with rfl | rfl | rfl | rfl | rfl | rfl | rfl | rfl | rfl | rfl | rfl | rfl | rfl |
    rfl | rfl | rfl | rfl | rfl <;> rfl

private theorem read_character {c : Char} (mark : c ∉ expressionMarks) (rest : List Char) :
    Lexeme.read false c rest = .ok (.atom (.character c), rest) := by
  simp only [expressionMarks, List.mem_cons, List.not_mem_nil, or_false, not_or] at mark
  rw [Lexeme.read.eq_13] <;> simp [mark]

/-- Escaped text stands for its characters, one by one. -/
theorem escape (text : List Char) : Builds (Stencil.escape text)
    ⟨[], (text.map fun c => Pattern.atom (.character c)).reverse⟩ [] := by
  have reads (earlier : List Pattern) : Progress.Reads ⟨{}, ⟨⟨[], earlier⟩, [], []⟩⟩
      (Stencil.escape text) (text.map fun c => .atom (.character c))
      ⟨{}, ⟨⟨[], (text.map fun c => Pattern.atom (.character c)).reverse ++ earlier⟩, [], []⟩⟩ := by
    induction text generalizing earlier with
    | nil => exact .nil _
    | cons c text ih =>
      have further := ih (.atom (.character c) :: earlier)
      rw [List.map_cons, List.map_cons, List.reverse_cons, List.append_assoc]
      by_cases mark : c ∈ expressionMarks
      · have front : Stencil.escape (c :: text) = '\\' :: c :: Stencil.escape text := by
          simp [Stencil.escape, mark]
        rw [front]
        exact .cons rfl (read_mark mark _) further rfl rfl
      · have front : Stencil.escape (c :: text) = c :: Stencil.escape text := by
          simp [Stencil.escape, mark]
        rw [front]
        exact .cons rfl (read_character mark _) further rfl rfl
  have whole := reads []
  rw [List.append_nil] at whole
  exact ⟨_, whole⟩

end Builds

end Regex

end Stencil
