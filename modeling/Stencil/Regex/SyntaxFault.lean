/-!
# Faults in an expression

What can keep a text from being an expression, one cause for each rule of the grammar.
Readers chain: a chain succeeds only if each of its readers does.
-/
namespace Stencil.Regex

/-- Why a text is no expression. -/
inductive SyntaxFault where
  | unfinishedEscape
  | unknownEscape (c : Char)
  | malformedCode
  | malformedWordEdge
  | malformedProperty
  | unknownProperty (name : String)
  | outsideAlphabet
  | unclosedClass
  | assertionInClass
  | classEndsRange
  | reversedRange (low high : Char)
  | unclosedCount
  | malformedCount
  | reversedCount (least most : Nat)
  | unclosedGroup
  | unopenedGroup
  | malformedGroupName
  | repeatedGroupName (name : String)
  | malformedFlags
  | repeatedFlag (flag : Char)
  | unknownFlag (flag : Char)
  | nothingToRepeat
  | tooDeep
deriving DecidableEq

namespace SyntaxFault

def message : SyntaxFault → String
  | unfinishedEscape => "a backslash ends the expression"
  | unknownEscape c => "unknown escape of `" ++ c.toString ++ "`"
  | malformedCode => "a number stands for no character"
  | malformedWordEdge => "malformed word edge"
  | malformedProperty => "malformed property of characters"
  | unknownProperty name => "unknown property of characters `" ++ name ++ "`"
  | outsideAlphabet => "an item goes beyond ASCII"
  | unclosedClass => "unclosed character class"
  | assertionInClass => "an assertion stands in a character class"
  | classEndsRange => "a named class ends a range"
  | reversedRange low high =>
    "the range from `" ++ low.toString ++ "` to `" ++ high.toString ++ "` is reversed"
  | unclosedCount => "unclosed repetition count"
  | malformedCount => "malformed repetition count"
  | reversedCount least most =>
    "the repetition count from " ++ toString least ++ " to " ++ toString most ++ " is reversed"
  | unclosedGroup => "unclosed group"
  | unopenedGroup => "unopened group"
  | malformedGroupName => "malformed group name"
  | repeatedGroupName name => "the group name `" ++ name ++ "` is used twice"
  | malformedFlags => "malformed flags"
  | repeatedFlag flag => "the flag `" ++ flag.toString ++ "` is switched twice"
  | unknownFlag flag => "unknown flag `" ++ flag.toString ++ "`"
  | nothingToRepeat => "there is nothing to repeat"
  | tooDeep => "the expression is nested too deeply"

end SyntaxFault

theorem bind_eq_ok {ε α β : Type} {first : Except ε α} {next : α → Except ε β}
    {value : β} (h : (first >>= next) = .ok value) : ∃ x, first = .ok x ∧ next x = .ok value := by
  cases first with
  | error fault => cases h
  | ok x => exact ⟨x, rfl, h⟩

theorem map_eq_ok {ε α β : Type} {first : Except ε α} {f : α → β} {value : β}
    (h : first.map f = .ok value) : ∃ x, first = .ok x ∧ f x = value := by
  cases first with
  | error fault => cases h
  | ok x => exact ⟨x, rfl, Except.ok.inj h⟩

end Stencil.Regex
