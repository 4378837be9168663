import Stencil.Regex.Lexeme.Read
/-!
# The lexemes of a text

A text is read lexeme by lexeme until nothing is left of it, or until one is at fault.
Whether blanks mean anything is settled group by group, so it is kept for each group
that is open.
-/
namespace Stencil.Regex

/-- Whether the expression is verbose at a place, and where each of the groups around it
stands, from the inside out. -/
structure Verbosity where
  verbose : Bool := false
  enclosing : List Bool := []
deriving DecidableEq

namespace Verbosity

/-- What holds after a lexeme. -/
def after (verbosity : Verbosity) : Lexeme → Verbosity
  | .flags change => { verbosity with verbose := change.verbose.getD verbosity.verbose }
  | .openCapture _ => { verbosity with enclosing := verbosity.verbose :: verbosity.enclosing }
  | .openGroup change =>
    ⟨change.verbose.getD verbosity.verbose, verbosity.verbose :: verbosity.enclosing⟩
  | .close =>
    match verbosity.enclosing with
    | [] => verbosity
    | outer :: enclosing => ⟨outer, enclosing⟩
  | _ => verbosity

end Verbosity

namespace Lexeme

/-- Reads a whole text as lexemes. -/
def readAll (verbosity : Verbosity) (text : List Char) : Except SyntaxFault (List Lexeme) :=
  match _front : trim verbosity.verbose text with
  | [] => .ok []
  | c :: rest =>
    match _found : read verbosity.verbose c rest with
    | .error fault => .error fault
    | .ok (lexeme, after) =>
      (readAll (verbosity.after lexeme) after).map fun following => lexeme :: following
termination_by text.length
decreasing_by
  have := (trim_suffix verbosity.verbose text).length_le
  have := (read_suffix _found).length_le
  simp only [_front, List.length_cons] at *
  omega

theorem readAll_of_trim_eq_nil {verbosity : Verbosity} {text : List Char}
    (h : trim verbosity.verbose text = []) : readAll verbosity text = .ok [] := by
  rw [readAll]
  split <;> simp_all

theorem readAll_of_ok {verbosity : Verbosity} {text rest after : List Char} {c : Char}
    {lexeme : Lexeme} (front : trim verbosity.verbose text = c :: rest)
    (h : read verbosity.verbose c rest = .ok (lexeme, after)) :
    readAll verbosity text =
      (readAll (verbosity.after lexeme) after).map fun following => lexeme :: following := by
  rw [readAll]
  split
  · simp_all
  · rename_i same
    cases front.symm.trans same
    split <;> simp_all

theorem readAll_of_error {verbosity : Verbosity} {text rest : List Char} {c : Char}
    {fault : SyntaxFault} (front : trim verbosity.verbose text = c :: rest)
    (h : read verbosity.verbose c rest = .error fault) :
    readAll verbosity text = .error fault := by
  rw [readAll]
  split
  · simp_all
  · rename_i same
    cases front.symm.trans same
    split <;> simp_all

end Lexeme

end Stencil.Regex
