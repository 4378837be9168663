import Stencil.Regex.Lexeme.Brackets
import Stencil.Regex.Lexeme.Count
import Stencil.Regex.Lexeme.GroupHead
/-!
# Reading a lexeme

The first character tells which lexeme stands at the front of the text.
-/
namespace Stencil.Regex.Lexeme

/-- Reads the lexeme that starts with `c`. -/
def read (verbose : Bool) (c : Char) (rest : List Char) :
    Except SyntaxFault (Lexeme × List Char) :=
  match c with
  | '\\' => (readEscape verbose rest).map fun (found, rest) => (.atom found, rest)
  | '[' => (readClass verbose rest).map fun (found, rest) => (.atom found, rest)
  | '\x7b' => readCount verbose rest
  | '(' => readGroupHead verbose rest
  | ')' => .ok (.close, rest)
  | '|' => .ok (.bar, rest)
  | '*' => .ok (quantify .any rest)
  | '+' => .ok (quantify .atLeastOne rest)
  | '?' => .ok (quantify .atMostOne rest)
  | '.' => .ok (.atom .anyCharacter, rest)
  | '^' => .ok (.atom .caret, rest)
  | '$' => .ok (.atom .dollar, rest)
  | _ => .ok (.atom (.character c), rest)

theorem read_suffix {verbose : Bool} {c : Char} {text rest : List Char} {found : Lexeme}
    (h : read verbose c text = .ok (found, rest)) : rest <:+ text := by
  unfold read at h
  split at h
  · obtain ⟨⟨item, after⟩, read, same⟩ := map_eq_ok h
    cases same
    exact readEscape_suffix read
  · obtain ⟨⟨item, after⟩, read, same⟩ := map_eq_ok h
    cases same
    exact readClass_suffix read
  · exact readCount_suffix h
  · exact readGroupHead_suffix h
  · cases h
    exact List.suffix_refl _
  · cases h
    exact List.suffix_refl _
  · have mark := quantify_suffix .any text
    rw [Except.ok.inj h] at mark
    exact mark
  · have mark := quantify_suffix .atLeastOne text
    rw [Except.ok.inj h] at mark
    exact mark
  · have mark := quantify_suffix .atMostOne text
    rw [Except.ok.inj h] at mark
    exact mark
  all_goals
    cases h
    exact List.suffix_refl _

end Stencil.Regex.Lexeme
