import Stencil.Regex.Pattern.Basic
import Stencil.Regex.SyntaxFault
/-!
# Lexemes of an expression

A lexeme is a whole item, such as a character, an escape or a bracketed class, or a
mark of the tree: a parenthesis, a bar or a quantifier. Each is read from the front
of the text and leaves the text after it, which is always a suffix of it. In a verbose
expression blanks may stand between items and in some of them.
-/
namespace Stencil.Regex

inductive Lexeme where
  | atom (atom : Atom)
  | flags (change : FlagChange)
  | openCapture (name : Option String)
  | openGroup (change : FlagChange)
  | close
  | bar
  | quantifier (bounds : Bounds) (greedy : Bool)
deriving DecidableEq

namespace Lexeme

/-- Takes blanks off the front: white space, and comments from a number sign to the end of
its line. -/
def skipBlanks (inComment : Bool) : List Char → List Char
  | [] => []
  | c :: rest =>
    if inComment then skipBlanks (c != '\n') rest
    else if c == '#' then skipBlanks true rest
    else if isSpace c then skipBlanks false rest
    else c :: rest

/-- The text after the blanks at its front, if blanks mean nothing. -/
def trim (verbose : Bool) (text : List Char) : List Char :=
  if verbose then skipBlanks false text else text

/-- Takes characters off the front as long as they pass a test, and the blanks among them. -/
def takeSpelled (verbose : Bool) (test : Char → Bool) (inComment : Bool) :
    List Char → List Char × List Char
  | [] => ([], [])
  | c :: rest =>
    if inComment then takeSpelled verbose test (c != '\n') rest
    else if verbose && c == '#' then takeSpelled verbose test true rest
    else if verbose && isSpace c then takeSpelled verbose test false rest
    else if test c then
      let (taken, rest) := takeSpelled verbose test false rest
      (c :: taken, rest)
    else ([], c :: rest)

theorem skipBlanks_suffix (inComment : Bool) (text : List Char) :
    skipBlanks inComment text <:+ text := by
  induction text generalizing inComment with
  | nil => exact List.suffix_refl _
  | cons c rest ih =>
    unfold skipBlanks
    split
    · exact (ih _).trans (List.suffix_cons _ _)
    split
    · exact (ih _).trans (List.suffix_cons _ _)
    split
    · exact (ih _).trans (List.suffix_cons _ _)
    · exact List.suffix_refl _

theorem trim_suffix (verbose : Bool) (text : List Char) : trim verbose text <:+ text := by
  cases verbose with
  | false => exact List.suffix_refl _
  | true => exact skipBlanks_suffix false text

@[simp] theorem trim_false (text : List Char) : trim false text = text := rfl

theorem takeSpelled_suffix (verbose : Bool) (test : Char → Bool) (inComment : Bool)
    (text : List Char) : (takeSpelled verbose test inComment text).2 <:+ text := by
  induction text generalizing inComment with
  | nil => exact List.suffix_refl _
  | cons c rest ih =>
    unfold takeSpelled
    split
    · exact (ih _).trans (List.suffix_cons _ _)
    split
    · exact (ih _).trans (List.suffix_cons _ _)
    split
    · exact (ih _).trans (List.suffix_cons _ _)
    split
    · exact (ih _).trans (List.suffix_cons _ _)
    · exact List.suffix_refl _

theorem suffix_of_dropWhile {p : Char → Bool} {text rest : List Char} {c : Char}
    (h : text.dropWhile p = c :: rest) : rest <:+ text :=
  (List.suffix_cons c rest).trans (h ▸ List.dropWhile_suffix p)

end Lexeme

end Stencil.Regex
