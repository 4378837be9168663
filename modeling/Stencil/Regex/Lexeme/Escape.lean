import Stencil.Regex.Lexeme.Basic
import Stencil.Regex.Property.Lookup
import Stencil.Text.Hexadecimal
/-!
# Escapes

What follows a backslash: a mark that is to be taken literally, the number of a
character, a named class, a property of characters, or an assertion.
-/
namespace Stencil.Regex.Lexeme

/-- ASCII characters that a backslash takes literally: all but letters, digits and
angle brackets. -/
def isEscapable (c : Char) : Bool :=
  c.toNat < 128 && !c.isAlphanum && c != '<' && c != '>'

/-- What a character stands for after a backslash. -/
def escaped (c : Char) : Except SyntaxFault Atom :=
  if isEscapable c then .ok (.character c)
  else match c with
    | 'd' => .ok (.set .digits 0)
    | 'D' => .ok (.set (.complement .digits) 0)
    | 's' => .ok (.set .spaces 0)
    | 'S' => .ok (.set (.complement .spaces) 0)
    | 'w' => .ok (.set .words 0)
    | 'W' => .ok (.set (.complement .words) 0)
    | 'a' => .ok (.character '\x07')
    | 'f' => .ok (.character '\x0c')
    | 't' => .ok (.character '\t')
    | 'n' => .ok (.character '\n')
    | 'r' => .ok (.character '\r')
    | 'v' => .ok (.character '\x0b')
    | 'A' => .ok .textStart
    | 'z' => .ok .textEnd
    | 'B' => .ok (.word .noBoundary)
    | '<' => .ok (.word .start)
    | '>' => .ok (.word .stop)
    | _ => .error (.unknownEscape c)

/-- The character that hexadecimal digits number. -/
def characterOf (digits : List Char) : Except SyntaxFault Char :=
  let code := Text.hexValue digits
  if code.isValidChar then .ok (Char.ofNat code) else .error .malformedCode

/-- Takes a certain number of hexadecimal digits. -/
def readHexDigits (verbose : Bool) : Nat → List Char → Except SyntaxFault (List Char × List Char)
  | 0, text => .ok ([], text)
  | _ + 1, [] => .error .malformedCode
  | count + 1, c :: rest =>
    if Text.isHexDigit c then
      (readHexDigits verbose count (trim verbose rest)).map fun (digits, rest) =>
        (c :: digits, rest)
    else .error .malformedCode

/-- Reads the number of a character: as many digits as given, or any between braces. -/
def readCode (verbose : Bool) (count : Nat) (ofDigits : Char → Atom) (text : List Char) :
    Except SyntaxFault (Atom × List Char) :=
  match trim verbose text with
  | '\x7b' :: inside =>
    match takeSpelled verbose (· != '\x7d') false inside with
    | (_, []) => .error .malformedCode
    | (digits, _ :: rest) =>
      if digits.isEmpty || !digits.all Text.isHexDigit then .error .malformedCode
      else (characterOf digits).map fun c => (.character c, trim verbose rest)
  | text => do
    let (digits, rest) ← readHexDigits verbose count text
    (characterOf digits).map fun c => (ofDigits c, rest)

def isEdgeLetter (c : Char) : Bool :=
  c.isAlpha || c == '-'

def wordEdge? : String → Option WordEdge
  | "start" => some .start
  | "end" => some .stop
  | "start-half" => some .startHalf
  | "end-half" => some .stopHalf
  | _ => none

/-- Reads which edge of a word is meant. Braces that hold no letter do not name an edge; they
are left for a repetition count. -/
def readWordEdge (verbose : Bool) : List Char → Except SyntaxFault (WordEdge × List Char)
  | '\x7b' :: inside =>
    if ((trim verbose inside).head?.all isEdgeLetter) then
      match takeSpelled verbose isEdgeLetter false inside with
      | (name, '\x7d' :: rest) =>
        match wordEdge? (String.ofList name) with
        | some edge => .ok (edge, rest)
        | none => .error .malformedWordEdge
      | _ => .error .malformedWordEdge
    else .ok (.boundary, '\x7b' :: inside)
  | text => .ok (.boundary, text)

/-- The set of the characters with a property, or of those without it. -/
def propertySet (negated : Bool) (name : List Char) : Except SyntaxFault Atom :=
  match Property.named? name with
  | some members => .ok (.set (.complementIf negated (.property members)) 0)
  | none => .error (.unknownProperty (String.ofList name))

/-- Reads a property of characters: one letter, or a name between braces. -/
def readProperty (verbose negated : Bool) (text : List Char) :
    Except SyntaxFault (Atom × List Char) :=
  match trim verbose text with
  | [] | '\\' :: _ => .error .malformedProperty
  | '\x7b' :: inside =>
    match takeSpelled verbose (· != '\x7d') false inside with
    | (_, []) => .error .malformedProperty
    | (name, _ :: rest) => (propertySet negated name).map fun atom => (atom, rest)
  | c :: rest => (propertySet negated [c]).map fun atom => (atom, trim verbose rest)

/-- Reads what follows a backslash. -/
def readEscape (verbose : Bool) : List Char → Except SyntaxFault (Atom × List Char)
  | [] => .error .unfinishedEscape
  | 'x' :: rest => readCode verbose 2 .byte rest
  | 'u' :: rest => readCode verbose 4 .character rest
  | 'U' :: rest => readCode verbose 8 .character rest
  | 'p' :: rest => readProperty verbose false rest
  | 'P' :: rest => readProperty verbose true rest
  | 'b' :: rest => (readWordEdge verbose rest).map fun (edge, rest) => (.word edge, rest)
  | c :: rest => (escaped c).map fun atom => (atom, rest)

theorem readHexDigits_suffix {verbose : Bool} {count : Nat} {text digits rest : List Char}
    (h : readHexDigits verbose count text = .ok (digits, rest)) : rest <:+ text := by
  induction count generalizing text digits with
  | zero =>
    cases h
    exact List.suffix_refl _
  | succ count ih =>
    cases text with
    | nil => cases h
    | cons c tail =>
      unfold readHexDigits at h
      split at h
      · obtain ⟨⟨more, after⟩, read, same⟩ := map_eq_ok h
        cases same
        exact ((ih read).trans (trim_suffix verbose tail)).trans (List.suffix_cons _ _)
      · cases h

private theorem suffix_of_takeSpelled {verbose : Bool} {test : Char → Bool}
    {text taken rest : List Char} {c : Char}
    (h : takeSpelled verbose test false text = (taken, c :: rest)) : rest <:+ text :=
  (List.suffix_cons c rest).trans (h ▸ takeSpelled_suffix verbose test false text :)

theorem readCode_suffix {verbose : Bool} {count : Nat} {ofDigits : Char → Atom}
    {text rest : List Char} {found : Atom}
    (h : readCode verbose count ofDigits text = .ok (found, rest)) : rest <:+ text := by
  have behind := trim_suffix verbose text
  unfold readCode at h
  split at h
  · rename_i inside front
    rw [front] at behind
    have inner := (List.suffix_cons _ _).trans behind
    split at h
    · cases h
    · rename_i taken
      split at h
      · cases h
      · obtain ⟨_, _, same⟩ := map_eq_ok h
        cases same
        exact ((trim_suffix verbose _).trans (suffix_of_takeSpelled taken)).trans inner
  · obtain ⟨⟨digits, after⟩, read, h⟩ := bind_eq_ok h
    obtain ⟨_, _, same⟩ := map_eq_ok h
    cases same
    exact (readHexDigits_suffix read).trans behind

theorem readWordEdge_suffix {verbose : Bool} {text rest : List Char} {found : WordEdge}
    (h : readWordEdge verbose text = .ok (found, rest)) : rest <:+ text := by
  unfold readWordEdge at h
  split at h
  · split at h
    · split at h
      · rename_i taken
        split at h
        · cases h
          exact (suffix_of_takeSpelled taken).trans (List.suffix_cons _ _)
        · cases h
      · cases h
    · cases h
      exact List.suffix_refl _
  · cases h
    exact List.suffix_refl _

theorem readProperty_suffix {verbose negated : Bool} {text rest : List Char} {found : Atom}
    (h : readProperty verbose negated text = .ok (found, rest)) : rest <:+ text := by
  have behind := trim_suffix verbose text
  unfold readProperty at h
  split at h
  · cases h
  · cases h
  · rename_i inside front
    rw [front] at behind
    split at h
    · cases h
    · rename_i taken
      obtain ⟨_, _, same⟩ := map_eq_ok h
      cases same
      exact ((suffix_of_takeSpelled taken).trans (List.suffix_cons _ _)).trans behind
  · rename_i front
    rw [front] at behind
    obtain ⟨_, _, same⟩ := map_eq_ok h
    cases same
    exact ((trim_suffix verbose _).trans (List.suffix_cons _ _)).trans behind

theorem readEscape_suffix {verbose : Bool} {text rest : List Char} {found : Atom}
    (h : readEscape verbose text = .ok (found, rest)) : rest <:+ text := by
  unfold readEscape at h
  split at h
  · cases h
  · exact (readCode_suffix h).trans (List.suffix_cons _ _)
  · exact (readCode_suffix h).trans (List.suffix_cons _ _)
  · exact (readCode_suffix h).trans (List.suffix_cons _ _)
  · exact (readProperty_suffix h).trans (List.suffix_cons _ _)
  · exact (readProperty_suffix h).trans (List.suffix_cons _ _)
  · obtain ⟨⟨edge, after⟩, read, same⟩ := map_eq_ok h
    cases same
    exact (readWordEdge_suffix read).trans (List.suffix_cons _ _)
  · obtain ⟨_, _, same⟩ := map_eq_ok h
    cases same
    exact List.suffix_cons _ _

end Stencil.Regex.Lexeme
