import Stencil.Regex.Lexeme.Basic
import Stencil.Regex.Property.Binary
/-!
# Heads of groups

What follows an opening parenthesis: a name, flags for the group, flags that stand alone
in parentheses, or nothing.
-/
namespace Stencil.Regex.Lexeme

/-- Whether a group name may start with a character: a letter of any script, or an underscore. -/
def startsName (c : Char) : Bool :=
  c == '_' || Property.Binary.alphabetic.members.contains c

/-- Whether a group name may go on with a character. -/
def continuesName (c : Char) : Bool :=
  startsName c || c == '.' || c == '[' || c == ']' ||
    (Property.Category.union Property.Category.numbers).contains c

def isGroupName : List Char → Bool
  | [] => false
  | c :: rest => startsName c && rest.all continuesName

/-- Reads a group name up to the angle bracket that closes it. -/
def readGroupName (text : List Char) : Except SyntaxFault (Lexeme × List Char) :=
  let isClose (c : Char) : Bool := c == '>'
  match text.dropWhile (!isClose ·) with
  | [] => .error .malformedGroupName
  | _ :: rest =>
    let name := text.takeWhile (!isClose ·)
    if isGroupName name then .ok (.openCapture (some (String.ofList name)), rest)
    else .error .malformedGroupName

/-- Switches a flag, which must not have been switched before. -/
def switch (flag : Char) (value : Bool) : Option Bool → Except SyntaxFault (Option Bool)
  | none => .ok (some value)
  | some _ => .error (.repeatedFlag flag)

/-- Switches the flag of a letter. -/
def switchFlag (change : FlagChange) (value : Bool) (flag : Char) :
    Except SyntaxFault FlagChange :=
  match flag with
  | 'i' => (switch flag value change.caseless).map fun caseless => { change with caseless }
  | 'm' => (switch flag value change.multiLine).map fun multiLine => { change with multiLine }
  | 's' => (switch flag value change.dotAll).map fun dotAll => { change with dotAll }
  | 'R' =>
    (switch flag value change.carriageReturn).map fun carriageReturn =>
      { change with carriageReturn }
  | 'U' => (switch flag value change.swapGreed).map fun swapGreed => { change with swapGreed }
  | 'u' => (switch flag value change.unicode).map fun unicode => { change with unicode }
  | 'x' => (switch flag value change.verbose).map fun verbose => { change with verbose }
  | _ => .error (.unknownFlag flag)

def switchFlags (value : Bool) (flags : List Char) (change : FlagChange) :
    Except SyntaxFault FlagChange :=
  flags.foldlM (switchFlag · value) change

/-- The flags between the question mark and the end of a group's head: those to switch
on, then after a hyphen at least one to switch off. -/
def readFlags (text : List Char) : Except SyntaxFault FlagChange :=
  let isHyphen (c : Char) : Bool := c == '-'
  match text.dropWhile (!isHyphen ·) with
  | [] => switchFlags true text {}
  | [_] => .error .malformedFlags
  | _ :: off => do
    switchFlags false off (← switchFlags true (text.takeWhile (!isHyphen ·)) {})

/-- Reads flags, which either open a group or stand alone. -/
def readFlagHead (text : List Char) : Except SyntaxFault (Lexeme × List Char) :=
  let isEnd (c : Char) : Bool := c == ':' || c == ')'
  let flags := text.takeWhile (!isEnd ·)
  match text.dropWhile (!isEnd ·) with
  | [] => .error .unclosedGroup
  | ':' :: rest => do
    let change ← readFlags flags
    .ok (.openGroup change, rest)
  | _ :: rest =>
    if flags.isEmpty then .error .nothingToRepeat
    else do
      let change ← readFlags flags
      .ok (.flags change, rest)

/-- Reads what follows an opening parenthesis. -/
def readGroupHead (verbose : Bool) (text : List Char) : Except SyntaxFault (Lexeme × List Char) :=
  match trim verbose text with
  | '?' :: 'P' :: '<' :: rest | '?' :: '<' :: rest => readGroupName rest
  | '?' :: rest => readFlagHead rest
  | rest => .ok (.openCapture none, rest)

theorem readGroupName_suffix {text rest : List Char} {found : Lexeme}
    (h : readGroupName text = .ok (found, rest)) : rest <:+ text := by
  unfold readGroupName at h
  dsimp only at h
  split at h
  · cases h
  · rename_i after
    split at h
    · cases h
      exact suffix_of_dropWhile after
    · cases h

theorem readFlagHead_suffix {text rest : List Char} {found : Lexeme}
    (h : readFlagHead text = .ok (found, rest)) : rest <:+ text := by
  unfold readFlagHead at h
  dsimp only at h
  split at h
  · cases h
  · rename_i after
    obtain ⟨change, _, h⟩ := bind_eq_ok h
    cases h
    exact suffix_of_dropWhile after
  · rename_i after
    split at h
    · cases h
    · obtain ⟨change, _, h⟩ := bind_eq_ok h
      cases h
      exact suffix_of_dropWhile after

theorem readGroupHead_suffix {verbose : Bool} {text rest : List Char} {found : Lexeme}
    (h : readGroupHead verbose text = .ok (found, rest)) : rest <:+ text := by
  have behind := trim_suffix verbose text
  unfold readGroupHead at h
  split at h
  · rename_i front
    rw [front] at behind
    exact ((readGroupName_suffix h).trans ⟨['?', 'P', '<'], rfl⟩).trans behind
  · rename_i front
    rw [front] at behind
    exact ((readGroupName_suffix h).trans ⟨['?', '<'], rfl⟩).trans behind
  · rename_i front
    rw [front] at behind
    exact ((readFlagHead_suffix h).trans ⟨['?'], rfl⟩).trans behind
  · cases h
    exact behind

end Stencil.Regex.Lexeme
