import Stencil.Options.Basic
import Stencil.Options.Config
/-!
# Reading options

Options are read from a map, in the order of its keys, or from a sequence that
gives the leading options in a fixed order. Options that are not given keep their
default, and the first fault is reported. The keys of a map are distinct: entries
that repeat a key stand for no map, and what is read of them models nothing.
-/
namespace Stencil

/-- The names of the options, in the order in which a sequence gives them. -/
inductive OptionKey where
  | anchored
  | caseInsensitive
  | escapeLiterals
  | sizeLimit
deriving DecidableEq

namespace OptionKey

def all : List OptionKey :=
  [anchored, caseInsensitive, escapeLiterals, sizeLimit]

def name : OptionKey → String
  | anchored => "anchored"
  | caseInsensitive => "case_insensitive"
  | escapeLiterals => "escape_literals"
  | sizeLimit => "size_limit"

def named? (name : String) : Option OptionKey :=
  all.find? fun key => key.name == name

@[simp] theorem named?_name (key : OptionKey) : named? key.name = some key := by
  cases key <;> decide

theorem name_of_named? {name : String} {key : OptionKey} (h : named? name = some key) :
    key.name = name := by
  simpa using List.find?_some h

end OptionKey

/-- A kind of value that is wanted somewhere. -/
inductive Wanted where
  | options
  | truth
  | size
deriving DecidableEq

namespace Wanted

def description : Wanted → String
  | options => "struct Options"
  | truth => "a boolean"
  | size => "usize"

end Wanted

namespace Options

/-- What can be wrong with configured options. -/
inductive Fault where
  | unknownKey (name : String)
  | wrongKind (found : Config) (wanted : Wanted)
  | negativeSize (value : Int)
  | tooManyItems (count : Nat)

namespace Fault

def message : Fault → String
  | unknownKey name =>
    "unknown field `" ++ name ++ "`, expected one of " ++
      ", ".intercalate (OptionKey.all.map fun key => "`" ++ key.name ++ "`")
  | wrongKind found wanted =>
    "invalid type: " ++ found.description ++ ", expected " ++ wanted.description
  | negativeSize value =>
    "invalid value: integer `" ++ toString value ++ "`, expected " ++ Wanted.size.description
  | tooManyItems count =>
    "invalid length " ++ toString count ++ ", expected fewer elements in array"

end Fault

def readTruth : Config → Except Fault Bool
  | .boolean value => .ok value
  | found => .error (.wrongKind found .truth)

/-- A size is an unsigned word, and null stands for no limit. -/
def readSize : Config → Except Fault (Option Nat)
  | .null => .ok none
  | .integer value =>
    if 0 ≤ value ∧ value < Config.wordLimit then .ok (some value.toNat)
    else if Config.fitsWord value then .error (.negativeSize value)
    else .error (.wrongKind (.integer value) .size)
  | found => .error (.wrongKind found .size)

/-- Reads the value of one option. -/
def assign (options : Options) : OptionKey → Config → Except Fault Options
  | .anchored, value => (readTruth value).map fun flag => { options with anchored := flag }
  | .caseInsensitive, value =>
    (readTruth value).map fun flag => { options with caseInsensitive := flag }
  | .escapeLiterals, value =>
    (readTruth value).map fun flag => { options with escapeLiterals := flag }
  | .sizeLimit, value => (readSize value).map fun limit => { options with sizeLimit := limit }

def assignEntry (options : Options) (entry : String × Config) : Except Fault Options :=
  match OptionKey.named? entry.1 with
  | some key => options.assign key entry.2
  | none => .error (.unknownKey entry.1)

/-- Entries in the order of their keys. -/
def sortEntries (entries : List (String × Config)) : List (String × Config) :=
  entries.mergeSort fun first second => first.1 ≤ second.1

def readEntries (entries : List (String × Config)) : Except Fault Options :=
  (sortEntries entries).foldlM assignEntry {}

def readItems (items : List Config) : Except Fault Options := do
  let options ← (OptionKey.all.zip items).foldlM
    (fun options (key, value) => options.assign key value) {}
  if OptionKey.all.length < items.length then
    .error (.tooManyItems items.length)
  else
    .ok options

/-- Reads options from a configuration value. -/
def read : Config → Except Fault Options
  | .map entries => readEntries entries
  | .sequence items => readItems items
  | found => .error (.wrongKind found .options)

end Options

end Stencil
