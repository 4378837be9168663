import Stencil.Regex.Property.Age
import Stencil.Regex.Property.Break
/-!
# Properties by name

A property is written as its name alone, or as the name of a property and a value with
`=`, `:` or `!=` between them; all three say the same. Case, blanks, hyphens and
underscores in names do not count, nor does `is` in front of one.
-/
namespace Stencil.Regex.Property

/-- A name in small letters without blanks. Nothing but `c` after `is` is a name of its own. -/
def normalName (name : List Char) : String :=
  let counts (c : Char) : Bool := c.toNat < 128 && c != ' ' && c != '_' && c != '-'
  let small (name : List Char) : List Char := (name.filter counts).map Char.toLower
  if (name.take 2).map Char.toLower = ['i', 's'] then
    match small (name.drop 2) with
    | ['c'] => "isc"
    | rest => String.ofList rest
  else String.ofList (small name)

/-- The text before the first `!=` and the text after it. -/
def splitAtUnequal? : List Char → Option (List Char × List Char)
  | [] => none
  | '!' :: '=' :: rest => some ([], rest)
  | c :: rest => (splitAtUnequal? rest).map fun (before, after) => (c :: before, after)

/-- The text before the first of a character and the text after it. -/
def splitAt? (mark : Char) (text : List Char) : Option (List Char × List Char) :=
  match text.dropWhile (· != mark) with
  | [] => none
  | _ :: after => some (text.takeWhile (· != mark), after)

/-- The class of a property, a category or a script by its name. -/
def classOfName? (name : String) : Option CharClass :=
  (Binary.named? name).map Binary.members
    <|> Category.class? name
    <|> (Script.named? name).map Script.members

/-- The class of the characters for which a property has a value. -/
def classOfValue? (property value : String) : Option CharClass :=
  match property with
  | "gc" | "generalcategory" => Category.class? value
  | "sc" | "script" => (Script.named? value).map Script.members
  | "scx" | "scriptextensions" => (Script.named? value).map Script.users
  | "age" => ageClass? value
  | "gcb" | "graphemeclusterbreak" => Break.grapheme.class? value
  | "wb" | "wordbreak" => Break.word.class? value
  | "sb" | "sentencebreak" => Break.sentence.class? value
  | _ => none

/-- The class of a property as it is written. -/
def named? (text : List Char) : Option CharClass :=
  match splitAtUnequal? text <|> splitAt? ':' text <|> splitAt? '=' text with
  | some (property, value) => classOfValue? (normalName property) (normalName value)
  | none => classOfName? (normalName text)

end Stencil.Regex.Property
