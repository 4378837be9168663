import Stencil.Regex.CaseFold
import Stencil.Regex.Property.Table
/-!
# Case mappings

The characters that a mapping between upper and lower case changes are those that case
folding changes, or those that it leads to, but for some whose case is not the usual one
or whose mapped form is of several characters.
-/
namespace Stencil.Regex.Property

inductive CaseMapping where
  | lowercase
  | uppercase
  | titlecase
  | fold
deriving DecidableEq

namespace CaseMapping

/-- The characters that case folding changes, without some and with others. -/
def withSources (without added : String) : CharClass :=
  ((CharClass.ofCodes (foldRows.flatMap fun row => row.codes row.low row.high)).diff
    (.ofTable without)).union (.ofTable added)

/-- The characters that case folding leads to, without some and with others. -/
def withTargets (without added : String) : CharClass :=
  ((CharClass.ofCodes (foldRows.flatMap fun row => row.targets row.low row.high)).diff
    (.ofTable without)).union (.ofTable added)

/-- The characters that a mapping changes. -/
def changed : CaseMapping → CharClass
  | lowercase =>
    withSources
      "B5 17F 345 3C2 3D0-3D1 3D5-3D6 3F0-3F1 3F5 13F8-13FD 1C80-1C88 1E9B 1FBE 1FD3 1FE3
       AB70-ABBF FB05"
      "130 13A0-13F5"
  | uppercase =>
    withTargets
      "13A0-13F5"
      "B5 131 149 17F 1C5 1C8 1CB 1F0 1F2 345 3C2 3D0-3D1 3D5-3D6 3F0-3F1 3F5 587 13F8-13FD
       1C80-1C88 1E96-1E9B 1F50 1F52 1F54 1F56 1F88-1F8F 1F98-1F9F 1FA8-1FAF 1FB2 1FB4 1FB6-1FB7
       1FBC 1FBE 1FC2 1FC4 1FC6-1FC7 1FCC 1FD2-1FD3 1FD6-1FD7 1FE2-1FE4 1FE6-1FE7 1FF2 1FF4
       1FF6-1FF7 1FFC AB70-ABBF FB00-FB05 FB13-FB17"
  | titlecase =>
    withTargets
      "10D0-10FA 10FD-10FF 13A0-13F5"
      "B5 131 149 17F 1C4 1C7 1CA 1F0-1F1 345 3C2 3D0-3D1 3D5-3D6 3F0-3F1 3F5 587 13F8-13FD
       1C80-1C88 1E96-1E9B 1F50 1F52 1F54 1F56 1FB2 1FB4 1FB6-1FB7 1FBE 1FC2 1FC4 1FC6-1FC7
       1FD2-1FD3 1FD6-1FD7 1FE2-1FE4 1FE6-1FE7 1FF2 1FF4 1FF6-1FF7 AB70-ABBF FB00-FB05 FB13-FB17"
  | fold =>
    withSources
      "1FBE 1FD3 1FE3"
      "DF 130 149 587 1E9A 1F80-1F87 1F90-1F97 1FA0-1FA7 1FB2-1FB4 1FB7 1FC2-1FC4 1FC7 1FF2-1FF4
       1FF7 FB00-FB04 FB06 FB13-FB17"

end CaseMapping

end Stencil.Regex.Property
