import Footgun.Output.Pictograph.NamesA
import Footgun.Output.Pictograph.NamesC
import Footgun.Output.Pictograph.NamesF
import Footgun.Output.Pictograph.NamesG
import Footgun.Output.Pictograph.NamesM
import Footgun.Output.Pictograph.NamesN
import Footgun.Output.Pictograph.NamesP
import Footgun.Output.Pictograph.NamesR
import Footgun.Output.Pictograph.NamesT
import Footgun.Output.Pictograph.NamesW

/-! # Pictographs

Pictographs are written by their names. `pictograph?` looks a name up; the names are in small
letters. -/

namespace Footgun.Output

/-- The names of pictographs, in parts. -/
def pictographParts : List (List (String × List Nat)) := [
  pictographsA, pictographsC, pictographsF, pictographsG, pictographsM, pictographsN,
  pictographsP, pictographsR, pictographsT, pictographsW]

/-- The pictograph with a name. -/
def pictograph? (name : String) : Option (List Char) :=
  (pictographParts.findSome? (·.lookup name)).map (·.map Char.ofNat)

end Footgun.Output
