import Plonkish.Field.Basic
import Plonkish.Text.Bracketed

/-!
# Elements in messages

An element or a column is written with its residues and the order of its field.
The order goes to a line of its own if the last line would be too long with it.
-/

namespace Plonkish

/-- The residues, as written in `shown`, together with the order of the field. -/
def BaseField.withOrder (F : BaseField) (shown : String) : String :=
  let order := s!"order={F.modulus})"
  let lastLine := shown.toList.reverse.takeWhile (· ≠ '\n')
  let gap := if lastLine.length + 2 + order.length ≤ lineWidth then ", " else ",\n   "
  s!"GF({shown}{gap}{order}"

def Element.display {F : BaseField} (value : Element F) : String :=
  F.withOrder (toString value.val)

def Element.displayColumn {F : BaseField} (values : List (Element F)) : String :=
  F.withOrder (bracketed (values.map Element.val))

end Plonkish
