import Abacus.Text.Quoted

/-! Labels: what a caller hands over as the name of a variable, a column or a row. -/

namespace Abacus

inductive Label where
  | text (name : Text)
  | integer (value : Int)
  | truth (value : Bool)
  | nothing
  deriving DecidableEq

namespace Label

/-- The text of a label, under which a name is looked up. -/
def spelling : Label → Text
  | .text name => name
  | .integer value => Text.ofInt value
  | .truth true => "True".toList
  | .truth false => "False".toList
  | .nothing => "None".toList

/-- A label as messages show it: texts are quoted. -/
def shown : Label → Text
  | .text name => name.quoted
  | label => label.spelling

end Label
end Abacus
