/-!
# Identifiers

The identifiers of expressions and templates are ASCII: a letter or an underscore, and then
letters, digits and underscores.
-/

namespace Scorecard.Text

/-- The characters that start an identifier: ASCII letters and the underscore. -/
def isNameStart (c : Char) : Bool :=
  c.isAlpha || c = '_'

/-- The characters that continue an identifier: those that start one, and ASCII digits. -/
def isNameChar (c : Char) : Bool :=
  c.isAlphanum || c = '_'

end Scorecard.Text
