import Perimeter.Net.Address
import Perimeter.Text.Quoted
import Perimeter.Text.Utf8

/-!
# `Perimeter.Net.ServerName`: the name that a server's certificate must bear

A name is the address of a machine or a name of the domain system: labels of
letters, digits, hyphens and underscores between points.

* `isValid`: which texts are names.
-/

set_option autoImplicit false

namespace Perimeter.Net.ServerName

/-- The longest name, in octets. -/
def maxLength : Nat := 253

/-- The longest label. -/
def maxLabelLength : Nat := 63

/-- The characters of labels. -/
def isLabelChar (c : Char) : Bool :=
  c.isAlphanum || c = '-' || c = '_'

/-- A label is not empty and has no hyphen at either end. -/
def isLabel (label : List Char) : Bool :=
  !label.isEmpty && label.length ≤ maxLabelLength && label.all isLabelChar &&
    label.head? ≠ some '-' && label.getLast? ≠ some '-'

/-- The labels of a name. One point may stand at the end. -/
def labels (s : String) : List (List Char) :=
  let parts := s.toList.splitOn '.'
  if parts.length ≥ 2 ∧ parts.getLast? = some [] then parts.dropLast else parts

/-- Whether a text is a name of the domain system. The last label has to be told from
a number. -/
def isDnsName (s : String) : Bool :=
  let parts := labels s
  (Text.utf8 s).length ≤ maxLength && parts.all isLabel &&
    !(parts.getLast?.any fun l => l.all Char.isDigit)

/-- Whether a text is the name of a server. -/
def isValid (s : String) : Bool := isDnsName s || (IpAddress.parse? s).isSome

/-- What is said of a text that is no name. -/
def refusal (s : String) : String := s!"invalid TLS server name {Text.quoted s}"

end Perimeter.Net.ServerName
