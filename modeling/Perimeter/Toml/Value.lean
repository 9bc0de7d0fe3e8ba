/-!
# `Perimeter.Toml.Value`: what a configuration file can say

A file is a table of values. Settings are texts, integers, truth values, lists of
texts and tables of settings. Fractional numbers and points in time can be written
too, but no setting takes one, so they are kept as they are written.
-/

set_option autoImplicit false

namespace Perimeter.Toml

/-- A value. -/
inductive Value where
  | text (s : String)
  | integer (n : Int64)
  /-- A number with a fraction or an exponent, an infinity, or no number. -/
  | float (literal : String)
  | boolean (b : Bool)
  /-- A date, a time of day, or both. -/
  | moment (literal : String)
  | array (items : List Value)
  | table (members : List (String × Value))

/-- Named values. No name stands twice. -/
abbrev Table := List (String × Value)

end Perimeter.Toml
