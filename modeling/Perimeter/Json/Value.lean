import Perimeter.Json.Lexeme

/-!
# `Perimeter.Json.Value`: JSON values

A value is built from the words of a text one at a time, with a stack of the lists
and objects that are still open. Members of an object keep their order, and a name
may stand twice: what that means is up to the reader of the object.

* `parse`: the value of a text that holds one value and nothing else.
-/

set_option autoImplicit false

namespace Perimeter.Json

/-- A JSON value. Numbers, strings and names are kept as written. -/
inductive Value where
  | null
  | bool (b : Bool)
  | number (literal : Bytes)
  | string (raw : Bytes)
  | array (items : List Value)
  | object (members : List (Bytes × Value))

/-- A list or an object that is still open. What is complete stands last first. -/
inductive Frame where
  | array (done : List Value)
  /-- The value of the member `name` is being read. -/
  | object (done : List (Bytes × Value)) (name : Bytes)

/-- What the next word has to be. -/
inductive Reading where
  /-- A value, or the end of a list that has just been opened. -/
  | value (stack : List Frame) (fresh : Bool)
  /-- A name, or the end of an object that has just been opened. -/
  | name (stack : List Frame) (done : List (Bytes × Value)) (fresh : Bool)
  /-- The colon after a name. -/
  | colon (stack : List Frame) (done : List (Bytes × Value)) (name : Bytes)
  /-- What follows a complete value. -/
  | after (stack : List Frame) (v : Value)

/-- Takes one word. -/
def Reading.step : Reading → Lexeme → Option Reading
  | .value stack _, .null => some (.after stack .null)
  | .value stack _, .true => some (.after stack (.bool Bool.true))
  | .value stack _, .false => some (.after stack (.bool Bool.false))
  | .value stack _, .number literal => some (.after stack (.number literal))
  | .value stack _, .string raw => some (.after stack (.string raw))
  | .value stack _, .openBracket => some (.value (.array [] :: stack) Bool.true)
  | .value stack _, .openBrace => some (.name stack [] Bool.true)
  | .value (.array [] :: stack) Bool.true, .closeBracket => some (.after stack (.array []))
  | .name stack done _, .string raw => some (.colon stack done raw)
  | .name stack [] Bool.true, .closeBrace => some (.after stack (.object []))
  | .colon stack done label, .colon => some (.value (.object done label :: stack) Bool.false)
  | .after (.array done :: stack) v, .comma =>
    some (.value (.array (v :: done) :: stack) Bool.false)
  | .after (.array done :: stack) v, .closeBracket =>
    some (.after stack (.array (v :: done).reverse))
  | .after (.object done label :: stack) v, .comma =>
    some (.name stack ((label, v) :: done) Bool.false)
  | .after (.object done label :: stack) v, .closeBrace =>
    some (.after stack (.object ((label, v) :: done).reverse))
  | _, _ => none

/-- The value that has been read when the words end. -/
def Reading.result : Reading → Option Value
  | .after [] v => some v
  | _ => none

/-- The value that some words spell. -/
def build (words : List Lexeme) : Option Value := do
  let last ← words.foldlM Reading.step (.value [] Bool.false)
  last.result

/-- The value of a text. -/
def parse (text : Bytes) : Option Value := do
  build (← scan text)

end Perimeter.Json
