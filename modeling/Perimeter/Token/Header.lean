import Perimeter.Json.Text

/-!
# `Perimeter.Token.Header`: how a token is signed

The first part of a token is a JSON object that names the algorithm of its
signature. The members that the format knows must have their types and stand at
most once, all others are passed over. The object may also be given as the list of
its known members in their order.

* `read?`: the algorithm that a header names.
-/

set_option autoImplicit false

namespace Perimeter.Token

/-- The algorithms that a header may name. -/
inductive Algorithm where
  | hs256 | hs384 | hs512
  | es256 | es384
  | rs256 | rs384 | rs512
  | ps256 | ps384 | ps512
  | edDSA
deriving DecidableEq

namespace Algorithm

/-- The algorithm as a header names it. -/
def name : Algorithm → String
  | hs256 => "HS256"
  | hs384 => "HS384"
  | hs512 => "HS512"
  | es256 => "ES256"
  | es384 => "ES384"
  | rs256 => "RS256"
  | rs384 => "RS384"
  | rs512 => "RS512"
  | ps256 => "PS256"
  | ps384 => "PS384"
  | ps512 => "PS512"
  | edDSA => "EdDSA"

/-- All algorithms. -/
def all : List Algorithm :=
  [hs256, hs384, hs512, es256, es384, rs256, rs384, rs512, ps256, ps384, ps512, edDSA]

/-- The algorithm of a name. -/
def ofName? (s : String) : Option Algorithm := all.find? fun a => a.name = s

end Algorithm

namespace Header

open Json (Value)

/-- The header that tokens are issued with. -/
def issued : Bytes :=
  0x7B :: (Json.quote "typ" ++ 0x3A :: Json.quote "JWT" ++ 0x2C :: Json.quote "alg" ++
    0x3A :: Json.quote Algorithm.hs256.name ++ [0x7D])

/-- A name, or an object whose one member has the name and no value. -/
def choice? (v : Value) : Option String :=
  match v with
  | .string raw => Json.textOf? raw
  | .object [(label, .null)] => Json.textOf? label
  | _ => none

/-- The algorithm that a member names. -/
def algorithm? (v : Value) : Option Algorithm := do
  Algorithm.ofName? (← choice? v)

/-- A text or nothing. -/
def isTextOrNull : Value → Bool
  | .null => true
  | v => v.text?.isSome

/-- A list of texts or nothing. -/
def areTextsOrNull : Value → Bool
  | .null => true
  | v => v.texts?.isSome

/-- The algorithms that a key may be for besides those of signatures. -/
def keyOnlyAlgorithms : List String := ["RSA1_5", "RSA-OAEP", "RSA-OAEP-256"]

/-- The name of an algorithm that a key may be for, or nothing. -/
def isKeyAlgorithm : Value → Bool
  | .null => true
  | v => match choice? v with
    | some s => (Algorithm.ofName? s).isSome || keyOnlyAlgorithms.contains s
    | none => false

/-- The curves of keys. -/
def curves : List String := ["P-256", "P-384", "P-521", "Ed25519"]

/-- The value under a name in an object. -/
def textAt? (members : List (String × Value)) (name : String) : Option String := do
  (← Json.required? members name).text?

/-- Whether members give a key of one of the four types in full. -/
def isKeyMaterial (members : List (String × Value)) : Bool :=
  let has name := (textAt? members name).isSome
  let onCurve := match Json.required? members "crv" with
    | some v => (choice? v).any curves.contains
    | none => false
  match (Json.required? members "kty").bind choice? with
  | some "EC" => onCurve && has "x" && has "y"
  | some "RSA" => has "n" && has "e"
  | some "oct" => has "k"
  | some "OKP" => onCurve && has "x"
  | _ => false

/-- A key given with the header, or nothing. -/
def isKeyOrNull : Value → Bool
  | .null => true
  | v => v.isSound && match v.members? with
    | none => false
    | some members =>
      let fits check name := (Json.optional? members name).any check
      fits isTextOrNull "use" && fits areTextsOrNull "key_ops" && fits isKeyAlgorithm "alg" &&
        ["kid", "x5u", "x5t", "x5t#S256"].all (fits isTextOrNull) &&
        fits areTextsOrNull "x5c" && isKeyMaterial members

/-- The members that a header may have besides the algorithm, and what each must be. -/
def members : List (String × (Value → Bool)) := [
  ("typ", isTextOrNull), ("cty", isTextOrNull), ("jku", isTextOrNull), ("jwk", isKeyOrNull),
  ("kid", isTextOrNull), ("x5u", isTextOrNull), ("x5c", areTextsOrNull), ("x5t", isTextOrNull),
  ("x5t#S256", isTextOrNull)]

/-- Reads a header given as an object. -/
def ofMembers? (given : List (String × Value)) : Option Algorithm := do
  let algorithm ← algorithm? (← Json.required? given "alg")
  if members.all fun m => (Json.optional? given m.1).any m.2 then some algorithm else none

/-- Reads a header given as the list of its members: the type, the algorithm, then the
others in their order. -/
def ofList? : List Value → Option Algorithm
  | typ :: algorithm :: rest => do
    let algorithm ← algorithm? algorithm
    if rest.length + 1 = members.length ∧
        (members.zip (typ :: rest)).all fun m => m.1.2 m.2 then some algorithm
    else none
  | _ => none

/-- The algorithm that a header names. -/
def read? (text : Bytes) : Option Algorithm := do
  match ← Json.parse text with
  | .array items => ofList? items
  | v => ofMembers? (← v.members?)

end Header

end Perimeter.Token
