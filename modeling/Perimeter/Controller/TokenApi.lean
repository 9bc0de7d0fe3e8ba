import Perimeter.Clock
import Perimeter.Token

/-!
# `Perimeter.Controller.TokenApi`: questions about tokens over HTTP

Whoever holds a token may ask the controller what it is worth. The answer to a
token that verifies is its claims. All others are told why not in a few words,
which gives nothing away: who asks holds the token already. If the verification breaks
down, there is no answer.

    GET /health          the controller is there
    GET /api/v1/token    the claims of the token, or why it is refused

A question about the headers alone (HEAD) is answered like GET without a body.

* `bearerToken_ok_iff`: which requests carry a token.
-/

set_option autoImplicit false

namespace Perimeter

/-- A request, as far as the answer depends on it. -/
structure Request where
  method : String
  /-- The target as it stands in the request. -/
  target : String
  /-- Names and values in the order sent. -/
  headers : List (String × Bytes)

/-- An answer. -/
structure Response where
  status : Nat
  contentType : Option String
  /-- The methods that the target knows, where the one asked for is not among them. -/
  allow : Option String
  body : Bytes
deriving DecidableEq

namespace Response

/-- An answer with a JSON body. -/
def json (status : Nat) (body : Bytes) : Response :=
  ⟨status, some "application/json", none, body⟩

/-- An answer without a body. -/
def empty (status : Nat) (allow : Option String) : Response := ⟨status, none, allow, []⟩

/-- A JSON body with one member. -/
def single (name value : String) : Bytes := Json.object [(name, Json.quote value)]

end Response

namespace Request

/-- The path of a target: what stands behind the authority and before the query. -/
def pathOf (target : List Char) : List Char :=
  let behindAuthority : List Char → List Char
    | '/' :: '/' :: rest => rest.dropWhile fun c => c ≠ '/' && c ≠ '?' && c ≠ '#'
    | other => other
  let located := match target with
    | '/' :: _ => target
    | _ => behindAuthority (target.dropWhile (· ≠ ':')).tail
  located.takeWhile fun c => c ≠ '?' && c ≠ '#'

/-- The path asked for. -/
def path (r : Request) : String := String.ofList (pathOf r.target.toList)

/-- The value of the first header of a name. Letter case counts for nothing in names. -/
def header? (r : Request) (name : String) : Option Bytes :=
  (r.headers.find? fun h => h.1.toLower = name).map (·.2)

end Request

namespace TokenApi

/-- Why a request for claims is turned away. -/
inductive Refusal where
  | missingHeader
  | unreadableHeader
  | noBearerToken
  | token (cause : Token.Error)
deriving DecidableEq

/-- The refusal as the caller is told. Nobody is told of a breakdown. -/
def Refusal.reason? : Refusal → Option String
  | .missingHeader => some "missing authorization header"
  | .unreadableHeader => some "invalid authorization header"
  | .noBearerToken => some "expected a bearer token"
  | .token (.expired ..) => some "token expired"
  | .token (.notYetValid ..) => some "token not yet valid"
  | .token .badSignature => some "bad signature"
  | .token (.wrongIssuer _) => some "wrong issuer"
  | .token (.unsupportedAlgorithm _) => some "unsupported algorithm"
  | .token (.malformed _) => some "malformed token"
  | .token (.secretTooShort _) => some "malformed token"
  | .token .outOfRange => none

/-- The octets that a header may show: visible ASCII, the space and the tab. -/
def isVisible (b : UInt8) : Bool := (0x20 ≤ b && b < 0x7F) || b = 0x09

/-- What stands before a token in its header. -/
def scheme : String := "Bearer "

/-- The token in the value of a header. -/
def tokenIn? (value : String) : Option String :=
  if scheme.toList.isPrefixOf value.toList then
    let token := Text.trim (String.ofList (value.toList.drop scheme.length))
    if token = "" then none else some token
  else none

/-- The token that a request carries. -/
def bearerToken (r : Request) : Except Refusal String :=
  match r.header? "authorization" with
  | none => .error .missingHeader
  | some value =>
    if value.all isVisible then
      match tokenIn? (Text.ofAscii value) with
      | none => .error .noBearerToken
      | some token => .ok token
    else .error .unreadableHeader

/-- The claims of the token that a request carries. -/
def introspect (issuer : TokenIssuer) (now : Int64) (r : Request) :
    Except Refusal Token.Claims := do
  let token ← bearerToken r
  (issuer.verify token now).mapError .token

/-- The answer to a request for claims. -/
def tokenResponse (issuer : TokenIssuer) (now : Int64) (r : Request) : Option Response :=
  match introspect issuer now r with
  | .ok claims => some (.json 200 claims.write)
  | .error refusal =>
    refusal.reason?.map fun reason => .json 401 (Response.single "error" reason)

/-- The answer to a request for a sign of life. -/
def healthResponse : Response := .json 200 (Response.single "status" "pass")

/-- What there is to ask for. -/
inductive Resource where
  | health
  | token
deriving DecidableEq

/-- What stands at a path. -/
def Resource.at? (path : String) : Option Resource :=
  if path = "/health" then some health
  else if path = "/api/v1/token" then some token
  else none

/-- The answer to a question for a resource. -/
def get (issuer : TokenIssuer) (now : Int64) (r : Request) : Resource → Option Response
  | .health => some healthResponse
  | .token => tokenResponse issuer now r

/-- Answers a request, unless the verification of its token breaks down. -/
def respond (issuer : TokenIssuer) (now : Int64) (r : Request) : Option Response :=
  match Resource.at? r.path with
  | none => some (.empty 404 none)
  | some resource =>
    if r.method = "GET" then get issuer now r resource
    else if r.method = "HEAD" then
      (get issuer now r resource).map fun answer => { answer with body := [] }
    else some (.empty 405 (some "GET,HEAD"))

theorem bearerToken_ok_iff {r : Request} {token : String} :
    bearerToken r = .ok token ↔ ∃ value, r.header? "authorization" = some value ∧
      value.all isVisible ∧ tokenIn? (Text.ofAscii value) = some token := by
  unfold bearerToken
  cases h : r.header? "authorization" with
  | none => simp
  | some value =>
    simp only [Option.some.injEq, exists_eq_left']
    by_cases hv : value.all isVisible
    · cases ht : tokenIn? (Text.ofAscii value) <;> simp [hv]
    · simp [hv]

end TokenApi

end Perimeter
