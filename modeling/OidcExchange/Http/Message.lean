import OidcExchange.Data.Text
import OidcExchange.Keys.Signing

/-!
# Requests and responses

What the handlers of `src/http.rs` read of a request and the responses that they build.
A header value is the list of its bytes, a body is read as a whole.
-/

namespace OidcExchange.Http

open OidcExchange.Keys (JwkSet)

inductive Method where
  | get
  | head
  | post
  | other (name : String)
  deriving DecidableEq

/-- The headers with their lower-case names, in the order in which they were sent. -/
abbrev HeaderMap := List (String × List UInt8)

structure Request where
  method : Method
  path : String
  headers : HeaderMap
  body : List UInt8

/-- `HeaderMap::get`, the first value. -/
def HeaderMap.get (headers : HeaderMap) (name : String) : Option (List UInt8) :=
  headers.lookup name

/-- `HeaderValue::to_str` -/
def headerText (value : List UInt8) : Option String :=
  if value.all fun byte => (0x20 ≤ byte && byte < 0x7f) || byte == 0x09 then
    some (String.ofList (value.map fun byte => Char.ofNat byte.toNat))
  else
    none

def bearerAssertion (headers : HeaderMap) : Option String :=
  ((((headers.get "authorization").bind headerText).bind fun value =>
    Text.stripPrefix value "Bearer ").map Text.trim).filter fun value => !Text.isEmpty value

/-- The document of `discovery`. -/
structure DiscoveryDocument where
  issuer : String
  jwksUri : String
  tokenEndpoint : String
  githubOidcExchangeEndpoint : String
  githubOidcAudience : String
  identityContractsSupported : List String
  policyVersionsSupported : List String
  responseTypesSupported : List String
  subjectTypesSupported : List String
  idTokenSigningAlgValuesSupported : List String
  genericOidcExchangeEndpoint : Option String

/-- The bodies of the responses.  `rejection` is the plain text with which the framework
refuses a request. -/
inductive Body where
  | empty
  | rejection
  | token (accessToken : String) (tokenType : String) (expiresIn : Nat)
  | oauthError (error : String)
  | notReady (status : String) (failedChecks : List String)
  | discovery (document : DiscoveryDocument)
  | jwks (keys : JwkSet)
  | metrics (text : String)

structure Response where
  status : Nat
  headers : List (String × String)
  body : Body

/-- `StatusCode::into_response` -/
def Response.ofStatus (status : Nat) : Response where
  status := status
  headers := []
  body := .empty

/-- What the framework answers for a handler that is not called. -/
def Response.refusal (status : Nat) : Response where
  status := status
  headers := []
  body := .rejection

def tokenResponse (token : String) (expiresIn : Nat) : Response where
  status := 200
  headers := [("cache-control", "no-store")]
  body := .token token "Bearer" expiresIn

def oauthError (status : Nat) (code : String) : Response where
  status := status
  headers := [("cache-control", "no-store")]
  body := .oauthError code

def readinessResponse (failedChecks : List String) : Response :=
  if failedChecks.isEmpty then
    .ofStatus 204
  else
    { status := 503
      headers := []
      body := .notReady "not_ready" failedChecks }

/-- `SetResponseHeaderLayer::if_not_present` -/
def Response.setIfNotPresent (response : Response) (name value : String) : Response :=
  if (response.headers.lookup name).isSome then
    response
  else
    { response with headers := response.headers ++ [(name, value)] }

/-- The three layers around the routes of a listener. -/
def Response.secured (response : Response) : Response :=
  ((response.setIfNotPresent "x-content-type-options" "nosniff").setIfNotPresent
    "referrer-policy" "no-referrer").setIfNotPresent
    "content-security-policy" "default-src 'none'; frame-ancestors 'none'"

/-- What a bearer assertion is read from. -/
theorem bearerAssertion_eq_some_iff {headers : HeaderMap} {assertion : String} :
    bearerAssertion headers = some assertion ↔
      assertion ≠ "" ∧ ∃ value rest, headers.get "authorization" = some value ∧
        headerText value = some ("Bearer " ++ rest) ∧ Text.trim rest = assertion := by
  simp only [bearerAssertion, Option.filter_eq_some_iff, Option.map_eq_some_iff,
    Option.bind_eq_some_iff, Text.stripPrefix_eq_some_iff, Bool.not_eq_true',
    ← Bool.not_eq_true, Text.isEmpty_eq_true_iff]
  constructor
  · rintro ⟨⟨rest, ⟨text, ⟨value, present, decoded⟩, rfl⟩, trimmed⟩, nonempty⟩
    exact ⟨nonempty, value, rest, present, decoded, trimmed⟩
  · rintro ⟨nonempty, value, rest, present, decoded, trimmed⟩
    exact ⟨⟨rest, ⟨_, ⟨value, present, decoded⟩, rfl⟩, trimmed⟩, nonempty⟩

/-- White space after the scheme and at the end does not matter, and nothing else is
dropped. -/
theorem bearerAssertion_eq_some_iff_between {headers : HeaderMap} {assertion : String} :
    bearerAssertion headers = some assertion ↔
      assertion ≠ "" ∧ Text.Trimmed assertion.toList ∧
        ∃ value before after, headers.get "authorization" = some value ∧
          headerText value =
            some ("Bearer " ++ String.ofList (before ++ (assertion.toList ++ after))) ∧
          (∀ c ∈ before, Text.isWhitespace c = true) ∧
          ∀ c ∈ after, Text.isWhitespace c = true := by
  rw [bearerAssertion_eq_some_iff]
  constructor
  · rintro ⟨nonempty, value, rest, present, decoded, trimmed⟩
    rcases (Text.trim_eq_iff nonempty).mp trimmed with
      ⟨clean, before, after, restEq, allBefore, allAfter⟩
    refine ⟨nonempty, clean, value, before, after, present, ?_, allBefore, allAfter⟩
    rw [decoded, ← restEq, String.ofList_toList]
  · rintro ⟨nonempty, clean, value, before, after, present, decoded, allBefore, allAfter⟩
    refine ⟨nonempty, value, _, present, decoded, ?_⟩
    exact (Text.trim_eq_iff nonempty).mpr
      ⟨clean, before, after, String.toList_ofList, allBefore, allAfter⟩

end OidcExchange.Http
